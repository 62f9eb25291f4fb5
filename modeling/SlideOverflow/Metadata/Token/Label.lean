import SlideOverflow.Metadata.Token.Scalar

/-! Labels of nodes and directives: anchors, aliases, tags, and the lines in front of a document. -/
namespace SlideOverflow.Metadata

def isNameChar (c : Char) : Bool :=
  c.isAlphanum || c == '-' || c == '_'

def isAddressChar (c : Char) : Bool :=
  c.isAlphanum || "-;/?:@&=+$,_.!~*\x27()[]".toList.contains c

def endsName (c : Char) : Bool :=
  isGap c || "?:,]\x7d%@\x60".toList.contains c

def labelName (task : Task) (c : Cursor) : Except Stop (String × Cursor) :=
  let begun := c.place
  let (name, c) := c.next.run isNameChar
  if name.isEmpty || !endsName c.peek then c.stop task begun (.noName c.peek)
  else .ok (String.ofList name, c)

def escapedOctets (task : Task) (begun : Position) :
    Nat → Cursor → Except Stop (List Nat × Cursor)
  | 0, c => .ok ([], c)
  | fuel + 1, c =>
    if c.peek == '%' then
      let c := c.next
      let digits := (c.rest.take 2).takeWhile (Number.isDigitOf 16)
      if digits.length < 2 then c.stop task begun (.noAddressEscape (c.peekAt digits.length))
      else do
        let (octets, c) ← escapedOctets task begun fuel (c.skip 2)
        .ok (Number.positional 16 digits :: octets, c)
    else .ok ([], c)

def addressText (task : Task) (begun : Position) :
    Nat → Cursor → Except Stop (List Char × Cursor)
  | 0, c => .ok ([], c)
  | fuel + 1, c =>
    if c.peek == '%' then do
      let place := c.place
      let (octets, c) ← escapedOctets task begun c.rest.length c
      match Text.Utf8.decode octets with
      | .ok cs => prepend cs (addressText task begun fuel c)
      | .error fault => .error (.fault (.during task begun (.badEscapedText fault) place))
    else if isAddressChar c.peek then prepend [c.peek] (addressText task begun fuel c.next)
    else .ok ([], c)

/-- An address of at least one character. The two tasks name it while it is read and when it is
missing. -/
def address (scan parse : Task) (begun : Position) (c : Cursor) :
    Except Stop (String × Cursor) := do
  let (cs, rest) ← addressText scan begun (c.rest.length + 1) c
  if rest.place == c.place then c.stop parse begun (.noAddress c.peek)
  else .ok (String.ofList cs, rest)

def tagHandle (task : Task) (begun : Position) (c : Cursor) : Except Stop (String × Cursor) :=
  if c.peek != '!' then c.stop task begun (.noHandle c.peek)
  else if c.peekAt 1 == ' ' then .ok ("!", c.next)
  else
    let (name, rest) := c.next.run isNameChar
    if rest.peek == '!' then .ok (String.ofList ('!' :: name ++ ['!']), rest.next)
    else rest.stop task begun (.noHandle rest.peek)

def tagLabel (c : Cursor) : Except Stop (TokenBody × Cursor) := do
  let begun := c.place
  let (body, c) ←
    if c.peekAt 1 == '<' then do
      let (rest, c) ← address .scanTag .parseTag begun (c.skip 2)
      if c.peek == '>' then .ok (TokenBody.tag none rest, c.next)
      else c.stop .parseTag begun (.noTagClose c.peek)
    else if isGap (c.peekAt 1) then .ok (TokenBody.tag none "!", c.next)
    else do
      let named := ((c.rest.drop 1).takeWhile (!isSpaceOrEnd ·)).contains '!'
      let (handle, c) ←
        if named then tagHandle .scanTag begun c else .ok ("!", c.next)
      let (rest, c) ← address .scanTag .parseTag begun c
      .ok (TokenBody.tag (some handle) rest, c)
  if isSpaceOrEnd c.peek then .ok (body, c)
  else c.stop .scanTag begun (.noSpace c.peek)

/-- A number of a version directive, which has no more digits than other whole numbers. -/
def versionNumber (begun : Position) (c : Cursor) : Except Stop (Nat × Cursor) :=
  let (digits, rest) := c.run (Number.isDigitOf 10)
  if digits.isEmpty then c.stop .scanDirective begun (.noDigit c.peek)
  else if Number.digitLimit < digits.length then .error (.defect .badValue)
  else .ok (Number.positional 10 digits, rest)

def versionDirective (begun : Position) (c : Cursor) : Except Stop (Directive × Cursor) := do
  let (major, c) ← versionNumber begun (c.skipWhile (· == ' '))
  if c.peek != '.' then c.stop .scanDirective begun (.noDigitOrDot c.peek)
  else
    let (minor, c) ← versionNumber begun c.next
    if isSpaceOrEnd c.peek then .ok (.version major minor, c)
    else c.stop .scanDirective begun (.noDigitOrSpace c.peek)

def handleDirective (begun : Position) (c : Cursor) : Except Stop (Directive × Cursor) := do
  let (handle, c) ← tagHandle .scanDirective begun (c.skipWhile (· == ' '))
  if c.peek != ' ' then c.stop .scanDirective begun (.noSpace c.peek)
  else
    let (expansion, c) ←
      address .scanDirective .parseDirective begun (c.skipWhile (· == ' '))
    if isSpaceOrEnd c.peek then .ok (.handle handle expansion, c)
    else c.stop .scanDirective begun (.noSpace c.peek)

def directiveLine (c : Cursor) : Except Stop (Directive × Cursor) := do
  let begun := c.place
  let (name, c) := c.next.run isNameChar
  if name.isEmpty || !isSpaceOrEnd c.peek then c.stop .scanDirective begun (.noName c.peek)
  else
    let (directive, c) ←
      if name == "YAML".toList then versionDirective begun c
      else if name == "TAG".toList then handleDirective begun c
      else .ok (Directive.unknown, c.skipWhile (!isLineEnd ·))
    let c ← restOfLine .scanDirective begun c
    .ok (directive, c)

end SlideOverflow.Metadata
