import SlideOverflow.Metadata.Token.Basic

/-! Scalars: plain text, text in single or double quotes, and block text that is kept line by line
or folded. Inside a scalar one line break between words becomes a space, and of several line breaks
the first is dropped. -/
namespace SlideOverflow.Metadata

def prepend {α : Type} (cs : List α) (r : Except Stop (List α × Cursor)) :
    Except Stop (List α × Cursor) :=
  r.map fun (rest, c) => (cs ++ rest, c)

def foldBreaks (first : Char) (others : List Char) : List Char :=
  if first != '\n' then first :: others
  else if others.isEmpty then [' '] else others

/-! ### Plain scalars -/

def isFlowMark (c : Char) : Bool :=
  c == ',' || c == '[' || c == ']' || c == '\x7b' || c == '\x7d'

def plainLength (inFlow : Bool) : List Char → Nat
  | [] => 0
  | c :: cs =>
    let following := cs.headD endMark
    if isGap c || (c == ':' && (isGap following || (inFlow && isFlowMark following))) ||
      (inFlow && (c == '?' || isFlowMark c)) then 0
    else plainLength inFlow cs + 1

/-- The breaks of the blank lines that follow, with the spaces in front of the next word skipped;
none when a document marker follows. -/
def plainBreaks : Nat → Cursor → Option (List Char) × Cursor
  | 0, c => (some [], c)
  | fuel + 1, c =>
    if c.peek == ' ' then plainBreaks fuel c.next
    else match c.lineBreak? with
      | none => (some [], c)
      | some (b, c) =>
        if c.atDocumentMarker then (none, c)
        else
          let (breaks, c) := plainBreaks fuel c
          (breaks.map (b :: ·), c)

/-- The blanks behind a plain word: what they become if the scalar goes on, whether they hold a
line break, and the cursor behind them. -/
def plainSpaces (c : Cursor) : List Char × Bool × Cursor :=
  let (spaces, c) := c.run (· == ' ')
  match c.lineBreak? with
  | none => (spaces, false, c)
  | some (first, c) =>
    if c.atDocumentMarker then ([], true, c)
    else match plainBreaks c.rest.length c with
      | (none, c) => ([], true, c)
      | (some others, c) => (foldBreaks first others, true, c)

/-- Reads the words of a plain scalar. The second part of the result tells whether the last blanks
hold a line break. -/
def plainWords (inFlow : Bool) (indent : Int) : Nat → Cursor → List Char × Bool × Cursor
  | 0, c => ([], false, c)
  | fuel + 1, c =>
    let n := plainLength inFlow c.rest
    if n == 0 then ([], false, c)
    else
      let word := c.rest.take n
      let (spaces, broke, c) := plainSpaces (c.skip n)
      if spaces.isEmpty || c.peek == '#' || (!inFlow && (c.place.column : Int) < indent) then
        (word, broke, c)
      else if plainLength inFlow c.rest == 0 then (word, broke, c)
      else
        let (rest, broke, c) := plainWords inFlow indent fuel c
        (word ++ spaces ++ rest, broke, c)

def plainScalar (inFlow : Bool) (indent : Int) (c : Cursor) : List Char × Bool × Cursor :=
  plainWords inFlow (indent + 1) c.rest.length c

/-! ### Quoted scalars -/

def escapes : List (Char × Char) :=
  [('0', '\x00'), ('a', '\x07'), ('b', '\x08'), ('t', '\t'), ('\t', '\t'), ('n', '\n'),
   ('v', '\x0b'), ('f', '\x0c'), ('r', '\r'), ('e', '\x1b'), (' ', ' '), ('\x22', '\x22'),
   ('\\', '\\'), ('/', '/'), ('N', '\x85'), ('_', '\u00a0'), ('L', '\u2028'), ('P', '\u2029')]

def escapeWidth? (c : Char) : Option Nat :=
  if c == 'x' then some 2 else if c == 'u' then some 4 else if c == 'U' then some 8 else none

/-- The code point of an escape, which has to be one of Unicode. Halves of pairs are kept as they
are. -/
def codePoint (n : Nat) : Except Stop Nat :=
  if Nat.pow 2 31 ≤ n then .error (.defect .tooLarge)
  else if 0x110000 ≤ n then .error (.defect .badValue)
  else .ok n

def quotedBreaks (begun : Position) : Nat → Cursor → Except Stop (List Char × Cursor)
  | 0, c => .ok ([], c)
  | fuel + 1, c =>
    if c.atDocumentMarker then c.stop .quotedScalar begun .markerInQuotes
    else
      let c := c.skipWhile fun ch => ch == ' ' || ch == '\t'
      match c.lineBreak? with
      | none => .ok ([], c)
      | some (b, c) => prepend [b] (quotedBreaks begun fuel c)

private def codes (cs : List Char) : List Nat := cs.map Char.toNat

def quotedEscape (begun : Position) (c : Cursor) : Except Stop (List Nat × Cursor) :=
  let ch := c.peek
  match escapes.lookup ch with
  | some r => .ok ([r.toNat], c.next)
  | none =>
    match escapeWidth? ch with
    | some width =>
      let c := c.next
      let digits := (c.rest.take width).takeWhile (Number.isDigitOf 16)
      if digits.length < width then
        c.stop .doubleQuoted begun (.noHexDigits width (c.peekAt digits.length))
      else (codePoint (Number.positional 16 digits)).map fun n => ([n], c.skip width)
    | none =>
      match c.lineBreak? with
      | some (_, c) =>
        (quotedBreaks begun (c.rest.length + 1) c).map fun (breaks, c) => (codes breaks, c)
      | none => c.stop .doubleQuoted begun (.unknownEscape ch)

def quotedText (double : Bool) (begun : Position) :
    Nat → Cursor → Except Stop (List Nat × Cursor)
  | 0, c => c.stop .quotedScalar begun .endInQuotes
  | fuel + 1, c =>
    let ch := c.peek
    if isGap ch then
      let (blanks, c) := c.run fun b => b == ' ' || b == '\t'
      match c.lineBreak? with
      | some (first, c) => do
        let (others, c) ← quotedBreaks begun (c.rest.length + 1) c
        prepend (codes (foldBreaks first others)) (quotedText double begun fuel c)
      | none =>
        if c.peek == endMark then c.stop .quotedScalar begun .endInQuotes
        else prepend (codes blanks) (quotedText double begun fuel c)
    else if double then
      if ch == '\x22' then .ok ([], c.next)
      else if ch == '\\' then do
        let (ns, c) ← quotedEscape begun c.next
        prepend ns (quotedText double begun fuel c)
      else prepend [ch.toNat] (quotedText double begun fuel c.next)
    else if ch == '\x27' then
      if c.peekAt 1 == '\x27' then
        prepend [ch.toNat] (quotedText double begun fuel (c.skip 2))
      else .ok ([], c.next)
    else prepend [ch.toNat] (quotedText double begun fuel c.next)

def quotedScalar (c : Cursor) : Except Stop (Text.Codes × Cursor) :=
  (quotedText (c.peek == '\x22') c.place (c.rest.length + 1) c.next).map fun (ns, c) => (⟨ns⟩, c)

/-! ### Block scalars -/

/-- What becomes of the line breaks at the end of block text. -/
inductive Chomping where
  | strip
  | clip
  | keep
deriving DecidableEq, Repr

def chompingOf? (c : Char) : Option Chomping :=
  if c == '+' then some .keep else if c == '-' then some .strip else none

def indentDigit (begun : Position) (c : Cursor) : Except Stop (Option Nat × Cursor) :=
  if Number.isDigitOf 10 c.peek then
    if c.peek == '0' then c.stop .blockScalar begun .indentOfZero
    else .ok (some (Number.positional 10 [c.peek]), c.next)
  else .ok (none, c)

def blockHeader (begun : Position) (c : Cursor) :
    Except Stop ((Chomping × Option Nat) × Cursor) := do
  let (chomping, indent, c) ←
    match chompingOf? c.peek with
    | some chomping => do
      let (indent, c) ← indentDigit begun c.next
      pure (chomping, indent, c)
    | none => do
      let (indent, c) ← indentDigit begun c
      match indent, chompingOf? c.peek with
      | some _, some chomping => pure (chomping, indent, c.next)
      | _, _ => pure (.clip, indent, c)
  if isSpaceOrEnd c.peek then .ok ((chomping, indent), c)
  else c.stop .blockScalar begun (.noIndicator c.peek)

def restOfLine (task : Task) (begun : Position) (c : Cursor) : Except Stop Cursor :=
  let c := c.skipWhile (· == ' ')
  let c := if c.peek == '#' then c.skipWhile (!isLineEnd ·) else c
  if isLineEnd c.peek then .ok (match c.lineBreak? with | some (_, c) => c | none => c)
  else c.stop task begun (.noLineEnd c.peek)

def leadingLines : Nat → Nat → Cursor → List Char × Nat × Cursor
  | 0, widest, c => ([], widest, c)
  | fuel + 1, widest, c =>
    if c.peek == ' ' then leadingLines fuel (max widest c.next.place.column) c.next
    else match c.lineBreak? with
      | none => ([], widest, c)
      | some (b, c) =>
        let (breaks, widest, c) := leadingLines fuel widest c
        (b :: breaks, widest, c)

def skipIndent (indent : Nat) : Nat → Cursor → Cursor
  | 0, c => c
  | fuel + 1, c =>
    if c.place.column < indent && c.peek == ' ' then skipIndent indent fuel c.next else c

/-- The blank lines between the lines of block text; the cursor ends behind the indentation of the
next line. -/
def blankLines (indent : Nat) : Nat → Cursor → List Char × Cursor
  | 0, c => ([], c)
  | fuel + 1, c =>
    let c := skipIndent indent indent c
    match c.lineBreak? with
    | none => ([], c)
    | some (b, c) =>
      let (breaks, c) := blankLines indent fuel c
      (b :: breaks, c)

def chomp (chomping : Chomping) (lineBreak others : List Char) : List Char :=
  match chomping with
  | .strip => []
  | .clip => lineBreak
  | .keep => lineBreak ++ others

/-- The lines of block text. Folded text joins two lines by a space when neither begins with a
blank and no blank line stands between them. -/
def blockLines (folded : Bool) (chomping : Chomping) (indent : Nat) :
    Nat → List Char → Cursor → List Char × Cursor
  | 0, _, c => ([], c)
  | fuel + 1, breaks, c =>
    let inText (c : Cursor) : Bool := c.place.column == indent && c.peek != endMark
    let beginsBlank (c : Cursor) : Bool := c.peek == ' ' || c.peek == '\t'
    if !inText c then (chomp chomping [] breaks, c)
    else
      let blankFirst := beginsBlank c
      let (line, c) := c.run (!isLineEnd ·)
      let (lineBreak, c) := match c.lineBreak? with
        | some (b, c) => ([b], c)
        | none => ([], c)
      let (others, c) := blankLines indent (c.rest.length + 1) c
      if inText c then
        let joint :=
          if folded && lineBreak == ['\n'] && !blankFirst && !beginsBlank c then
            (if others.isEmpty then [' '] else [])
          else lineBreak
        let (rest, c) := blockLines folded chomping indent fuel others c
        (breaks ++ line ++ joint ++ rest, c)
      else (breaks ++ line ++ chomp chomping lineBreak others, c)

def blockScalar (folded : Bool) (indent : Int) (c : Cursor) :
    Except Stop (List Char × Cursor) := do
  let begun := c.place
  let ((chomping, asked), c) ← blockHeader begun c.next
  let c ← restOfLine .blockScalar begun c
  let least := max 1 (indent + 1).toNat
  let (breaks, column, c) :=
    match asked with
    | some more =>
      let column := least + more - 1
      let (breaks, c) := blankLines column (c.rest.length + 1) c
      (breaks, column, c)
    | none =>
      let (breaks, widest, c) := leadingLines (c.rest.length + 1) 0 c
      (breaks, max least widest, c)
  .ok (blockLines folded chomping column (c.rest.length + 1) breaks c)

end SlideOverflow.Metadata
