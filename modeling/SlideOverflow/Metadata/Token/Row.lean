import SlideOverflow.Metadata.Token.Label

/-! The row of tokens of a metadata text. Structure that the text shows by indentation alone becomes
tokens of its own, and so does a key that only its colon reveals: the beginning of such a key is
kept as a pending key until the colon comes or can no longer come.

A reader that takes tokens one by one asks for more text only when no token is left or the next one
may still turn out to be a key. The row therefore ends, at a fault, before the first token that
could not have been taken by then. -/
namespace SlideOverflow.Metadata

/-- A place where a key may have begun: the number of its first token, and whether it has to be a
key because it begins a line at the indentation of a mapping. -/
structure PendingKey where
  number : Nat
  required : Bool
  place : Position
deriving DecidableEq, Repr

/-- What has been read of a text: its tokens, latest first, and how the next one is to be
understood. Bracketed collections are counted by `depth`, which also tells pending keys apart. -/
structure Lexer where
  cursor : Cursor
  tokens : List Token
  depth : Nat
  indent : Int
  outer : List Int
  keyAllowed : Bool
  pending : List (Nat × PendingKey)

namespace Lexer

def start (cs : List Char) : Lexer := ⟨.start cs, [], 0, -1, [], true, []⟩

def count (s : Lexer) : Nat := s.tokens.length

def frontier (s : Lexer) : Nat :=
  s.pending.foldl (fun n k => min n k.2.number) s.count

def inBlock (s : Lexer) : Bool := s.depth == 0

def push (s : Lexer) (body : TokenBody) (c : Cursor) : Lexer :=
  { s with tokens := ⟨body, s.cursor.place⟩ :: s.tokens, cursor := c }

def mark (s : Lexer) (body : TokenBody) : Lexer :=
  s.push body s.cursor

def insert (s : Lexer) (number : Nat) (token : Token) : Lexer :=
  let later := s.count - number
  { s with tokens := s.tokens.take later ++ token :: s.tokens.drop later }

/-- Drops the pending keys whose colon can no longer come: those of an earlier line and those more
than 1024 characters back. A key that has to be one is missed. -/
def dropStale (s : Lexer) : Except Stop Lexer :=
  let p := s.cursor.place
  let stale (k : Nat × PendingKey) : Bool :=
    k.2.place.line != p.line || k.2.place.index + 1024 < p.index
  match s.pending.find? fun k => stale k && k.2.required with
  | some k => s.cursor.stop .simpleKey k.2.place .noColon
  | none => .ok { s with pending := s.pending.filter (!stale ·) }

def dropPending (s : Lexer) : Except Stop Lexer :=
  match s.pending.lookup s.depth with
  | some k =>
    if k.required then s.cursor.stop .simpleKey k.place .noColon
    else .ok { s with pending := s.pending.filter (·.1 != s.depth) }
  | none => .ok s

def expectKey (s : Lexer) : Except Stop Lexer :=
  if s.keyAllowed then do
    let required := s.inBlock && s.indent == s.cursor.place.column
    let s ← s.dropPending
    .ok { s with pending := s.pending ++ [(s.depth, ⟨s.count, required, s.cursor.place⟩)] }
  else .ok s

def unwind (s : Lexer) (column : Int) : Lexer :=
  if s.inBlock then
    let ended := s.outer.takeWhile fun i => column < i
    let closing := if column < s.indent then 1 + ended.length else 0
    let levels := s.indent :: s.outer
    { s with
      indent := levels.getD closing (-1)
      outer := levels.drop (closing + 1)
      tokens := List.replicate closing ⟨.blockEnd, s.cursor.place⟩ ++ s.tokens }
  else s

def indentTo (s : Lexer) (column : Int) : Bool × Lexer :=
  if s.indent < column then
    (true, { s with indent := column, outer := s.indent :: s.outer })
  else (false, s)

/-- Steps over spaces, comments and line breaks. Behind a line break a key may begin, outside of
brackets. -/
def skipToToken : Nat → Lexer → Lexer
  | 0, s => s
  | fuel + 1, s =>
    let c := s.cursor.skipWhile (· == ' ')
    let c := if c.peek == '#' then c.skipWhile (!isLineEnd ·) else c
    match c.lineBreak? with
    | none => { s with cursor := c }
    | some (_, c) =>
      skipToToken fuel { s with cursor := c, keyAllowed := s.keyAllowed || s.inBlock }

def skipOrderMark (s : Lexer) : Lexer :=
  if s.cursor.place.index == 0 && s.cursor.peek == '\uFEFF' then
    { s with cursor := s.cursor.next }
  else s

def readEnd (s : Lexer) : Except Stop Lexer := do
  let s ← (s.unwind (-1)).dropPending
  .ok ({ s with keyAllowed := false, pending := [] }.mark .streamEnd)

def readDirective (s : Lexer) : Except Stop Lexer := do
  let s ← (s.unwind (-1)).dropPending
  let (directive, c) ← directiveLine s.cursor
  .ok ({ s with keyAllowed := false }.push (.directive directive) c)

def readMarker (s : Lexer) (body : TokenBody) : Except Stop Lexer := do
  let s ← (s.unwind (-1)).dropPending
  .ok ({ s with keyAllowed := false }.push body (s.cursor.skip 3))

def readOpening (s : Lexer) (body : TokenBody) : Except Stop Lexer := do
  let s ← s.expectKey
  .ok ({ s with depth := s.depth + 1, keyAllowed := true }.push body s.cursor.next)

def readClosing (s : Lexer) (body : TokenBody) : Except Stop Lexer := do
  let s ← s.dropPending
  .ok ({ s with depth := s.depth - 1, keyAllowed := false }.push body s.cursor.next)

def readComma (s : Lexer) : Except Stop Lexer := do
  let s ← { s with keyAllowed := true }.dropPending
  .ok (s.push .comma s.cursor.next)

/-- Outside of brackets, begins a collection at the cursor unless it is already open; `refused` is
the fault where none may begin. -/
def openBlock (s : Lexer) (body : TokenBody) (refused : Cause) : Except Stop Lexer :=
  if !s.inBlock then .ok s
  else if !s.keyAllowed then .error (.fault (.plain refused s.cursor.place))
  else
    let (opened, s) := s.indentTo s.cursor.place.column
    .ok (if opened then s.mark body else s)

def readEntry (s : Lexer) : Except Stop Lexer := do
  let s ← s.openBlock .sequenceStart .entryNotAllowed
  let s ← { s with keyAllowed := true }.dropPending
  .ok (s.push .entry s.cursor.next)

def readKey (s : Lexer) : Except Stop Lexer := do
  let s ← s.openBlock .mappingStart .keyNotAllowed
  let s ← { s with keyAllowed := s.inBlock }.dropPending
  .ok (s.push .key s.cursor.next)

def readValue (s : Lexer) : Except Stop Lexer := do
  let s ←
    match s.pending.lookup s.depth with
    | some k =>
      let s := { s with pending := s.pending.filter (·.1 != s.depth) }
      let s := s.insert k.number ⟨.key, k.place⟩
      let (opened, s) :=
        if s.inBlock then s.indentTo k.place.column else (false, s)
      let s := if opened then s.insert k.number ⟨.mappingStart, k.place⟩ else s
      Except.ok { s with keyAllowed := false }
    | none => do
      let s ← s.openBlock .mappingStart .valueNotAllowed
      { s with keyAllowed := s.inBlock }.dropPending
  .ok (s.push .value s.cursor.next)

def readLabel (s : Lexer) (task : Task) (body : String → TokenBody) : Except Stop Lexer := do
  let s ← s.expectKey
  let (name, c) ← labelName task s.cursor
  .ok ({ s with keyAllowed := false }.push (body name) c)

def readTag (s : Lexer) : Except Stop Lexer := do
  let s ← s.expectKey
  let (body, c) ← tagLabel s.cursor
  .ok ({ s with keyAllowed := false }.push body c)

def readBlockScalar (s : Lexer) (folded : Bool) : Except Stop Lexer := do
  let s ← { s with keyAllowed := true }.dropPending
  let (text, c) ← blockScalar folded s.indent s.cursor
  .ok (s.push (.scalar (if folded then .folded else .literal) (.ofChars text)) c)

def readQuoted (s : Lexer) (style : ScalarStyle) : Except Stop Lexer := do
  let s ← s.expectKey
  let (text, c) ← quotedScalar s.cursor
  .ok ({ s with keyAllowed := false }.push (.scalar style text) c)

def readPlain (s : Lexer) : Except Stop Lexer := do
  let s ← s.expectKey
  let (text, broke, c) := plainScalar (!s.inBlock) s.indent s.cursor
  .ok ({ s with keyAllowed := broke }.push (.scalar .plain (.ofChars text)) c)

/-- The characters that no plain scalar begins with, unless a following character allows it. -/
def indicators : List Char := "-?:,[]\x7b\x7d#&*!|>\x27\x22%@\x60".toList

def plainBegins (s : Lexer) : Bool :=
  let ch := s.cursor.peek
  (!isGap ch && !indicators.contains ch) ||
    (!isGap (s.cursor.peekAt 1) && (ch == '-' || (s.inBlock && (ch == '?' || ch == ':'))))

def readToken (s : Lexer) : Except Stop Lexer :=
  let c := s.cursor
  let ch := c.peek
  let lineStart := c.place.column == 0
  let spaced := isGap (c.peekAt 1)
  if ch == endMark then s.readEnd
  else if ch == '%' && lineStart then s.readDirective
  else if lineStart && c.atMarker '-' then s.readMarker .documentStart
  else if lineStart && c.atMarker '.' then s.readMarker .documentEnd
  else if ch == '[' then s.readOpening .openBracket
  else if ch == '\x7b' then s.readOpening .openBrace
  else if ch == ']' then s.readClosing .closeBracket
  else if ch == '\x7d' then s.readClosing .closeBrace
  else if ch == ',' then s.readComma
  else if ch == '-' && spaced then s.readEntry
  else if ch == '?' && (!s.inBlock || spaced) then s.readKey
  else if ch == ':' && (!s.inBlock || spaced) then s.readValue
  else if ch == '*' then s.readLabel .scanAlias .alias
  else if ch == '&' then s.readLabel .scanAnchor .anchor
  else if ch == '!' then s.readTag
  else if ch == '|' && s.inBlock then s.readBlockScalar false
  else if ch == '>' && s.inBlock then s.readBlockScalar true
  else if ch == '\x27' then s.readQuoted .singleQuoted
  else if ch == '\x22' then s.readQuoted .doubleQuoted
  else if s.plainBegins then s.readPlain
  else .error (.fault ⟨.noToken ch, c.place, some .nextToken, none⟩)

def step (s : Lexer) : Except Stop Lexer := do
  let s := s.skipOrderMark
  let s ← (skipToToken (s.cursor.rest.length + 1) s).dropStale
  let s ← (s.unwind s.cursor.place.column).readToken
  s.dropStale

end Lexer

/-- Tokens in the order of the text, and why there are no more if the text goes on. -/
structure TokenRow where
  tokens : List Token
  stop : Option Stop

/-- Reads tokens until the end of the text or a fault. Every step takes at least one character. -/
def Lexer.run : Nat → Lexer → TokenRow
  | 0, s => ⟨s.tokens.reverse, none⟩
  | fuel + 1, s =>
    match s.step with
    | .error stop => ⟨s.tokens.reverse.take s.frontier, some stop⟩
    | .ok next =>
      if (next.tokens.head?.map Token.kind) == some .streamEnd then ⟨next.tokens.reverse, none⟩
      else Lexer.run fuel next

def isAllowed (c : Char) : Bool :=
  let n := c.toNat
  n == 9 || n == 10 || n == 13 || (32 ≤ n && n ≤ 126) || n == 0x85 ||
    (0xA0 ≤ n && n ≤ 0xFFFD) || 0x10000 ≤ n

def TokenRow.ofText (cs : List Char) : TokenRow :=
  let allowed := cs.takeWhile isAllowed
  match cs.drop allowed.length with
  | c :: _ =>
    ⟨[], some (.fault (.plain (.illegalCharacter c.toNat) ⟨allowed.length, 0, 0⟩))⟩
  | [] => Lexer.run (cs.length + 1) (.start cs)

end SlideOverflow.Metadata
