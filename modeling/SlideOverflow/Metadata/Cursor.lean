import SlideOverflow.Text.Blank

/-! A place in a metadata text: the characters still to be read and where the first of them
stands. Lines and columns count from zero; a byte order mark takes no column. -/
namespace SlideOverflow.Metadata

structure Position where
  index : Nat
  line : Nat
  column : Nat
deriving DecidableEq, Repr, Inhabited

structure Cursor where
  rest : List Char
  place : Position
deriving Repr

/-- The character that stands for the end of the text. No text holds it. -/
def endMark : Char := '\x00'

def isBreak (c : Char) : Bool :=
  c == '\n' || c == '\r' || c == '\x85' || c == '\u2028' || c == '\u2029'

def isLineEnd (c : Char) : Bool :=
  c == endMark || isBreak c

def isSpaceOrEnd (c : Char) : Bool :=
  c == ' ' || isLineEnd c

def isGap (c : Char) : Bool :=
  c == '\t' || isSpaceOrEnd c

namespace Cursor

def start (cs : List Char) : Cursor := ⟨cs, ⟨0, 0, 0⟩⟩

def peek (c : Cursor) : Char :=
  c.rest.headD endMark

def peekAt (c : Cursor) (k : Nat) : Char :=
  c.rest.getD k endMark

/-- Steps over one character. A carriage return in front of a line feed ends no line. -/
def next (c : Cursor) : Cursor :=
  match c.rest with
  | [] => c
  | ch :: rest =>
    let p := c.place
    if isBreak ch && !(ch == '\r' && rest.head? == some '\n') then
      ⟨rest, ⟨p.index + 1, p.line + 1, 0⟩⟩
    else ⟨rest, ⟨p.index + 1, p.line, if ch == '\uFEFF' then p.column else p.column + 1⟩⟩

def skip (c : Cursor) : Nat → Cursor
  | 0 => c
  | n + 1 => c.next.skip n

def run (c : Cursor) (p : Char → Bool) : List Char × Cursor :=
  let taken := c.rest.takeWhile p
  (taken, c.skip taken.length)

def skipWhile (c : Cursor) (p : Char → Bool) : Cursor :=
  (c.run p).2

/-- Steps over a line break, if there is one, and gives its normal form: a line feed, or the
separator itself. -/
def lineBreak? (c : Cursor) : Option (Char × Cursor) :=
  let ch := c.peek
  if ch == '\r' && c.peekAt 1 == '\n' then some ('\n', c.skip 2)
  else if ch == '\u2028' || ch == '\u2029' then some (ch, c.next)
  else if isBreak ch then some ('\n', c.next)
  else none

def atMarker (c : Cursor) (ch : Char) : Bool :=
  c.peek == ch && c.peekAt 1 == ch && c.peekAt 2 == ch && isGap (c.peekAt 3)

def atDocumentMarker (c : Cursor) : Bool :=
  c.atMarker '-' || c.atMarker '.'

end Cursor

end SlideOverflow.Metadata
