import SlideOverflow.Deck.PlainText
import SlideOverflow.Deck.Presentation

/-! Finding the lines of a slide that a rendered element came from: by the construct that renders
to it, by its plain text, or by a piece of its text. -/
namespace SlideOverflow.Deck

open Text

structure LineRange where
  first : Nat
  last : Nat
  content : String
deriving DecidableEq, Repr

def ContentNode.range (n : ContentNode) : LineRange := ⟨n.first, n.last, n.content⟩

inductive Target where
  | heading (level : Nat)
  | image
  | code
deriving DecidableEq, Repr

def Target.ofTag? : String → Option Target
  | "h1" => some (.heading 1)
  | "h2" => some (.heading 2)
  | "h3" => some (.heading 3)
  | "img" => some .image
  | "pre" => some .code
  | "code" => some .code
  | _ => none

def Target.isMet (t : Target) (n : ContentNode) : Bool :=
  match t with
  | .heading level => n.isHeading level
  | .image => n.isImage
  | .code => n.isCode

def ContentNode.plain (n : ContentNode) : List Char := plainText (n.text.getD "").toList

/-- The first of some texts that equals a plain text, or else the first that agrees with it. -/
def bestMatch {α : Type} (plain : α → List Char) (needle : List Char) (candidates : List α) :
    Option α :=
  match candidates.find? fun c => plain c == needle with
  | some c => some c
  | none => candidates.find? fun c => agrees (plain c) needle

def searchLength : Nat := 50

/-- Whether a line continues an item: it is indented deeper than the item, and neither blank nor an
item itself. -/
def wraps (itemIndent : Nat) (l : Line) : Bool :=
  !l.isEmpty && !l.isItem && decide (itemIndent < l.indent)

namespace Slide

/-- The first node of a construct; with a text, the first one whose text agrees with it comes
before all others. -/
def findConstruct (s : Slide) (t : Target) (text : Option String) : Option LineRange :=
  let candidates := s.nodes.filter t.isMet
  let needle := plainText (text.getD "").toList
  let chosen := candidates.find? fun n => agrees n.plain needle
  (chosen <|> candidates.head?).map ContentNode.range

def findText (s : Slide) (text : String) : Option LineRange :=
  let search := (trim text.toList).take searchLength
  if search.isEmpty then none
  else
    ((numbered s.first s.lines).find? fun l => occursIn search l.2.toList).map fun l =>
      ⟨l.1, l.1, l.2⟩

/-- The line at a position, counted from the first line of the slide; a count below zero starts from
the end. -/
def lineAt? (s : Slide) (offset : Int) : Option Line :=
  if 0 ≤ offset then s.lines[offset.toNat]?
  else if -offset ≤ s.lines.length then s.lines[s.lines.length - offset.natAbs]? else none

/-- The lines behind a position; behind one that is counted from the end they start over. -/
def linesBehind (s : Slide) (offset : Int) : List Line :=
  if 0 ≤ offset then s.lines.drop (offset.toNat + 1)
  else s.lines.drop (s.lines.length - offset.natAbs + 1) ++ s.lines

def linesOf (s : Slide) (n : ContentNode) : Outcome (List NumberedLine) :=
  (List.range' n.first (n.last + 1 - n.first)).mapM fun (number : Nat) => do
    return (number, ← Outcome.ofOption .noPosition (s.lineAt? (number - s.first)))

def items (s : Slide) : Outcome (List (Nat × List Char)) := do
  let lines ← (s.nodes.filter ContentNode.isList).mapM s.linesOf
  return lines.flatten.filterMap fun l => l.2.itemText?.map fun text => (l.1, plainText text)

/-- The number of the last line of an item that begins in a line, its wrapped lines included. -/
def itemEnd (s : Slide) (line : Int) : Outcome Int := do
  let offset := line - s.first
  let item ← Outcome.ofOption .noPosition (s.lineAt? offset)
  let wrapped := (s.linesBehind offset).takeWhile (wraps item.indent)
  return line + wrapped.length

def findItem (s : Slide) (text : String) : Outcome (Option LineRange) := do
  let needle := plainText text.toList
  if needle.isEmpty then return none
  else
    match bestMatch (·.2) needle (← s.items) with
    | none => return none
    | some (number, _) =>
      let last := (← s.itemEnd number).toNat
      return some ⟨number, last, joinLines (linesBetween s.first s.lines number last)⟩

def findParagraph (s : Slide) (text : String) : Option LineRange :=
  let needle := plainText text.toList
  if needle.isEmpty then none
  else
    (bestMatch ContentNode.plain needle (s.nodes.filter ContentNode.isParagraph)).map
      ContentNode.range

def previewLength : Nat := 3

/-- The whole slide, with a preview in place of its text. -/
def wholeRange (s : Slide) : LineRange :=
  ⟨s.first, s.last, joinLines (s.lines.take previewLength) ++ "..."⟩

end Slide

end SlideOverflow.Deck
