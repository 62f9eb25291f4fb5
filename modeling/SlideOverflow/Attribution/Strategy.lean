import SlideOverflow.Deck.Locate
import SlideOverflow.Failure
import SlideOverflow.Issue

/-! Strategies: the ways to find the lines of a slide that an element came from. They are tried in
the order of a cascade; the whole slide is the last resort, so an element is always located whose
tag, text and address are texts. -/
namespace SlideOverflow.Attribution

open Text Deck

inductive TagClass where
  | listItem
  | paragraph
  | inline
  | h1
  | h2
  | h3
  | codeBlock
  | image
  | generic
deriving DecidableEq, Repr

namespace TagClass

def name : TagClass → String
  | .listItem => "list-item"
  | .paragraph => "paragraph"
  | .inline => "inline"
  | .h1 => "h1"
  | .h2 => "h2"
  | .h3 => "h3"
  | .codeBlock => "code-block"
  | .image => "image"
  | .generic => "generic"

def tags : List (String × TagClass) :=
  [("li", .listItem), ("p", .paragraph), ("strong", .inline), ("em", .inline), ("span", .inline),
   ("a", .inline), ("code", .inline), ("h1", .h1), ("h2", .h2), ("h3", .h3), ("h4", .h3),
   ("pre", .codeBlock), ("img", .image)]

def ofTag (tag : String) : TagClass :=
  (tags.lookup (String.ofList (tag.toList.map Char.toLower))).getD .generic

def ofJson : Json → Outcome TagClass
  | .text tag => .ok (ofTag tag)
  | _ => Outcome.reject .noFields

def target? : TagClass → Option Target
  | .h1 => some (.heading 1)
  | .h2 => some (.heading 2)
  | .h3 => some (.heading 3)
  | .codeBlock => some .code
  | .image => some .image
  | _ => none

end TagClass

/-- The last segment of the path of an address, its query and fragment aside. -/
def lastSegment (address : List Char) : List Char :=
  let path := (address.takeWhile (· != '?')).takeWhile (· != '#')
  (((dropEndWhile (· == '/') path).splitOn '/').getLast?).getD []

inductive Strategy where
  /-- List items and paragraphs by their plain text. -/
  | elementSpecific
  /-- Inline elements by their text. -/
  | inlineText
  /-- Headings, blocks of code and images by the construct. -/
  | blockConstruct
  /-- Images by the last segment of their address. -/
  | imageSource
  /-- Any element by its text. -/
  | textSubstring
  /-- The whole slide. -/
  | wholeSlide
deriving DecidableEq, Repr

/-- A text that a page told, if there is one; what is present and no text is of no use. -/
def textOf? (defect : Defect) (j : Json) : Outcome (Option String) :=
  match j with
  | .text s => .ok (if s == "" then none else some s)
  | j => if j.isTruthy then Outcome.reject defect else .ok none

namespace Strategy

def cascade : List Strategy :=
  [.elementSpecific, .inlineText, .blockConstruct, .imageSource, .textSubstring, .wholeSlide]

def name : Strategy → String
  | .elementSpecific => "elementSpecific_find"
  | .inlineText => "inlineText_find"
  | .blockConstruct => "blockConstruct_find"
  | .imageSource => "imageSource_find"
  | .textSubstring => "textSubstring_find"
  | .wholeSlide => "slideRange_fallback"

def ofName? (name : String) : Option Strategy := cascade.find? fun s => s.name == name

def find (strategy : Strategy) (slide : Slide) (tagClass : TagClass) (e : Element) :
    Outcome (Option LineRange) := do
  match strategy with
  | .elementSpecific =>
    match tagClass with
    | .listItem =>
      match ← textOf? .wrongKind e.text with
      | some text => slide.findItem text
      | none => return none
    | .paragraph => return (← textOf? .wrongKind e.text).bind slide.findParagraph
    | _ => return none
  | .inlineText =>
    if tagClass = .inline then return (← textOf? .noFields e.text).bind slide.findText
    else return none
  | .blockConstruct =>
    match tagClass.target? with
    | some target =>
      if slide.nodes.any target.isMet then
        return slide.findConstruct target (← textOf? .wrongKind e.text)
      else return none
    | none => return none
  | .imageSource =>
    if tagClass = .image then
      match lastSegment ((← textOf? .noFields e.source).getD "").toList with
      | [] => return none
      | segment => return slide.findText (String.ofList segment)
    else return none
  | .textSubstring => return (← textOf? .noFields e.text).bind slide.findText
  | .wholeSlide => return some slide.wholeRange

def firstFinding (slide : Slide) (tagClass : TagClass) (e : Element) :
    List Strategy → Outcome (Option (Strategy × LineRange))
  | [] => .ok none
  | s :: ss => do
    match ← s.find slide tagClass e with
    | some range => return some (s, range)
    | none => firstFinding slide tagClass e ss

end Strategy

end SlideOverflow.Attribution
