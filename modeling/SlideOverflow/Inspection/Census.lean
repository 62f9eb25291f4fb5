import SlideOverflow.Json.Field
import SlideOverflow.Json.Writer
import SlideOverflow.Failure
import SlideOverflow.Text.Blank
import SlideOverflow.Text.Classes

/-! A census lists the slides that a page holds, with the address of the page. It tells which slide
is active: the marked one, else the one that the address names, else the first one with a size, else
the first one. -/
namespace SlideOverflow.Inspection

open Number Text

def censusSlides (census : Json) : Outcome (List Json) := do
  (← Json.fieldOr (.list []) census "slides").items

/-- The index of the first slide that satisfies a test; null where none does. The test stops the
search when it fails. -/
def indexOfFirst (test : Json → Outcome Bool) : List Json → Outcome Json
  | [] => .ok .null
  | slide :: slides => do
    if ← test slide then slide.require "index" else indexOfFirst test slides

def markedSlide (census : Json) : Outcome Json := do
  indexOfFirst (fun s => do return (← s.field "active").isTruthy) (← censusSlides census)

def leadingDigits (cs : List Char) : List Char :=
  cs.takeWhile fun c => (digitValue? c).isSome

def pathNumber? : List Char → Option (List Char)
  | [] => none
  | c :: cs =>
    if c == '/' && !(leadingDigits cs).isEmpty then some (leadingDigits cs) else pathNumber? cs

def hashNumber? (cs : List Char) : Option (List Char) :=
  match leadingDigits (cs.dropWhile fun c => (digitValue? c).isNone) with
  | [] => none
  | ds => some ds

def addressPart (census : Json) (name : String) : Outcome (List Char) := do
  return ((← (← census.field name).toText?).getD "").toList

/-- The digits of the number that the address holds: in its path, or else in its hash. -/
def addressDigits? (census : Json) : Outcome (Option (List Char)) := do
  match pathNumber? (← addressPart census "pathname") with
  | some ds => return some ds
  | none => return hashNumber? (← addressPart census "hash")

def addressedSlide (census : Json) : Outcome Json := do
  match ← addressDigits? census with
  | none => return .null
  | some ds =>
    let number ← Outcome.ofOption .badValue (readInt? 10 ds)
    indexOfFirst (fun s => do return (← s.field "pageNumber").same (.number (.int number)))
      (← censusSlides census)

def hasSize (slide : Json) : Outcome Bool := do
  if (0 : Quantity).less (← (← Json.fieldOr (.number 0) slide "width").toQuantity) then
    return (0 : Quantity).less (← (← Json.fieldOr (.number 0) slide "height").toQuantity)
  else return false

def sizedSlide (census : Json) : Outcome Json := do
  indexOfFirst hasSize (← censusSlides census)

def firstSlide (census : Json) : Outcome Json := do
  let slides ← Json.fieldOr (.list []) census "slides"
  if !slides.isTruthy then return .null
  match slides with
  | .list (slide :: _) => slide.require "index"
  | .record _ => Outcome.reject (.missing "0")
  | _ => Outcome.reject .wrongKind

inductive Resolver where
  | marker
  | address
  | size
  | order
deriving DecidableEq, Repr

namespace Resolver

def all : List Resolver := [.marker, .address, .size, .order]

def name : Resolver → String
  | .marker => "activeMarker_resolve"
  | .address => "addressNumber_resolve"
  | .size => "renderedSize_resolve"
  | .order => "documentOrder_resolve"

def resolve : Resolver → Json → Outcome Json
  | .marker => markedSlide
  | .address => addressedSlide
  | .size => sizedSlide
  | .order => firstSlide

end Resolver

def addressText (census : Json) : Outcome String := do
  return (← Json.fieldOr (.text "") census "pathname").asText ++
    (← Json.fieldOr (.text "") census "hash").asText

def resolveBy (census : Json) : List Resolver → Outcome (Json × Resolver)
  | [] => do throw (.noActiveSlide (← addressText census))
  | r :: rs => do
    match ← r.resolve census with
    | .null => resolveBy census rs
    | index => return (index, r)

def activeSlide (census : Json) : Outcome (Json × LogEntry) := do
  let (index, r) ← resolveBy census Resolver.all
  return (index, .note 3 ("Active slide " ++ index.asText ++ " resolved by " ++ r.name))

end SlideOverflow.Inspection
