import SlideOverflow.Issue
import SlideOverflow.Json.Field
import SlideOverflow.Json.Writer
import SlideOverflow.Text.Blank

/-! Records of a snapshot: what a page tells of each element of the active slide. -/
namespace SlideOverflow.Inspection

open Number

def classesOf (className : Json) : Outcome (List (List Char)) :=
  match className with
  | .text s => .ok (Text.words s.toList)
  | j => if j.isTruthy then Outcome.reject .noFields else .ok []

/-- A readable selector: the tag with the identifier, or else with every class, or else alone. Only
a text can be joined with classes. -/
def selectorOf (tag id className : Json) : Outcome Json := do
  if id.isTruthy then return .text (tag.asText ++ "#" ++ id.asText)
  match ← classesOf className, tag with
  | [], _ => return tag
  | classes, .text s => return .text (classes.foldl (fun s c => s ++ "." ++ String.ofList c) s)
  | _, _ => Outcome.reject .wrongKind

def describe (record : Json) : Outcome Element := do
  let tag ← Json.fieldOr (.text "") record "tag"
  let id ← record.field "id"
  let className ← record.field "className"
  let text ← record.field "text"
  let source ← if tag.isText "img" then record.field "src" else .ok .null
  return {
    tag
    selector := ← selectorOf tag id className
    className := className.present
    id := id.present
    text := text.present
    source := source.present }

def isTransparent : Json → Outcome Bool
  | .number q => do return (← q.toFloat) == 0
  | .bool b => .ok !b
  | .text s => .ok (match readFloat? s.toList with
    | some x => x == 0
    | none => false)
  | _ => .ok false

def hides (ancestor : Json) : Outcome Bool := do
  if ← isTransparent (← ancestor.field "opacity") then return true
  return (← ancestor.field "visibility").isText "hidden"

/-- Whether some member satisfies a test; the search ends at the first one that does. -/
def anyOf (test : Json → Outcome Bool) : List Json → Outcome Bool
  | [] => .ok false
  | j :: js => do if ← test j then return true else anyOf test js

/-- Whether an element is shown: it takes part in the layout, is neither hidden nor transparent, has
been revealed, and no ancestor that the record lists hides it. -/
def isShown (record : Json) : Outcome Bool := do
  if (← record.field "display").isText "none" then return false
  if (← record.field "visibility").isText "hidden" then return false
  if ← isTransparent (← record.field "opacity") then return false
  if (← record.field "hiddenMarker").isTruthy then return false
  return !(← anyOf hides (← (← Json.fieldOr (.list []) record "ancestors").items))

def clips (record : Json) : Outcome Bool := do
  if ← ["overflow", "overflowX", "overflowY"].anyM fun name => do
      return (← record.field name).isOneOf ["hidden", "clip"] then
    return true
  return (← record.field "textOverflow").isText "ellipsis"

def measure (record : Json) (name : String) : Outcome Json := Json.fieldOr (.number 0) record name

def edges (rect : Json) : Outcome Edges := do
  let left ← rect.require "left"
  let top ← rect.require "top"
  let right ← rect.require "right"
  let bottom ← rect.require "bottom"
  return ⟨left, top, right, bottom⟩

def measuredRecords (snapshot : Json) : Outcome (List Json) := do
  let records ← (← Json.fieldOr (.list []) snapshot "elements").items
  records.filterM fun r => do return !(← r.field "excluded").isTruthy

end SlideOverflow.Inspection
