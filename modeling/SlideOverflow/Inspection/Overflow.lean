import SlideOverflow.Inspection.Element
import SlideOverflow.Settings.Basic

/-! The three classes of overflow on the elements of a snapshot. Each class is judged element by
element, and its issues stand in document order. -/
namespace SlideOverflow.Inspection

open Number

/-- How far the text of an element runs past the frame, or the content of a clipping one past its
box. Elements of other kinds have no excess. Gives the sizes that were compared too. -/
def clipping (frame record : Json) : Outcome (Extent × Extent × Quantity × Quantity) := do
  let container : Extent := ⟨← measure record "clientWidth", ← measure record "clientHeight"⟩
  let content : Extent := ⟨← measure record "scrollWidth", ← measure record "scrollHeight"⟩
  if ← clips record then
    let x ← content.width.excess container.width
    let y ← content.height.excess container.height
    return (container, content, x, y)
  let rect ← record.field "textRect"
  if (← record.field "hasDirectText").isTruthy && rect.isTruthy && frame.isTruthy then
    let x ← (← rect.require "right").excess (← frame.require "right")
    let y ← (← rect.require "bottom").excess (← frame.require "bottom")
    let container : Extent := ⟨← frame.require "width", ← frame.require "height"⟩
    return (container, ⟨← rect.require "width", ← rect.require "height"⟩, x, y)
  return (container, content, .real 0, .real 0)

def textIssue? (threshold frame record : Json) : Outcome (Option Issue) := do
  let (container, content, x, y) ← clipping frame record
  let excess : Extent := ⟨.number x, .number y⟩
  if (← excess.width.above threshold) || (← excess.height.above threshold) then
    return some ⟨← describe record, .text container content excess, none⟩
  return none

/-- The overflow past each edge of a frame, zero where there is none: to the left, at the top, to
the right and at the bottom. -/
def overflowPast (frame rect : Json) : Outcome (Quantity × Quantity × Quantity × Quantity) := do
  let left ← (← frame.require "left").excess (← rect.require "left")
  let top ← (← frame.require "top").excess (← rect.require "top")
  let right ← (← rect.require "right").excess (← frame.require "right")
  let bottom ← (← rect.require "bottom").excess (← frame.require "bottom")
  return (left, top, right, bottom)

def hasExtent (rect : Json) : Outcome Bool := do
  if !rect.isTruthy then return false
  if (← rect.require "width").same (.number 0) then
    return !(← rect.require "height").same (.number 0)
  return true

/-- The overflow of an element past the frame, if it exceeds the threshold at some edge. Hidden
elements and those without a size have none. -/
def elementIssue? (threshold frame record : Json) : Outcome (Option Issue) := do
  if !(← isShown record) then return none
  let rect ← record.field "rect"
  if !(← hasExtent rect) then return none
  let (left, top, right, bottom) ← overflowPast frame rect
  if ← (Json.number (((left.larger top).larger right).larger bottom)).above threshold then
    let overflow : Edges := ⟨.number left, .number top, .number right, .number bottom⟩
    return some ⟨← describe record, .element (← edges frame) (← edges rect) overflow, none⟩
  return none

def scrolls (content container style : Json) : Outcome Bool := do
  return (← content.above container) && style.isOneOf ["scroll", "auto"]

/-- The scrollbars of an element, if it shows any. Every excess counts. -/
def scrollIssue? (record : Json) : Outcome (Option Issue) := do
  let container : Extent := ⟨← measure record "clientWidth", ← measure record "clientHeight"⟩
  let content : Extent := ⟨← measure record "scrollWidth", ← measure record "scrollHeight"⟩
  let vertical ← scrolls content.height container.height (← record.field "overflowY")
  let horizontal ← scrolls content.width container.width (← record.field "overflowX")
  if !vertical && !horizontal then return none
  let excessY ← content.height.minus container.height
  let excessX ← content.width.minus container.width
  let (axis, amount) : ScrollAxis × Quantity :=
    if vertical && horizontal then (.both, excessX.larger excessY)
    else if vertical then (.vertical, excessY)
    else (.horizontal, excessX)
  return some ⟨← describe record, .scroll axis container content (.number amount), none⟩

def issuesBy (judge : Json → Outcome (Option Issue)) (snapshot : Json) : Outcome (List Issue) := do
  return (← (← measuredRecords snapshot).mapM judge).filterMap id

def textIssues (threshold snapshot : Json) : Outcome (List Issue) := do
  issuesBy (textIssue? threshold (← snapshot.field "frame")) snapshot

def elementIssues (threshold snapshot : Json) : Outcome (List Issue) := do
  let frame ← snapshot.field "frame"
  if !frame.isTruthy then return []
  let _ ← ["left", "top", "right", "bottom"].mapM frame.require
  issuesBy (elementIssue? threshold frame) snapshot

def scrollIssues (snapshot : Json) : Outcome (List Issue) := issuesBy scrollIssue? snapshot

structure Detection where
  /-- Selectors whose matches are not inspected. -/
  exclude : List Json := []
  /-- Overflow that has to be exceeded before an issue is reported. -/
  threshold : Json := .number (.real 1)
  text : Bool := true
  element : Bool := true
  scrollbar : Bool := true
deriving Repr

namespace Detection

def ofSettings (s : Settings) : Detection :=
  { exclude := s.exclude.map .text, threshold := .number (.real s.threshold) }

def looksFor (d : Detection) : IssueKind → Bool
  | .textOverflow => d.text
  | .elementOverflow => d.element
  | .scrollbar => d.scrollbar

def issuesOf (d : Detection) (snapshot : Json) : IssueKind → Outcome (List Issue)
  | .textOverflow => textIssues d.threshold snapshot
  | .elementOverflow => elementIssues d.threshold snapshot
  | .scrollbar => scrollIssues snapshot

def issues (d : Detection) (snapshot : Json) : Outcome (List Issue) := do
  return (← (IssueKind.all.filter d.looksFor).mapM (d.issuesOf snapshot)).flatten

end Detection

end SlideOverflow.Inspection
