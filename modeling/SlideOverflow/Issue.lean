import SlideOverflow.Json.Basic

/-! Issues: content that overflows on a slide, the element that causes it and, once attributed, the
lines of the source that it came from. What a page told of an element is kept as it came, whatever
its kind. Attribution never touches what was measured. -/
namespace SlideOverflow

inductive IssueKind where
  /-- Content is clipped by its own box, or text runs past the frame of the slide. -/
  | textOverflow
  /-- The box of an element crosses the frame of the slide. -/
  | elementOverflow
  /-- A container shows a scrollbar. -/
  | scrollbar
deriving DecidableEq, Repr

namespace IssueKind

def all : List IssueKind := [.textOverflow, .elementOverflow, .scrollbar]

def name : IssueKind → String
  | .textOverflow => "text-overflow"
  | .elementOverflow => "element-overflow"
  | .scrollbar => "scrollbar"

theorem mem_all (k : IssueKind) : k ∈ all := by
  cases k <;> decide

end IssueKind

/-- A rendered element, described by what the page told of it. What counts as absent is null. -/
structure Element where
  tag : Json
  selector : Json
  className : Json := .null
  id : Json := .null
  text : Json := .null
  source : Json := .null
deriving Repr, BEq

inductive ScrollAxis where
  | vertical
  | horizontal
  | both
deriving DecidableEq, Repr

def ScrollAxis.name : ScrollAxis → String
  | .vertical => "vertical"
  | .horizontal => "horizontal"
  | .both => "both"

structure Extent where
  width : Json
  height : Json
deriving Repr, BEq

structure Edges where
  left : Json
  top : Json
  right : Json
  bottom : Json
deriving Repr, BEq

inductive Measurement where
  /-- Sizes of a container and its content, and by how much the content is wider and higher. -/
  | text (container content excess : Extent)
  /-- The frame of the slide, the box of the element, and the overflow past each edge. -/
  | element (frame box overflow : Edges)
  /-- Sizes of a container and its content, and the larger excess on the scrolling axes. -/
  | scroll (axis : ScrollAxis) (container content : Extent) (excess : Json)
deriving Repr, BEq

def Measurement.kind : Measurement → IssueKind
  | .text .. => .textOverflow
  | .element .. => .elementOverflow
  | .scroll .. => .scrollbar

structure SourceRange where
  file : String
  first : Int
  last : Int
  content : String
deriving DecidableEq, Repr

structure Issue where
  element : Element
  measurement : Measurement
  source : Option SourceRange := none
deriving Repr, BEq

def Issue.kind (i : Issue) : IssueKind := i.measurement.kind

end SlideOverflow
