import SlideOverflow.Geometry.Canvas
import SlideOverflow.Json.Basic

/-! Layouts and the slots they grant on a canvas. A layout that is not known grants what the default
layout does. -/
namespace SlideOverflow.Geometry

open Number

inductive SlotPosition where
  | full
  | left
  | right
  | top
deriving DecidableEq, Repr

def SlotPosition.name : SlotPosition → String
  | .full => "full"
  | .left => "left"
  | .right => "right"
  | .top => "top"

structure Slot where
  name : String
  width : Quantity
  height : Quantity
  position : SlotPosition
deriving DecidableEq, Repr

def Slot.area (s : Slot) : Outcome Quantity := s.width.mul s.height

inductive LayoutShape where
  /-- One slot within the standard insets. -/
  | padded
  /-- One slot over the whole canvas. -/
  | fullBleed
  | columns
  /-- A header above two columns of one width. -/
  | columnsWithHeader
  /-- One slot with wider insets at its sides. -/
  | emphasis
  /-- Media in the left half, text in the right one. -/
  | mediaLeft
  /-- Media in the right half, text in the left one. -/
  | mediaRight
deriving DecidableEq, Repr

def knownLayouts : List (String × LayoutShape) :=
  [("center", .padded), ("cover", .padded), ("default", .padded), ("end", .padded),
   ("fact", .emphasis), ("full", .fullBleed), ("iframe", .fullBleed),
   ("iframe-left", .mediaLeft), ("iframe-right", .mediaRight), ("image", .fullBleed),
   ("image-left", .mediaLeft), ("image-right", .mediaRight), ("intro", .padded),
   ("none", .padded), ("quote", .emphasis), ("section", .padded), ("statement", .padded),
   ("two-cols", .columns), ("two-cols-header", .columnsWithHeader)]

def LayoutShape.ofName (layout : String) : LayoutShape :=
  (knownLayouts.lookup layout).getD .padded

def columnGap : Quantity := 16

def headerHeight : Quantity := 80

def Padding.emphasis : Outcome Padding := do
  let extra : Quantity := .real 50
  return { Padding.standard with
    left := ← Padding.standard.left.add extra
    right := ← Padding.standard.right.add extra }

/-- The slots of a shape, the primary one first. -/
def LayoutShape.slots (shape : LayoutShape) (canvas : Area) : Outcome (List Slot) := do
  match shape with
  | .padded =>
    let area ← canvas.within .standard
    return [⟨"default", area.width, area.height, .full⟩]
  | .fullBleed => return [⟨"default", canvas.width, canvas.height, .full⟩]
  | .columns =>
    let area ← canvas.within .standard
    let column := (← area.width.sub columnGap).halfDown
    return [⟨"left", column, area.height, .left⟩, ⟨"right", column, area.height, .right⟩]
  | .columnsWithHeader =>
    let area ← canvas.within .standard
    let column := (← area.width.sub columnGap).halfDown
    let body ← (← area.height.sub headerHeight).sub columnGap
    return [⟨"header", area.width, headerHeight, .top⟩, ⟨"left", column, body, .left⟩,
      ⟨"right", column, body, .right⟩]
  | .emphasis =>
    let area ← canvas.within (← Padding.emphasis)
    return [⟨"default", area.width, area.height, .full⟩]
  | .mediaLeft =>
    let width ← canvas.width.halfDown.sub Padding.standard.right
    let height ← (← canvas.height.sub Padding.standard.top).sub Padding.standard.bottom
    return [⟨"default", width, height, .right⟩]
  | .mediaRight =>
    let width ← canvas.width.halfDown.sub Padding.standard.left
    let height ← (← canvas.height.sub Padding.standard.top).sub Padding.standard.bottom
    return [⟨"default", width, height, .left⟩]

structure LayoutArea where
  layout : String
  slots : List Slot
  totalArea : Quantity
deriving DecidableEq, Repr

def layoutArea (layout : String) (canvas : Area) : Outcome LayoutArea := do
  if canvas.width.atMost 0 || canvas.height.atMost 0 then
    throw (.emptyCanvas canvas.width canvas.height)
  let slots ← (LayoutShape.ofName layout).slots canvas
  let areas ← slots.mapM Slot.area
  return ⟨layout, slots, ← Quantity.sum areas⟩

def primarySlot (layout : String) (canvas : Area) : Outcome Area := do
  match (← layoutArea layout canvas).slots with
  | slot :: _ => return ⟨slot.width, slot.height⟩
  | [] => canvas.within .standard

/-! ### Reports -/

def Area.report (a : Area) : Json :=
  .record [("width", .number a.width), ("height", .number a.height)]

def Padding.report (p : Padding) : Json :=
  .record [("left", .number p.left), ("right", .number p.right), ("top", .number p.top),
    ("bottom", .number p.bottom)]

def Bounds.report (b : Bounds) : Json :=
  .record [("left", .number b.left), ("top", .number b.top), ("right", .number b.right),
    ("bottom", .number b.bottom)]

def Slot.report (s : Slot) : Json :=
  .record [("name", .text s.name), ("width", .number s.width), ("height", .number s.height),
    ("position", .text s.position.name)]

def LayoutArea.report (a : LayoutArea) : Json :=
  .record [("layout", .text a.layout), ("slots", .list (a.slots.map Slot.report)),
    ("totalAvailableArea", .number a.totalArea)]

end SlideOverflow.Geometry
