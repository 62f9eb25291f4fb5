import SlideOverflow.Number.Arithmetic
import SlideOverflow.Settings.Basic
import SlideOverflow.Text.Blank

/-! Sizes and rectangles on the canvas, in pixels, and the height of the canvas that follows from
its width and an aspect ratio. -/
namespace SlideOverflow.Geometry

open Number

structure Area where
  width : Quantity
  height : Quantity
deriving DecidableEq, Repr

structure Padding where
  left : Quantity
  right : Quantity
  top : Quantity
  bottom : Quantity
deriving DecidableEq, Repr

def Padding.standard : Padding := ⟨56, 56, 40, 40⟩

/-- What is left of a canvas within the insets; negative on a canvas smaller than they are. -/
def Area.within (canvas : Area) (padding : Padding) : Outcome Area := do
  let width ← (← canvas.width.sub padding.left).sub padding.right
  let height ← (← canvas.height.sub padding.top).sub padding.bottom
  return ⟨width, height⟩

structure Bounds where
  left : Quantity
  top : Quantity
  right : Quantity
  bottom : Quantity
deriving DecidableEq, Repr

def Bounds.width (b : Bounds) : Outcome Quantity := b.right.sub b.left

def Bounds.height (b : Bounds) : Outcome Quantity := b.bottom.sub b.top

/-! ### Ratios -/

def standardRatio : String := "16/9"

def readRatio? (ratio : String) : Option (Float × Float) := do
  match ratio.toList.splitOn '/' with
  | [w, h] =>
    let w ← readFloat? w
    let h ← readFloat? h
    if 0 < w && 0 < h then some (w, h) else none
  | _ => none

/-- The height of a canvas. The configured width with the standard ratio keeps the configured
height; a text that is no ratio gives that height too; otherwise the height is the width times the
inverse ratio, rounded up. -/
def canvasHeight (settings : Settings) (width : Quantity) (ratio : String) : Outcome Quantity :=
  if width.same (.int settings.canvasWidth) && (ratio == standardRatio || ratio == "") then
    .ok (.int settings.canvasHeight)
  else match readRatio? ratio with
    | some (w, h) => do return .int (← (← width.mul (.real (h / w))).ceil)
    | none => .ok (.int settings.canvasHeight)

end SlideOverflow.Geometry
