import SlideOverflow.Forecast.Ceilings
import SlideOverflow.Geometry.Layout
import SlideOverflow.Json.Writer

/-! Calibrations: the fonts and the canvas that a forecast assumes, and the estimate of a text's
width that they give. The estimate knows no glyphs: every character counts as 0.6 of the font
size. -/
namespace SlideOverflow.Forecast

open Number SlideOverflow.Geometry

/-- What a run of text is for; this selects its font. -/
inductive TextRole where
  | h1
  | h2
  | h3
  | h4
  | paragraph
  | code
  | listItem
deriving DecidableEq, Repr

namespace TextRole

def all : List TextRole := [.h1, .h2, .h3, .h4, .paragraph, .code, .listItem]

def name : TextRole → String
  | .h1 => "h1"
  | .h2 => "h2"
  | .h3 => "h3"
  | .h4 => "h4"
  | .paragraph => "paragraph"
  | .code => "code"
  | .listItem => "list-item"

def ofName (name : String) : Outcome TextRole :=
  Outcome.ofOption .badValue (all.find? fun r => r.name == name)

/-- The role of a heading; all levels past the third are of one size. -/
def ofLevel (level : Int) : TextRole :=
  if level ≤ 1 then .h1 else if level == 2 then .h2 else if level == 3 then .h3 else .h4

def family : TextRole → String
  | .code => "mono"
  | _ => "sans"

end TextRole

structure Calibration where
  canvas : Area
  aspectRatio : String
  padding : Padding
  fontSizes : List (TextRole × Quantity)
  lineHeights : List (TextRole × Quantity)
  /-- The fonts of the families; what is no text stands for itself in words. -/
  fontFamilies : List (String × Json)
  /-- The canvas within the insets. -/
  content : Area
  theme : String
deriving Repr

/-- The font sizes of the default theme, in pixels. -/
def standardFontSizes : List (TextRole × Quantity) :=
  [(.h1, 48), (.h2, 36), (.h3, 28), (.h4, 24), (.paragraph, .real 17.6), (.code, 14),
   (.listItem, .real 17.6)]

/-- The line heights of the default theme, as multiples of the font size. -/
def standardLineHeights : List (TextRole × Quantity) :=
  [(.h1, .real 1.2), (.h2, .real 1.3), (.h3, .real 1.4), (.h4, .real 1.4),
   (.paragraph, .real 1.6), (.code, .real 1.5), (.listItem, .real 1.6)]

def standardFontFamilies : List (String × Json) :=
  [("sans", .text "Roboto, sans-serif"), ("mono", .text "Fira Code, monospace"),
   ("serif", .text "Georgia, serif")]

def plainLineHeight : Quantity := .real 1.5

def glyphShare : Quantity := .real 0.6

def textWidth (length : Nat) (fontSize : Quantity) : Outcome Quantity := do
  (← Quantity.mul (.int length) fontSize).mul glyphShare

namespace Calibration

def standard (canvas : Area) : Outcome Calibration := do
  let content ← canvas.within .standard
  return {
    canvas := canvas
    aspectRatio := "16/9"
    padding := .standard
    fontSizes := standardFontSizes
    lineHeights := standardLineHeights
    fontFamilies := standardFontFamilies
    content := content
    theme := "default" }

def fontSize (c : Calibration) (role : TextRole) : Outcome Quantity :=
  Outcome.ofOption (.missing role.name) (c.fontSizes.lookup role)

def lineHeight (c : Calibration) (role : TextRole) : Quantity :=
  (c.lineHeights.lookup role).getD plainLineHeight

def font (c : Calibration) (role : TextRole) : Outcome String := do
  let size ← (← c.fontSize role).toFloat
  let family := (c.fontFamilies.lookup role.family).getD (.text "")
  return String.ofList (generalText size) ++ "px " ++ family.asText

def available (c : Calibration) : Option String → Outcome Area
  | none => .ok c.content
  | some layout => do
    match (← layoutArea layout c.canvas).slots with
    | slot :: _ => return ⟨slot.width, slot.height⟩
    | [] => return c.content

end Calibration

structure Estimate where
  text : String
  font : String
  width : Quantity
  height : Quantity
  available : Area
  overflows : Bool
  /-- By how much it is wider; zero if it is not. -/
  excess : Quantity
deriving Repr

def Calibration.estimate (c : Calibration) (text : String) (role : TextRole)
    (layout : Option String) : Outcome Estimate := do
  let size ← c.fontSize role
  let width ← textWidth text.length size
  let height ← size.mul (c.lineHeight role)
  let available ← c.available layout
  let overflows := available.width.less width
  let excess ← if overflows then width.sub available.width else .ok 0
  let font ← c.font role
  return ⟨text, font, width, height, available, overflows, excess⟩

def confidence : String := "medium"

end SlideOverflow.Forecast
