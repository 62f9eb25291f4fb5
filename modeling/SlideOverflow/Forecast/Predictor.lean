import SlideOverflow.Deck.Presentation
import SlideOverflow.Forecast.Expected

/-! Forecasts: the overflow to be expected on the slides of a presentation, without rendering them.
Headings are judged by their estimated width and their length, blocks of code by their number of
lines and their longest line. Hidden slides are passed over. -/
namespace SlideOverflow.Forecast

open Metadata Number SlideOverflow.Geometry Deck

structure Predictor where
  calibration : Calibration
  ceilings : Ceilings
deriving Repr

namespace Predictor

def headingIsLong (p : Predictor) (length : Nat) (level : Int) : Bool :=
  (p.ceilings.heading level).less (.int length)

def codeLines (code : String) : List (List Char) :=
  code.toList.splitOn '\n'

def codeIsLong (p : Predictor) (code : String) : Bool :=
  p.ceilings.code.less (.int (codeLines code).length)

def longest : List (List Char) → List Char
  | [] => []
  | l :: ls => ls.foldl (fun best l => if best.length < l.length then l else best) l

def wideHeadingAdvice (e : Estimate) : Outcome String := do
  let excess ← e.excess.toFloat
  let available ← e.available.width.toFloat
  return "Heading is about " ++ String.ofList (wholeText excess) ++ "px wider than the " ++
    String.ofList (generalText available) ++ "px available; shorten it or reduce its size"

def checkHeading (p : Predictor) (layout : String) (level : Nat) (text : String) :
    Outcome (Option Reason) := do
  let e ← p.calibration.estimate text (.ofLevel level) (some layout)
  if e.overflows then
    return some (.wideHeading level e (← wideHeadingAdvice e))
  else if p.headingIsLong text.length level then
    return some (.longHeading level text.length (p.ceilings.heading level))
  else return none

def checkCode (p : Predictor) (layout : String) (code : String) : Outcome (List Reason) := do
  let lines := codeLines code
  let long : List Reason :=
    if p.codeIsLong code then [.longCode lines.length p.ceilings.code] else []
  let e ← p.calibration.estimate (String.ofList (longest lines)) .code (some layout)
  return long ++ (if e.overflows then [.wideCode e] else [])

def checkNode (p : Predictor) (layout : String) (n : ContentNode) : Outcome (List Reason) :=
  match n.form with
  | .heading level => do return (← p.checkHeading layout level (n.text.getD "")).toList
  | .codeBlock .. => p.checkCode layout (n.text.getD "")
  | _ => .ok []

def expected (p : Predictor) (s : Slide) : Outcome (List ExpectedIssue) := do
  let found ← s.nodes.mapM fun n => do
    return (← p.checkNode s.layout.toString n).map (⟨s.index, n.first, n.last, ·⟩)
  return found.flatten

end Predictor

structure SlideForecast where
  slide : Slide
  hidden : Bool
  issues : List ExpectedIssue
deriving Repr

namespace SlideForecast

def risk (f : SlideForecast) : Risk :=
  f.issues.foldl (fun r i => r.max i.reason.risk) .low

def advice (f : SlideForecast) : List String :=
  f.issues.foldl (fun told i => if told.contains i.reason.advice then told
    else told ++ [i.reason.advice]) []

def hiddenReason : String := "hidden slide"

end SlideForecast

/-- Whether the metadata of a slide hides it: only a true truth value does. -/
def isHidden (s : Slide) : Bool :=
  (s.metadata.getOrNull "hide").value = .bool true

def Predictor.forecast (p : Predictor) (s : Slide) : Outcome SlideForecast :=
  if isHidden s then .ok ⟨s, true, []⟩ else do return ⟨s, false, ← p.expected s⟩

def Predictor.ofSettings (s : Settings) : Outcome Predictor := do
  return ⟨← Calibration.standard ⟨.int s.canvasWidth, .int s.canvasHeight⟩, .ofSettings s⟩

def Predictor.ofConfig (settings : Settings) (config : DeckConfig) :
    Outcome (Predictor × List UnusableCeiling) := do
  let height ← canvasHeight settings config.canvasWidth config.aspectRatio.toString
  let calibration ← Calibration.standard ⟨config.canvasWidth, height⟩
  let asked := (config.checker.getD .empty).getOrNull "thresholds"
  let (ceilings, unusable) ← (Ceilings.ofSettings settings).ofDatum asked
  return (⟨calibration, ceilings⟩, unusable)

def Predictor.forecastAll (p : Predictor) (slides : List Slide) :
    Outcome (List SlideForecast) × List LogEntry :=
  match slides.mapM p.forecast with
  | .error e => (.error e, [])
  | .ok all =>
    let risky := all.countP fun f => decide (f.risk ≠ .low)
    (.ok all, [.note 1 ("Analyzed " ++ String.ofList (numeral all.length) ++ " slides, " ++
      String.ofList (numeral risky) ++ " at risk")])

def forecast (settings : Settings) (given : Option Predictor) (presentation : Presentation) :
    Outcome (List SlideForecast) × List LogEntry :=
  match given with
  | some p => p.forecastAll presentation.slides
  | none =>
    match Predictor.ofConfig settings presentation.config with
    | .error e => (.error e, [])
    | .ok (p, unusable) =>
      let warnings := unusable.map fun u => LogEntry.warning u.message
      let (result, log) := p.forecastAll presentation.slides
      (result, warnings ++ log)

end SlideOverflow.Forecast
