import SlideOverflow.Deck.Report
import SlideOverflow.Forecast.Predictor

/-! Reports of a forecast: records of named values, in the order in which they are handed on. -/
namespace SlideOverflow.Forecast

open Json (ofNat)
open Number SlideOverflow.Geometry

def sizePair (a : Area) : Json := .list [.number a.width, .number a.height]

def roleTable (t : List (TextRole × Quantity)) : Json :=
  .record (t.map fun e => (e.1.name, .number e.2))

def Calibration.report (c : Calibration) : Json :=
  .record [("canvasWidth", .number c.canvas.width), ("canvasHeight", .number c.canvas.height),
    ("aspectRatio", .text c.aspectRatio), ("padding", c.padding.report),
    ("fontSizes", roleTable c.fontSizes), ("lineHeights", roleTable c.lineHeights),
    ("fontFamilies", .record c.fontFamilies),
    ("contentArea", sizePair c.content), ("theme", .text c.theme)]

def Estimate.fields (e : Estimate) : List (String × Json) :=
  [("text", .text e.text), ("font", .text e.font), ("measuredWidth", .number e.width),
   ("measuredHeight", .number e.height), ("availableWidth", .number e.available.width),
   ("availableHeight", .number e.available.height), ("willOverflow", .bool e.overflows),
   ("overflowAmount", .number e.excess), ("confidence", .text confidence)]

def Ceilings.report (c : Ceilings) : Json :=
  .record [("h1_max_chars", .number c.h1), ("h2_max_chars", .number c.h2),
    ("h3_max_chars", .number c.h3), ("code_max_lines", .number c.code)]

def ExpectedIssue.report (i : ExpectedIssue) : Json :=
  .record [("type", .text i.reason.kind.name), ("element", .text i.reason.tag),
    ("slideIndex", ofNat i.slide), ("riskLevel", .text i.reason.risk.name),
    ("lineRange", .record [("start", ofNat i.first), ("end", ofNat i.last)]),
    ("recommendation", .text i.reason.advice), ("confidence", .text confidence),
    ("measuredValue", .number i.reason.measured), ("thresholdValue", .number i.reason.limit)]

def SlideForecast.report (f : SlideForecast) : Json :=
  .record [("slideIndex", ofNat f.slide.index), ("layout", .ofCodes f.slide.layout),
    ("riskLevel", .text f.risk.name), ("contentArea", f.slide.area.report),
    ("metrics", f.slide.metrics.report),
    ("predictedIssues", .list (f.issues.map ExpectedIssue.report)),
    ("recommendations", .list (f.advice.map .text)), ("skipped", .bool f.hidden),
    ("skipReason", if f.hidden then .text SlideForecast.hiddenReason else .null)]

end SlideOverflow.Forecast
