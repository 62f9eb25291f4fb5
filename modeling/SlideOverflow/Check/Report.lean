import SlideOverflow.Check.State

/-! Reports of issues and of a check: records of named values, in the order in which they are handed
on. What is absent from an element is left out. -/
namespace SlideOverflow

open Json (ofInt)

def Element.report (e : Element) : Json :=
  .record ([("tag", e.tag), ("selector", e.selector)] ++
    [("class", e.className), ("id", e.id), ("text", e.text), ("src", e.source)].filter
      fun f => f.2.isTruthy)

def Edges.report (e : Edges) : Json :=
  .record [("left", e.left), ("top", e.top), ("right", e.right), ("bottom", e.bottom)]

def sizeFields (container content : Extent) : List (String × Json) :=
  [("containerWidth", container.width), ("containerHeight", container.height),
   ("contentWidth", content.width), ("contentHeight", content.height)]

def Measurement.report : Measurement → Json
  | .text container content excess =>
    .record (sizeFields container content ++
      [("overflowX", excess.width), ("overflowY", excess.height)])
  | .element frame box overflow =>
    .record [("slideBounds", frame.report), ("elementBounds", box.report),
      ("overflow", overflow.report)]
  | .scroll axis container content excess =>
    .record (("scrollbarType", .text axis.name) :: sizeFields container content ++
      [("overflow", excess)])

def SourceRange.report (r : SourceRange) : Json :=
  .record [("file", .text r.file), ("line", ofInt r.first), ("lineEnd", ofInt r.last),
    ("content", .text r.content)]

/-- The record of an issue; the source is named only once it is known. -/
def Issue.report (i : Issue) : Json :=
  .record ([("type", .text i.kind.name), ("element", i.element.report),
    ("details", i.measurement.report)] ++ i.source.toList.map fun r => ("source", r.report))

end SlideOverflow

namespace SlideOverflow.Check

open Json (ofInt ofNat)

def numbers (l : List Int) : Json := .list (l.map ofInt)

def SlideResult.report (r : SlideResult) : Json :=
  .record [("page", ofInt r.page), ("issueCount", ofNat r.issues.length),
    ("issues", .list (r.issues.map Issue.report))]

def summaryField : IssueKind → String
  | .textOverflow => "textOverflow"
  | .elementOverflow => "elementOverflow"
  | .scrollbar => "scrollbar"

def KindSummary.report (s : KindSummary) : Json :=
  .record [("count", ofNat s.count), ("slides", numbers s.slides)]

def CheckResult.report (r : CheckResult) : Json :=
  .record [("totalSlides", ofInt r.totalSlides), ("slidesWithIssues", numbers r.slidesWithIssues),
    ("issuesFound", ofNat r.issuesFound),
    ("summary", .record (r.summary.map fun s => (summaryField s.kind, s.report))),
    ("slides", .list (r.slides.map SlideResult.report)), ("skipped", numbers r.skipped)]

end SlideOverflow.Check
