import SlideOverflow.Inspection.Census
import SlideOverflow.Inspection.Overflow
import SlideOverflow.Session.Page

/-! Detection on a page: the census tells the active slide, a snapshot of it is taken, and the
issues are read off the snapshot. A slide that is gone before its snapshot is looked for once
more. -/
namespace SlideOverflow.Session

open Number Activity Inspection

def requestFor (settings : Settings) (detection : Detection) (slide : Json) : SnapshotRequest :=
  ⟨slide, detection.exclude, settings.hiddenMarkerClass, settings.ancestorVisibilityDepth,
    settings.textPreviewLength⟩

/-- A selector that can be looked up: no collection can. -/
def selector : Json → Outcome Json
  | .list _ => Outcome.reject .wrongKind
  | .record _ => Outcome.reject .wrongKind
  | j => .ok j

def reportSelector (j : Json) : Activity Unit := do
  let invalid ← ofOutcome (selector j)
  let s ← getThe Journal
  if !s.reported.any invalid.same then
    set { s with reported := s.reported ++ [invalid] }
    warn ("Ignoring invalid exclude selector '" ++ invalid.asText ++ "'")

def takeSnapshot (request : SnapshotRequest) : Activity Json := do
  let snapshot ← call (.snapshot request)
  if snapshot.isTruthy then
    let invalid ← ofOutcome (do (← Json.fieldOr (.list []) snapshot "invalidSelectors").items)
    invalid.forM reportSelector
  return snapshot

def activeSnapshot (settings : Settings) (detection : Detection) : Nat → Activity Json
  | 0 => throw .slideVanished
  | rounds + 1 => do
    let census ← call .census
    let (slide, found) ← ofOutcome (activeSlide census)
    tell found
    match ← takeSnapshot (requestFor settings detection slide) with
    | .null =>
      note 2 ("Slide page " ++ slide.asText ++ " disappeared before inspection, retaking census")
      activeSnapshot settings detection rounds
    | snapshot => return snapshot

def rounds : Nat := 2

def detect (settings : Settings) (detection : Detection) : Activity (List Issue) := do
  let snapshot ← activeSnapshot settings detection rounds
  let issues ← ofOutcome (detection.issues snapshot)
  let elements ← ofOutcome (do (← Json.fieldOr (.list []) snapshot "elements").size)
  note 2 ("Detected " ++ String.ofList (numeral issues.length) ++ " issues over " ++
    String.ofList (numeral elements) ++ " elements")
  return issues

end SlideOverflow.Session
