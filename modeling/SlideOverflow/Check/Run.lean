import SlideOverflow.Check.Pages
import SlideOverflow.Check.State
import SlideOverflow.Check.Work
import SlideOverflow.Session.Detection
import SlideOverflow.Session.Navigation

/-! Running a check: the source is loaded, the slides are counted, each slide of the page range is
checked, and the results are put together. Slides that cannot be reached or inspected are skipped.
Several workers check contiguous chunks, each in a session of its own; all of them finish before the
failure of one ends the check. -/
namespace SlideOverflow.Check

open Number Inspection Attribution Session

/-! ### Checking slides -/

def CheckState.pace (state : CheckState) (settings : Settings) : Pace :=
  .ofSettings settings state.wait

def attributeIssues (source : Option Source) (slide : Int) (issues : List Issue) :
    Activity (List Issue) :=
  match source with
  | none => return issues
  | some s => do
    let (enriched, log) := s.enrichAll slide issues
    log.forM Activity.tell
    Activity.ofOutcome enriched

def checkSlide (settings : Settings) (state : CheckState) (slide : Int) : Activity SlideResult := do
  navigate (state.pace settings) slide
  let issues ← detect settings state.detection
  return ⟨slide, ← attributeIssues state.source slide issues⟩

private def decimal (n : Int) : String := String.ofList (intText n)

def checkOrSkip (settings : Settings) (state : CheckState) (slide : Int) :
    Activity (Option SlideResult) := do
  Activity.note 1 ("Checking slide " ++ decimal slide ++ "/" ++ decimal state.totalSlides)
  match ← Activity.observe (checkSlide settings state slide) with
  | .ok result =>
    if !result.issues.isEmpty then
      Activity.note 1
        ("Slide " ++ decimal slide ++ ": " ++ decimal result.issues.length ++ " issues")
    return some result
  | .error (.unreachable n message) =>
    Activity.warn
      ("Skipping slide " ++ decimal slide ++ ": " ++ (Failure.unreachable n message).message)
    return none
  | .error (.page message) =>
    Activity.warn ("Skipping slide " ++ decimal slide ++ ": inspection failed: " ++ message)
    return none
  | .error e => throw e

structure ChunkResult where
  results : List SlideResult
  skipped : List Int
deriving Repr

def checkSlides (settings : Settings) (state : CheckState) : List Int → Activity ChunkResult
  | [] => return ⟨[], []⟩
  | slide :: slides => do
    let result ← checkOrSkip settings state slide
    let rest ← checkSlides settings state slides
    match result with
    | some r => return ⟨r :: rest.results, rest.skipped⟩
    | none => return ⟨rest.results, slide :: rest.skipped⟩

def checkChunk (settings : Settings) (state : CheckState) (chunk : List Int) :
    Activity ChunkResult :=
  within settings state.opening state.address do
    awaitReady (state.pace settings)
    modifyThe Journal fun j =>
      { j with total := if state.totalSlides = 0 then none else some state.totalSlides }
    checkSlides settings state chunk

/-! ### Stages -/

abbrev Stage := CheckState → Work CheckState

/-- Loads the source, if a project is given and none is loaded yet. Without a readable source the
check goes on. -/
def loadSource (settings : Settings) : Stage := fun state =>
  match state.project, state.source with
  | some project, none => do
    let (loaded, log) := project.load settings settings.sourceCandidates
    Work.tellAll log
    match loaded with
    | .ok source =>
      Work.tellAll (source.presentation.warnings.map fun w => .note 1 ("Source: " ++ w.message))
      return { state with source := some source }
    | .error (.noSource directory candidates) =>
      Work.tellAll [.warning ("Could not load project markdown: " ++
        (Failure.noSource directory candidates).message)]
      return state
    | .error e => throw e
  | _, _ => return state

def countSlides (settings : Settings) : Stage := fun state => do
  let total ← Work.inSession (within settings state.opening state.address do
    awaitReady (state.pace settings)
    readTotal)
  if total = 0 then throw .noSlides
  let range ← Work.ofOutcome (pageRange state.pages total)
  Work.note 1 ("Presentation has " ++ decimal total ++ " slides, checking " ++
    decimal range.length)
  return { state with totalSlides := total, pageRange := range }

def checkPages (settings : Settings) : Stage := fun state => do
  let workers := max 1 (min state.concurrency state.pageRange.length)
  let parts ← Work.ofOutcome (chunks state.pageRange workers)
  if 1 < parts.length then
    Work.note 1 ("Checking " ++ decimal state.pageRange.length ++ " slides with " ++
      decimal parts.length ++ " workers")
  let outcomes ← parts.mapM fun part => Work.observeSession (checkChunk settings state part)
  let done ← outcomes.mapM Work.ofOutcome
  return { state with results := done.flatMap (·.results), skipped := done.flatMap (·.skipped) }

def aggregate : Stage := fun state => do
  let result := CheckResult.ofResults state.totalSlides state.results state.skipped
  Work.note 1 (decimal result.issuesFound ++ " issues on " ++
    decimal result.slidesWithIssues.length ++ " slides")
  return { state with result := some result }

def pipeline (stages : List Stage) : Stage := fun state =>
  stages.foldlM (fun state stage => stage state) state

def stages (settings : Settings) : List Stage :=
  [loadSource settings, countSlides settings, checkPages settings, aggregate]

def check (settings : Settings) (state : CheckState) : Work CheckResult := do
  match (← pipeline (stages settings) state).result with
  | some result => return result
  | none => throw .noResult

end SlideOverflow.Check
