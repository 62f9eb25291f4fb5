import SlideOverflow.Attribution.Project
import SlideOverflow.Check.Pages
import SlideOverflow.Inspection.Overflow
import SlideOverflow.Session.Page

/-! Results of a check, which are the issues of each slide and what they come to over a
presentation, and the state that a check is in. Each stage adds its own fields to the state and
leaves the others alone. -/
namespace SlideOverflow.Check

open Inspection Attribution Session

structure SlideResult where
  page : Int
  issues : List Issue
deriving Repr

structure KindSummary where
  kind : IssueKind
  slides : List Int
deriving DecidableEq, Repr

def KindSummary.count (s : KindSummary) : Nat := s.slides.length

structure CheckResult where
  totalSlides : Int
  slidesWithIssues : List Int
  issuesFound : Nat
  summary : List KindSummary
  /-- The results of the slides with issues. -/
  slides : List SlideResult
  skipped : List Int
deriving Repr

def SlideResult.has (r : SlideResult) (kind : IssueKind) : Bool :=
  r.issues.any fun i => i.kind == kind

def KindSummary.ofResults (results : List SlideResult) (kind : IssueKind) : KindSummary :=
  ⟨kind, ascending ((results.filter (·.has kind)).map (·.page))⟩

def CheckResult.ofResults (total : Int) (results : List SlideResult) (skipped : List Int) :
    CheckResult :=
  let withIssues := results.filter fun r => !r.issues.isEmpty
  { totalSlides := total
    slidesWithIssues := withIssues.map (·.page)
    issuesFound := (withIssues.map (·.issues.length)).foldl (· + ·) 0
    summary := IssueKind.all.map (KindSummary.ofResults withIssues)
    slides := withIssues
    skipped := skipped.mergeSort fun a b => decide (a ≤ b) }

namespace CheckResult

variable (total : Int) (results : List SlideResult) (skipped : List Int)

theorem slidesWithIssues_sublist :
    (ofResults total results skipped).slidesWithIssues.Sublist (results.map (·.page)) :=
  List.filter_sublist.map _

theorem mem_slidesWithIssues {n : Int} :
    n ∈ (ofResults total results skipped).slidesWithIssues ↔
      ∃ r ∈ results, r.page = n ∧ r.issues ≠ [] := by
  simp only [ofResults, List.mem_map, List.mem_filter, Bool.not_eq_true',
    List.isEmpty_eq_false_iff]
  exact ⟨fun ⟨r, ⟨hr, hne⟩, hn⟩ => ⟨r, hr, hn, hne⟩, fun ⟨r, hr, hn, hne⟩ => ⟨r, ⟨hr, hne⟩, hn⟩⟩

/-- Skipped slides that ascend already are reported as they are. -/
theorem skipped_of_pairwise (h : skipped.Pairwise (· < ·)) :
    (ofResults total results skipped).skipped = skipped :=
  List.mergeSort_of_pairwise (h.imp fun hlt => decide_eq_true (Int.le_of_lt hlt))

end CheckResult

/-! ### State -/

/-- What a check is asked to do, and what it has come to so far. -/
structure CheckState where
  address : String
  /-- The directory that holds the source. -/
  project : Option Project := none
  /-- The page range to check; all slides where there is none. -/
  pages : Option String := none
  verbosity : Int := 1
  concurrency : Int
  /-- Extra wait after each navigation. -/
  wait : Int
  detection : Detection
  opening : Opening := .browser
  source : Option Source := none
  totalSlides : Int := 0
  pageRange : List Int := []
  results : List SlideResult := []
  skipped : List Int := []
  result : Option CheckResult := none
deriving Repr

def CheckState.ofSettings (s : Settings) (address : String) : CheckState where
  address := address
  concurrency := s.concurrency
  wait := s.waitMs
  detection := .ofSettings s

end SlideOverflow.Check
