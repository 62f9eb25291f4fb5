import Mathlib.Data.List.Sort
import SlideOverflow.Check.State

/-! What the result of a check says of the results of its slides. These may come in any order and
name a slide more than once: the numbers and the summaries go by what was found, not by when. -/
namespace SlideOverflow.Check

structure Aggregates (results : List SlideResult) (skipped : List Int) (r : CheckResult) :
    Prop where
  slides_eq : r.slides = results.filter fun s => s.issues ≠ []
  slidesWithIssues_eq : r.slidesWithIssues = r.slides.map (·.page)
  issuesFound_eq : r.issuesFound = (results.flatMap (·.issues)).length
  kinds : r.summary.map (·.kind) = IssueKind.all
  count_eq : ∀ s ∈ r.summary, s.count = s.slides.length
  ascending : ∀ s ∈ r.summary, s.slides.Pairwise (· < ·)
  /-- A summary holds a slide exactly if an issue of its class was found there. -/
  exact : ∀ s ∈ r.summary, ∀ page, page ∈ s.slides ↔
    ∃ t ∈ results, t.page = page ∧ ∃ i ∈ t.issues, i.kind = s.kind
  union : ∀ page, (∃ s ∈ r.summary, page ∈ s.slides) ↔ page ∈ r.slidesWithIssues
  skipped_ascending : r.skipped.Pairwise (· ≤ ·)
  skipped_perm : r.skipped.Perm skipped

/-- Numbers come out the same whatever their order is, and however often they are there. -/
private theorem ascending_congr {l l' : List Int} (h : ∀ a, a ∈ l ↔ a ∈ l') :
    ascending l = ascending l' :=
  (ascending_pairwise l).eq_of_mem_iff (ascending_pairwise l') fun a => by
    rw [mem_ascending, mem_ascending, h]

private theorem SlideResult.has_iff {r : SlideResult} {kind : IssueKind} :
    r.has kind = true ↔ ∃ i ∈ r.issues, i.kind = kind := by
  rw [SlideResult.has, List.any_eq_true]
  simp

/-- Slides without issues do not take part in a summary. -/
private theorem KindSummary.mem_ofResults {results : List SlideResult} {kind : IssueKind}
    {page : Int} :
    page ∈ (ofResults results kind).slides ↔
      ∃ r ∈ results, r.page = page ∧ ∃ i ∈ r.issues, i.kind = kind := by
  rw [ofResults, mem_ascending, List.mem_map]
  constructor
  · rintro ⟨r, hr, hpage⟩
    obtain ⟨hmem, hhas⟩ := List.mem_filter.mp hr
    exact ⟨r, hmem, hpage, SlideResult.has_iff.mp hhas⟩
  · rintro ⟨r, hr, hpage, hissue⟩
    exact ⟨r, List.mem_filter.mpr ⟨hr, SlideResult.has_iff.mpr hissue⟩, hpage⟩

namespace CheckResult

variable (total : Int) (results : List SlideResult) (skipped : List Int)

private theorem issuesFound_eq_length :
    (ofResults total results skipped).issuesFound = (results.flatMap (·.issues)).length := by
  have hkept (l : List SlideResult) : (l.filter fun r => !r.issues.isEmpty).flatMap (·.issues) =
      l.flatMap (·.issues) := by
    induction l with
    | nil => rfl
    | cons r l ih =>
      cases hr : r.issues with
      | nil => simp [hr, ih]
      | cons i is => simp [hr, ih]
  rw [ofResults, ← List.sum_eq_foldl, ← hkept, List.length_flatMap]

/-- The summary of a class, by the results of all slides. -/
private theorem mem_summary {s : KindSummary} (hs : s ∈ (ofResults total results skipped).summary)
    {page : Int} : page ∈ s.slides ↔
      ∃ r ∈ results, r.page = page ∧ ∃ i ∈ r.issues, i.kind = s.kind := by
  obtain ⟨kind, -, rfl⟩ := List.mem_map.mp hs
  rw [KindSummary.mem_ofResults]
  constructor
  · rintro ⟨r, hr, hfound⟩
    exact ⟨r, (List.mem_filter.mp hr).1, hfound⟩
  · rintro ⟨r, hr, hpage, i, hi, hkind⟩
    refine ⟨r, List.mem_filter.mpr ⟨hr, ?_⟩, hpage, i, hi, hkind⟩
    simpa using List.ne_nil_of_mem hi

private theorem exists_summary_iff {page : Int} :
    (∃ s ∈ (ofResults total results skipped).summary, page ∈ s.slides) ↔
      page ∈ (ofResults total results skipped).slidesWithIssues := by
  rw [mem_slidesWithIssues]
  constructor
  · rintro ⟨s, hs, hpage⟩
    obtain ⟨r, hr, hr', i, hi, -⟩ := (mem_summary total results skipped hs).mp hpage
    exact ⟨r, hr, hr', List.ne_nil_of_mem hi⟩
  · rintro ⟨r, hr, hpage, hne⟩
    obtain ⟨i, hi⟩ := List.exists_mem_of_ne_nil _ hne
    have hs : KindSummary.ofResults (results.filter fun r => !r.issues.isEmpty) i.kind ∈
        (ofResults total results skipped).summary := List.mem_map.mpr ⟨_, i.kind.mem_all, rfl⟩
    exact ⟨_, hs, (mem_summary total results skipped hs).mpr ⟨r, hr, hpage, i, hi, rfl⟩⟩

private theorem summary_perm {results results' : List SlideResult} (h : results.Perm results') :
    (ofResults total results skipped).summary = (ofResults total results' skipped).summary := by
  refine List.map_congr_left fun kind _ => ?_
  have hperm := ((h.filter fun r => !r.issues.isEmpty).filter (·.has kind)).map (·.page)
  exact congrArg (KindSummary.mk kind) (ascending_congr fun a => hperm.mem_iff)

/-- Whatever results are put together, in any order and with any repetition, the result of a check
is exact about them, and neither the number of issues nor a summary depends on their order. -/
theorem ofResults_aggregates :
    Aggregates results skipped (ofResults total results skipped) ∧
      ∀ results', results.Perm results' →
        (ofResults total results' skipped).issuesFound =
            (ofResults total results skipped).issuesFound ∧
          (ofResults total results' skipped).summary =
            (ofResults total results skipped).summary := by
  refine ⟨?_, fun results' h => ⟨?_, (summary_perm total skipped h).symm⟩⟩
  · exact {
      slides_eq := List.filter_congr fun s _ => by
        rw [Bool.eq_iff_iff]
        simp
      slidesWithIssues_eq := rfl
      issuesFound_eq := issuesFound_eq_length total results skipped
      kinds := rfl
      count_eq := fun _ _ => rfl
      ascending := by
        intro s hs
        obtain ⟨kind, -, rfl⟩ := List.mem_map.mp hs
        exact ascending_pairwise _
      exact := fun s hs page => mem_summary total results skipped hs
      union := fun page => exists_summary_iff total results skipped
      skipped_ascending := mergeSort_ascending skipped
      skipped_perm := List.mergeSort_perm _ _ }
  · rw [issuesFound_eq_length, issuesFound_eq_length]
    exact (h.symm.flatMap_right (·.issues)).length_eq

def scattered : List SlideResult :=
  let nothing : Extent := ⟨.null, .null⟩
  let clipped : Issue :=
    { element := { tag := .text "p", selector := .text "p" }
      measurement := .text nothing nothing nothing }
  let scrolling : Issue :=
    { element := { tag := .text "pre", selector := .text "pre" }
      measurement := .scroll .both nothing nothing .null }
  [⟨7, [clipped]⟩, ⟨2, []⟩, ⟨3, [scrolling]⟩, ⟨7, [clipped]⟩]

theorem ofResults_aggregates_of_scattered :
    scattered.Perm scattered.reverse ∧ Aggregates scattered [5, 1] (ofResults 9 scattered [5, 1]) ∧
      (ofResults 9 scattered.reverse [5, 1]).issuesFound = 3 ∧
      (ofResults 9 scattered.reverse [5, 1]).summary =
        (ofResults 9 scattered [5, 1]).summary := by
  have hperm : scattered.Perm scattered.reverse := (List.reverse_perm scattered).symm
  obtain ⟨haggregates, hsame⟩ := ofResults_aggregates 9 scattered [5, 1]
  obtain ⟨hfound, hsummary⟩ := hsame scattered.reverse hperm
  exact ⟨hperm, haggregates, hfound.trans rfl, hsummary⟩

end CheckResult

end SlideOverflow.Check
