import SlideOverflow.Inspection.Overflow
import SlideOverflow.Proofs.Inspection.Parts

/-! The switches of a detection. Looking for some classes of overflow only leaves out the issues of
the other classes, and nothing else changes. -/
namespace SlideOverflow.Inspection

open Outcome

private def FindsKind (kind : IssueKind) (found : Option Issue) : Prop :=
  ∀ issue, found = some issue → issue.kind = kind

private theorem FindsKind.none {kind : IssueKind} : FindsKind kind none := fun _ h => nomatch h

private theorem FindsKind.some {issue : Issue} : FindsKind issue.kind (some issue) := by
  intro _ h
  cases h
  rfl

/-- Nothing is asked of a step that only has to come first. -/
private theorem yields_anything {α : Type} (o : Outcome α) :
    o.Yields (fun _ => True) fun _ => True := by
  cases o <;> exact trivial

private theorem textIssue_kind (threshold frame record : Json) :
    (textIssue? threshold frame record).Yields (FindsKind .textOverflow) fun _ => True := by
  apply (yields_anything _).bind
  rintro ⟨container, content, x, y⟩ _
  apply (yields_anything _).bind
  intro wide _
  apply (yields_anything _).bind
  intro high _
  split
  · exact (yields_anything _).bind fun _ _ => .some
  · exact .none

private theorem elementIssue_kind (threshold frame record : Json) :
    (elementIssue? threshold frame record).Yields (FindsKind .elementOverflow) fun _ => True := by
  apply (yields_anything _).bind
  intro shown _
  split
  · exact .none
  apply (yields_anything _).bind
  intro rect _
  apply (yields_anything _).bind
  intro sized _
  split
  · exact .none
  apply (yields_anything _).bind
  rintro ⟨left, top, right, bottom⟩ _
  apply (yields_anything _).bind
  intro past _
  split
  · apply (yields_anything _).bind
    intro element _
    apply (yields_anything _).bind
    intro _ _
    exact (yields_anything _).bind fun _ _ => .some
  · exact .none

private theorem scrollIssue_kind (record : Json) :
    (scrollIssue? record).Yields (FindsKind .scrollbar) fun _ => True := by
  unfold scrollIssue?
  -- The four measures, and a style and its judgement for each axis.
  iterate 8
    apply (yields_anything _).bind
    intro _ _
  split
  · exact .none
  · iterate 2
      apply (yields_anything _).bind
      intro _ _
    exact (yields_anything _).bind fun _ _ => .some

private theorem issuesBy_kind {judge : Json → Outcome (Option Issue)} {kind : IssueKind}
    (hjudge : ∀ record, (judge record).Yields (FindsKind kind) fun _ => True) (snapshot : Json) :
    (issuesBy judge snapshot).Yields (fun issues => ∀ i ∈ issues, i.kind = kind) fun _ => True := by
  apply (yields_anything _).bind
  intro records _
  apply (yields_mapM (l := records) fun record _ => hjudge record).bind
  intro found hfound i hi
  obtain ⟨f, hf, hsome⟩ := List.mem_filterMap.mp hi
  exact hfound f hf i hsome

/-- Some members of a list are left out, where every result tells the member it came from. -/
private theorem mapM_filter {κ β : Type} {f : κ → Outcome (List β)} {member : β → κ}
    (hf : ∀ k l, f k = .ok l → ∀ b ∈ l, member b = k) (p : κ → Bool) {ks : List κ}
    {ls : List (List β)} (h : ks.mapM f = .ok ls) :
    ∃ kept, (ks.filter p).mapM f = .ok kept ∧
      kept.flatten = ls.flatten.filter fun b => p (member b) := by
  induction ks generalizing ls with
  | nil =>
    cases h
    exact ⟨[], rfl, rfl⟩
  | cons k ks ih =>
    rw [List.mapM_cons] at h
    obtain ⟨l, hl, h⟩ := bind_eq_ok_iff.mp h
    obtain ⟨rest, hrest, h⟩ := bind_eq_ok_iff.mp h
    cases h
    obtain ⟨kept, hkept, hflat⟩ := ih hrest
    have hmember := hf k l hl
    rw [List.flatten_cons, List.filter_append, ← hflat]
    cases hp : p k with
    | true =>
      have hall : l.filter (fun b => p (member b)) = l :=
        List.filter_eq_self.mpr fun b hb => by rw [hmember b hb, hp]
      refine ⟨l :: kept, ?_, by rw [hall, List.flatten_cons]⟩
      rw [List.filter_cons_of_pos hp, List.mapM_cons, hl, hkept]
      rfl
    | false =>
      have hnone : l.filter (fun b => p (member b)) = [] :=
        List.filter_eq_nil_iff.mpr fun b hb => by simp [hmember b hb, hp]
      refine ⟨kept, ?_, by rw [hnone, List.nil_append]⟩
      rw [List.filter_cons_of_neg (by simp [hp]), hkept]

namespace Detection

variable {d : Detection} {snapshot : Json}

/-- What is found by looking for a class is of this class. -/
private theorem kind_of_mem_issuesOf {kind : IssueKind} {issues : List Issue}
    (h : d.issuesOf snapshot kind = .ok issues) : ∀ i ∈ issues, i.kind = kind := by
  have hkind : (d.issuesOf snapshot kind).Yields (fun issues => ∀ i ∈ issues, i.kind = kind)
      fun _ => True := by
    cases kind with
    | textOverflow =>
      exact (yields_anything _).bind fun frame _ => issuesBy_kind (textIssue_kind _ frame) _
    | elementOverflow =>
      apply (yields_anything _).bind
      intro frame _
      split
      · exact fun i hi => absurd hi List.not_mem_nil
      · exact (yields_anything _).bind fun _ _ => issuesBy_kind (elementIssue_kind _ frame) _
    | scrollbar => exact issuesBy_kind scrollIssue_kind _
  exact hkind.result h

/-- The same detection with every class of overflow looked for. -/
def complete (d : Detection) : Detection :=
  { d with text := true, element := true, scrollbar := true }

theorem issues_of_complete {all : List Issue} (h : d.complete.issues snapshot = .ok all) :
    d.issues snapshot = .ok (all.filter fun i => d.looksFor i.kind) := by
  obtain ⟨lists, hlists, hall⟩ := bind_eq_ok_iff.mp h
  cases hall
  have heach : IssueKind.all.mapM (d.issuesOf snapshot) = .ok lists := hlists
  obtain ⟨kept, hkept, hflat⟩ := mapM_filter (fun _ _ => kind_of_mem_issuesOf) d.looksFor heach
  rw [issues, hkept, ← hflat]
  rfl

end Detection

end SlideOverflow.Inspection
