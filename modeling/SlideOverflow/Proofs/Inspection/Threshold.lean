import Mathlib.Data.List.Basic
import SlideOverflow.Proofs.Inspection.Whole

/-! The issues on a snapshot that is measured in whole numbers: which elements they are on, that
each element is judged for itself, and that a higher threshold only leaves issues out. -/
namespace SlideOverflow.Inspection

open Number Outcome Json

/-! ### Judgements at a threshold -/

section Gauges

variable {judge : Int → Outcome (Option Issue)} {t t' : Int}

/-- The amounts of an issue are whole numbers, none of them negative and some above a threshold. -/
def RunsPast (t : Int) (issue : Issue) : Prop :=
  ∃ ns : List Int, amounts issue.measurement = ns.map .ofInt ∧ (∀ n ∈ ns, 0 ≤ n) ∧ ∃ n ∈ ns, t < n

private theorem Gauged.exists_found (h : Gauged judge) (ht : 0 ≤ t) :
    ∃ found, judge t = .ok found ∧ ∀ issue ∈ found, RunsPast t issue := by
  cases h with
  | never hjudge => exact ⟨none, hjudge t ht, by simp⟩
  | above issue ns hamounts hns hjudge =>
    refine ⟨_, hjudge t ht, fun i hi => ?_⟩
    split at hi
    · next hexceeds =>
      cases hi
      exact ⟨ns, hamounts, hns, (exceeds_iff ns hamounts).mp hexceeds⟩
    · cases hi

/-- What is found at a higher threshold is what was found before, if it still exceeds it. -/
private theorem Gauged.filter (h : Gauged judge) (ht : 0 ≤ t) (htt' : t ≤ t') {found : Option Issue}
    (hfound : judge t = .ok found) : judge t' = .ok (found.filter (exceeds t')) := by
  cases h with
  | never hjudge =>
    rw [hjudge t ht] at hfound
    cases hfound
    exact hjudge t' (ht.trans htt')
  | above issue ns hamounts hns hjudge =>
    rw [hjudge t ht] at hfound
    cases hfound
    rw [hjudge t' (ht.trans htt')]
    by_cases hexceeds : exceeds t' issue = true
    · obtain ⟨n, hn, hlt⟩ := (exceeds_iff ns hamounts).mp hexceeds
      have hbefore : exceeds t issue = true :=
        (exceeds_iff ns hamounts).mpr ⟨n, hn, Int.lt_of_le_of_lt htt' hlt⟩
      rw [if_pos hexceeds, if_pos hbefore, Option.filter_some, if_pos hexceeds]
    · rw [if_neg hexceeds]
      split
      · rw [Option.filter_some, if_neg hexceeds]
      · rfl

end Gauges

/-! ### Snapshots -/

def isExcluded : Json → Bool
  | .record fields => ((fields.lookup "excluded").getD .null).isTruthy
  | _ => false

inductive SnapshotOf (frame : Json) (records : List Json) : Json → Prop where
  | record {fields : List (String × Json)} :
      fields.lookup "frame" = some frame →
      (fields.lookup "elements").getD (.list []) = .list records →
      SnapshotOf frame records (.record fields)

private def found (judge : Json → Outcome (Option Issue)) (record : Json) : Option Issue :=
  (judge record).toOption.join

private def judgement (t : Int) (frame : Json) : IssueKind → Json → Outcome (Option Issue)
  | .textOverflow => textIssue? (.ofInt t) frame
  | .elementOverflow => elementIssue? (.ofInt t) frame
  | .scrollbar => scrollIssue?

def issuesAt (t : Int) (kind : IssueKind) (snapshot : Json) : Outcome (List Issue) :=
  ({ threshold := .ofInt t } : Detection).issuesOf snapshot kind

section Snapshots

variable {F : Box} {frame s : Json} {records : List Json} {t : Int}
  {judge : Json → Outcome (Option Issue)}

private theorem issuesBy_eq_ok (hs : SnapshotOf frame records s)
    (hrecords : ∀ r ∈ records, WholeElement r)
    (hjudge : ∀ r ∈ records, ∃ o, judge r = .ok o) :
    issuesBy judge s = .ok ((records.filter (!isExcluded ·)).filterMap (found judge)) := by
  have hmeasured : measuredRecords s = .ok (records.filter (!isExcluded ·)) := by
    cases hs with
    | record hframe helements =>
      rw [measuredRecords, fieldOr, helements]
      apply filterM_eq_ok
      intro r hr
      cases hrecords r hr with
      | record _ => rfl
  have hfound : ∀ r ∈ records.filter (!isExcluded ·), judge r = .ok (found judge r) := by
    intro r hr
    obtain ⟨o, ho⟩ := hjudge r (List.mem_filter.mp hr).1
    rw [found, ho]
    rfl
  rw [issuesBy, hmeasured, ok_bind, mapM_eq_ok hfound, ok_bind, List.filterMap_map]
  rfl

private theorem issuesAt_eq (hframe : TellsBox F frame) (hs : SnapshotOf frame records s)
    (kind : IssueKind) : issuesAt t kind s = issuesBy (judgement t frame kind) s := by
  cases hs with
  | @record fields hlookup helements =>
    have hfield : (Json.record fields).field "frame" = .ok frame := by
      rw [field_record, hlookup]
      rfl
    cases kind with
    | textOverflow =>
      change textIssues (.ofInt t) _ = _
      rw [textIssues, hfield]
      rfl
    | elementOverflow =>
      change elementIssues (.ofInt t) _ = _
      rw [elementIssues, hfield]
      simp only [ok_bind, hframe.isTruthy, List.mapM_cons, List.mapM_nil, hframe.require]
      rfl
    | scrollbar => rfl

/-- The judgements to which a threshold applies. -/
private theorem judgement_gauged (hframe : TellsBox F frame) {r : Json} (hr : WholeElement r)
    {kind : IssueKind} (hkind : kind ≠ .scrollbar) :
    Gauged fun t => judgement t frame kind r := by
  cases hr with
  | record h =>
    cases kind with
    | textOverflow => exact textIssue_gauged h hframe
    | elementOverflow => exact elementIssue_gauged h hframe
    | scrollbar => exact absurd rfl hkind

private theorem exists_judgement (hframe : TellsBox F frame) (ht : 0 ≤ t) {r : Json}
    (hr : WholeElement r) (kind : IssueKind) : ∃ o, judgement t frame kind r = .ok o := by
  by_cases hkind : kind = .scrollbar
  · subst hkind
    cases hr with
    | record h =>
      obtain ⟨o, ho, -⟩ := exists_scrollIssue h
      exact ⟨o, ho⟩
  · obtain ⟨o, ho, -⟩ := (judgement_gauged hframe hr hkind).exists_found ht
    exact ⟨o, ho⟩

/-- The issues are found, element by element. -/
private theorem issuesAt_eq_ok (hframe : TellsBox F frame) (ht : 0 ≤ t)
    (hrecords : ∀ r ∈ records, WholeElement r) (hs : SnapshotOf frame records s)
    (kind : IssueKind) :
    issuesAt t kind s =
      .ok ((records.filter (!isExcluded ·)).filterMap (found (judgement t frame kind))) := by
  rw [issuesAt_eq hframe hs]
  exact issuesBy_eq_ok hs hrecords fun r hr => exists_judgement hframe ht (hrecords r hr) kind

/-! ### What is reported -/

/-- Some members of a list, in order and once each, and what is reported of each of them. -/
inductive Reports {α β : Type} (selected : α → Prop) (report : α → β → Prop) :
    List α → List β → Prop where
  | nil : Reports selected report [] []
  | skip {a : α} {as : List α} {bs : List β} :
      ¬ selected a → Reports selected report as bs → Reports selected report (a :: as) bs
  | report {a : α} {b : β} {as : List α} {bs : List β} :
      selected a → report a b → Reports selected report as bs →
      Reports selected report (a :: as) (b :: bs)

def RunsOver (F : Box) (t : Int) (record : Json) : Prop :=
  isExcluded record = false ∧ ∃ box, Inspected box record ∧ F.Crosses t box

def TellsOverflow (F : Box) (record : Json) (issue : Issue) : Prop :=
  ∃ box e, Inspected box record ∧ describe record = .ok e ∧
    issue = ⟨e, .element F.edges box.edges (F.overflow box), none⟩

private theorem found_element (hframe : TellsBox F frame) (ht : 0 ≤ t) {r : Json}
    (hr : WholeElement r) (hmeasured : isExcluded r = false) :
    (RunsOver F t r ∧ ∃ issue, found (judgement t frame .elementOverflow) r = some issue ∧
      TellsOverflow F r issue) ∨
    ¬ RunsOver F t r ∧ found (judgement t frame .elementOverflow) r = none := by
  cases hr with
  | @record fields h =>
    have hcrosses {box : Box} {e : Element} :
        exceeds t ⟨e, .element F.edges box.edges (F.overflow box), none⟩ = true ↔
          F.Crosses t box :=
      (exceeds_iff (F.past box) rfl).trans (Box.crosses_iff ht).symm
    by_cases hover : RunsOver F t (.record fields)
    · obtain ⟨box, hbox, hpast⟩ := hover.2
      obtain ⟨e, he, hjudge⟩ := elementIssue_of_inspected h hframe hbox
      refine .inl ⟨hover, _, ?_, box, e, hbox, he, rfl⟩
      rw [found, judgement, hjudge, if_pos (hcrosses.mpr hpast)]
      rfl
    · refine .inr ⟨hover, ?_⟩
      by_cases hinspected : ∃ box, Inspected box (.record fields)
      · obtain ⟨box, hbox⟩ := hinspected
        obtain ⟨e, -, hjudge⟩ := elementIssue_of_inspected h hframe hbox
        have hpast : ¬ F.Crosses t box := fun hpast => hover ⟨hmeasured, box, hbox, hpast⟩
        rw [found, judgement, hjudge, if_neg (mt hcrosses.mp hpast)]
        rfl
      · rw [found, judgement, elementIssue_of_not_inspected h frame (not_exists.mp hinspected)]
        rfl

private theorem reports_element (hframe : TellsBox F frame) (ht : 0 ≤ t)
    (hrecords : ∀ r ∈ records, WholeElement r) :
    Reports (RunsOver F t) (TellsOverflow F) records ((records.filter (!isExcluded ·)).filterMap
      (found (judgement t frame .elementOverflow))) := by
  induction records with
  | nil => exact .nil
  | cons r records ih =>
    have hrest := ih fun q hq => hrecords q (.tail r hq)
    cases hmeasured : isExcluded r with
    | true =>
      rw [List.filter_cons_of_neg (by simp [hmeasured])]
      exact .skip (fun h => by rw [h.1] at hmeasured; cases hmeasured) hrest
    | false =>
      rw [List.filter_cons_of_pos (by simp [hmeasured])]
      rcases found_element hframe ht (hrecords r List.mem_cons_self) hmeasured with
        ⟨hover, issue, hfound, htells⟩ | ⟨hnot, hfound⟩
      · rw [List.filterMap_cons_some hfound]
        exact .report hover htells hrest
      · rw [List.filterMap_cons_none hfound]
        exact .skip hnot hrest

/-- What the detectors find on a snapshot with a frame. -/
structure Exact (F : Box) (frame : Json) (records : List Json) (s : Json) (t : Int) : Prop where
  /-- The issues of elements past the frame are those of the elements that run past it. -/
  element : ∃ issues, issuesAt t .elementOverflow s = .ok issues ∧
    Reports (RunsOver F t) (TellsOverflow F) records issues
  past : ∀ kind, kind ≠ .scrollbar → ∃ issues, issuesAt t kind s = .ok issues ∧
    ∀ issue ∈ issues, RunsPast t issue
  scrolled : ∃ issues, issuesAt t .scrollbar s = .ok issues ∧
    ∀ issue ∈ issues, ∃ n : Int, amounts issue.measurement = [.ofInt n] ∧ 0 < n
  /-- Each element is judged for itself. -/
  append : ∀ kind front back s₁ s₂, records = front ++ back →
    SnapshotOf frame front s₁ → SnapshotOf frame back s₂ →
    ∃ issues issues', issuesAt t kind s₁ = .ok issues ∧ issuesAt t kind s₂ = .ok issues' ∧
      issuesAt t kind s = .ok (issues ++ issues')
  /-- A higher threshold leaves issues out, and changes nothing else. -/
  higher : ∀ t', t ≤ t' → ∀ kind, kind ≠ .scrollbar → ∃ issues,
    issuesAt t kind s = .ok issues ∧ issuesAt t' kind s = .ok (issues.filter (exceeds t'))

/-- On a snapshot that is measured in whole numbers, the detectors are exact, judge each element for
itself, and find no more at a higher threshold. -/
theorem issuesAt_exact (hframe : TellsBox F frame) (hrecords : ∀ r ∈ records, WholeElement r)
    (hs : SnapshotOf frame records s) (ht : 0 ≤ t) : Exact F frame records s t where
  element := ⟨_, issuesAt_eq_ok hframe ht hrecords hs _, reports_element hframe ht hrecords⟩
  past kind hkind := by
    refine ⟨_, issuesAt_eq_ok hframe ht hrecords hs _, fun issue hissue => ?_⟩
    obtain ⟨r, hr, hfound⟩ := List.mem_filterMap.mp hissue
    have hgauged := judgement_gauged hframe (hrecords r (List.mem_filter.mp hr).1) hkind
    obtain ⟨o, ho, hpast⟩ := hgauged.exists_found ht
    rw [found, ho] at hfound
    exact hpast issue hfound
  scrolled := by
    refine ⟨_, issuesAt_eq_ok hframe ht hrecords hs _, fun issue hissue => ?_⟩
    obtain ⟨r, hr, hfound⟩ := List.mem_filterMap.mp hissue
    cases hrecords r (List.mem_filter.mp hr).1 with
    | record h =>
      obtain ⟨o, ho, hpositive⟩ := exists_scrollIssue h
      rw [found, judgement, ho] at hfound
      exact hpositive issue hfound
  append kind front back s₁ s₂ hsplit hs₁ hs₂ := by
    subst hsplit
    have hfront := issuesAt_eq_ok hframe ht (fun r hr => hrecords r (List.mem_append_left _ hr)) hs₁
    have hback := issuesAt_eq_ok hframe ht (fun r hr => hrecords r (List.mem_append_right _ hr)) hs₂
    refine ⟨_, _, hfront kind, hback kind, ?_⟩
    rw [issuesAt_eq_ok hframe ht hrecords hs, List.filter_append, List.filterMap_append]
  higher t' htt' kind hkind := by
    refine ⟨_, issuesAt_eq_ok hframe ht hrecords hs kind, ?_⟩
    rw [issuesAt_eq_ok hframe (ht.trans htt') hrecords hs, List.filter_filterMap]
    congr 1
    apply List.filterMap_congr
    intro r hr
    have hgauged := judgement_gauged hframe (hrecords r (List.mem_filter.mp hr).1) hkind
    obtain ⟨o, ho, -⟩ := hgauged.exists_found ht
    rw [found, found, ho, hgauged.filter ht htt' ho]
    rfl

end Snapshots

/-- Three elements: one that runs past the right edge, one as large that is hidden, and one that is
excluded. -/
def crowd : List Json :=
  let box : Box := ⟨20, 20, 170, 60, 150, 40⟩
  [.record [("tag", .text "pre"), ("rect", .record box.fields)],
    .record [("tag", .text "p"), ("display", .text "none"), ("rect", .record box.fields)],
    .record [("tag", .text "aside"), ("excluded", .bool true)]]

theorem tellsBox_fields (b : Box) : TellsBox b (.record b.fields) := by
  apply TellsBox.record
  intro f hf
  simp only [Box.fields, List.mem_cons, List.not_mem_nil, or_false] at hf
  rcases hf with rfl | rfl | rfl | rfl | rfl | rfl <;> rfl

private theorem wholeElement_crowd : ∀ r ∈ crowd, WholeElement r := by
  have hwhole {fields : List (String × Json)} (htag : MayHold fields "tag" IsText)
      (hrect : MayHold fields "rect" BoxOrNone)
      (hnone : ∀ name ∈ ["className", "text", "src", "opacity", "ancestors", "textRect"] ++
        ["clientWidth", "clientHeight", "scrollWidth", "scrollHeight"],
        (fields.lookup name).isNone = true) : WholeElement (.record fields) := by
    refine .record ⟨⟨htag, ?_, ?_, ?_⟩, ⟨?_, ?_⟩, fun name hname => ?_, hrect, ?_⟩
    case refine_6 => exact mayHold_of_absent (hnone name (List.mem_append_right _ hname))
    all_goals exact mayHold_of_absent (hnone _ (List.mem_append_left _ (by decide)))
  have htag {tag : String} {rest : List (String × Json)} :
      MayHold (("tag", .text tag) :: rest) "tag" IsText := by
    rintro j ⟨⟩
    exact .text tag
  have hbox {b : Box} : BoxOrNone (.record b.fields) := .box (tellsBox_fields b)
  simp only [crowd, List.forall_mem_cons]
  refine ⟨hwhole htag ?_ (by decide), hwhole htag ?_ (by decide), hwhole htag ?_ (by decide), ?_⟩
  · rintro j ⟨⟩
    exact hbox
  · rintro j ⟨⟩
    exact hbox
  · rintro j ⟨⟩
  · simp

/-- At a threshold of five pixels, the first of them is reported. -/
theorem issuesAt_exact_of_crowd :
    let F : Box := ⟨10, 10, 110, 85, 100, 75⟩
    let s : Json := .record [("frame", .record F.fields), ("elements", .list crowd)]
    (∀ r ∈ crowd, WholeElement r) ∧ Exact F (.record F.fields) crowd s 5 ∧
      ((issuesAt 5 .elementOverflow s).map (·.map fun i => amounts i.measurement)) =
        .ok [[.ofInt 0, .ofInt 0, .ofInt 60, .ofInt 0]] := by
  intro F s
  refine ⟨wholeElement_crowd, ?_, rfl⟩
  exact issuesAt_exact (tellsBox_fields F) wholeElement_crowd (.record rfl rfl) (by decide)

end SlideOverflow.Inspection
