import SlideOverflow.Proofs.Inspection.Snapshot
import SlideOverflow.Session.Detection
import SlideOverflow.Session.Laws

/-! Invalid selectors, as a session hears of them: one snapshot after the other lists some, and a
warning is told about each one that is not known yet. -/
namespace SlideOverflow.Session

open Activity Inspection

def selectorWarning (j : Json) : LogEntry :=
  .warning ("Ignoring invalid exclude selector '" ++ j.asText ++ "'")

/-! ### First mentions -/

/-- The members of a list that are not known, each one where it comes first. -/
def firstMentions (known : List Json) : List Json → List Json
  | [] => []
  | j :: js =>
    if known.any j.same then firstMentions known js else j :: firstMentions (known ++ [j]) js

private theorem firstMentions_append (known js js' : List Json) :
    firstMentions known (js ++ js') =
      firstMentions known js ++ firstMentions (known ++ firstMentions known js) js' := by
  induction js generalizing known with
  | nil => rw [List.nil_append, firstMentions, List.nil_append, List.append_nil]
  | cons j js ih =>
    rw [List.cons_append, firstMentions, firstMentions]
    split
    · exact ih known
    · rw [ih, List.cons_append, List.append_assoc, List.singleton_append]

theorem mem_of_mem_firstMentions {known js : List Json} {j : Json}
    (h : j ∈ firstMentions known js) : j ∈ js := by
  induction js generalizing known with
  | nil => exact h
  | cons i js ih =>
    rw [firstMentions] at h
    split at h
    · exact .tail i (ih h)
    · rcases List.mem_cons.mp h with rfl | h
      · exact List.mem_cons_self
      · exact .tail i (ih h)

/-! ### What a snapshot lists -/

def invalidSelectors (snapshot : Json) : Outcome (List Json) := do
  (← Json.fieldOr (.list []) snapshot "invalidSelectors").items

def isSelector (j : Json) : Bool :=
  match selector j with
  | .ok _ => true
  | .error _ => false

private theorem selector_of_isSelector {j : Json} (h : isSelector j = true) :
    selector j = .ok j := by
  cases j with
  | list items => cases h
  | record fields => cases h
  | _ => rfl

private theorem isSelector_of_isText {j : Json} (h : Json.IsText j) : isSelector j = true := by
  cases h
  rfl

/-- The selectors that are heard of by a snapshot: those that it lists, up to the first value that
is no selector. -/
def heardIn (snapshot : Json) : List Json :=
  match invalidSelectors snapshot with
  | .ok listed => listed.takeWhile isSelector
  | .error _ => []

/-- How hearing of the selectors in a snapshot ends: at a list that cannot be gone through. -/
def hearing (snapshot : Json) : Outcome Unit :=
  if snapshot.isTruthy then do
    (← invalidSelectors snapshot).forM fun j => (selector j).map fun _ => ()
  else .ok ()

theorem heardIn_of_texts {snapshot : Json} {listed : List Json}
    (hlisted : invalidSelectors snapshot = .ok listed) (htexts : ∀ j ∈ listed, Json.IsText j) :
    heardIn snapshot = listed := by
  rw [heardIn, hlisted]
  exact List.takeWhile_eq_self_iff.mpr fun j hj => isSelector_of_isText (htexts j hj)

theorem hearing_of_texts {snapshot : Json} {listed : List Json}
    (hlisted : invalidSelectors snapshot = .ok listed) (htexts : ∀ j ∈ listed, Json.IsText j) :
    hearing snapshot = .ok () := by
  have hgone : ∀ js : List Json, (∀ j ∈ js, Json.IsText j) →
      (js.forM fun j => (selector j).map fun _ => ()) = (.ok () : Outcome Unit) := by
    intro js hjs
    induction js with
    | nil => rfl
    | cons j js ih =>
      cases hjs j List.mem_cons_self
      exact ih fun k hk => hjs k (.tail _ hk)
  rw [hearing, hlisted]
  split
  · exact hgone listed htexts
  · rfl

private theorem heardIn_of_not_isTruthy {snapshot : Json} (h : snapshot.isTruthy = false) :
    heardIn snapshot = [] := by
  cases snapshot with
  | record fields =>
    cases fields with
    | nil => rfl
    | cons f fields => cases h
  | _ => rfl

/-! ### Journals -/

def Journal.warnings (s : Journal) : List LogEntry := s.log.filter fun e => e.level = .warning

def Journal.hear (s : Journal) (j : Json) : Journal :=
  if s.reported.any j.same then s
  else { s with reported := s.reported ++ [j], log := s.log ++ [selectorWarning j] }

/-- One journal comes from another one by some calls, and by hearing of some selectors. -/
structure Journal.Heard (s t : Journal) (made : List Call) (heard : List Json) : Prop where
  calls : t.calls = s.calls ++ made
  total : t.total = s.total
  reported : t.reported = s.reported ++ firstMentions s.reported heard
  warnings : t.warnings = s.warnings ++ (firstMentions s.reported heard).map selectorWarning

namespace Journal.Heard

variable {s t u : Journal} {made made' : List Call} {heard heard' : List Json}

theorem trans (h : s.Heard t made heard) (h' : t.Heard u made' heard') :
    s.Heard u (made ++ made') (heard ++ heard') := by
  refine ⟨?_, h'.total.trans h.total, ?_, ?_⟩
  · rw [h'.calls, h.calls, List.append_assoc]
  · rw [h'.reported, h.reported, firstMentions_append, List.append_assoc]
  · rw [h'.warnings, h.warnings, h.reported, firstMentions_append, List.map_append,
      List.append_assoc]

theorem refl (s : Journal) : s.Heard s [] [] :=
  ⟨(List.append_nil _).symm, rfl, (List.append_nil _).symm, (List.append_nil _).symm⟩

theorem call (s : Journal) (c : Call) : s.Heard { s with calls := s.calls ++ [c] } [c] [] :=
  ⟨rfl, rfl, (List.append_nil _).symm, (List.append_nil _).symm⟩

/-- A note tells of no selector. -/
theorem note (s : Journal) {e : LogEntry} (he : e.level ≠ .warning) :
    s.Heard { s with log := s.log ++ [e] } [] [] := by
  refine ⟨(List.append_nil _).symm, rfl, (List.append_nil _).symm, ?_⟩
  change (s.log ++ [e]).filter _ = _
  rw [List.filter_append, List.filter_cons_of_neg (by simpa using he)]
  rfl

theorem hear (s : Journal) (j : Json) : s.Heard (s.hear j) [] [j] := by
  rw [Journal.hear]
  refine ⟨?_, ?_, ?_, ?_⟩
  · split <;> exact (List.append_nil _).symm
  · split <;> rfl
  · rw [firstMentions]
    split
    · exact (List.append_nil _).symm
    · rfl
  · rw [firstMentions]
    split
    · exact (List.append_nil _).symm
    · change (s.log ++ [selectorWarning j]).filter _ = _
      rw [List.filter_append]
      rfl

theorem foldl_hear (s : Journal) (js : List Json) : s.Heard (js.foldl Journal.hear s) [] js := by
  induction js generalizing s with
  | nil => exact refl s
  | cons j js ih => exact (hear s j).trans (ih (s.hear j))

end Journal.Heard

/-! ### Runs -/

variable {page : Page}

private theorem run_reportSelector (j : Json) (s : Journal) :
    (reportSelector j).run page s =
      ((selector j).map fun _ => (), if isSelector j then s.hear j else s) := by
  have hget : (getThe Journal : Activity Journal).run page s = (.ok s, s) := rfl
  rw [reportSelector, run_bind, run_ofOutcome]
  cases hj : isSelector j with
  | true =>
    rw [selector_of_isSelector hj, if_pos rfl, Journal.hear]
    simp only [run_bind, hget]
    cases s.reported.any j.same <;> rfl
  | false =>
    rw [isSelector] at hj
    split at hj
    · cases hj
    · next e he =>
      rw [he]
      rfl

/-- The selectors of a list are heard of up to the first value that is none. -/
private theorem run_forM_reportSelector (js : List Json) (s : Journal) :
    (js.forM reportSelector).run page s =
      (js.forM fun j => (selector j).map fun _ => (),
        (js.takeWhile isSelector).foldl Journal.hear s) := by
  induction js generalizing s with
  | nil => rfl
  | cons j js ih =>
    change (reportSelector j >>= fun _ => js.forM reportSelector).run page s =
      ((selector j).map (fun _ => ()) >>= fun _ => js.forM fun j => (selector j).map fun _ => (), _)
    rw [run_bind, run_reportSelector]
    cases hj : isSelector j with
    | true =>
      rw [List.takeWhile_cons_of_pos hj, selector_of_isSelector hj]
      exact ih (s.hear j)
    | false =>
      rw [List.takeWhile_cons_of_neg (by rw [hj]; decide)]
      rw [isSelector] at hj
      split at hj
      · cases hj
      · next e he =>
        rw [he]
        rfl

private theorem takeSnapshot_eq (request : SnapshotRequest) :
    takeSnapshot request = Activity.call (.snapshot request) >>= fun snapshot => do
      if snapshot.isTruthy then
        let invalid ← ofOutcome (invalidSelectors snapshot)
        invalid.forM reportSelector
      return snapshot := rfl

variable {request : SnapshotRequest} {s : Journal}

theorem run_takeSnapshot_error {message : String}
    (h : page s.calls (.snapshot request) = .error message) :
    (takeSnapshot request).run page s =
      (.error (.page message), { s with calls := s.calls ++ [.snapshot request] }) := by
  rw [takeSnapshot_eq, run_bind, run_call_error h]

/-- The selectors in a snapshot are heard of, and it is handed on unless they cannot be gone
through. -/
theorem run_takeSnapshot_ok {snapshot : Json}
    (h : page s.calls (.snapshot request) = .ok snapshot) :
    (takeSnapshot request).run page s =
      ((hearing snapshot).map fun _ => snapshot,
        (heardIn snapshot).foldl Journal.hear
          { s with calls := s.calls ++ [.snapshot request] }) := by
  rw [takeSnapshot_eq, run_bind, run_call_ok h]
  simp only [hearing]
  cases htruthy : snapshot.isTruthy with
  | false =>
    rw [heardIn_of_not_isTruthy htruthy]
    rfl
  | true =>
    rw [heardIn, if_pos rfl, if_pos rfl, run_bind, run_ofOutcome]
    cases invalidSelectors snapshot with
    | error e => rfl
    | ok listed =>
      simp only [run_bind, run_forM_reportSelector, Outcome.ok_bind]
      cases listed.forM fun j => (selector j).map fun _ => () <;> rfl

end SlideOverflow.Session
