import SlideOverflow.Session.Page

/-! How activities run: what each step does to the outcome and the journal. With these equations a
session is followed call by call. -/
namespace SlideOverflow.Session.Activity

variable {α β : Type} (page : Page) (s : Journal)

@[simp] theorem run_pure (a : α) : run (pure a) page s = (.ok a, s) := rfl

@[simp] theorem run_throw (e : Failure) : run (throw e : Activity α) page s = (.error e, s) := rfl

/-- The second activity goes on from the journal of the first one, unless that one fails. -/
@[simp] theorem run_bind (x : Activity α) (f : α → Activity β) :
    run (x >>= f) page s =
      match run x page s with
      | (.ok a, s') => run (f a) page s'
      | (.error e, s') => (.error e, s') := by
  simp only [run, bind, ReaderT.run, ReaderT.bind, ExceptT.run, ExceptT.bind, ExceptT.mk,
    StateT.run, StateT.bind, Id.run]
  rcases x page s with ⟨r, s'⟩
  cases r <;> rfl

@[simp] theorem run_map (f : α → β) (x : Activity α) :
    run (f <$> x) page s = ((run x page s).1.map f, (run x page s).2) := by
  rw [map_eq_pure_bind, run_bind]
  rcases run x page s with ⟨r, s'⟩
  cases r <;> rfl

@[simp] theorem run_ofOutcome (o : Outcome α) : run (ofOutcome o) page s = (o, s) := by
  cases o <;> rfl

/-- A call is recorded, and the page answers it. -/
@[simp] theorem run_call (c : Call) :
    run (call c) page s =
      ((page s.calls c).mapError Failure.page, { s with calls := s.calls ++ [c] }) := by
  have hread : run read page s = (.ok page, s) := rfl
  have hget : run (getThe Journal) page s = (.ok s, s) := rfl
  have hset (s' : Journal) : run (set s') page s = (.ok (), s') := rfl
  simp only [call, run_bind, hread, hget, hset]
  cases page s.calls c <;> rfl

@[simp] theorem run_perform (c : Call) :
    run (perform c) page s =
      (((page s.calls c).mapError Failure.page).map fun _ => (),
        { s with calls := s.calls ++ [c] }) := by
  simp only [perform, run_bind, run_call]
  cases page s.calls c <;> rfl

@[simp] theorem run_tell (e : LogEntry) :
    run (tell e) page s = (.ok (), { s with log := s.log ++ [e] }) := rfl

/-- Looking at an outcome does not undo what was called and told. -/
@[simp] theorem run_observe (x : Activity α) :
    run (observe x) page s = (.ok (run x page s).1, (run x page s).2) := by
  simp only [run, observe, tryCatch, tryCatchThe, MonadExceptOf.tryCatch, ReaderT.run, ExceptT.run,
    ExceptT.tryCatch, ExceptT.mk, bind, ReaderT.bind, ExceptT.bind, StateT.run, StateT.bind, Id.run]
  rcases x page s with ⟨r, s'⟩
  cases r <;> rfl

/-- The end is done in any case, and comes last. -/
theorem run_ending (x : Activity α) (last : Activity Unit) :
    run (ending x last) page s =
      match run last page (run x page s).2 with
      | (.ok _, s') => ((run x page s).1, s')
      | (.error e, s') => (.error e, s') := by
  simp only [ending, run_bind, run_observe]
  rcases run last page (run x page s).2 with ⟨r, s'⟩
  cases r
  · rfl
  · simp only [run_ofOutcome]

/-! ### By outcome -/

variable {page : Page} {s : Journal} {x : Activity α}

theorem run_call_ok {c : Call} {answer : Json} (h : page s.calls c = .ok answer) :
    run (call c) page s = (.ok answer, { s with calls := s.calls ++ [c] }) := by
  rw [run_call, h]
  rfl

theorem run_call_error {c : Call} {message : String} (h : page s.calls c = .error message) :
    run (call c) page s = (.error (.page message), { s with calls := s.calls ++ [c] }) := by
  rw [run_call, h]
  rfl

theorem run_bind_ok {f : α → Activity β} {a : α} (h : (run x page s).1 = .ok a) :
    run (x >>= f) page s = run (f a) page (run x page s).2 := by
  rw [run_bind]
  split
  · next hrun =>
    rw [hrun] at h ⊢
    cases h
    rfl
  · next hrun =>
    rw [hrun] at h
    cases h

theorem run_bind_error {f : α → Activity β} {e : Failure} (h : (run x page s).1 = .error e) :
    run (x >>= f) page s = (.error e, (run x page s).2) := by
  rw [run_bind]
  split
  · next hrun =>
    rw [hrun] at h
    cases h
  · next hrun =>
    rw [hrun] at h ⊢
    cases h
    rfl

theorem run_bind_eq_ok_iff {f : α → Activity β} {b : β} {t : Journal} :
    run (x >>= f) page s = (.ok b, t) ↔
      ∃ a s', run x page s = (.ok a, s') ∧ run (f a) page s' = (.ok b, t) := by
  rw [run_bind]
  rcases run x page s with ⟨o, s'⟩
  cases o with
  | error e => simp
  | ok a =>
    refine ⟨fun h => ⟨a, s', rfl, h⟩, ?_⟩
    rintro ⟨a', t', heq, h⟩
    cases heq
    exact h

theorem run_orElse_ok {handle : String → Activity α} {a : α} (h : (run x page s).1 = .ok a) :
    run (orElse x handle) page s = (.ok a, (run x page s).2) := by
  rw [orElse, run_bind, run_observe, h]
  rfl

/-- What is done instead goes on from the journal of the failed activity. -/
theorem run_orElse_page {handle : String → Activity α} {message : String}
    (h : (run x page s).1 = .error (.page message)) :
    run (orElse x handle) page s = run (handle message) page (run x page s).2 := by
  rw [orElse, run_bind, run_observe, h]

theorem run_orElse_error {handle : String → Activity α} {e : Failure}
    (h : (run x page s).1 = .error e) (he : ∀ message, e ≠ .page message) :
    run (orElse x handle) page s = (.error e, (run x page s).2) := by
  rw [orElse, run_bind, run_observe, h]
  cases e with
  | page message => exact absurd rfl (he message)
  | _ => rfl

theorem run_ending_eq_ok {last : Activity Unit} {a : α} {t : Journal}
    (h : run (ending x last) page s = (.ok a, t)) :
    ∃ s', run x page s = (.ok a, s') ∧ run last page s' = (.ok (), t) := by
  rw [run_ending] at h
  split at h
  · next hlast =>
    obtain ⟨hx, rfl⟩ := Prod.mk.inj h
    exact ⟨(run x page s).2, Prod.ext hx rfl, hlast⟩
  · cases h

end SlideOverflow.Session.Activity
