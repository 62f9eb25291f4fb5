import SlideOverflow.Session.Laws

/-! The sessions of a check, one after the other. Each session has a page of its own and starts with
an empty journal; what it called and told stays in the history of the check, even if it fails. -/
namespace SlideOverflow.Check

open Session

/-- The pages that the sessions of a check run on, by the order in which they are opened. -/
abbrev Host := Nat → Page

/-- The sessions of a check so far, each with its calls, and what was told. -/
structure History where
  sessions : List (List Call) := []
  log : List LogEntry := []
deriving Repr

/-- A part of a check: its outcome and the history after it. -/
abbrev Work (α : Type) := ReaderT Host (ExceptT Failure (StateM History)) α

namespace Work

def run {α : Type} (x : Work α) (host : Host) (h : History) : Outcome α × History :=
  Id.run ((ReaderT.run x host).run.run h)

def ofOutcome {α : Type} : Outcome α → Work α
  | .ok a => pure a
  | .error e => throw e

def tellAll (entries : List LogEntry) : Work Unit := do
  modifyThe History fun h => { h with log := h.log ++ entries }

def note (least : Nat) (message : String) : Work Unit := tellAll [.note least message]

def observeSession {α : Type} (x : Activity α) : Work (Outcome α) := do
  let host ← read
  let h ← getThe History
  let (outcome, journal) := x.run (host h.sessions.length) {}
  set { h with sessions := h.sessions ++ [journal.calls], log := h.log ++ journal.log }
  return outcome

def inSession {α : Type} (x : Activity α) : Work α := do
  ofOutcome (← observeSession x)

end Work

/-! ### How work runs -/

namespace Work

variable {α β : Type} (host : Host) (h : History)

@[simp] theorem run_pure (a : α) : run (pure a) host h = (.ok a, h) := rfl

/-- The second part goes on from the history of the first one, unless that one fails. -/
@[simp] theorem run_bind (x : Work α) (f : α → Work β) :
    run (x >>= f) host h =
      match run x host h with
      | (.ok a, h') => run (f a) host h'
      | (.error e, h') => (.error e, h') := by
  simp only [run, bind, ReaderT.run, ReaderT.bind, ExceptT.run, ExceptT.bind, ExceptT.mk,
    StateT.run, StateT.bind, Id.run]
  rcases x host h with ⟨r, h'⟩
  cases r <;> rfl

theorem run_bind_ok {host : Host} {h h' : History} {x : Work α} {f : α → Work β} {a : α}
    (hx : run x host h = (.ok a, h')) : run (x >>= f) host h = run (f a) host h' := by
  rw [run_bind, hx]

theorem run_bind_error {host : Host} {h h' : History} {x : Work α} {f : α → Work β} {e : Failure}
    (hx : run x host h = (.error e, h')) : run (x >>= f) host h = (.error e, h') := by
  rw [run_bind, hx]

theorem run_bind_eq_ok_iff {host : Host} {h h' : History} {x : Work α} {f : α → Work β} {b : β} :
    run (x >>= f) host h = (.ok b, h') ↔
      ∃ a h₁, run x host h = (.ok a, h₁) ∧ run (f a) host h₁ = (.ok b, h') := by
  rw [run_bind]
  rcases run x host h with ⟨o, h₁⟩
  cases o with
  | error e => simp
  | ok a =>
    refine ⟨fun hf => ⟨a, h₁, rfl, hf⟩, ?_⟩
    rintro ⟨a', h₂, heq, hf⟩
    cases heq
    exact hf

@[simp] theorem run_ofOutcome (o : Outcome α) : run (ofOutcome o) host h = (o, h) := by
  cases o <;> rfl

@[simp] theorem run_tellAll (entries : List LogEntry) :
    run (tellAll entries) host h = (.ok (), { h with log := h.log ++ entries }) := rfl

@[simp] theorem run_note (least : Nat) (message : String) :
    run (note least message) host h =
      (.ok (), { h with log := h.log ++ [.note least message] }) := rfl

/-- A session runs on the page that is its turn, and its journal is kept. -/
@[simp] theorem run_observeSession (x : Activity α) :
    run (observeSession x) host h =
      (.ok (x.run (host h.sessions.length) {}).1,
        { h with
          sessions := h.sessions ++ [(x.run (host h.sessions.length) {}).2.calls]
          log := h.log ++ (x.run (host h.sessions.length) {}).2.log }) := rfl

@[simp] theorem run_inSession (x : Activity α) :
    run (inSession x) host h =
      ((x.run (host h.sessions.length) {}).1,
        { h with
          sessions := h.sessions ++ [(x.run (host h.sessions.length) {}).2.calls]
          log := h.log ++ (x.run (host h.sessions.length) {}).2.log }) := by
  simp only [inSession, run_bind, run_observeSession, run_ofOutcome]

end Work

end SlideOverflow.Check
