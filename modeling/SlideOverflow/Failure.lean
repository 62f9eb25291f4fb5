import SlideOverflow.Number.Quantity
import SlideOverflow.Text.Codes

/-! What a run comes to, and what it tells on the side. Everything that can go wrong is told by its
cause. The wording of each cause is in one function; the causes that stand for unusable data carry
no wording of their own. Warnings are always told, and notes from some verbosity on. -/
namespace SlideOverflow

open Number Text

/-! ### Log -/

inductive LogLevel where
  | warning
  /-- Told when the verbosity is at least this much. -/
  | note (verbosity : Nat)
deriving DecidableEq, Repr

structure LogEntry where
  level : LogLevel
  message : String
deriving DecidableEq, Repr

/-- The entries that are told at a verbosity; warnings alone where none is set. -/
def LogEntry.isTold (verbosity : Option Int) (e : LogEntry) : Bool :=
  match e.level, verbosity with
  | .warning, _ => true
  | .note least, some v => decide ((least : Int) ≤ v)
  | .note _, none => false

def LogEntry.warning (message : String) : LogEntry := ⟨.warning, message⟩

def LogEntry.note (least : Nat) (message : String) : LogEntry := ⟨.note least, message⟩

/-! ### Failures -/

inductive Defect where
  /-- A record lacks a field that is read without a default. -/
  | missing (field : Codes)
  /-- A value of the wrong kind for the operation. -/
  | wrongKind
  /-- A field is asked of a value that has no fields. -/
  | noFields
  /-- A text or number outside what the operation accepts. -/
  | badValue
  /-- A number beyond the doubles, or an infinity where a whole number is needed. -/
  | tooLarge
  /-- A position past the end. -/
  | noPosition
  /-- A path, or a step of it, that no directory can hold. -/
  | longPath
  /-- A meaning that leads back to itself without end. -/
  | endless
deriving DecidableEq, Repr

inductive Failure where
  | defect (d : Defect)
  /-- The canvas has a width or height that is not positive. -/
  | emptyCanvas (width height : Quantity)
  /-- A call on the rendered page failed with this message. -/
  | page (message : String)
  /-- The page at this address shows no slide. -/
  | noActiveSlide (address : String)
  /-- The active slide was gone before it could be inspected, twice. -/
  | slideVanished
  /-- A slide could not be reached, not even by the second attempt. -/
  | unreachable (slide : Int) (message : String)
  /-- The presentation never showed a slide page. -/
  | notLoaded (message : String)
  /-- No slide of the presentation became visible. -/
  | notVisible (message : String)
  /-- The presentation reports no slides. -/
  | noSlides
  /-- None of the candidate files of a project can be read. -/
  | noSource (directory : String) (candidates : List String)
  /-- A part of a page range is no number. -/
  | badPageNumber (part : String)
  /-- A part of a page range is no pair of numbers. -/
  | badPageRange (part : String)
  /-- The stages of a check have come to no result. -/
  | noResult
deriving DecidableEq, Repr

namespace Failure

/-- The wording of a failure; unusable data has none, but for a missing field, which is named. -/
def message : Failure → String
  | .defect (.missing field) => field.toString
  | .defect _ => ""
  | .emptyCanvas width height =>
    "Canvas must be positive, got " ++ width.toString ++ "x" ++ height.toString
  | .page message => message
  | .noActiveSlide address => "No slide page found (address " ++ address ++ ")"
  | .slideVanished => "Active slide page disappeared during inspection"
  | .unreachable slide message =>
    "Slide " ++ String.ofList (intText slide) ++ ": " ++ message
  | .notLoaded message => "Presentation not found or failed to load: " ++ message
  | .notVisible message => "No slide became visible: " ++ message
  | .noSlides => "No slides found in the presentation"
  | .noSource directory candidates =>
    "No presentation markdown found in " ++ directory ++ ". Looked for: " ++
      ", ".intercalate candidates
  | .badPageNumber part => "Invalid page number: " ++ part
  | .badPageRange part => "Invalid page range: " ++ part
  | .noResult => "Check pipeline finished without a result"

end Failure

abbrev Outcome (α : Type) := Except Failure α

def Outcome.reject {α : Type} (d : Defect) : Outcome α :=
  .error (.defect d)

def Outcome.ofOption {α : Type} (d : Defect) : Option α → Outcome α
  | some a => .ok a
  | none => .error (.defect d)

namespace Outcome

variable {α β : Type}

/-- Whether there is a result of some kind is found out by computing the result. -/
instance decidableExists (o : Outcome α) (P : α → Prop) [DecidablePred P] :
    Decidable (∃ a, o = .ok a ∧ P a) :=
  match o with
  | .ok a => decidable_of_iff (P a) ⟨fun h => ⟨a, rfl, h⟩, fun ⟨_, h, hP⟩ => Except.ok.inj h ▸ hP⟩
  | .error _ => .isFalse fun ⟨_, h, _⟩ => nomatch h

theorem toOption_eq_some_iff {o : Outcome α} {a : α} : o.toOption = some a ↔ o = .ok a := by
  cases o <;> simp [Except.toOption]

theorem map_eq_ok_iff {o : Outcome α} {f : α → β} {b : β} :
    o.map f = .ok b ↔ ∃ a, o = .ok a ∧ f a = b := by
  cases o <;> simp [Except.map]

theorem ok_bind (a : α) (f : α → Outcome β) : (Except.ok a : Outcome α) >>= f = f a := rfl

theorem bind_eq_ok_iff {o : Outcome α} {f : α → Outcome β} {b : β} :
    o.bind f = .ok b ↔ ∃ a, o = .ok a ∧ f a = .ok b := by
  cases o <;> simp [Except.bind]

/-- A list stops at its first element that fails. -/
theorem exists_first_error {f : α → Outcome β} {l : List α} {e : Failure}
    (h : l.mapM f = .error e) :
    ∃ front a rest, l = front ++ a :: rest ∧ f a = .error e ∧ ∀ b ∈ front, ∃ c, f b = .ok c := by
  induction l with
  | nil => cases h
  | cons a l ih =>
    rw [List.mapM_cons] at h
    cases ha : f a with
    | error e' =>
      rw [ha] at h
      cases h
      exact ⟨[], a, l, rfl, ha, fun b hb => absurd hb List.not_mem_nil⟩
    | ok c =>
      rw [ha] at h
      have hl : l.mapM f = .error e := by
        cases hl : l.mapM f with
        | error e' =>
          rw [hl] at h
          cases h
          rfl
        | ok cs =>
          rw [hl] at h
          cases h
      obtain ⟨front, b, rest, rfl, hb, hfront⟩ := ih hl
      refine ⟨a :: front, b, rest, rfl, hb, fun d hd => ?_⟩
      rcases List.mem_cons.mp hd with rfl | hd
      · exact ⟨c, ha⟩
      · exact hfront d hd

theorem mapM_eq_ok {f : α → Outcome β} {g : α → β} {l : List α} (h : ∀ a ∈ l, f a = .ok (g a)) :
    l.mapM f = .ok (l.map g) := by
  induction l with
  | nil => rfl
  | cons a l ih =>
    rw [List.mapM_cons, h a List.mem_cons_self, ih fun b hb => h b (.tail a hb)]
    rfl

/-- If every element has a result of some kind, so has the list. -/
theorem exists_mapM_eq_ok {f : α → Outcome β} {kind : β → Prop} {l : List α}
    (h : ∀ a ∈ l, ∃ b, f a = .ok b ∧ kind b) : ∃ bs, l.mapM f = .ok bs ∧ ∀ b ∈ bs, kind b := by
  induction l with
  | nil => exact ⟨[], rfl, fun b hb => absurd hb List.not_mem_nil⟩
  | cons a l ih =>
    obtain ⟨b, hb, hkind⟩ := h a List.mem_cons_self
    obtain ⟨bs, hbs, hkinds⟩ := ih fun c hc => h c (.tail a hc)
    refine ⟨b :: bs, ?_, fun c hc => ?_⟩
    · rw [List.mapM_cons, hb, hbs]
      rfl
    · rcases List.mem_cons.mp hc with rfl | hc
      · exact hkind
      · exact hkinds c hc

/-- The results of a list are those of its elements. -/
theorem mem_of_mapM_eq_ok {f : α → Outcome β} {l : List α} {bs : List β} (h : l.mapM f = .ok bs)
    {b : β} : b ∈ bs ↔ ∃ a ∈ l, f a = .ok b := by
  induction l generalizing bs with
  | nil =>
    cases h
    simp
  | cons a l ih =>
    rw [List.mapM_cons] at h
    obtain ⟨c, hc, h⟩ := bind_eq_ok_iff.mp h
    obtain ⟨cs, hcs, h⟩ := bind_eq_ok_iff.mp h
    cases h
    rw [List.mem_cons, ih hcs]
    simp [hc, eq_comm]

/-- The results of a list stand in the order of its elements. -/
theorem pairwise_of_mapM_eq_ok {f : α → Outcome β} {l : List α} {bs : List β}
    (h : l.mapM f = .ok bs) {R : α → α → Prop} {S : β → β → Prop} (hl : l.Pairwise R)
    (hRS : ∀ a a', R a a' → ∀ b b', f a = .ok b → f a' = .ok b' → S b b') : bs.Pairwise S := by
  induction hl generalizing bs with
  | nil =>
    cases h
    exact .nil
  | @cons a l ha _ ih =>
    rw [List.mapM_cons] at h
    obtain ⟨b, hb, h⟩ := bind_eq_ok_iff.mp h
    obtain ⟨bs, hbs, h⟩ := bind_eq_ok_iff.mp h
    cases h
    refine List.pairwise_cons.mpr ⟨fun b' hb' => ?_, ih hbs⟩
    obtain ⟨a', ha', hfa'⟩ := (mem_of_mapM_eq_ok hbs).mp hb'
    exact hRS a a' (ha a' ha') b b' hb hfa'

theorem exists_mapM_eq_ok_iff {f : α → Outcome β} {l : List α} :
    (∃ bs, l.mapM f = .ok bs) ↔ ∀ a ∈ l, ∃ b, f a = .ok b := by
  constructor
  · rintro ⟨bs, h⟩
    induction l generalizing bs with
    | nil => exact fun a ha => absurd ha List.not_mem_nil
    | cons a l ih =>
      rw [List.mapM_cons] at h
      obtain ⟨b, hb, h⟩ := bind_eq_ok_iff.mp h
      obtain ⟨cs, hcs, _⟩ := bind_eq_ok_iff.mp h
      intro c hc
      rcases List.mem_cons.mp hc with rfl | hc
      · exact ⟨b, hb⟩
      · exact ih cs hcs c hc
  · intro h
    obtain ⟨bs, hbs, _⟩ := @exists_mapM_eq_ok _ _ f (fun _ => True) l
      fun a ha => (h a ha).imp fun _ hb => ⟨hb, trivial⟩
    exact ⟨bs, hbs⟩

end Outcome

end SlideOverflow
