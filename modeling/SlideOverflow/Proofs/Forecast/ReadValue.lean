import SlideOverflow.Forecast.Ceilings
import SlideOverflow.Proofs.Number.Digits

/-! Values that are read as ceilings. A value is meant to set a ceiling if it is a positive whole
number or the text of one, and to be refused otherwise. Some values are read in another way than
this, and those are told apart exactly. -/
namespace SlideOverflow.Forecast

open Metadata Number

/-! ### Whole numbers in values -/

def IsExactly (x : Float) (n : Int) : Prop :=
  ∃ s, Scaled.ofFloat? x = some s ∧ s.signedNumerator = n * s.denominator

/-- A value gives a whole number: it is one, or it is the text of one. -/
inductive Gives : Value → Int → Prop where
  | whole {n : Int} : Gives (.number (.int n)) n
  | exact {x : Float} {n : Int} : IsExactly x n → Gives (.number (.real x)) n
  | text {c : Text.Codes} {n : Int} : Spells c.chars n → Gives (.text c) n

def SetsTo (v : Value) (n : Int) : Prop := Gives v n ∧ 0 < n

inductive Misread : Value → Prop where
  /-- An infinity is an error. -/
  | infinity {x : Float} : Scaled.ofFloat? x = none → x.isNaN = false → Misread (.number (.real x))
  /-- The fraction of a double above one is cut off. -/
  | fraction {x : Float} {s : Scaled} : Scaled.ofFloat? x = some s →
      (s.denominator : Int) ≤ s.signedNumerator → (∀ n, ¬IsExactly x n) →
      Misread (.number (.real x))
  /-- Octets are read as if they were a text. -/
  | octets {bs : List Nat} {n : Int} : Spells (octetText bs) n → ¬IsLong (octetText bs) → 0 < n →
      Misread (.octets bs)
  /-- A numeral with too many digits is refused. -/
  | long {c : Text.Codes} {n : Int} : Spells c.chars n → 0 < n → IsLong c.chars → Misread (.text c)

private theorem denominator_pos (s : Scaled) : (0 : Int) < s.denominator :=
  Int.natCast_pos.mpr (Nat.pow_pos (by decide))

private theorem truncate_eq {s : Scaled} {n : Int} (h : s.signedNumerator = n * s.denominator) :
    s.truncate = n := by
  have hne : (s.denominator : Int) ≠ 0 := Int.ne_of_gt (denominator_pos s)
  rw [Scaled.truncate, h, Int.mul_tdiv_cancel _ hne]

private theorem truncate_pos_iff {s : Scaled} :
    0 < s.truncate ↔ (s.denominator : Int) ≤ s.signedNumerator := by
  have hpos := denominator_pos s
  rw [Scaled.truncate]
  rcases Int.le_total 0 s.signedNumerator with hsign | hsign
  · rw [Int.tdiv_eq_ediv_of_nonneg hsign, Int.lt_iff_add_one_le, Int.le_ediv_iff_mul_le hpos]
    omega
  · have hquotient : 0 ≤ (-s.signedNumerator).tdiv s.denominator :=
      Int.tdiv_nonneg (by omega) (by omega)
    rw [Int.neg_tdiv] at hquotient
    omega

theorem IsExactly.unique {x : Float} {n m : Int} (h : IsExactly x n) (h' : IsExactly x m) :
    n = m := by
  obtain ⟨s, hs, hn⟩ := h
  obtain ⟨s', hs', hm⟩ := h'
  cases hs.symm.trans hs'
  rw [← truncate_eq hn, truncate_eq hm]

theorem Gives.unique {v : Value} {n m : Int} (h : Gives v n) (h' : Gives v m) : n = m := by
  cases h with
  | whole =>
    cases h'
    rfl
  | exact hn => cases h' with
    | exact hm => exact hn.unique hm
  | text hn => cases h' with
    | text hm => exact hn.unique hm

/-! ### Reading one value -/

/-- A value is read as it is meant: as the number that it sets a ceiling to, if there is one. -/
def IsReadAsMeant (v : Value) : Prop :=
  ∃ o, usableCeiling? v = .ok o ∧ ∀ n, o = some n ↔ SetsTo v n

section OneValue

variable {v : Value}

theorem isReadAsMeant_iff {o : Option Int} (h : usableCeiling? v = .ok o) :
    IsReadAsMeant v ↔ ∀ n, o = some n ↔ SetsTo v n := by
  constructor
  · rintro ⟨o', ho', hmeant⟩
    cases h.symm.trans ho'
    exact hmeant
  · exact fun hmeant => ⟨o, h, hmeant⟩

theorem isReadAsMeant_none (h : usableCeiling? v = .ok none) :
    IsReadAsMeant v ↔ ∀ n, ¬SetsTo v n := by
  rw [isReadAsMeant_iff h]
  simp

/-- Where a whole number is read, it has to be the one that is given. -/
private theorem isReadAsMeant_whole {n : Int} (h : wholeNumber v = .ok n) :
    IsReadAsMeant v ↔ ∀ m, 0 < m → (n = m ↔ Gives v m) := by
  have hread : usableCeiling? v = .ok (if 0 < n then some n else none) := by
    rw [usableCeiling?, h]
  rw [isReadAsMeant_iff hread]
  refine forall_congr' fun m => ?_
  by_cases hm : 0 < m
  · rw [SetsTo, and_iff_left hm, Option.ite_none_right_eq_some, Option.some.injEq]
    constructor
    · exact fun hmeant _ => ⟨fun heq => hmeant.mp ⟨heq ▸ hm, heq⟩, fun hg => (hmeant.mpr hg).2⟩
    · exact fun hmeant => ⟨fun heq => (hmeant hm).mp heq.2,
        fun hg => ⟨(hmeant hm).mpr hg ▸ hm, (hmeant hm).mpr hg⟩⟩
  · refine iff_of_true ?_ fun hpos => absurd hpos hm
    refine iff_of_false (fun heq => ?_) fun h => hm h.2
    rw [Option.ite_none_right_eq_some, Option.some.injEq] at heq
    exact hm (heq.2 ▸ heq.1)

/-- Where none is read, none must be given. -/
private theorem isReadAsMeant_refused {e : Failure} (h : wholeNumber v = .error e)
    (he : e ≠ .defect .tooLarge) : IsReadAsMeant v ↔ ∀ n, ¬SetsTo v n := by
  apply isReadAsMeant_none
  rw [usableCeiling?, h]
  split
  · next heq => cases heq
  · next heq => exact absurd (Except.error.inj heq) he
  · rfl

end OneValue

/-- Doubles that are no fractions: infinities, and what is no number. -/
private theorem isReadAsMeant_of_infinite {x : Float} (hs : Scaled.ofFloat? x = none) :
    IsReadAsMeant (.number (.real x)) ↔ ¬Misread (.number (.real x)) := by
  have hgives (n : Int) : ¬SetsTo (.number (.real x)) n := by
    rintro ⟨hgives, -⟩
    cases hgives with
    | exact hexact =>
      obtain ⟨s, hs', -⟩ := hexact
      rw [hs] at hs'
      cases hs'
  cases hnan : x.isNaN with
  | true =>
    have hread : wholeNumber (.number (.real x)) = .error (.defect .badValue) := by
      simp only [wholeNumber, Quantity.truncate, hs, hnan, if_true]
    rw [isReadAsMeant_refused hread nofun]
    refine iff_of_true hgives ?_
    rintro (⟨-, hnot⟩ | ⟨hs', -, -⟩)
    · rw [hnan] at hnot
      cases hnot
    · rw [hs] at hs'
      cases hs'
  | false =>
    refine iff_of_false ?_ (not_not_intro (.infinity hs hnan))
    rintro ⟨o, ho, -⟩
    have hread : wholeNumber (.number (.real x)) = .error (.defect .tooLarge) := by
      simp only [wholeNumber, Quantity.truncate, hs, hnan, Bool.false_eq_true, if_false]
    rw [usableCeiling?, hread] at ho
    cases ho

/-- Doubles that are fractions are cut off to their whole part. -/
private theorem isReadAsMeant_of_finite {x : Float} {s : Scaled} (hs : Scaled.ofFloat? x = some s) :
    IsReadAsMeant (.number (.real x)) ↔ ¬Misread (.number (.real x)) := by
  have hread : wholeNumber (.number (.real x)) = .ok s.truncate := by
    simp only [wholeNumber, Quantity.truncate, hs]
  rw [isReadAsMeant_whole hread]
  constructor
  · rintro hmeant (⟨hs', -⟩ | ⟨hs', hle, hno⟩)
    · rw [hs] at hs'
      cases hs'
    · cases hs.symm.trans hs'
      cases (hmeant _ (truncate_pos_iff.mpr hle)).mp rfl with
      | exact hexact => exact hno _ hexact
  · intro hread m hm
    constructor
    · rintro rfl
      -- What is read is positive: if it is not the double itself, a fraction above one was cut.
      by_contra hnot
      refine hread (.fraction hs (truncate_pos_iff.mp hm) fun n hn => hnot ?_)
      obtain ⟨s', hs', hvalue⟩ := hn
      cases hs.symm.trans hs'
      rw [truncate_eq hvalue]
      exact .exact ⟨s, hs, hvalue⟩
    · intro hgives
      cases hgives with
      | exact hexact =>
        obtain ⟨s', hs', hvalue⟩ := hexact
        cases hs.symm.trans hs'
        exact truncate_eq hvalue

private theorem isReadAsMeant_text (c : Text.Codes) :
    IsReadAsMeant (.text c) ↔ ¬Misread (.text c) := by
  cases hnumeral : readInt? 10 c.chars with
  | none =>
    have hread : wholeNumber (.text c) = .error (.defect .badValue) := by
      rw [wholeNumber, hnumeral]
      rfl
    rw [isReadAsMeant_refused hread nofun]
    constructor
    · rintro hnone (_ | _ | _ | ⟨hspells, hpos, -⟩)
      exact hnone _ ⟨.text hspells, hpos⟩
    · rintro hread n ⟨hgives, hpos⟩
      cases hgives with
      | text hspells =>
        refine hread (.long hspells hpos ?_)
        by_contra hshort
        rw [readInt_eq_some_iff.mpr ⟨hspells, hshort⟩] at hnumeral
        cases hnumeral
  | some n =>
    have hread : wholeNumber (.text c) = .ok n := by
      rw [wholeNumber, hnumeral]
      rfl
    obtain ⟨hspells, hshort⟩ := readInt_eq_some_iff.mp hnumeral
    rw [isReadAsMeant_whole hread]
    refine iff_of_true (fun m _ => ⟨?_, ?_⟩) ?_
    · rintro rfl
      exact .text hspells
    · intro hgives
      cases hgives with
      | text hspells' => exact hspells.unique hspells'
    · rintro (_ | _ | _ | ⟨-, -, hlong⟩)
      exact hshort hlong

private theorem isReadAsMeant_octets (bs : List Nat) :
    IsReadAsMeant (.octets bs) ↔ ¬Misread (.octets bs) := by
  cases hnumeral : readInt? 10 (octetText bs) with
  | none =>
    have hread : wholeNumber (.octets bs) = .error (.defect .badValue) := by
      rw [wholeNumber, hnumeral]
      rfl
    rw [isReadAsMeant_refused hread nofun]
    refine iff_of_true (fun n h => nomatch h.1) ?_
    rintro (_ | _ | ⟨hspells, hshort, -⟩)
    rw [readInt_eq_some_iff.mpr ⟨hspells, hshort⟩] at hnumeral
    cases hnumeral
  | some n =>
    have hread : wholeNumber (.octets bs) = .ok n := by
      rw [wholeNumber, hnumeral]
      rfl
    obtain ⟨hspells, hshort⟩ := readInt_eq_some_iff.mp hnumeral
    rw [isReadAsMeant_whole hread]
    constructor
    · rintro hmeant (_ | _ | ⟨hspells', -, hpos⟩)
      cases hspells.unique hspells'
      cases (hmeant n hpos).mp rfl
    · intro hread m hm
      refine iff_of_false ?_ nofun
      rintro rfl
      exact hread (.octets hspells hshort hm)

/-- The values that are read as meant are those that are not misread. -/
theorem isReadAsMeant_iff_not_misread (v : Value) : IsReadAsMeant v ↔ ¬Misread v := by
  have hnothing (hnone : usableCeiling? v = .ok none) (hgives : ∀ n, ¬Gives v n)
      (hread : ¬Misread v) : IsReadAsMeant v ↔ ¬Misread v :=
    iff_of_true ((isReadAsMeant_none hnone).mpr fun n h => hgives n h.1) hread
  cases v with
  | number q =>
    cases q with
    | int n =>
      have hread : wholeNumber (.number (.int n)) = .ok n := rfl
      rw [isReadAsMeant_whole hread]
      refine iff_of_true (fun m _ => ⟨?_, ?_⟩) nofun
      · rintro rfl
        exact .whole
      · rintro ⟨⟩
        rfl
    | real x => cases hs : Scaled.ofFloat? x with
      | none => exact isReadAsMeant_of_infinite hs
      | some s => exact isReadAsMeant_of_finite hs
  | text c => exact isReadAsMeant_text c
  | octets bs => exact isReadAsMeant_octets bs
  | _ => exact hnothing rfl nofun nofun

end SlideOverflow.Forecast
