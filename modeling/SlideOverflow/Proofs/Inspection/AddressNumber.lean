import Mathlib.Data.List.TakeWhile
import SlideOverflow.Inspection.Census

/-! Numbers in the address of a page. The one in the path is the first row of digits behind a slash,
and the one in the hash is the first row of digits. -/
namespace SlideOverflow.Inspection

open Text

/-- A row of digits, and what stands behind it: nothing, or no digit at first. -/
structure IsRow (digits rest : List Char) : Prop where
  ne_nil : digits ≠ []
  digits : ∀ c ∈ digits, isDigit c = true
  ended : ∀ c ∈ rest.head?, isDigit c = false

def IsPathNumber (path digits : List Char) : Prop :=
  ∃ front rest, path = front ++ '/' :: (digits ++ rest) ∧ IsRow digits rest ∧
    ∀ front' c rest', path = front' ++ '/' :: c :: rest' → isDigit c = true →
      front.length ≤ front'.length

def IsHashNumber (hash digits : List Char) : Prop :=
  ∃ front rest, hash = front ++ (digits ++ rest) ∧ IsRow digits rest ∧
    ∀ c ∈ front, isDigit c = false

private theorem leadingDigits_eq (cs : List Char) : leadingDigits cs = cs.takeWhile isDigit := rfl

private theorem isRow_leadingDigits {cs : List Char} (h : leadingDigits cs ≠ []) :
    IsRow (leadingDigits cs) (cs.dropWhile isDigit) := by
  refine ⟨h, fun c hc => List.all_eq_true.mp List.all_takeWhile c hc, fun c hc => ?_⟩
  have hhead := List.head?_dropWhile_not isDigit cs
  rw [Option.mem_def.mp hc] at hhead
  simpa using hhead

theorem IsRow.leadingDigits {digits rest : List Char} (h : IsRow digits rest) :
    leadingDigits (digits ++ rest) = digits := by
  rw [leadingDigits_eq, List.takeWhile_append_of_pos h.digits]
  cases rest with
  | nil => exact List.append_nil digits
  | cons c rest =>
    rw [List.takeWhile_cons_of_neg (by rw [h.ended c rfl]; decide), List.append_nil]

private theorem leadingDigits_ne_nil_iff {cs : List Char} :
    leadingDigits cs ≠ [] ↔ ∃ c rest, cs = c :: rest ∧ isDigit c = true := by
  cases cs with
  | nil => simp [leadingDigits_eq]
  | cons c cs => simp [leadingDigits_eq, List.takeWhile_cons]

private theorem pathNumber_cons (c : Char) (cs : List Char) :
    pathNumber? (c :: cs) =
      if c = '/' ∧ leadingDigits cs ≠ [] then some (leadingDigits cs) else pathNumber? cs := by
  rw [pathNumber?]
  refine if_congr ?_ rfl rfl
  simp

theorem isPathNumber_of_eq_some {path digits : List Char} (h : pathNumber? path = some digits) :
    IsPathNumber path digits := by
  induction path with
  | nil => cases h
  | cons c cs ih =>
    rw [pathNumber_cons] at h
    split at h
    · next hhere =>
      obtain ⟨rfl, hne⟩ := hhere
      cases h
      refine ⟨[], cs.dropWhile isDigit, ?_, isRow_leadingDigits hne, fun _ _ _ _ _ => Nat.zero_le _⟩
      rw [List.nil_append, leadingDigits_eq, List.takeWhile_append_dropWhile]
    · next hnot =>
      obtain ⟨front, rest, rfl, hrow, hfirst⟩ := ih h
      refine ⟨c :: front, rest, rfl, hrow, fun front' d rest' heq hd => ?_⟩
      cases front' with
      | nil =>
        obtain ⟨rfl, htail⟩ := List.cons.inj heq
        exact absurd ⟨rfl, leadingDigits_ne_nil_iff.mpr ⟨d, rest', htail, hd⟩⟩ hnot
      | cons c' front' =>
        exact Nat.succ_le_succ (hfirst front' d rest' (List.cons.inj heq).2 hd)

theorem IsPathNumber.eq_some {path digits : List Char} (h : IsPathNumber path digits) :
    pathNumber? path = some digits := by
  obtain ⟨front, rest, rfl, hrow, hfirst⟩ := h
  induction front with
  | nil => rw [List.nil_append, pathNumber_cons, hrow.leadingDigits, if_pos ⟨rfl, hrow.ne_nil⟩]
  | cons c front ih =>
    rw [List.cons_append, pathNumber_cons, if_neg]
    · refine ih fun front' d rest' heq hd => ?_
      exact Nat.le_of_succ_le_succ (hfirst (c :: front') d rest' (congrArg (c :: ·) heq) hd)
    · rintro ⟨rfl, hne⟩
      obtain ⟨d, rest', heq, hd⟩ := leadingDigits_ne_nil_iff.mp hne
      exact absurd (hfirst [] d rest' (congrArg ('/' :: ·) heq) hd) (Nat.not_succ_le_zero _)

theorem isHashNumber_of_eq_some {hash digits : List Char} (h : hashNumber? hash = some digits) :
    IsHashNumber hash digits := by
  rw [hashNumber?] at h
  split at h
  · cases h
  · next hne =>
    cases h
    refine ⟨hash.takeWhile fun c => (digitValue? c).isNone, _, ?_, isRow_leadingDigits hne,
      fun c hc => ?_⟩
    · rw [leadingDigits_eq, List.takeWhile_append_dropWhile, List.takeWhile_append_dropWhile]
    · simpa [isDigit] using List.mem_takeWhile_imp hc

theorem IsHashNumber.eq_some {hash digits : List Char} (h : IsHashNumber hash digits) :
    hashNumber? hash = some digits := by
  obtain ⟨front, rest, rfl, hrow, hfront⟩ := h
  obtain ⟨d, ds, rfl⟩ := List.exists_cons_of_ne_nil hrow.ne_nil
  have hdrop : (front ++ (d :: ds ++ rest)).dropWhile (fun c => (digitValue? c).isNone) =
      d :: ds ++ rest := by
    have hd : (digitValue? d).isSome = true := hrow.digits d List.mem_cons_self
    rw [List.dropWhile_append_of_pos, List.cons_append, List.dropWhile_cons_of_neg]
    · simpa using Option.isSome_iff_ne_none.mp hd
    · intro c hc
      have hc : (digitValue? c).isSome = false := hfront c hc
      simpa using hc
  rw [hashNumber?, hdrop, hrow.leadingDigits]

end SlideOverflow.Inspection
