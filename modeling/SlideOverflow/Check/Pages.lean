import SlideOverflow.Failure
import SlideOverflow.Number.Scaled
import SlideOverflow.Text.Blank

/-! The pages to check. A page range, such as `1-3,5`, selects them: numbers past the last slide are
left out, and the rest is ascending and has no number twice. Chunks cut a list into contiguous
pieces, one for each worker. -/
namespace SlideOverflow.Check

open Number Text

def interval (first last : Int) : List Int :=
  (List.range (last + 1 - first).toNat).map fun (i : Nat) => first + i

/-- Drops all but the first of equal neighbours. -/
def dropRepeats : List Int → List Int
  | [] => []
  | [a] => [a]
  | a :: b :: l => if a = b then dropRepeats (b :: l) else a :: dropRepeats (b :: l)

def ascending (numbers : List Int) : List Int :=
  dropRepeats (numbers.mergeSort fun a b => decide (a ≤ b))

theorem mem_interval {first last n : Int} : n ∈ interval first last ↔ first ≤ n ∧ n ≤ last := by
  rw [interval, List.mem_map]
  constructor
  · rintro ⟨i, hi, rfl⟩
    have := List.mem_range.mp hi
    omega
  · rintro ⟨hlo, hhi⟩
    exact ⟨(n - first).toNat, List.mem_range.mpr (by omega), by omega⟩

theorem interval_pairwise (first last : Int) : (interval first last).Pairwise (· < ·) := by
  refine List.pairwise_map.mpr (List.pairwise_lt_range.imp fun h => ?_)
  omega

private theorem mem_dropRepeats {a : Int} {l : List Int} : a ∈ dropRepeats l ↔ a ∈ l := by
  induction l using dropRepeats.induct with
  | case1 => exact Iff.rfl
  | case2 => exact Iff.rfl
  | case3 b l ih =>
    rw [dropRepeats, if_pos rfl, ih]
    simp
  | case4 b c l hne ih =>
    rw [dropRepeats, if_neg hne, List.mem_cons, ih, ← List.mem_cons]

private theorem dropRepeats_pairwise {l : List Int} (h : l.Pairwise (· ≤ ·)) :
    (dropRepeats l).Pairwise (· < ·) := by
  induction l using dropRepeats.induct with
  | case1 => exact .nil
  | case2 a => exact List.pairwise_singleton _ a
  | case3 b l ih =>
    rw [dropRepeats, if_pos rfl]
    exact ih h.of_cons
  | case4 a b l hne ih =>
    rw [dropRepeats, if_neg hne]
    have hab : a ≤ b := List.rel_of_pairwise_cons h List.mem_cons_self
    refine List.pairwise_cons.mpr ⟨fun c hc => ?_, ih h.of_cons⟩
    have hbc : b ≤ c := by
      rcases List.mem_cons.mp (mem_dropRepeats.mp hc) with rfl | hc
      · exact Int.le_refl _
      · exact List.rel_of_pairwise_cons h.of_cons hc
    omega

theorem mergeSort_ascending (numbers : List Int) :
    (numbers.mergeSort fun a b => decide (a ≤ b)).Pairwise (· ≤ ·) := by
  have h := @List.pairwise_mergeSort _ (fun a b : Int => decide (a ≤ b))
    (by simp only [decide_eq_true_eq]; omega)
    (by simp only [Bool.or_eq_true, decide_eq_true_eq]; omega) numbers
  exact h.imp of_decide_eq_true

theorem ascending_pairwise (numbers : List Int) : (ascending numbers).Pairwise (· < ·) :=
  dropRepeats_pairwise (mergeSort_ascending numbers)

theorem mem_ascending {a : Int} {numbers : List Int} : a ∈ ascending numbers ↔ a ∈ numbers := by
  rw [ascending, mem_dropRepeats, List.mem_mergeSort]

structure PagePart where
  first : Int
  last : Int
deriving DecidableEq, Repr

def PagePart.read (text : List Char) : Outcome PagePart :=
  let part := trim text
  match part.splitOn '-' with
  | [_] =>
    match readInt? 10 part with
    | some n => .ok ⟨n, n⟩
    | none => .error (.badPageNumber (String.ofList part))
  | [a, b] =>
    match readInt? 10 (trim a), readInt? 10 (trim b) with
    | some first, some last => .ok ⟨first, last⟩
    | _, _ => .error (.badPageRange (String.ofList part))
  | _ => .error (.badPageRange (String.ofList part))

def PagePart.slides (total : Int) (p : PagePart) : List Int :=
  interval (max p.first 1) (min p.last total)

/-- The slides that a range names; a missing or blank one names them all. -/
def pageRange (pages : Option String) (total : Int) : Outcome (List Int) :=
  let text := (pages.getD "").toList
  if text.all isBlank then .ok (interval 1 total)
  else do
    let parts ← (text.splitOn ',').mapM PagePart.read
    return ascending (parts.flatMap (·.slides total))

/-- A page range is ascending, and has no number twice. -/
theorem pageRange_pairwise {pages : Option String} {total : Int} {range : List Int}
    (h : pageRange pages total = .ok range) : range.Pairwise (· < ·) := by
  simp only [pageRange] at h
  split at h
  · cases h
    exact interval_pairwise 1 total
  · obtain ⟨parts, _, h⟩ := Outcome.bind_eq_ok_iff.mp h
    cases h
    exact ascending_pairwise _

/-- A page range holds slides of the presentation only. -/
theorem pageRange_within {pages : Option String} {total : Int} {range : List Int}
    (h : pageRange pages total = .ok range) : ∀ n ∈ range, 1 ≤ n ∧ n ≤ total := by
  simp only [pageRange] at h
  split at h
  · cases h
    exact fun n hn => mem_interval.mp hn
  · obtain ⟨parts, _, h⟩ := Outcome.bind_eq_ok_iff.mp h
    cases h
    intro n hn
    obtain ⟨part, _, hpart⟩ := List.mem_flatMap.mp (mem_ascending.mp hn)
    have := mem_interval.mp hpart
    omega

theorem PagePart.read_error {text : List Char} {e : Failure} (h : PagePart.read text = .error e) :
    ∃ part, e = .badPageNumber part ∨ e = .badPageRange part := by
  simp only [read] at h
  split at h
  · split at h
    · cases h
    · cases h
      exact ⟨_, .inl rfl⟩
  · split at h
    · cases h
    · cases h
      exact ⟨_, .inr rfl⟩
  · cases h
    exact ⟨_, .inr rfl⟩

/-- A range that cannot be read fails at a part of it. -/
theorem pageRange_error {pages : Option String} {total : Int} {e : Failure}
    (h : pageRange pages total = .error e) :
    ∃ part, e = .badPageNumber part ∨ e = .badPageRange part := by
  simp only [pageRange] at h
  split at h
  · cases h
  · cases hparts : ((pages.getD "").toList.splitOn ',').mapM PagePart.read with
    | error e' =>
      rw [hparts] at h
      cases h
      obtain ⟨_, text, _, _, htext, _⟩ := Outcome.exists_first_error hparts
      exact PagePart.read_error htext
    | ok parts =>
      rw [hparts] at h
      cases h

/-! ### Chunks -/

/-- Cuts a list into pieces of `size` elements, the last one with what is left. Every piece has at
least one element. -/
def pieces {α : Type} (size : Nat) : List α → List (List α)
  | [] => []
  | a :: l => (a :: l.take (size - 1)) :: pieces size (l.drop (size - 1))
termination_by l => l.length
decreasing_by
  simp only [List.length_drop, List.length_cons]
  omega

def workerCount (workers : Int) : Nat := (max workers 1).toNat

theorem workerCount_pos (workers : Int) : 0 < workerCount workers := by
  unfold workerCount
  omega

/-- The size of a piece: the length of the list divided by the workers, rounded up. The quotient is
a double. -/
def pieceSize (length : Nat) (workers : Int) : Nat :=
  (Scaled.quotient length (workerCount workers)).ceil.toNat

/-- Cuts a list into a piece for each worker, or into fewer ones. A share that is too small for a
double gives the pieces no size. -/
def chunks {α : Type} (l : List α) (workers : Int) : Outcome (List (List α)) :=
  if l.isEmpty then .ok []
  else if pieceSize l.length workers = 0 then Outcome.reject .badValue
  else .ok (pieces (pieceSize l.length workers) l)

end SlideOverflow.Check
