import Mathlib.Data.List.Range
import Mathlib.Data.List.Perm.Subperm
import SlideOverflow.Metadata.Value.Text

/-! Which values have words: those that hold no whole number with too many digits, however deep. The
depth is no matter, since a collection within itself is not shown again. -/
namespace SlideOverflow.Metadata
open Number

def Collection.parts : Collection → List Value
  | .sequence items => items
  | .mapping entries => entries.flatMap fun e => [e.1, e.2]
  | .set members => slotOrder members
  | .pair a b => [a, b]

/-- One value is another one, or is found within it. -/
inductive Value.Within (shelf : Shelf) (v : Value) : Value → Prop where
  | self : Within shelf v v
  | part {n : Nat} {c : Collection} {w : Value} (hc : shelf[n]? = some c) (hw : w ∈ c.parts)
      (h : Within shelf v w) : Within shelf v (.collection n)

/-- A whole number that can be read back. -/
def IsShort (n : Int) : Prop := n.natAbs < Nat.pow 10 digitLimit

def Datum.HasWords (d : Datum) : Prop :=
  ∀ n, Value.Within d.shelf (.number (.int n)) d.value → IsShort n

private theorem exists_return_iff {α β : Type} {o : Outcome α} {f : α → β} :
    (∃ b, (do return f (← o)) = Except.ok b) ↔ ∃ a, o = .ok a := by
  cases o with
  | ok a => exact iff_of_true ⟨f a, rfl⟩ ⟨a, rfl⟩
  | error e =>
    refine iff_of_false ?_ ?_
    · rintro ⟨b, h⟩
      cases h
    · rintro ⟨a, h⟩
      cases h

private theorem exists_pair_iff {α β : Type} {x y : Outcome α} {f : α → α → β} :
    (∃ b, (do return f (← x) (← y)) = Except.ok b) ↔ (∃ a, x = .ok a) ∧ ∃ a, y = .ok a := by
  cases x with
  | ok a =>
    have hx : ∃ a', (.ok a : Outcome α) = .ok a' := ⟨a, rfl⟩
    exact (@exists_return_iff α β y (f a)).trans (and_iff_right hx).symm
  | error e =>
    refine iff_of_false ?_ ?_
    · rintro ⟨b, h⟩
      cases h
    · rintro ⟨⟨a, h⟩, _⟩
      cases h

/-- A collection is shown if all its parts are. -/
theorem Collection.exists_shown_iff {item : Value → Outcome (List Char)} {c : Collection} :
    (∃ text, c.shown item = .ok text) ↔ ∀ w ∈ c.parts, ∃ text, item w = .ok text := by
  cases c with
  | sequence items => exact exists_return_iff.trans Outcome.exists_mapM_eq_ok_iff
  | mapping entries =>
    refine exists_return_iff.trans (Outcome.exists_mapM_eq_ok_iff.trans ?_)
    simp only [exists_pair_iff, parts, List.mem_flatMap, List.mem_cons, List.not_mem_nil, or_false]
    constructor
    · rintro h w ⟨e, he, rfl | rfl⟩
      · exact (h e he).1
      · exact (h e he).2
    · exact fun h e he => ⟨h e.1 ⟨e, he, .inl rfl⟩, h e.2 ⟨e, he, .inr rfl⟩⟩
  | set members =>
    cases members with
    | nil =>
      have hparts : (Collection.set []).parts = [] := by rfl
      rw [hparts]
      exact ⟨fun _ w hw => absurd hw List.not_mem_nil, fun _ => ⟨_, rfl⟩⟩
    | cons m members => exact exists_return_iff.trans Outcome.exists_mapM_eq_ok_iff
  | pair a b =>
    refine exists_pair_iff.trans ?_
    simp only [parts, List.mem_cons, List.not_mem_nil, or_false, forall_eq_or_imp, forall_eq]

private theorem exists_numberText_iff {n : Int} :
    (∃ text, numberText (.int n) = .ok text) ↔ IsShort n := by
  rw [numberText, IsShort]
  split
  · next h => exact ⟨fun _ => h, fun _ => ⟨_, rfl⟩⟩
  · next h => exact ⟨fun ⟨_, hb⟩ => (nomatch hb), fun hb => absurd hb h⟩

section Shown

variable {shelf : Shelf} {fuel n : Nat} {path : List Nat} {c : Collection}

private theorem shownWithin_collection (hc : shelf[n]? = some c) (hn : n ∉ path) :
    (Value.collection n).shownWithin shelf (fuel + 1) path =
      c.shown fun w => w.shownWithin shelf fuel (n :: path) := by
  rw [Value.shownWithin]
  simp only [hc]
  rw [if_neg (by simpa using hn)]

/-- A value is shown if all whole numbers in it can be read back, whatever is above it. -/
private theorem shownWithin_of_isShort {v : Value}
    (h : ∀ n, Value.Within shelf (.number (.int n)) v → IsShort n) :
    ∃ text, v.shownWithin shelf fuel path = .ok text := by
  induction fuel generalizing v path with
  | zero =>
    cases v with
    | number q =>
      cases q with
      | int n => exact exists_numberText_iff.mpr (h n .self)
      | real x => exact ⟨_, rfl⟩
    | collection n =>
      rw [Value.shownWithin]
      split
      · exact ⟨_, rfl⟩
      · split <;> exact ⟨_, rfl⟩
    | _ => exact ⟨_, rfl⟩
  | succ fuel ih =>
    cases v with
    | number q =>
      cases q with
      | int n => exact exists_numberText_iff.mpr (h n .self)
      | real x => exact ⟨_, rfl⟩
    | collection n =>
      cases hc : shelf[n]? with
      | none => exact ⟨[], by rw [Value.shownWithin]; simp only [hc]⟩
      | some c =>
        by_cases hn : n ∈ path
        · refine ⟨c.abridged, ?_⟩
          rw [Value.shownWithin]
          simp only [hc]
          rw [if_pos (by simpa using hn)]
        · rw [shownWithin_collection hc hn]
          exact Collection.exists_shown_iff.mpr fun w hw => ih fun k hk => h k (.part hc hw hk)
    | _ => exact ⟨_, rfl⟩

inductive IsShown (shelf : Shelf) : Nat → List Nat → Nat → Prop where
  | outermost {n : Nat} {c : Collection} {text : List Char} (hc : shelf[n]? = some c)
      (h : (Value.collection n).shownWithin shelf shelf.size [] = .ok text) :
      IsShown shelf shelf.size [] n
  | inner {fuel m n : Nat} {path : List Nat} {c : Collection} {text : List Char}
      (hm : IsShown shelf (fuel + 1) path m) (hc : shelf[n]? = some c) (hn : n ∉ m :: path)
      (h : (Value.collection n).shownWithin shelf fuel (m :: path) = .ok text) :
      IsShown shelf fuel (m :: path) n

private theorem IsShown.exists_text (h : IsShown shelf fuel path n) :
    ∃ text, (Value.collection n).shownWithin shelf fuel path = .ok text := by
  cases h with
  | outermost _ h => exact ⟨_, h⟩
  | inner _ _ _ h => exact ⟨_, h⟩

private theorem IsShown.of_mem {m : Nat} (h : IsShown shelf fuel path n) (hm : m ∈ path) :
    ∃ fuel path, IsShown shelf fuel path m := by
  induction h with
  | outermost => exact absurd hm List.not_mem_nil
  | inner hk _ _ _ ih =>
    rcases List.mem_cons.mp hm with rfl | hm
    · exact ⟨_, _, hk⟩
    · exact ih hm

/-- No collection is shown within itself, so the path is never as long as the shelf. -/
private theorem IsShown.spare (h : IsShown shelf fuel path n) :
    fuel + path.length = shelf.size ∧ (n :: path).Nodup ∧ ∀ m ∈ n :: path, m < shelf.size := by
  induction h with
  | outermost hc _ =>
    refine ⟨Nat.add_zero _, List.nodup_cons.mpr ⟨List.not_mem_nil, List.nodup_nil⟩, fun m hm => ?_⟩
    rw [List.mem_singleton] at hm
    exact hm ▸ (Array.getElem?_eq_some_iff.mp hc).1
  | inner hm hc hn _ ih =>
    obtain ⟨hlength, hnodup, hlt⟩ := ih
    refine ⟨?_, List.nodup_cons.mpr ⟨hn, hnodup⟩, fun k hk => ?_⟩
    · rw [List.length_cons]
      omega
    · rcases List.mem_cons.mp hk with rfl | hk
      · exact (Array.getElem?_eq_some_iff.mp hc).1
      · exact hlt k hk

private theorem IsShown.fuel_pos (h : IsShown shelf fuel path n) : 0 < fuel := by
  obtain ⟨hlength, hnodup, hlt⟩ := h.spare
  -- Path and collection are different places of the shelf, so one unit of fuel is left.
  have hsub : n :: path ⊆ List.range shelf.size := fun m hm => List.mem_range.mpr (hlt m hm)
  have hle := (List.subperm_of_subset hnodup hsub).length_le
  rw [List.length_cons, List.length_range] at hle
  omega

/-- A value that is shown somewhere; if it is a collection, then not only by dots. -/
private def IsVisible (shelf : Shelf) (v : Value) : Prop :=
  (∃ fuel path text, v.shownWithin shelf fuel path = .ok text) ∧
    ∀ n c, v = .collection n → shelf[n]? = some c → ∃ fuel path, IsShown shelf fuel path n

private theorem IsShown.part {w : Value} (h : IsShown shelf fuel path n) (hc : shelf[n]? = some c)
    (hw : w ∈ c.parts) : IsVisible shelf w := by
  have hn : n ∉ path := (List.nodup_cons.mp h.spare.2.1).1
  obtain ⟨fuel, rfl⟩ := Nat.exists_eq_add_one.mpr h.fuel_pos
  have hshown := h.exists_text
  rw [shownWithin_collection hc hn] at hshown
  obtain ⟨text, hpart⟩ := Collection.exists_shown_iff.mp hshown w hw
  refine ⟨⟨fuel, n :: path, text, hpart⟩, fun m c' hm hc' => ?_⟩
  subst hm
  -- A collection on the path is only abridged here; it is shown where the path met it first.
  by_cases hmem : m ∈ n :: path
  · rcases List.mem_cons.mp hmem with rfl | hmem
    · exact ⟨_, _, h⟩
    · exact h.of_mem hmem
  · exact ⟨_, _, .inner h hc' hmem hpart⟩

private theorem IsVisible.within {v w : Value} (hv : IsVisible shelf v)
    (h : Value.Within shelf w v) :
    IsVisible shelf w := by
  induction h with
  | self => exact hv
  | part hc hw _ ih =>
    obtain ⟨fuel, path, hshown⟩ := hv.2 _ _ rfl hc
    exact ih (hshown.part hc hw)

end Shown

/-- A value has words unless some whole number in it has too many digits. -/
theorem Datum.exists_shown_iff (d : Datum) : (∃ text, d.shown = .ok text) ↔ d.HasWords := by
  constructor
  · rintro ⟨text, h⟩ n hn
    have hvisible : IsVisible d.shelf d.value := by
      refine ⟨⟨_, _, text, h⟩, fun m c hm hc => ?_⟩
      rw [shown, hm] at h
      exact ⟨_, _, .outermost hc h⟩
    obtain ⟨_, _, _, hnumber⟩ := (hvisible.within hn).1
    rw [Value.shownWithin] at hnumber
    exact exists_numberText_iff.mp ⟨_, hnumber⟩
  · intro h
    exact shownWithin_of_isShort h

/-- The same goes for a value where a text is asked for. -/
theorem Datum.exists_asText_iff (d : Datum) : (∃ text, d.asText = .ok text) ↔ d.HasWords := by
  rw [← exists_shown_iff]
  unfold asText
  split
  · next c h => exact ⟨fun _ => ⟨_, by rw [shown, h, Value.shownWithin]⟩, fun _ => ⟨_, rfl⟩⟩
  · next date h => exact ⟨fun _ => ⟨_, by rw [shown, h, Value.shownWithin]⟩, fun _ => ⟨_, rfl⟩⟩
  · next m h => exact ⟨fun _ => ⟨_, by rw [shown, h, Value.shownWithin]⟩, fun _ => ⟨_, rfl⟩⟩
  · exact exists_return_iff

/-- A value that counts as absent has words. -/
theorem Datum.hasWords_of_absent {d : Datum} (h : d.isTruthy = false) : d.HasWords := by
  obtain ⟨shelf, value⟩ := d
  intro n hn
  cases hn with
  | self =>
    have hsame : (!(Quantity.int n).same (.int 0)) = false := h
    have hzero : n = 0 := by
      simpa only [Quantity.same_int, Bool.not_eq_false', decide_eq_true_eq] using hsame
    rw [hzero, IsShort]
    exact Nat.pow_pos (n := digitLimit) (by decide)
  | @part k c w hc hw _ =>
    have hempty : c.isEmpty = true := by
      simpa [isTruthy, collection?, hc] using h
    cases c with
    | sequence items =>
      rw [List.isEmpty_iff.mp hempty] at hw
      cases hw
    | mapping entries =>
      rw [List.isEmpty_iff.mp hempty] at hw
      cases hw
    | set members =>
      rw [List.isEmpty_iff.mp hempty] at hw
      cases hw
    | pair a b => cases hempty

end SlideOverflow.Metadata
