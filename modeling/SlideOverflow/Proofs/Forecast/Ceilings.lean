import SlideOverflow.Forecast.Predictor
import SlideOverflow.Proofs.Forecast.ReadValue
import SlideOverflow.Proofs.Metadata.Words

/-! Ceilings that a document sets. Each ceiling goes by the value under its own key, so what is read
of all four of them is told key by key. -/
namespace SlideOverflow.Forecast

open Metadata Number

def asked? (d : Datum) (k : Ceiling) : Option Datum := d.table?.bind fun t => t.get? k.key

def Sets (d : Datum) (k : Ceiling) (n : Int) : Prop :=
  ∃ v, asked? d k = some v ∧ SetsTo v.value n

def Refuses (d : Datum) (k : Ceiling) : Prop :=
  ∃ v, asked? d k = some v ∧ ∀ n, ¬SetsTo v.value n

open Classical in
/-- The ceilings of a document as they are meant: those that it sets are replaced and the others are
kept. There is one warning for each value that is refused, in the order of the ceilings. -/
structure Follows (defaults : Ceilings) (d : Datum) (c : Ceilings)
    (unusable : List UnusableCeiling) : Prop where
  replaced : ∀ k n, Sets d k n → c.get k = .int n
  kept : ∀ k, (∀ n, ¬Sets d k n) → c.get k = defaults.get k
  warned : unusable.map UnusableCeiling.ceiling = Ceiling.all.filter fun k => Refuses d k
  told : ∀ u ∈ unusable, u.kept = defaults.get u.ceiling ∧
    ∃ v, asked? d u.ceiling = some v ∧ v.shown = .ok u.shown

/-- The value for a ceiling, if there is one, is read as meant and, if it is refused, has words for
the warning. -/
def IsSoundAt (d : Datum) (k : Ceiling) : Prop :=
  ∀ v, asked? d k = some v → ¬Misread v.value ∧ ((∀ n, ¬SetsTo v.value n) → v.HasWords)

/-! ### Key by key -/

inductive Effect where
  | absent
  | replaced (n : Int)
  | refused (shown : List Char)

namespace Effect

def of (d : Datum) (k : Ceiling) : Outcome Effect :=
  match asked? d k with
  | none => .ok .absent
  | some v => do
    match ← usableCeiling? v.value with
    | some n => return .replaced n
    | none => return .refused (← v.shown)

def apply (defaults : Ceilings) (k : Ceiling) (found : Ceilings × List UnusableCeiling) :
    Effect → Ceilings × List UnusableCeiling
  | .absent => found
  | .replaced n => (found.1.set k (.int n), found.2)
  | .refused shown => (found.1, found.2 ++ [⟨k, shown, defaults.get k⟩])

inductive From (d : Datum) (k : Ceiling) : Effect → Prop where
  | absent : asked? d k = none → From d k .absent
  | replaced {v : Datum} {n : Int} : asked? d k = some v → usableCeiling? v.value = .ok (some n) →
      From d k (.replaced n)
  | refused {v : Datum} {shown : List Char} : asked? d k = some v →
      usableCeiling? v.value = .ok none → v.shown = .ok shown → From d k (.refused shown)

theorem of_eq_ok_iff {d : Datum} {k : Ceiling} {e : Effect} : of d k = .ok e ↔ From d k e := by
  constructor
  · intro h
    rw [of] at h
    cases hv : asked? d k with
    | none =>
      rw [hv] at h
      cases h
      exact .absent hv
    | some v =>
      rw [hv] at h
      obtain ⟨o, ho, h⟩ := Outcome.bind_eq_ok_iff.mp h
      cases o with
      | some n =>
        cases h
        exact .replaced hv ho
      | none =>
        obtain ⟨shown, hshown, heq⟩ := Outcome.bind_eq_ok_iff.mp h
        cases heq
        exact .refused hv ho hshown
  · intro h
    cases h with
    | absent hv => rw [of, hv]
    | replaced hv ho =>
      simp only [of, hv, ho]
      rfl
    | refused hv ho hshown =>
      simp only [of, hv, ho]
      change (do return refused (← Datum.shown _)) = _
      rw [hshown]
      rfl

def warning? (defaults : Ceilings) (k : Ceiling) : Effect → Option UnusableCeiling
  | .refused shown => some ⟨k, shown, defaults.get k⟩
  | _ => none

end Effect

variable {defaults : Ceilings} {d : Datum}

/-- A document goes through the effects on all ceilings, whether it is a mapping or not. -/
theorem ofDatum_eq : defaults.ofDatum d =
    Ceiling.all.foldlM (fun found k => (Effect.of d k).map (Effect.apply defaults k found))
      (defaults, []) := by
  rw [Ceilings.ofDatum]
  cases ht : d.table? with
  | none =>
    have habsent (k : Ceiling) : Effect.of d k = .ok .absent := by
      rw [Effect.of, asked?, ht]
      rfl
    simp only [habsent]
    rfl
  | some t =>
    have hstep : Ceilings.readOne defaults t = fun found k =>
        (Effect.of d k).map (Effect.apply defaults k found) := by
      funext found k
      rw [Ceilings.readOne, Effect.of, asked?, ht, Option.bind_some]
      cases t.get? k.key with
      | none => rfl
      | some v =>
        simp only
        cases usableCeiling? v.value with
        | error e => rfl
        | ok o =>
          cases o with
          | some n => rfl
          | none => cases v.shown <;> rfl
    simp only [hstep]

section Run

variable {effect : Ceiling → Effect}

private theorem foldlM_effects {l : List Ceiling} (h : ∀ k ∈ l, Effect.of d k = .ok (effect k))
    (found : Ceilings × List UnusableCeiling) :
    l.foldlM (fun found k => (Effect.of d k).map (Effect.apply defaults k found)) found =
      .ok (l.foldl (fun found k => (effect k).apply defaults k found) found) := by
  induction l generalizing found with
  | nil => rfl
  | cons k l ih =>
    rw [List.foldlM_cons, h k List.mem_cons_self]
    exact ih (fun j hj => h j (.tail k hj)) _

/-- What goes through has an effect everywhere. -/
theorem exists_effect_of_foldlM {l : List Ceiling} {found r : Ceilings × List UnusableCeiling}
    (h : l.foldlM (fun found k => (Effect.of d k).map (Effect.apply defaults k found)) found =
      .ok r) : ∀ k ∈ l, ∃ e, Effect.of d k = .ok e := by
  induction l generalizing found with
  | nil => exact nofun
  | cons k l ih =>
    rw [List.foldlM_cons] at h
    obtain ⟨found', hstep, hrest⟩ := Outcome.bind_eq_ok_iff.mp h
    obtain ⟨e, he, -⟩ := Outcome.map_eq_ok_iff.mp hstep
    exact List.forall_mem_cons.mpr ⟨⟨e, he⟩, ih hrest⟩

/-- Each effect is on its own ceiling only. -/
private theorem get_foldl_effects {l : List Ceiling} (hl : l.Nodup)
    (found : Ceilings × List UnusableCeiling) (k : Ceiling) :
    (l.foldl (fun found k => (effect k).apply defaults k found) found).1.get k =
      match effect k with
      | .replaced n => if k ∈ l then .int n else found.1.get k
      | _ => found.1.get k := by
  induction l generalizing found with
  | nil => cases effect k <;> rfl
  | cons j l ih =>
    obtain ⟨hj, hl⟩ := List.nodup_cons.mp hl
    rw [List.foldl_cons, ih hl]
    by_cases hk : k = j
    · subst hk
      -- No later key is this one, so its ceiling stays as it is set here.
      cases he : effect k with
      | absent => rfl
      | replaced n => simp [hj, Effect.apply]
      | refused shown => rfl
    · have hsame : ((effect j).apply defaults j found).1.get k = found.1.get k := by
        cases effect j with
        | replaced n => exact Ceilings.get_set_other _ _ hk
        | _ => rfl
      rw [hsame]
      cases effect k <;> simp [hk]

private theorem warnings_foldl_effects (l : List Ceiling)
    (found : Ceilings × List UnusableCeiling) :
    (l.foldl (fun found k => (effect k).apply defaults k found) found).2 =
      found.2 ++ l.filterMap fun k => (effect k).warning? defaults k := by
  induction l generalizing found with
  | nil => exact (List.append_nil _).symm
  | cons k l ih =>
    rw [List.foldl_cons, ih, List.filterMap_cons]
    cases effect k with
    | refused shown => exact List.append_assoc _ _ _
    | _ => rfl

end Run

/-! ### As it is meant -/

inductive Effect.Meant (d : Datum) (k : Ceiling) : Effect → Prop where
  | absent : asked? d k = none → Meant d k .absent
  | replaced {n : Int} : Sets d k n → Meant d k (.replaced n)
  | refused {v : Datum} {shown : List Char} : asked? d k = some v → (∀ n, ¬SetsTo v.value n) →
      v.shown = .ok shown → Meant d k (.refused shown)

theorem Sets.unique {k : Ceiling} {n m : Int} (h : Sets d k n) (h' : Sets d k m) : n = m := by
  obtain ⟨v, hv, hn⟩ := h
  obtain ⟨v', hv', hm⟩ := h'
  cases hv.symm.trans hv'
  exact hn.1.unique hm.1

private theorem Refuses.not_sets {k : Ceiling} (h : Refuses d k) (n : Int) : ¬Sets d k n := by
  obtain ⟨v, hv, hnone⟩ := h
  rintro ⟨v', hv', hn⟩
  cases hv.symm.trans hv'
  exact hnone n hn

private theorem exists_meant_iff (d : Datum) (k : Ceiling) :
    (∃ e, Effect.of d k = .ok e ∧ Effect.Meant d k e) ↔ IsSoundAt d k := by
  simp only [Effect.of_eq_ok_iff]
  constructor
  · rintro ⟨e, hfrom, hmeant⟩ v hv
    rw [← isReadAsMeant_iff_not_misread]
    cases hfrom with
    | absent hnone =>
      rw [hv] at hnone
      cases hnone
    | replaced hv' ho =>
      cases hv.symm.trans hv'
      cases hmeant with
      | replaced hsets =>
        obtain ⟨v', hv', hn⟩ := hsets
        cases hv.symm.trans hv'
        refine ⟨(isReadAsMeant_iff ho).mpr fun m => ?_, fun hnone => absurd hn (hnone _)⟩
        rw [Option.some.injEq]
        exact ⟨fun heq => heq ▸ hn, fun hm => hn.1.unique hm.1⟩
    | refused hv' ho hshown =>
      cases hv.symm.trans hv'
      cases hmeant with
      | refused hv' hnone _ =>
        cases hv.symm.trans hv'
        exact ⟨(isReadAsMeant_none ho).mpr hnone, fun _ => v.exists_shown_iff.mp ⟨_, hshown⟩⟩
  · intro hsound
    cases hv : asked? d k with
    | none => exact ⟨.absent, .absent hv, .absent hv⟩
    | some v =>
      obtain ⟨hread, hwords⟩ := hsound v hv
      obtain ⟨o, ho, hmeant⟩ := (isReadAsMeant_iff_not_misread v.value).mpr hread
      cases o with
      | some n => exact ⟨_, .replaced hv ho, .replaced ⟨v, hv, (hmeant n).mp rfl⟩⟩
      | none =>
        have hnone (n : Int) : ¬SetsTo v.value n := fun hn => nomatch (hmeant n).mpr hn
        obtain ⟨shown, hshown⟩ := v.exists_shown_iff.mpr (hwords hnone)
        exact ⟨_, .refused hv ho hshown, .refused hv hnone hshown⟩

private theorem Effect.Meant.sets_iff {k : Ceiling} {e : Effect} (h : Effect.Meant d k e)
    {n : Int} :
    Sets d k n ↔ e = .replaced n := by
  cases h with
  | absent hv =>
    refine iff_of_false ?_ nofun
    rintro ⟨v, hv', -⟩
    rw [hv] at hv'
    cases hv'
  | replaced hm =>
    rw [Effect.replaced.injEq]
    exact ⟨hm.unique, fun heq => heq ▸ hm⟩
  | refused hv hnone _ => exact iff_of_false (Refuses.not_sets ⟨_, hv, hnone⟩ n) nofun

private theorem Effect.Meant.refuses_iff {k : Ceiling} {e : Effect} (h : Effect.Meant d k e) :
    Refuses d k ↔ ∃ shown, e = .refused shown := by
  cases h with
  | absent hv =>
    refine iff_of_false ?_ nofun
    rintro ⟨v, hv', -⟩
    rw [hv] at hv'
    cases hv'
  | replaced hn => exact iff_of_false (fun h => h.not_sets _ hn) nofun
  | refused hv hnone _ => exact iff_of_true ⟨_, hv, hnone⟩ ⟨_, rfl⟩

theorem Ceiling.mem_all (k : Ceiling) : k ∈ Ceiling.all := by
  cases k <;> decide

section Assembled

variable {effect : Ceiling → Effect}

/-- The ceilings after some effects, and the warnings. -/
theorem ofDatum_effects (h : ∀ k, Effect.of d k = .ok (effect k)) :
    ∃ c, defaults.ofDatum d =
        .ok (c, Ceiling.all.filterMap fun k => (effect k).warning? defaults k) ∧
      ∀ k, c.get k = match effect k with
        | .replaced n => .int n
        | _ => defaults.get k := by
  have hnodup : Ceiling.all.Nodup := by decide
  refine ⟨(Ceiling.all.foldl (fun found k => (effect k).apply defaults k found)
    (defaults, [])).1, ?_, fun k => ?_⟩
  · rw [ofDatum_eq, foldlM_effects fun k _ => h k]
    exact congrArg Except.ok (Prod.ext rfl (warnings_foldl_effects _ _))
  · rw [get_foldl_effects hnodup]
    cases effect k with
    | replaced n => exact if_pos k.mem_all
    | _ => rfl

/-- The warnings stand in the order of the ceilings. -/
private theorem map_ceiling_warnings (l : List Ceiling) :
    (l.filterMap fun k => (effect k).warning? defaults k).map UnusableCeiling.ceiling =
      l.filter fun k => ((effect k).warning? defaults k).isSome := by
  induction l with
  | nil => rfl
  | cons k l ih =>
    rw [List.filterMap_cons, List.filter_cons]
    cases effect k with
    | refused shown => exact congrArg (k :: ·) ih
    | _ => exact ih

/-- Where a document is followed, it has the effects that it is meant to have. -/
theorem Follows.meant {c : Ceilings} (h : ∀ k, Effect.From d k (effect k))
    (hget : ∀ k, c.get k = match effect k with
      | .replaced n => .int n
      | _ => defaults.get k)
    (hf : Follows defaults d c (Ceiling.all.filterMap fun k => (effect k).warning? defaults k))
    (k : Ceiling) : Effect.Meant d k (effect k) := by
  have hwarned : ((effect k).warning? defaults k).isSome ↔ Refuses d k := by
    have hsame := (map_ceiling_warnings Ceiling.all).symm.trans hf.warned
    simpa [k.mem_all] using congrArg (k ∈ ·) hsame
  have hk := hget k
  have hfrom := h k
  cases he : effect k with
  | absent =>
    rw [he] at hfrom
    cases hfrom with
    | absent hv => exact .absent hv
  | replaced n =>
    -- There is no warning, so a number is given, and it is the one that the ceiling became.
    rw [he] at hfrom hk hwarned
    cases hfrom with
    | @replaced v _ hv _ =>
      obtain ⟨m, hm⟩ : ∃ m, SetsTo v.value m := by
        by_contra hnone
        exact nomatch hwarned.mpr ⟨v, hv, not_exists.mp hnone⟩
      have hsets : Sets d k m := ⟨v, hv, hm⟩
      cases (hf.replaced k m hsets).symm.trans hk
      exact .replaced hsets
  | refused shown =>
    rw [he] at hfrom hwarned
    obtain ⟨v, hv, hnone⟩ := hwarned.mp rfl
    cases hfrom with
    | refused hv' _ hshown =>
      cases hv.symm.trans hv'
      exact .refused hv hnone hshown

open Classical in
/-- Where a document has the effects that it is meant to have, it is followed. -/
private theorem Effect.Meant.follows {c : Ceilings}
    (hget : ∀ k, c.get k = match effect k with
      | .replaced n => .int n
      | _ => defaults.get k)
    (hmeant : ∀ k, Effect.Meant d k (effect k)) :
    Follows defaults d c (Ceiling.all.filterMap fun k => (effect k).warning? defaults k) := by
  refine ⟨fun k n hsets => ?_, fun k hnone => ?_, ?_, fun u hu => ?_⟩
  · rw [hget, (hmeant k).sets_iff.mp hsets]
  · rw [hget]
    cases he : effect k with
    | replaced n => exact absurd ((hmeant k).sets_iff.mpr he) (hnone n)
    | _ => rfl
  · rw [map_ceiling_warnings]
    refine List.filter_congr fun k _ => ?_
    rw [Bool.eq_iff_iff, decide_eq_true_iff, (hmeant k).refuses_iff]
    cases effect k with
    | refused shown => exact iff_of_true rfl ⟨shown, rfl⟩
    | _ => exact iff_of_false nofun nofun
  · obtain ⟨k, -, hk⟩ := List.mem_filterMap.mp hu
    have hk' := hmeant k
    cases he : effect k with
    | refused shown =>
      rw [he] at hk hk'
      cases hk
      cases hk' with
      | refused hv _ hshown => exact ⟨rfl, _, hv, hshown⟩
    | _ =>
      rw [he] at hk
      cases hk

end Assembled

/-- A document is followed if each of its values for ceilings is sound. -/
theorem exists_follows_iff (defaults : Ceilings) (d : Datum) :
    (∃ c unusable, defaults.ofDatum d = .ok (c, unusable) ∧ Follows defaults d c unusable) ↔
      ∀ k, IsSoundAt d k := by
  simp only [← exists_meant_iff]
  constructor
  · rintro ⟨c, unusable, hread, hf⟩ k
    rw [ofDatum_eq] at hread
    obtain ⟨effect, heffect⟩ :=
      Classical.skolem.mp fun k => exists_effect_of_foldlM hread k k.mem_all
    obtain ⟨c', hread', hget⟩ := @ofDatum_effects defaults d effect heffect
    cases (ofDatum_eq.symm.trans hread').symm.trans hread
    exact ⟨effect k, heffect k, hf.meant (fun k => Effect.of_eq_ok_iff.mp (heffect k)) hget k⟩
  · intro h
    obtain ⟨effect, heffect⟩ := Classical.skolem.mp h
    obtain ⟨c, hread, hget⟩ := @ofDatum_effects defaults d effect fun k => (heffect k).1
    exact ⟨c, _, hread, Effect.Meant.follows hget fun k => (heffect k).2⟩

/-- Only the values for ceilings matter. -/
theorem ofDatum_congr {d' : Datum} (h : ∀ k, asked? d k = asked? d' k) :
    defaults.ofDatum d = defaults.ofDatum d' := by
  have heffect : Effect.of d = Effect.of d' := by
    funext k
    rw [Effect.of, h k, Effect.of]
  rw [ofDatum_eq, ofDatum_eq, heffect]

end SlideOverflow.Forecast
