import SlideOverflow.Json.Field

/-! Parts of a well-formed answer of a page. Reading a part of the kind that is expected succeeds,
so a walk through an answer is followed step by step, with what is known of each result. -/
namespace SlideOverflow

open Number

namespace Outcome

variable {α β : Type} {good good' : α → Prop} {kind : β → Prop} {bad : Failure → Prop}

theorem bind_map {γ : Type} (o : Outcome α) (f : α → β) (g : β → Outcome γ) :
    o.map f >>= g = o >>= fun a => g (f a) := by
  cases o <;> rfl

theorem map_bind {γ : Type} (o : Outcome α) (f : α → Outcome β) (g : β → γ) :
    (o >>= f).map g = o >>= fun a => (f a).map g := by
  cases o <;> rfl

/-- A result of one kind, or a failure of another one. -/
def Yields (good : α → Prop) (bad : Failure → Prop) : Outcome α → Prop
  | .ok a => good a
  | .error e => bad e

theorem Yields.bind {o : Outcome α} {f : α → Outcome β} (ho : o.Yields good bad)
    (hf : ∀ a, good a → (f a).Yields kind bad) : (o >>= f).Yields kind bad := by
  cases o with
  | error e => exact ho
  | ok a => exact hf a ho

theorem Yields.imp {o : Outcome α} (ho : o.Yields good bad) (h : ∀ a, good a → good' a) :
    o.Yields good' bad := by
  cases o with
  | error e => exact ho
  | ok a => exact h a ho

theorem Yields.error {o : Outcome α} (ho : o.Yields good bad) {e : Failure} (he : o = .error e) :
    bad e := by
  rwa [he] at ho

theorem Yields.result {o : Outcome α} (ho : o.Yields good bad) {a : α} (ha : o = .ok a) :
    good a := by
  rwa [ha] at ho

/-- What cannot fail comes to a result. -/
theorem Yields.exists_ok {o : Outcome α} (ho : o.Yields good fun _ => False) :
    ∃ a, o = .ok a ∧ good a := by
  cases o with
  | error e => exact ho.elim
  | ok a => exact ⟨a, rfl, ho⟩

theorem yields_mapM {f : α → Outcome β} {l : List α} (h : ∀ a ∈ l, (f a).Yields kind bad) :
    (l.mapM f).Yields (fun bs => ∀ b ∈ bs, kind b) bad := by
  induction l with
  | nil => exact fun b hb => absurd hb List.not_mem_nil
  | cons a l ih =>
    rw [List.mapM_cons]
    apply (h a List.mem_cons_self).bind
    intro b hb
    apply (ih fun c hc => h c (.tail a hc)).bind
    intro bs hbs c hc
    rcases List.mem_cons.mp hc with rfl | hc
    · exact hb
    · exact hbs c hc

theorem filterM_eq_ok {test : α → Outcome Bool} {p : α → Bool} {l : List α}
    (h : ∀ a ∈ l, test a = .ok (p a)) : l.filterM test = .ok (l.filter p) := by
  have haux (kept : List α) : l.filterAuxM test kept = .ok ((l.filter p).reverse ++ kept) := by
    induction l generalizing kept with
    | nil => rfl
    | cons a l ih =>
      rw [List.filterAuxM, h a List.mem_cons_self, ok_bind, ih fun b hb => h b (.tail a hb)]
      cases hp : p a <;> simp [hp]
  rw [List.filterM, haux, ok_bind, List.append_nil, List.reverse_reverse]
  rfl

/-- The results on a changed list, where each of them is a changed result. -/
theorem mapM_map_eq {γ δ : Type} {f : α → Outcome β} {f' : γ → Outcome δ} {g : α → γ} {h : β → δ}
    {l : List α} (hf : ∀ a ∈ l, f' (g a) = (f a).map h) :
    (l.map g).mapM f' = (l.mapM f).map (List.map h) := by
  induction l with
  | nil => rfl
  | cons a l ih =>
    rw [List.map_cons, List.mapM_cons, List.mapM_cons, hf a List.mem_cons_self,
      ih fun b hb => hf b (.tail a hb)]
    cases f a with
    | error e => rfl
    | ok b => cases l.mapM f <;> rfl

theorem filterM_map_eq {test : β → Outcome Bool} {g : α → β} {l : List α} :
    (l.map g).filterM test = (l.filterM fun a => test (g a)).map (List.map g) := by
  have haux (kept : List α) : (l.map g).filterAuxM test (kept.map g) =
      (l.filterAuxM (fun a => test (g a)) kept).map (List.map g) := by
    induction l generalizing kept with
    | nil => rfl
    | cons a l ih =>
      rw [List.map_cons, List.filterAuxM, List.filterAuxM]
      cases test (g a) with
      | error e => rfl
      | ok b =>
        rw [ok_bind, ok_bind, ← ih]
        cases b <;> rfl
  rw [List.filterM, List.filterM, map_bind]
  have hall := haux []
  rw [List.map_nil] at hall
  rw [hall, bind_map]
  congr 1
  funext kept
  simp [pure, Except.pure, Except.map]

theorem yields_anyM {test : α → Outcome Bool} {l : List α}
    (h : ∀ a ∈ l, (test a).Yields (fun _ => True) bad) :
    (l.anyM test).Yields (fun _ => True) bad := by
  induction l with
  | nil => exact trivial
  | cons a l ih =>
    rw [List.anyM]
    apply (h a List.mem_cons_self).bind
    intro b _
    cases b with
    | true => exact trivial
    | false => exact ih fun c hc => h c (.tail a hc)

theorem yields_filterM {test : α → Outcome Bool} {l : List α}
    (h : ∀ a ∈ l, (test a).Yields (fun _ => True) bad) :
    (l.filterM test).Yields (fun kept => ∀ a ∈ kept, a ∈ l) bad := by
  have haux (l' kept : List α) (hl' : ∀ a ∈ l', a ∈ l) (hkept : ∀ a ∈ kept, a ∈ l) :
      (l'.filterAuxM test kept).Yields (fun kept => ∀ a ∈ kept, a ∈ l) bad := by
    induction l' generalizing kept with
    | nil => exact hkept
    | cons a l' ih =>
      rw [List.filterAuxM]
      have ha := hl' a List.mem_cons_self
      apply (h a ha).bind
      intro b _
      apply ih _ fun c hc => hl' c (.tail a hc)
      cases b with
      | true =>
        intro c hc
        rcases List.mem_cons.mp hc with rfl | hc
        · exact ha
        · exact hkept c hc
      | false => exact hkept
  rw [List.filterM]
  apply (haux l [] (fun _ ha => ha) fun a ha => absurd ha List.not_mem_nil).bind
  intro kept hkept a ha
  exact hkept a (List.mem_reverse.mp ha)

theorem mem_of_filterM_eq_ok {test : α → Outcome Bool} {l kept : List α}
    (h : l.filterM test = .ok kept) : ∀ a ∈ kept, a ∈ l := by
  have hkept := @yields_filterM _ (fun _ => True) test l fun a _ => by
    cases test a <;> exact trivial
  exact hkept.result h

end Outcome

/-! ### Parts of an answer -/

namespace Json

open Outcome

variable {kind member : Json → Prop} {bad : Failure → Prop} {fields : List (String × Json)}
  {name : String} {j default a b : Json}

/-- What a record has in a field, if it has the field. -/
def MayHold (fields : List (String × Json)) (name : String) (kind : Json → Prop) : Prop :=
  ∀ j, fields.lookup name = some j → kind j

def Holds (fields : List (String × Json)) (name : String) (kind : Json → Prop) : Prop :=
  ∃ j, fields.lookup name = some j ∧ kind j

theorem mayHold_of_absent (h : (fields.lookup name).isNone = true) : MayHold fields name kind := by
  intro j hj
  rw [hj] at h
  cases h

inductive ListOf (member : Json → Prop) : Json → Prop where
  | list {items : List Json} : (∀ j ∈ items, member j) → ListOf member (.list items)

theorem ListOf.nil : ListOf member (.list []) := .list fun _ hj => absurd hj List.not_mem_nil

inductive IsText : Json → Prop where
  | text (s : String) : IsText (.text s)

inductive IsTextOrNone : Json → Prop where
  | text (s : String) : IsTextOrNone (.text s)
  | none {j : Json} : j.isTruthy = false → IsTextOrNone j

inductive Measure : Json → Prop where
  | number {q : Quantity} {x : Float} : q.toFloat? = some x → Measure (.number q)

theorem field_record (fields : List (String × Json)) (name : String) :
    field (.record fields) name = .ok ((fields.lookup name).getD .null) := rfl

theorem yields_fieldOr (hdefault : kind default) (h : MayHold fields name kind) :
    (fieldOr default (.record fields) name).Yields kind bad := by
  rw [fieldOr]
  cases hj : fields.lookup name with
  | none => exact hdefault
  | some j => exact h j hj

theorem yields_field (hnull : kind .null) (h : MayHold fields name kind) :
    (field (.record fields) name).Yields kind bad := yields_fieldOr hnull h

theorem MayHold.of_fieldOr (h : MayHold fields name kind) (hdefault : kind default)
    (hj : fieldOr default (.record fields) name = .ok j) : kind j := by
  have hyields := @yields_fieldOr _ (fun _ => True) _ _ _ hdefault h
  exact hyields.result hj

/-- Any field can be read where nothing is asked of it. -/
theorem yields_anyFieldOr (default : Json) (fields : List (String × Json)) (name : String) :
    (fieldOr default (.record fields) name).Yields (fun _ => True) bad :=
  yields_fieldOr trivial fun _ _ => trivial

theorem yields_anyField (fields : List (String × Json)) (name : String) :
    (field (.record fields) name).Yields (fun _ => True) bad := yields_anyFieldOr _ _ _

theorem yields_require (h : Holds fields name kind) :
    (require (.record fields) name).Yields kind bad := by
  obtain ⟨j, hj, hkind⟩ := h
  rw [require, hj]
  exact hkind

theorem yields_items (h : ListOf member j) :
    j.items.Yields (fun items => ∀ i ∈ items, member i) bad := by
  cases h with
  | list h => exact h

theorem yields_toText (h : IsTextOrNone j) : j.toText?.Yields (fun _ => True) bad := by
  unfold toText?
  cases h with
  | text s =>
    split
    · exact trivial
    · exact trivial
  | none h =>
    rw [h]
    exact trivial

theorem yields_minus (ha : Measure a) (hb : Measure b) :
    (a.minus b).Yields (fun _ => True) bad := by
  cases ha with
  | @number p x hp =>
    cases hb with
    | @number q y hq =>
      have hp : p.toFloat = .ok x := by rw [Quantity.toFloat, hp]; rfl
      have hq : q.toFloat = .ok y := by rw [Quantity.toFloat, hq]; rfl
      change (p.sub q).Yields _ _
      cases p with
      | real p => rw [Quantity.sub, Quantity.real_combine, hq]; exact trivial
      | int m =>
        cases q with
        | real q => rw [Quantity.sub, Quantity.combine_real, hp]; exact trivial
        | int n => exact trivial

theorem yields_excess (ha : Measure a) (hb : Measure b) :
    (a.excess b).Yields (fun _ => True) bad :=
  (yields_minus ha hb).bind fun _ _ => trivial

theorem yields_above (p q : Quantity) :
    ((Json.number p).above (.number q)).Yields (fun _ => True) bad := by
  unfold above
  exact trivial

end Json

end SlideOverflow
