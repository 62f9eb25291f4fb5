import Mathlib.Data.Int.Order.Basic
import Mathlib.Order.MinMax
import SlideOverflow.Proofs.Inspection.Snapshot

/-! Elements that are measured in whole numbers: when they are shown, how far their boxes run past a
frame, and what each class of overflow comes to on them. -/
namespace SlideOverflow.Inspection

open Number Outcome Json

/-! ### Decisions -/

/-- A test that comes to a result, which is positive exactly when something holds. -/
def Decides (test : Outcome Bool) (p : Prop) : Prop := ∃ b, test = .ok b ∧ (b = true ↔ p)

section Decisions

variable {test rest : Outcome Bool} {p q : Prop} {b : Bool}

theorem Decides.of_yields (h : test.Yields (fun _ => True) fun _ => False) :
    Decides test (test = .ok true) := by
  obtain ⟨b, rfl, -⟩ := h.exists_ok
  exact ⟨b, rfl, by simp⟩

theorem Decides.imp_iff (h : Decides test p) (hpq : p ↔ q) : Decides test q := by
  obtain ⟨b, hb, hp⟩ := h
  exact ⟨b, hb, hp.trans hpq⟩

theorem Decides.ok (h : b = true ↔ p) : Decides (.ok b) p := ⟨b, rfl, h⟩

/-- A test that ends negatively where another one is positive. -/
theorem Decides.unless (h : Decides test p) (hrest : Decides rest q) :
    Decides (test >>= fun b => if b = true then return false else rest) (¬ p ∧ q) := by
  obtain ⟨b, rfl, hp⟩ := h
  cases b with
  | true => exact ⟨false, rfl, by simp [← hp]⟩
  | false => exact hrest.imp_iff (by simp [← hp])

/-- A test that ends positively where another one is positive. -/
theorem Decides.or (h : Decides test p) (hrest : Decides rest q) :
    Decides (test >>= fun b => if b = true then return true else rest) (p ∨ q) := by
  obtain ⟨b, rfl, hp⟩ := h
  cases b with
  | true => exact ⟨true, rfl, by simp [← hp]⟩
  | false => exact hrest.imp_iff (by simp [← hp])

theorem Decides.not (h : Decides test p) : Decides (test >>= fun b => return !b) (¬ p) := by
  obtain ⟨b, rfl, hp⟩ := h
  exact ⟨!b, rfl, by simp [← hp]⟩

private theorem decides_anyOf {test : Json → Outcome Bool} {p : Json → Prop} {l : List Json}
    (h : ∀ j ∈ l, Decides (test j) (p j)) : Decides (anyOf test l) (∃ j ∈ l, p j) := by
  induction l with
  | nil => exact .ok (by simp)
  | cons j l ih =>
    rw [anyOf]
    exact ((h j List.mem_cons_self).or (ih fun k hk => h k (.tail j hk))).imp_iff (by simp)

end Decisions

/-! ### Elements that are shown -/

inductive Conceals : Json → Prop where
  | transparent {fields : List (String × Json)} {opacity : Json} :
      fields.lookup "opacity" = some opacity → isTransparent opacity = .ok true →
      Conceals (.record fields)
  | hidden {fields : List (String × Json)} :
      fields.lookup "visibility" = some (.text "hidden") → Conceals (.record fields)

/-- An element that is shown: it takes part in the layout, is neither hidden nor transparent, has
been revealed, and no ancestor conceals it. -/
structure Visible (fields : List (String × Json)) : Prop where
  displayed : fields.lookup "display" ≠ some (.text "none")
  visible : fields.lookup "visibility" ≠ some (.text "hidden")
  opacity : ∀ j, fields.lookup "opacity" = some j → isTransparent j ≠ .ok true
  revealed : ∀ j, fields.lookup "hiddenMarker" = some j → j.isTruthy = false
  ancestors : ∀ items, fields.lookup "ancestors" = some (.list items) → ∀ a ∈ items, ¬ Conceals a

section Shown

variable {fields : List (String × Json)}

private theorem decides_field {name s : String} :
    Decides (.ok (((fields.lookup name).getD .null).isText s))
      (fields.lookup name = some (.text s)) := by
  refine .ok ?_
  rw [isText_iff]
  cases fields.lookup name <;> simp

private theorem decides_transparent (h : MayHold fields "opacity" Opacity) :
    Decides (isTransparent ((fields.lookup "opacity").getD .null))
      (∃ j, fields.lookup "opacity" = some j ∧ isTransparent j = .ok true) := by
  cases hj : fields.lookup "opacity" with
  | none => exact .ok (by simp)
  | some j => exact (Decides.of_yields (yields_isTransparent (h j hj))).imp_iff (by simp)

private theorem decides_hides {ancestor : Json} (h : ListedAncestor ancestor) :
    Decides (hides ancestor) (Conceals ancestor) := by
  cases h with
  | @record fields hopacity =>
    refine ((decides_transparent hopacity).or decides_field).imp_iff ⟨?_, ?_⟩
    · rintro (⟨j, hj, htransparent⟩ | hhidden)
      · exact .transparent hj htransparent
      · exact .hidden hhidden
    · rintro (⟨hj, htransparent⟩ | hhidden)
      · exact .inl ⟨_, hj, htransparent⟩
      · exact .inr hhidden

private theorem decides_isShown (h : StyledFields fields) :
    Decides (isShown (.record fields)) (Visible fields) := by
  have hmarker : Decides (.ok ((fields.lookup "hiddenMarker").getD .null).isTruthy)
      (∃ j, fields.lookup "hiddenMarker" = some j ∧ j.isTruthy = true) := by
    refine .ok ?_
    cases fields.lookup "hiddenMarker" <;> simp [isTruthy]
  obtain ⟨items, hitems, hlisted, hnone⟩ : ∃ items,
      ((fields.lookup "ancestors").getD (.list [])).items = .ok items ∧
        (∀ a ∈ items, ListedAncestor a) ∧
        ((∃ a ∈ items, Conceals a) ↔ ∃ items, fields.lookup "ancestors" = some (.list items) ∧
          ∃ a ∈ items, Conceals a) := by
    cases hj : fields.lookup "ancestors" with
    | none => exact ⟨[], rfl, by simp, by simp⟩
    | some j =>
      cases h.ancestors j hj with
      | list hlisted => exact ⟨_, rfl, hlisted, by simp⟩
  have hancestors : Decides
      (((fields.lookup "ancestors").getD (.list [])).items >>= fun items =>
        anyOf hides items >>= fun b => return !b) (¬ ∃ a ∈ items, Conceals a) := by
    rw [hitems]
    exact (decides_anyOf fun a ha => decides_hides (hlisted a ha)).not
  refine (decides_field.unless (decides_field.unless ((decides_transparent h.opacity).unless
    (hmarker.unless hancestors)))).imp_iff ?_
  rw [hnone]
  constructor
  · rintro ⟨hdisplay, hvisibility, htransparent, hmarker, hancestors⟩
    refine ⟨hdisplay, hvisibility, ?_, ?_, ?_⟩
    · exact fun j hj ht => htransparent ⟨j, hj, ht⟩
    · intro j hj
      simpa using fun ht => hmarker ⟨j, hj, ht⟩
    · exact fun items hitems a ha hconceals => hancestors ⟨items, hitems, a, ha, hconceals⟩
  · rintro ⟨hdisplay, hvisibility, htransparent, hmarker, hancestors⟩
    refine ⟨hdisplay, hvisibility, ?_, ?_, ?_⟩
    · exact fun ⟨j, hj, ht⟩ => htransparent j hj ht
    · rintro ⟨j, hj, ht⟩
      rw [hmarker j hj] at ht
      cases ht
    · exact fun ⟨items, hitems, a, ha, hconceals⟩ => hancestors items hitems a ha hconceals

end Shown

/-! ### Boxes -/

structure Box where
  left : Int
  top : Int
  right : Int
  bottom : Int
  width : Int
  height : Int
deriving DecidableEq, Repr

namespace Box

def fields (b : Box) : List (String × Json) :=
  [("left", .ofInt b.left), ("top", .ofInt b.top), ("right", .ofInt b.right),
    ("bottom", .ofInt b.bottom), ("width", .ofInt b.width), ("height", .ofInt b.height)]

def edges (b : Box) : Edges := ⟨.ofInt b.left, .ofInt b.top, .ofInt b.right, .ofInt b.bottom⟩

/-- How far a box runs past the left, top, right and bottom edge of a frame; zero where it does
not. -/
def past (frame box : Box) : List Int :=
  [max 0 (frame.left - box.left), max 0 (frame.top - box.top), max 0 (box.right - frame.right),
    max 0 (box.bottom - frame.bottom)]

def overflow (frame box : Box) : Edges where
  left := .ofInt (max 0 (frame.left - box.left))
  top := .ofInt (max 0 (frame.top - box.top))
  right := .ofInt (max 0 (box.right - frame.right))
  bottom := .ofInt (max 0 (box.bottom - frame.bottom))

def Crosses (frame : Box) (t : Int) (box : Box) : Prop :=
  t < frame.left - box.left ∨ t < frame.top - box.top ∨ t < box.right - frame.right ∨
    t < box.bottom - frame.bottom

theorem crosses_iff {frame box : Box} {t : Int} (ht : 0 ≤ t) :
    frame.Crosses t box ↔ ∃ n ∈ frame.past box, t < n := by
  have hneg : ¬ t < 0 := Int.not_lt.mpr ht
  simp only [Crosses, past, List.mem_cons, List.not_mem_nil, or_false, exists_eq_or_imp,
    exists_eq_left, lt_max_iff, hneg, false_or]

end Box

inductive TellsBox (b : Box) : Json → Prop where
  | record {fields : List (String × Json)} :
      (∀ f ∈ b.fields, fields.lookup f.1 = some f.2) → TellsBox b (.record fields)

inductive BoxOrNone : Json → Prop where
  | box {b : Box} {j : Json} : TellsBox b j → BoxOrNone j
  | none {j : Json} : j.isTruthy = false → BoxOrNone j

section Boxes

variable {frame box : Box} {j k : Json}

theorem TellsBox.require (h : TellsBox box j) :
    j.require "left" = .ok (.ofInt box.left) ∧ j.require "top" = .ok (.ofInt box.top) ∧
      j.require "right" = .ok (.ofInt box.right) ∧ j.require "bottom" = .ok (.ofInt box.bottom) ∧
      j.require "width" = .ok (.ofInt box.width) ∧
      j.require "height" = .ok (.ofInt box.height) := by
  cases h with
  | @record fields h =>
    have hfield {name : String} {n : Json} (hn : (name, n) ∈ box.fields) :
        (Json.record fields).require name = .ok n := by
      rw [Json.require, h _ hn]
      rfl
    refine ⟨?_, ?_, ?_, ?_, ?_, ?_⟩ <;> exact hfield (by simp [Box.fields])

theorem TellsBox.isTruthy (h : TellsBox box j) : j.isTruthy = true := by
  cases h with
  | @record fields h =>
    have hleft := h _ (List.mem_cons_self : ("left", .ofInt box.left) ∈ box.fields)
    cases fields with
    | nil => cases hleft
    | cons f fields => rfl

/-- What counts as present is a box. -/
private theorem tellsBox_of_isTruthy {fields : List (String × Json)} {name : String}
    (h : MayHold fields name BoxOrNone)
    (htruthy : ((fields.lookup name).getD .null).isTruthy = true) :
    ∃ b, fields.lookup name = some ((fields.lookup name).getD .null) ∧
      TellsBox b ((fields.lookup name).getD .null) := by
  cases hj : fields.lookup name with
  | none =>
    rw [hj] at htruthy
    cases htruthy
  | some j =>
    rw [hj] at htruthy
    cases h j hj with
    | box hbox => exact ⟨_, rfl, hbox⟩
    | none hnone =>
      rw [Option.getD_some, hnone] at htruthy
      cases htruthy

theorem TellsBox.edges (h : TellsBox box j) : edges j = .ok box.edges := by
  simp only [Inspection.edges, h.require, ok_bind]
  rfl

theorem TellsBox.hasExtent (h : TellsBox box j) :
    hasExtent j = .ok (!(decide (box.width = 0) && decide (box.height = 0))) := by
  have hzero (n : Int) : (Json.ofInt n).same (.number 0) = decide (n = 0) := same_int n 0
  simp only [Inspection.hasExtent, h.isTruthy, h.require, ok_bind, hzero]
  cases decide (box.width = 0) <;> rfl

theorem TellsBox.overflowPast (hj : TellsBox frame j) (hk : TellsBox box k) :
    overflowPast j k = .ok (.int (max 0 (frame.left - box.left)),
      .int (max 0 (frame.top - box.top)), .int (max 0 (box.right - frame.right)),
      .int (max 0 (box.bottom - frame.bottom))) := by
  simp only [Inspection.overflowPast, hj.require, hk.require, ok_bind, Json.ofInt, excess_int]
  rfl

end Boxes

/-! ### Elements -/

inductive IsWhole : Json → Prop where
  | int (n : Int) : IsWhole (.ofInt n)

structure WholeFields (fields : List (String × Json)) : Prop extends
    DescribedFields fields, StyledFields fields where
  sizes : ∀ name ∈ ["clientWidth", "clientHeight", "scrollWidth", "scrollHeight"],
    MayHold fields name IsWhole
  rect : MayHold fields "rect" BoxOrNone
  textRect : MayHold fields "textRect" BoxOrNone

inductive WholeElement : Json → Prop where
  | record {fields : List (String × Json)} : WholeFields fields → WholeElement (.record fields)

/-- A visible element that has a size, and its box. -/
inductive Inspected (box : Box) : Json → Prop where
  | record {fields : List (String × Json)} {rect : Json} :
      Visible fields → fields.lookup "rect" = some rect → TellsBox box rect →
      ¬ (box.width = 0 ∧ box.height = 0) → Inspected box (.record fields)

def amounts : Measurement → List Json
  | .text _ _ excess => [excess.width, excess.height]
  | .element _ _ overflow => [overflow.left, overflow.top, overflow.right, overflow.bottom]
  | .scroll _ _ _ excess => [excess]

def exceeds (t : Int) (issue : Issue) : Bool :=
  (amounts issue.measurement).any fun
    | .number (.int n) => decide (t < n)
    | _ => false

/-- A judgement at every threshold that is not negative: it finds nothing, or an issue that does
not depend on the threshold, where one of its amounts is above it. No amount is negative. -/
inductive Gauged (judge : Int → Outcome (Option Issue)) : Prop where
  | never : (∀ t, 0 ≤ t → judge t = .ok none) → Gauged judge
  | above (issue : Issue) (ns : List Int) :
      amounts issue.measurement = ns.map .ofInt → (∀ n ∈ ns, 0 ≤ n) →
      (∀ t, 0 ≤ t → judge t = .ok (if exceeds t issue then some issue else none)) → Gauged judge

theorem exceeds_iff {issue : Issue} (ns : List Int)
    (h : amounts issue.measurement = ns.map .ofInt) {t : Int} :
    exceeds t issue = true ↔ ∃ n ∈ ns, t < n := by
  rw [exceeds, h]
  simp [Json.ofInt]

/-- No amount is above a threshold as long as it is the double zero. -/
private theorem zero_not_above {t : Int} (h : 0 ≤ t) :
    (Json.number (.real 0)).above (.ofInt t) = .ok false := by
  have hzero : Scaled.ofFloat? 0 = some ⟨false, 0, -1074⟩ := by decide +kernel
  have hnumerator : Scaled.signedNumerator ⟨false, 0, -1074⟩ = 0 := by decide +kernel
  have hle : 0 ≤ t * (Scaled.denominator ⟨false, 0, -1074⟩ : Int) :=
    Int.mul_nonneg h (Int.natCast_nonneg _)
  have hcompare : Scaled.compareInt t ⟨false, 0, -1074⟩ ≠ .lt := by
    rw [Scaled.compareInt, hnumerator]
    intro hlt
    rw [compare_lt_iff_lt] at hlt
    omega
  change Except.ok (Quantity.less (.int t) (.real 0)) = _
  simp only [Quantity.less, Quantity.compare?, hzero]
  simpa using hcompare

section Elements

variable {fields : List (String × Json)} {F box : Box} {frame : Json} (h : WholeFields fields)

include h

theorem WholeFields.exists_sizes : ∃ clientWidth clientHeight scrollWidth scrollHeight : Int,
    measure (.record fields) "clientWidth" = .ok (.ofInt clientWidth) ∧
      measure (.record fields) "clientHeight" = .ok (.ofInt clientHeight) ∧
      measure (.record fields) "scrollWidth" = .ok (.ofInt scrollWidth) ∧
      measure (.record fields) "scrollHeight" = .ok (.ofInt scrollHeight) := by
  have hsize (name : String)
      (hname : name ∈ ["clientWidth", "clientHeight", "scrollWidth", "scrollHeight"]) :
      ∃ n : Int, measure (.record fields) name = .ok (.ofInt n) := by
    rw [measure, fieldOr]
    cases hj : fields.lookup name with
    | none => exact ⟨0, rfl⟩
    | some j =>
      cases h.sizes name hname j hj with
      | int n => exact ⟨n, rfl⟩
  obtain ⟨clientWidth, hcw⟩ := hsize "clientWidth" (by decide)
  obtain ⟨clientHeight, hch⟩ := hsize "clientHeight" (by decide)
  obtain ⟨scrollWidth, hsw⟩ := hsize "scrollWidth" (by decide)
  obtain ⟨scrollHeight, hsh⟩ := hsize "scrollHeight" (by decide)
  exact ⟨clientWidth, clientHeight, scrollWidth, scrollHeight, hcw, hch, hsw, hsh⟩

theorem WholeFields.exists_describe : ∃ e, describe (.record fields) = .ok e := by
  obtain ⟨e, he, -⟩ := (yields_describe h.toDescribedFields).exists_ok
  exact ⟨e, he⟩

/-- What is compared for the text of an element: two excesses, which are both the double zero where
nothing is compared. -/
private theorem exists_clipping (hframe : TellsBox F frame) :
    ∃ container content x y, clipping frame (.record fields) = .ok (container, content, x, y) ∧
      ((x = .real 0 ∧ y = .real 0) ∨ ∃ m n : Int, x = .int m ∧ y = .int n ∧ 0 ≤ m ∧ 0 ≤ n) := by
  obtain ⟨clientWidth, clientHeight, scrollWidth, scrollHeight, hcw, hch, hsw, hsh⟩ :=
    h.exists_sizes
  obtain ⟨clipped, hclips, -⟩ := Decides.of_yields (yields_clips fields)
  simp only [clipping, hcw, hch, hsw, hsh, hclips, ok_bind, field_record, Json.ofInt, excess_int]
  cases clipped with
  | true => exact ⟨_, _, _, _, rfl, .inr ⟨_, _, rfl, rfl, Int.le_max_left .., Int.le_max_left ..⟩⟩
  | false =>
    by_cases hcompared : (((fields.lookup "hasDirectText").getD .null).isTruthy &&
        ((fields.lookup "textRect").getD .null).isTruthy && frame.isTruthy) = true
    · simp only [Bool.and_eq_true] at hcompared
      obtain ⟨rect, -, hrect⟩ := tellsBox_of_isTruthy h.textRect hcompared.1.2
      rw [if_neg (by simp), if_pos (by simp only [hcompared, Bool.and_self])]
      simp only [hrect.require, hframe.require, ok_bind, Json.ofInt, excess_int]
      exact ⟨_, _, _, _, rfl, .inr ⟨_, _, rfl, rfl, Int.le_max_left .., Int.le_max_left ..⟩⟩
    · rw [if_neg (by simp), if_neg hcompared]
      exact ⟨_, _, _, _, rfl, .inl ⟨rfl, rfl⟩⟩

theorem textIssue_gauged (hframe : TellsBox F frame) :
    Gauged fun t => textIssue? (.ofInt t) frame (.record fields) := by
  obtain ⟨container, content, x, y, hclipping, hexcess⟩ := exists_clipping h hframe
  obtain ⟨e, he⟩ := h.exists_describe
  rcases hexcess with ⟨rfl, rfl⟩ | ⟨m, n, rfl, rfl, hm, hn⟩
  · refine .never fun t ht => ?_
    simp only [textIssue?, hclipping, ok_bind, zero_not_above ht]
    rfl
  · refine .above ⟨e, .text container content ⟨.ofInt m, .ofInt n⟩, none⟩ [m, n] rfl
      (by simp [hm, hn]) fun t _ => ?_
    simp only [textIssue?, hclipping, ok_bind, he, Json.ofInt, above_int, exceeds, amounts,
      List.any_cons, List.any_nil, Bool.or_false]
    split <;> rfl

/-- A visible element that has a size is judged by its box. -/
theorem elementIssue_of_inspected (hframe : TellsBox F frame)
    (hbox : Inspected box (.record fields)) :
    ∃ e, describe (.record fields) = .ok e ∧ ∀ t : Int,
      elementIssue? (.ofInt t) frame (.record fields) = .ok
        (if exceeds t ⟨e, .element F.edges box.edges (F.overflow box), none⟩ then
          some ⟨e, .element F.edges box.edges (F.overflow box), none⟩ else none) := by
  obtain ⟨e, he⟩ := h.exists_describe
  refine ⟨e, he, fun t => ?_⟩
  cases hbox with
  | @record _ rect hvisible hrect hbox hsize =>
    obtain ⟨shown, hshown, hiff⟩ := decides_isShown h.toStyledFields
    have hextent : (!(decide (box.width = 0) && decide (box.height = 0))) = true := by
      rw [← Bool.decide_and, ← decide_not]
      exact decide_eq_true hsize
    simp only [elementIssue?, hshown, hiff.mpr hvisible, ok_bind, field_record, hrect,
      Option.getD_some, hbox.hasExtent, hextent, hframe.overflowPast hbox, hframe.edges,
      hbox.edges, he, Quantity.larger_int, Json.ofInt, above_int]
    have hpast : decide (t < max (max (max (max 0 (F.left - box.left)) (max 0 (F.top - box.top)))
        (max 0 (box.right - F.right))) (max 0 (box.bottom - F.bottom))) =
        exceeds t ⟨e, .element F.edges box.edges (F.overflow box), none⟩ := by
      rw [Bool.eq_iff_iff, decide_eq_true_iff, exceeds_iff (F.past box) rfl]
      simp only [Box.past, List.mem_cons, List.not_mem_nil, or_false, exists_eq_or_imp,
        exists_eq_left, lt_max_iff, or_assoc]
    rw [hpast]
    cases exceeds t ⟨e, .element F.edges box.edges (F.overflow box), none⟩ <;> rfl

/-- Other elements have no issue. -/
theorem elementIssue_of_not_inspected (frame : Json)
    (hbox : ∀ box, ¬ Inspected box (.record fields)) (t : Int) :
    elementIssue? (.ofInt t) frame (.record fields) = .ok none := by
  obtain ⟨shown, hshown, hiff⟩ := decides_isShown h.toStyledFields
  simp only [elementIssue?, hshown, ok_bind, field_record]
  cases shown with
  | false => rfl
  | true =>
    cases htruthy : ((fields.lookup "rect").getD .null).isTruthy with
    | false =>
      simp only [hasExtent, htruthy]
      rfl
    | true =>
      obtain ⟨box, hrect, htells⟩ := tellsBox_of_isTruthy h.rect htruthy
      have hsize : box.width = 0 ∧ box.height = 0 := by
        by_contra hsize
        exact hbox box (.record (hiff.mp rfl) hrect htells hsize)
      simp only [htells.hasExtent, hsize, ok_bind]
      rfl

theorem elementIssue_gauged (hframe : TellsBox F frame) :
    Gauged fun t => elementIssue? (.ofInt t) frame (.record fields) := by
  by_cases hinspected : ∃ box, Inspected box (.record fields)
  · obtain ⟨box, hbox⟩ := hinspected
    obtain ⟨e, -, hjudge⟩ := elementIssue_of_inspected h hframe hbox
    exact .above _ (F.past box) rfl (by simp [Box.past]) fun t _ => hjudge t
  · exact .never fun t _ => elementIssue_of_not_inspected h frame (not_exists.mp hinspected) t

/-- A scrollbar is found only on an axis on which the content is larger than the container. -/
theorem exists_scrollIssue : ∃ found, scrollIssue? (.record fields) = .ok found ∧
    ∀ issue, found = some issue →
      ∃ n : Int, amounts issue.measurement = [.ofInt n] ∧ 0 < n := by
  obtain ⟨clientWidth, clientHeight, scrollWidth, scrollHeight, hcw, hch, hsw, hsh⟩ :=
    h.exists_sizes
  obtain ⟨e, he⟩ := h.exists_describe
  have hscrolls (a b : Int) (style : Json) : scrolls (.number (.int a)) (.number (.int b)) style =
      .ok (decide (b < a) && style.isOneOf ["scroll", "auto"]) := by
    rw [scrolls, above_int]
    rfl
  simp only [scrollIssue?, hcw, hch, hsw, hsh, he, ok_bind, field_record, Json.ofInt, minus_int,
    hscrolls, Quantity.larger_int]
  generalize hvertical : (decide (clientHeight < scrollHeight) &&
    ((fields.lookup "overflowY").getD .null).isOneOf ["scroll", "auto"]) = vertical
  generalize hhorizontal : (decide (clientWidth < scrollWidth) &&
    ((fields.lookup "overflowX").getD .null).isOneOf ["scroll", "auto"]) = horizontal
  cases vertical with
  | false =>
    cases horizontal with
    | false => exact ⟨_, rfl, fun issue hissue => nomatch hissue⟩
    | true =>
      have hwider : clientWidth < scrollWidth := by
        simpa using (Bool.and_eq_true_iff.mp hhorizontal).1
      refine ⟨_, rfl, ?_⟩
      rintro _ ⟨⟩
      exact ⟨scrollWidth - clientWidth, rfl, by omega⟩
  | true =>
    have hhigher : clientHeight < scrollHeight := by
      simpa using (Bool.and_eq_true_iff.mp hvertical).1
    cases horizontal with
    | false =>
      refine ⟨_, rfl, ?_⟩
      rintro _ ⟨⟩
      exact ⟨scrollHeight - clientHeight, rfl, by omega⟩
    | true =>
      refine ⟨_, rfl, ?_⟩
      rintro _ ⟨⟩
      exact ⟨max (scrollWidth - clientWidth) (scrollHeight - clientHeight), rfl, by omega⟩

end Elements

end SlideOverflow.Inspection
