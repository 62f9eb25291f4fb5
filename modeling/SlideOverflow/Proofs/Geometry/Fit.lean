import SlideOverflow.Geometry.Layout

/-! Which canvases have a height, and on which of them a layout finds its slots. Whole numbers are
no trouble; what fails is bringing one to a double, or a double to a whole number. -/
namespace SlideOverflow.Geometry
open Number

/-! ### The height of a canvas -/

/-- Whether a canvas keeps the configured height: it has the configured width and the standard
ratio, or none. -/
def isConfigured (settings : Settings) (width : Quantity) (ratio : String) : Bool :=
  width.same (.int settings.canvasWidth) && (ratio == standardRatio || ratio == "")

/-- The height of a canvas. The one that follows from a ratio needs a width that is a double, and a
finite product. -/
inductive HasHeight (settings : Settings) (width : Quantity) (ratio : String) : Int → Prop where
  | configured (h : isConfigured settings width ratio = true) :
      HasHeight settings width ratio settings.canvasHeight
  | noRatio (h : isConfigured settings width ratio = false) (hr : readRatio? ratio = none) :
      HasHeight settings width ratio settings.canvasHeight
  | scaled {w h x : Float} {s : Scaled} (hs : isConfigured settings width ratio = false)
      (hr : readRatio? ratio = some (w, h)) (hx : width.toFloat? = some x)
      (hfinite : Scaled.ofFloat? (x * (h / w)) = some s) :
      HasHeight settings width ratio s.ceil

theorem canvasHeight_eq_ok_iff {settings : Settings} {width : Quantity} {ratio : String}
    {q : Quantity} : canvasHeight settings width ratio = .ok q ↔
      ∃ height, HasHeight settings width ratio height ∧ q = .int height := by
  cases hs : isConfigured settings width ratio with
  | true =>
    have hdef : canvasHeight settings width ratio = .ok (.int settings.canvasHeight) := if_pos hs
    rw [hdef]
    constructor
    · intro h
      exact ⟨_, .configured hs, (Except.ok.inj h).symm⟩
    · rintro ⟨height, hh, rfl⟩
      cases hh with
      | configured _ => rfl
      | noRatio h _ => exact absurd (hs.symm.trans h) (by decide)
      | scaled h _ _ _ => exact absurd (hs.symm.trans h) (by decide)
  | false =>
    rw [canvasHeight, if_neg (by rw [isConfigured] at hs; rw [hs]; exact Bool.false_ne_true)]
    cases hr : readRatio? ratio with
    | none =>
      constructor
      · intro h
        exact ⟨_, .noRatio hs hr, (Except.ok.inj h).symm⟩
      · rintro ⟨height, hh, rfl⟩
        cases hh with
        | configured h => exact absurd (hs.symm.trans h) (by decide)
        | noRatio _ _ => rfl
        | scaled _ h _ _ => exact absurd (hr.symm.trans h) (by simp)
    | some sides =>
      obtain ⟨w, h⟩ := sides
      have hscaled : (do return Quantity.int (← (← width.mul (.real (h / w))).ceil)) = Except.ok q ↔
          ∃ x s, width.toFloat? = some x ∧ Scaled.ofFloat? (x * (h / w)) = some s ∧
            q = .int s.ceil := by
        rw [Quantity.mul, Quantity.combine_real, Quantity.toFloat]
        cases width.toFloat? with
        | none => simp [Outcome.ofOption, Except.map, bind, Except.bind]
        | some x =>
          cases hz : Scaled.ofFloat? (x * (h / w)) with
          | none => simp [Outcome.ofOption, Except.map, bind, Except.bind, Quantity.ceil, hz]
          | some s =>
            simp [Outcome.ofOption, Except.map, bind, Except.bind, pure, Except.pure, Quantity.ceil,
              hz, eq_comm]
      refine hscaled.trans ⟨?_, ?_⟩
      · rintro ⟨x, s, hx, hfinite, rfl⟩
        exact ⟨_, .scaled hs hr hx hfinite, rfl⟩
      · rintro ⟨height, hh, rfl⟩
        cases hh with
        | configured h => exact absurd (hs.symm.trans h) (by decide)
        | noRatio _ h => exact absurd (hr.symm.trans h) (by simp)
        | scaled _ hr' hx hfinite =>
          cases hr.symm.trans hr'
          exact ⟨_, _, hx, hfinite, rfl⟩

/-! ### Slots -/

def IsDouble (n : Int) : Prop := (Quantity.intToFloat? n).isSome = true

instance (n : Int) : Decidable (IsDouble n) := inferInstanceAs (Decidable (_ = true))

theorem exists_toFloat_iff {n : Int} : (∃ x, (Quantity.int n).toFloat = .ok x) ↔ IsDouble n := by
  rw [IsDouble, Quantity.toFloat, Quantity.toFloat?]
  cases Quantity.intToFloat? n <;> simp [Outcome.ofOption]

/-- The height of the slots below a header, or of all slots where there is no header. -/
def LayoutShape.slotHeight (height : Int) : LayoutShape → Int
  | .fullBleed => height
  | .columnsWithHeader => height - 176
  | _ => height - 80

/-- Where the width of a slot is a double, its height has to be one too. This concerns the emphasis
layouts, and canvases whose width is a double. -/
def LayoutShape.Fits (shape : LayoutShape) (width : Quantity) (height : Int) : Prop :=
  match width with
  | .int n => shape = .emphasis → IsDouble n ∧ IsDouble (shape.slotHeight height)
  | .real _ => IsDouble (shape.slotHeight height)

private def LayoutShape.Divides (shape : LayoutShape) (canvas : Area) : Prop :=
  ∃ slots, shape.slots canvas = .ok slots ∧
    ∃ total, (slots.mapM Slot.area).bind Quantity.sum = .ok total

structure HaveRealWidth (slots : List Slot) (height : Int) : Prop where
  each : ∀ s ∈ slots, ∃ w, s.width = .real w ∧ (s.height = .int height ∨ s.height = .int 80)
  some : ∃ s ∈ slots, s.height = .int height

private theorem exists_sum {qs : List Quantity} (h : ∀ q ∈ qs, ∃ y, q = .real y) (a : Quantity)
    (ha : ∃ x, a.toFloat = .ok x) : ∃ total, qs.foldlM Quantity.add a = .ok total := by
  induction qs generalizing a with
  | nil => exact ⟨a, rfl⟩
  | cons q qs ih =>
    obtain ⟨x, hx⟩ := ha
    obtain ⟨y, rfl⟩ := h q List.mem_cons_self
    obtain ⟨total, ht⟩ := ih (fun q hq => h q (.tail _ hq)) (.real (x + y)) ⟨_, rfl⟩
    refine ⟨total, ?_⟩
    rw [List.foldlM_cons, Quantity.add, Quantity.combine_real, hx]
    exact ht

/-- Slots whose widths are doubles have areas if their heights can be doubles. -/
theorem HaveRealWidth.exists_areas_iff {slots : List Slot} {height : Int}
    (h : HaveRealWidth slots height) :
    (∃ total, (slots.mapM Slot.area).bind Quantity.sum = .ok total) ↔ IsDouble height := by
  have harea {s : Slot} {w : Float} {k : Int} (hw : s.width = .real w) (hk : s.height = .int k) :
      s.area = (Quantity.int k).toFloat.map fun y => .real (w * y) := by
    rw [Slot.area, hw, hk, Quantity.mul, Quantity.real_combine]
  constructor
  · rintro ⟨total, ht⟩
    obtain ⟨areas, hareas, _⟩ := Outcome.bind_eq_ok_iff.mp ht
    obtain ⟨s, hs, hk⟩ := h.some
    obtain ⟨w, hw, _⟩ := h.each s hs
    obtain ⟨q, hq⟩ := Outcome.exists_mapM_eq_ok_iff.mp ⟨areas, hareas⟩ s hs
    rw [harea hw hk] at hq
    obtain ⟨y, hy, _⟩ := Outcome.map_eq_ok_iff.mp hq
    exact exists_toFloat_iff.mp ⟨y, hy⟩
  · intro hdouble
    have heach : ∀ s ∈ slots, ∃ q, s.area = .ok q ∧ ∃ y, q = .real y := by
      intro s hs
      obtain ⟨w, hw, hk⟩ := h.each s hs
      obtain ⟨k, hk, hd⟩ : ∃ k, s.height = .int k ∧ IsDouble k := by
        rcases hk with hk | hk
        · exact ⟨height, hk, hdouble⟩
        · exact ⟨80, hk, by decide +kernel⟩
      obtain ⟨y, hy⟩ := exists_toFloat_iff.mpr hd
      refine ⟨.real (w * y), ?_, _, rfl⟩
      rw [harea hw hk, hy]
      rfl
    obtain ⟨areas, hareas, hreal⟩ := Outcome.exists_mapM_eq_ok heach
    rw [hareas]
    exact exists_sum hreal 0 (exists_toFloat_iff.mpr (by decide +kernel))

/-! ### Dividing a canvas -/

private theorem real_sub_int (x : Float) {n : Int} (h : IsDouble n) :
    ∃ y, (Quantity.real x).sub (.int n) = .ok (.real y) := by
  obtain ⟨y, hy⟩ := exists_toFloat_iff.mpr h
  exact ⟨x - y, by rw [Quantity.sub, Quantity.real_combine, hy]; rfl⟩

private theorem within_standard_real (x : Float) (height : Int) :
    ∃ w, Area.within ⟨.real x, .int height⟩ .standard = .ok ⟨.real w, .int (height - 80)⟩ := by
  obtain ⟨y, hy⟩ := @real_sub_int x 56 (by decide +kernel)
  obtain ⟨z, hz⟩ := @real_sub_int y 56 (by decide +kernel)
  have hheight : height - 80 = height - 40 - 40 := by omega
  refine ⟨z, ?_⟩
  rw [hheight]
  change (do
    let width ← (← (Quantity.real x).sub (.int 56)).sub (.int 56)
    return Area.mk width (.int (height - 40 - 40))) = _
  rw [hy]
  change (do
    let width ← (Quantity.real y).sub (.int 56)
    return Area.mk width (.int (height - 40 - 40))) = _
  rw [hz]
  rfl

/-- The insets of the emphasis layouts are doubles, and make one of every width. -/
theorem LayoutShape.emphasis_slots : ∃ a b, ∀ width height,
    LayoutShape.emphasis.slots ⟨width, .int height⟩ = width.toFloat.map fun x =>
      [⟨"default", .real (x - a - b), .int (height - 80), .full⟩] := by
  obtain ⟨x, hx⟩ := exists_toFloat_iff.mpr (by decide +kernel : IsDouble 56)
  have hadd : Quantity.add (.int 56) (.real 50) = .ok (.real (x + 50)) := by
    rw [Quantity.add, Quantity.combine_real, hx]
    rfl
  have hpadding : Padding.emphasis =
      .ok { Padding.standard with left := .real (x + 50), right := .real (x + 50) } := by
    change (do
      return { Padding.standard with
        left := ← Quantity.add (.int 56) (.real 50)
        right := ← Quantity.add (.int 56) (.real 50) }) = _
    rw [hadd]
    rfl
  refine ⟨x + 50, x + 50, fun width height => ?_⟩
  have hheight : height - 80 = height - 40 - 40 := by omega
  simp only [LayoutShape.slots, hpadding, bind, Except.bind, Area.within, Quantity.sub,
    Quantity.combine_real, hheight]
  cases width.toFloat <;> rfl

private theorem haveRealWidth_of_all {slots : List Slot} {height : Int} (hne : slots ≠ [])
    (h : ∀ s ∈ slots, (∃ w, s.width = .real w) ∧ s.height = .int height) :
    HaveRealWidth slots height := by
  obtain ⟨s, hs⟩ := List.exists_mem_of_ne_nil slots hne
  exact ⟨fun t ht => (h t ht).1.imp fun w hw => ⟨hw, .inl (h t ht).2⟩, s, hs, (h s hs).2⟩

/-- On a canvas whose width is a double, all slots are of such a width. -/
theorem LayoutShape.slots_real (shape : LayoutShape) (x : Float) (height : Int) :
    ∃ slots, shape.slots ⟨.real x, .int height⟩ = .ok slots ∧
      HaveRealWidth slots (shape.slotHeight height) := by
  obtain ⟨w, hw⟩ := within_standard_real x height
  obtain ⟨c, hc⟩ := @real_sub_int w 16 (by decide +kernel)
  have hgap : (Quantity.real w).sub columnGap = .ok (.real c) := hc
  have hbody : height - 80 - 80 - 16 = height - 176 := by omega
  have hsides : height - 40 - 40 = height - 80 := by omega
  cases shape with
  | padded =>
    refine ⟨_, by rw [slots, hw]; rfl, haveRealWidth_of_all (List.cons_ne_nil _ _) ?_⟩
    simp [slotHeight]
  | fullBleed =>
    refine ⟨_, rfl, haveRealWidth_of_all (List.cons_ne_nil _ _) ?_⟩
    simp [slotHeight]
  | columns =>
    refine ⟨_, by simp only [slots, hw, bind, Except.bind, hgap]; rfl,
      haveRealWidth_of_all (List.cons_ne_nil _ _) ?_⟩
    simp [slotHeight, Quantity.halfDown]
  | columnsWithHeader =>
    refine ⟨[⟨"header", .real w, headerHeight, .top⟩,
      ⟨"left", (Quantity.real c).halfDown, .int (height - 176), .left⟩,
      ⟨"right", (Quantity.real c).halfDown, .int (height - 176), .right⟩], ?_, ?_, ?_⟩
    · simp only [slots, hw, bind, Except.bind, hgap]
      rw [← hbody]
      rfl
    · simp only [List.mem_cons, List.not_mem_nil, or_false]
      rintro s (rfl | rfl | rfl)
      · exact ⟨w, rfl, .inr rfl⟩
      · exact ⟨_, rfl, .inl rfl⟩
      · exact ⟨_, rfl, .inl rfl⟩
    · exact ⟨_, .tail _ List.mem_cons_self, rfl⟩
  | emphasis =>
    obtain ⟨a, b, hab⟩ := LayoutShape.emphasis_slots
    refine ⟨_, by rw [hab]; rfl, haveRealWidth_of_all (List.cons_ne_nil _ _) ?_⟩
    simp [slotHeight]
  | mediaLeft =>
    obtain ⟨y, hy⟩ :=
      @real_sub_int (if x.isInf then 0 / 0 else (x / 2).floor) 56 (by decide +kernel)
    have hhalf : (Quantity.real x).halfDown.sub Padding.standard.right = .ok (.real y) := hy
    refine ⟨[⟨"default", .real y, .int (height - 80), .right⟩], ?_,
      haveRealWidth_of_all (List.cons_ne_nil _ _) (by simp [slotHeight])⟩
    simp only [slots, bind, Except.bind, hhalf]
    rw [← hsides]
    rfl
  | mediaRight =>
    obtain ⟨y, hy⟩ :=
      @real_sub_int (if x.isInf then 0 / 0 else (x / 2).floor) 56 (by decide +kernel)
    have hhalf : (Quantity.real x).halfDown.sub Padding.standard.left = .ok (.real y) := hy
    refine ⟨[⟨"default", .real y, .int (height - 80), .left⟩], ?_,
      haveRealWidth_of_all (List.cons_ne_nil _ _) (by simp [slotHeight])⟩
    simp only [slots, bind, Except.bind, hhalf]
    rw [← hsides]
    rfl

theorem LayoutShape.slots_ne_nil {shape : LayoutShape} {canvas : Area} :
    shape.slots canvas ≠ .ok [] := by
  intro h
  cases shape with
  | fullBleed => cases h
  | padded =>
    obtain ⟨_, _, h⟩ := Outcome.bind_eq_ok_iff.mp h
    cases h
  | columns =>
    obtain ⟨_, _, h⟩ := Outcome.bind_eq_ok_iff.mp h
    obtain ⟨_, _, h⟩ := Outcome.bind_eq_ok_iff.mp h
    cases h
  | columnsWithHeader =>
    obtain ⟨_, _, h⟩ := Outcome.bind_eq_ok_iff.mp h
    obtain ⟨_, _, h⟩ := Outcome.bind_eq_ok_iff.mp h
    obtain ⟨_, _, h⟩ := Outcome.bind_eq_ok_iff.mp h
    obtain ⟨_, _, h⟩ := Outcome.bind_eq_ok_iff.mp h
    cases h
  | emphasis =>
    obtain ⟨_, _, h⟩ := Outcome.bind_eq_ok_iff.mp h
    cases h
  | mediaLeft =>
    obtain ⟨_, _, h⟩ := Outcome.bind_eq_ok_iff.mp h
    obtain ⟨_, _, h⟩ := Outcome.bind_eq_ok_iff.mp h
    obtain ⟨_, _, h⟩ := Outcome.bind_eq_ok_iff.mp h
    cases h
  | mediaRight =>
    obtain ⟨_, _, h⟩ := Outcome.bind_eq_ok_iff.mp h
    obtain ⟨_, _, h⟩ := Outcome.bind_eq_ok_iff.mp h
    obtain ⟨_, _, h⟩ := Outcome.bind_eq_ok_iff.mp h
    cases h

private theorem LayoutShape.divides_iff (shape : LayoutShape) (width : Quantity) (height : Int) :
    shape.Divides ⟨width, .int height⟩ ↔ shape.Fits width height := by
  cases width with
  | real x =>
    obtain ⟨slots, hs, hreal⟩ := shape.slots_real x height
    rw [Divides, hs]
    exact ⟨fun ⟨_, h, ht⟩ => hreal.exists_areas_iff.mp (by cases h; exact ht),
      fun h => ⟨slots, rfl, hreal.exists_areas_iff.mpr h⟩⟩
  | int n =>
    cases shape with
    | emphasis =>
      obtain ⟨a, b, hab⟩ := LayoutShape.emphasis_slots
      rw [Divides, hab]
      have hreal (x : Float) : HaveRealWidth
          [⟨"default", .real (x - a - b), .int (height - 80), .full⟩] (height - 80) :=
        haveRealWidth_of_all (List.cons_ne_nil _ _) (by simp)
      constructor
      · rintro ⟨slots, hs, ht⟩ -
        obtain ⟨x, hx, rfl⟩ := Outcome.map_eq_ok_iff.mp hs
        exact ⟨exists_toFloat_iff.mp ⟨x, hx⟩, (hreal x).exists_areas_iff.mp ht⟩
      · intro h
        obtain ⟨hn, hheight⟩ := h rfl
        obtain ⟨x, hx⟩ := exists_toFloat_iff.mpr hn
        exact ⟨_, by rw [hx]; rfl, (hreal x).exists_areas_iff.mpr hheight⟩
    | _ => exact ⟨fun _ h => (nomatch h), fun _ => ⟨_, rfl, _, rfl⟩⟩

/-- What a layout grants are the slots of its shape, on a canvas of positive size. -/
theorem layoutArea_spec {layout : String} {canvas : Area} {granted : LayoutArea}
    (h : layoutArea layout canvas = .ok granted) :
    canvas.width.atMost 0 = false ∧ canvas.height.atMost 0 = false ∧
      (LayoutShape.ofName layout).slots canvas = .ok granted.slots ∧
      ∃ total, (granted.slots.mapM Slot.area).bind Quantity.sum = .ok total := by
  rw [layoutArea] at h
  split at h
  · cases h
  · next hsize =>
    obtain ⟨hwidth, hheight⟩ := Bool.or_eq_false_iff.mp (Bool.eq_false_iff.mpr hsize)
    obtain ⟨slots, hslots, h⟩ := Outcome.bind_eq_ok_iff.mp h
    obtain ⟨areas, hareas, h⟩ := Outcome.bind_eq_ok_iff.mp h
    obtain ⟨total, htotal, h⟩ := Outcome.bind_eq_ok_iff.mp h
    cases h
    exact ⟨hwidth, hheight, hslots, total, Outcome.bind_eq_ok_iff.mpr ⟨areas, hareas, htotal⟩⟩

/-- A layout has a first slot on a canvas of positive size that its shape divides. -/
theorem exists_primarySlot_iff {layout : String} {width : Quantity} {height : Int} :
    (∃ area, primarySlot layout ⟨width, .int height⟩ = .ok area) ↔
      width.atMost 0 = false ∧ 0 < height ∧ (LayoutShape.ofName layout).Fits width height := by
  have hpositive : ((0 : Int) < height) ↔ (Quantity.int height).atMost 0 = false := by
    have h0 : (Quantity.int height).atMost 0 = decide (height ≤ 0) := Quantity.atMost_int height 0
    rw [h0, decide_eq_false_iff_not, Int.not_le]
  rw [← LayoutShape.divides_iff, hpositive]
  constructor
  · rintro ⟨area, h⟩
    obtain ⟨granted, hgranted, -⟩ := Outcome.bind_eq_ok_iff.mp h
    obtain ⟨hw, hh, hslots, htotal⟩ := layoutArea_spec hgranted
    exact ⟨hw, hh, granted.slots, hslots, htotal⟩
  · rintro ⟨hw, hh, slots, hslots, total, htotal⟩
    have harea : layoutArea layout ⟨width, .int height⟩ =
        if width.atMost 0 || (Quantity.int height).atMost 0 then
          .error (.emptyCanvas width (.int height))
        else do
          let slots ← (LayoutShape.ofName layout).slots ⟨width, .int height⟩
          let areas ← slots.mapM Slot.area
          return ⟨layout, slots, ← Quantity.sum areas⟩ := by
      rw [layoutArea]
      split <;> rfl
    cases slots with
    | nil => exact absurd hslots LayoutShape.slots_ne_nil
    | cons slot slots =>
      obtain ⟨areas, hareas, htotal⟩ := Outcome.bind_eq_ok_iff.mp htotal
      refine ⟨⟨slot.width, slot.height⟩, ?_⟩
      rw [primarySlot, harea, hw, hh, if_neg (by decide), hslots]
      simp only [bind, Except.bind, hareas, htotal]
      rfl

/-- A canvas on which a layout has a place for text: it has a height, its size is positive, and the
slots fit. -/
def Suits (settings : Settings) (width : Quantity) (ratio layout : String) : Prop :=
  width.atMost 0 = false ∧ ∃ height, HasHeight settings width ratio height ∧ 0 < height ∧
    (LayoutShape.ofName layout).Fits width height

theorem exists_slot_iff {settings : Settings} {width : Quantity} {ratio layout : String} :
    (∃ height, canvasHeight settings width ratio = .ok height ∧
        ∃ area, primarySlot layout ⟨width, height⟩ = .ok area) ↔
      Suits settings width ratio layout := by
  constructor
  · rintro ⟨q, hq, hslot⟩
    obtain ⟨height, hheight, rfl⟩ := canvasHeight_eq_ok_iff.mp hq
    obtain ⟨hw, hpositive, hfits⟩ := exists_primarySlot_iff.mp hslot
    exact ⟨hw, height, hheight, hpositive, hfits⟩
  · rintro ⟨hw, height, hheight, hpositive, hfits⟩
    exact ⟨_, canvasHeight_eq_ok_iff.mpr ⟨height, hheight, rfl⟩,
      exists_primarySlot_iff.mpr ⟨hw, hpositive, hfits⟩⟩

end SlideOverflow.Geometry
