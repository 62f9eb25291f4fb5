import SlideOverflow.Forecast.Predictor
import SlideOverflow.Proofs.Geometry.Fit
import SlideOverflow.Proofs.Number.Doubles

/-! Estimates of widths. An estimate compares the width of a text with the slot that the layout has
for it, which is the one that reading the slide has found. It comes to an end for every text that
can be held. -/
namespace SlideOverflow.Forecast

open Number SlideOverflow.Geometry

/-! ### Calibrations -/

section Standard

variable {canvas : Area} {c : Calibration}

private theorem Calibration.standard_spec (h : standard canvas = .ok c) :
    c.canvas = canvas ∧ c.fontSizes = standardFontSizes ∧ canvas.within .standard = .ok c.content ∧
      c.lineHeights = standardLineHeights := by
  obtain ⟨content, hcontent, heq⟩ := Outcome.bind_eq_ok_iff.mp h
  cases heq
  exact ⟨rfl, rfl, hcontent, rfl⟩

/-- The space for text is the primary slot, by whichever way it is looked for. -/
private theorem Calibration.available_eq (h : standard canvas = .ok c) (layout : String) :
    c.available (some layout) = primarySlot layout canvas := by
  obtain ⟨hcanvas, -, hcontent, -⟩ := standard_spec h
  rw [available, primarySlot, hcanvas]
  cases layoutArea layout canvas with
  | error e => rfl
  | ok granted =>
    obtain ⟨name, slots, total⟩ := granted
    cases slots with
    | nil => exact hcontent.symm
    | cons slot slots => rfl

def TextRole.IsWhole (role : TextRole) : Prop :=
  ∃ size : Nat, size ≤ 48 ∧ standardFontSizes.lookup role = some (.int size)

theorem TextRole.isWhole_ofLevel (level : Int) : (TextRole.ofLevel level).IsWhole := by
  rw [ofLevel]
  split
  · exact ⟨48, by decide, rfl⟩
  · split
    · exact ⟨36, by decide, rfl⟩
    · split
      · exact ⟨28, by decide, rfl⟩
      · exact ⟨24, by decide, rfl⟩

theorem TextRole.isWhole_code : TextRole.code.IsWhole := ⟨14, by decide, rfl⟩

/-- Line heights are multiples of the font size that are no whole numbers. -/
private theorem Calibration.exists_lineHeight (h : standard canvas = .ok c) (role : TextRole) :
    ∃ x, c.lineHeight role = .real x := by
  obtain ⟨-, -, -, hheights⟩ := standard_spec h
  rw [lineHeight, hheights]
  cases role <;> exact ⟨_, rfl⟩

end Standard

/-! ### Widths -/

private theorem textWidth_ok {length size : Nat} (hlength : length < 2 ^ 63) (hsize : size ≤ 48) :
    ∃ x, textWidth length (.int size) = .ok (.real x) ∧ InUnits (217 : Nat) x := by
  have hproduct : length * size < 2 ^ 81 := by
    calc
      length * size ≤ length * 48 := Nat.mul_le_mul_left _ hsize
      _ < 2 ^ 81 := by omega
  obtain ⟨x, hx, hunits⟩ := exists_intToFloat hproduct (by omega) (by omega)
  have hglyph : InUnits (-53) 0.6 := ⟨by omega, by decide +kernel⟩
  have hwidth := inUnits_mul hunits hglyph (by omega) (by omega) (by omega) (by omega)
  refine ⟨x * 0.6, ?_, hwidth.mono (by omega)⟩
  have hfloat : (Quantity.int ((length * size : Nat) : Int)).toFloat = .ok x := by
    rw [Quantity.toFloat, Quantity.toFloat?, hx]
    rfl
  have hint : Quantity.mul (.int length) (.int size) =
      .ok (.int ((length * size : Nat) : Int)) := by
    rw [Quantity.mul_int, Int.natCast_mul]
  rw [textWidth, hint]
  change (Quantity.int ((length * size : Nat) : Int)).mul (.real 0.6) = _
  rw [Quantity.mul, Quantity.combine_real, hfloat]
  rfl

inductive SlotWidth (n : Int) : Int → Prop where
  | full : SlotWidth n n
  | padded : SlotWidth n (n - 56 - 56)
  | column : SlotWidth n ((n - 56 - 56 - 16).fdiv 2)
  | beside : SlotWidth n (n.fdiv 2 - 56)

private theorem SlotWidth.of_mem_slots {shape : LayoutShape} {n height : Int} {slots : List Slot}
    (h : shape.slots ⟨.int n, .int height⟩ = .ok slots) {slot : Slot} (hslot : slot ∈ slots)
    {m : Int} (hm : slot.width = .int m) : SlotWidth n m := by
  cases shape with
  | padded =>
    cases h
    rw [List.mem_singleton.mp hslot] at hm
    cases hm
    exact .padded
  | fullBleed =>
    cases h
    rw [List.mem_singleton.mp hslot] at hm
    cases hm
    exact .full
  | columns =>
    cases h
    rcases List.mem_pair.mp hslot with rfl | rfl
    all_goals
      cases hm
      exact .column
  | columnsWithHeader =>
    cases h
    rcases List.mem_cons.mp hslot with rfl | hslot
    · cases hm
      exact .padded
    · rcases List.mem_pair.mp hslot with rfl | rfl
      all_goals
        cases hm
        exact .column
  | emphasis =>
    -- The insets of this shape are doubles, and so is a width without them.
    obtain ⟨a, b, hab⟩ := LayoutShape.emphasis_slots
    rw [hab] at h
    obtain ⟨x, -, rfl⟩ := Outcome.map_eq_ok_iff.mp h
    rw [List.mem_singleton.mp hslot] at hm
    cases hm
  | mediaLeft =>
    cases h
    rw [List.mem_singleton.mp hslot] at hm
    cases hm
    exact .beside
  | mediaRight =>
    cases h
    rw [List.mem_singleton.mp hslot] at hm
    cases hm
    exact .beside

/-- A slot is not much narrower than nothing, whatever is taken off a canvas that has a width. -/
private theorem slots_width {shape : LayoutShape} {width : Quantity} {height : Int}
    {slots : List Slot}
    (hwidth : width.atMost 0 = false) (h : shape.slots ⟨width, .int height⟩ = .ok slots)
    {slot : Slot} (hslot : slot ∈ slots) {m : Int} (hm : slot.width = .int m) : -112 ≤ m := by
  cases width with
  | real x =>
    -- Here all slots are as wide as a double.
    obtain ⟨slots', hslots', hreal⟩ := shape.slots_real x height
    cases h.symm.trans hslots'
    obtain ⟨w, hw, -⟩ := hreal.each slot hslot
    cases hm.symm.trans hw
  | int n =>
    have hpositive : 0 < n := by
      have hmost := Quantity.atMost_int n 0
      rw [show (Quantity.int n).atMost (.int 0) = false from hwidth] at hmost
      simpa using hmost.symm
    have hhalf (k : Int) : k.fdiv 2 = k / 2 := Int.fdiv_eq_ediv_of_nonneg k (by decide)
    cases SlotWidth.of_mem_slots h hslot hm with
    | full => omega
    | padded => omega
    | column =>
      rw [hhalf]
      omega
    | beside =>
      rw [hhalf]
      omega

private theorem primarySlot_width {layout : String} {width : Quantity} {height : Int} {area : Area}
    (h : primarySlot layout ⟨width, .int height⟩ = .ok area) {m : Int} (hm : area.width = .int m) :
    -112 ≤ m := by
  obtain ⟨granted, hgranted, hslot⟩ := Outcome.bind_eq_ok_iff.mp h
  obtain ⟨hwidth, -, hslots, -⟩ := layoutArea_spec hgranted
  split at hslot
  · next slot slots heq =>
    cases hslot
    have hmem : slot ∈ granted.slots := by
      rw [heq]
      exact List.mem_cons_self
    exact slots_width hwidth hslots hmem hm
  · next heq =>
    rw [heq] at hslots
    exact absurd hslots LayoutShape.slots_ne_nil

/-- A slot that a text is too wide for has the width of a double. -/
private theorem exists_toFloat_of_less {layout : String} {width : Quantity} {height : Int}
    {area : Area} (h : primarySlot layout ⟨width, .int height⟩ = .ok area) {x : Float} {e : Nat}
    (hx : InUnits e x) (hlo : 28 ≤ e) (hhi : e ≤ 432) (hless : area.width.less (.real x) = true) :
    ∃ y, area.width.toFloat = .ok y := by
  cases hwidth : area.width with
  | real y => exact ⟨y, rfl⟩
  | int m =>
    rw [hwidth] at hless
    have hlow := primarySlot_width h hwidth
    have hhigh := hx.lt_of_less (by omega) hless
    have hpow : 2 ^ 81 ≤ 2 ^ (53 + e) := Nat.pow_le_pow_right (by decide) (by omega)
    have habs : m.natAbs < 2 ^ (53 + e) := by
      have hcast : ((2 ^ (53 + e) : Nat) : Int) = 2 ^ (53 + e) := by exact_mod_cast rfl
      omega
    exact exists_toFloat_iff.mpr (intToFloat_isSome habs (by omega) (by omega))

/-- A text of a role has an estimate in the slot of a layout. By how much it is too wide is not a
whole number, and so it is with the slot where the text is too wide for it. -/
theorem estimate_ok {width : Quantity} {height : Int} {c : Calibration} {layout text : String}
    {role : TextRole} {area : Area}
    (hc : Calibration.standard ⟨width, .int height⟩ = .ok c) (hrole : role.IsWhole)
    (hlength : text.length < 2 ^ 63) (hslot : primarySlot layout ⟨width, .int height⟩ = .ok area) :
    ∃ e, c.estimate text role (some layout) = .ok e ∧ e.available = area ∧
      (e.overflows = true → ∃ x y, e.excess = .real x ∧ area.width.toFloat = .ok y) := by
  obtain ⟨-, hsizes, -, -⟩ := Calibration.standard_spec hc
  obtain ⟨size, hle, hsize⟩ := hrole
  have hfont : c.fontSize role = .ok (.int size) := by
    rw [Calibration.fontSize, hsizes, hsize]
    rfl
  obtain ⟨x, hwidth, hunits⟩ := textWidth_ok hlength hle
  obtain ⟨y, hlineHeight⟩ := Calibration.exists_lineHeight hc role
  have hdouble : IsDouble size :=
    intToFloat_isSome (k := 81) (Nat.lt_of_le_of_lt hle (by decide)) (by omega) (by omega)
  obtain ⟨z, hz⟩ := exists_toFloat_iff.mpr hdouble
  have hheight : Quantity.mul (.int size) (c.lineHeight role) = .ok (.real (z * y)) := by
    rw [hlineHeight, Quantity.mul, Quantity.combine_real, hz]
    rfl
  obtain ⟨font, hshort⟩ : ∃ font, c.font role = .ok font :=
    ⟨_, Outcome.bind_eq_ok_iff.mpr ⟨_, hfont, Outcome.bind_eq_ok_iff.mpr ⟨z, hz, rfl⟩⟩⟩
  have havailable := (Calibration.available_eq hc layout).trans hslot
  have hestimate (excess : Quantity)
      (hexcess : (if area.width.less (.real x) then (Quantity.real x).sub area.width else .ok 0) =
        .ok excess) : c.estimate text role (some layout) =
          .ok ⟨text, font, .real x, .real (z * y), area, area.width.less (.real x), excess⟩ := by
    refine Outcome.bind_eq_ok_iff.mpr ⟨_, hfont, Outcome.bind_eq_ok_iff.mpr ⟨_, hwidth, ?_⟩⟩
    refine Outcome.bind_eq_ok_iff.mpr ⟨_, hheight, Outcome.bind_eq_ok_iff.mpr ⟨_, havailable, ?_⟩⟩
    dsimp only
    split at hexcess
    · next hless =>
      rw [if_pos hless]
      exact Outcome.bind_eq_ok_iff.mpr ⟨_, hexcess, Outcome.bind_eq_ok_iff.mpr ⟨_, hshort, rfl⟩⟩
    · next hless =>
      rw [if_neg hless]
      exact Outcome.bind_eq_ok_iff.mpr ⟨_, hexcess, Outcome.bind_eq_ok_iff.mpr ⟨_, hshort, rfl⟩⟩
  cases hless : area.width.less (.real x) with
  | false =>
    refine ⟨_, hestimate 0 (by rw [hless]; rfl), rfl, fun hover => ?_⟩
    cases hless.symm.trans hover
  | true =>
    obtain ⟨w, hw⟩ := exists_toFloat_of_less hslot hunits (by omega) (by omega) hless
    have hexcess : (Quantity.real x).sub area.width = .ok (.real (x - w)) := by
      rw [Quantity.sub, Quantity.real_combine, hw]
      rfl
    exact ⟨_, hestimate _ (by rw [hless]; exact hexcess), rfl, fun _ => ⟨_, w, rfl, hw⟩⟩

end SlideOverflow.Forecast
