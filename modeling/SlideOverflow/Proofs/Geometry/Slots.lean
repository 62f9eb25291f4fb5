import Mathlib.Data.List.Forall2
import SlideOverflow.Proofs.Geometry.Fit

/-! The slots of layouts on canvases of whole size. The emphasis layouts are left out, as their
insets are doubles. What a layout takes off a canvas is fixed, so a canvas can be too small for it,
and its slots then are less than empty; on a larger canvas, no slot gets smaller. -/
namespace SlideOverflow.Geometry

open Number

/-! ### Slots of whole size -/

structure WholeSlot where
  name : String
  width : Int
  height : Int
  position : SlotPosition
deriving DecidableEq

def WholeSlot.slot (s : WholeSlot) : Slot := ⟨s.name, .int s.width, .int s.height, s.position⟩

/-- The slots of a shape on a canvas of whole size, if there are slots of whole size. -/
private def LayoutShape.wholeSlots (width height : Int) : LayoutShape → List WholeSlot
  | .padded => [⟨"default", width - 112, height - 80, .full⟩]
  | .fullBleed => [⟨"default", width, height, .full⟩]
  | .columns =>
    [⟨"left", (width - 128) / 2, height - 80, .left⟩,
      ⟨"right", (width - 128) / 2, height - 80, .right⟩]
  | .columnsWithHeader =>
    [⟨"header", width - 112, 80, .top⟩, ⟨"left", (width - 128) / 2, height - 176, .left⟩,
      ⟨"right", (width - 128) / 2, height - 176, .right⟩]
  | .emphasis => []
  | .mediaLeft => [⟨"default", width / 2 - 56, height - 80, .right⟩]
  | .mediaRight => [⟨"default", width / 2 - 56, height - 80, .left⟩]

structure Grants (layout : String) (width height : Int) (slots : List WholeSlot) : Prop where
  area : ∃ granted, layoutArea layout ⟨.int width, .int height⟩ = .ok granted ∧
    granted.slots = slots.map WholeSlot.slot
  primary : ∃ s ∈ slots.head?,
    primarySlot layout ⟨.int width, .int height⟩ = .ok ⟨.int s.width, .int s.height⟩

section Granted

variable {shape : LayoutShape} {layout : String} {width height : Int}

private theorem LayoutShape.slots_whole (h : shape ≠ .emphasis) (width height : Int) :
    shape.slots ⟨.int width, .int height⟩ =
      .ok ((shape.wholeSlots width height).map WholeSlot.slot) := by
  have hhalf (n : Int) : n.fdiv 2 = n / 2 := Int.fdiv_eq_ediv_of_nonneg n (by decide)
  have hwidth : width - 56 - 56 = width - 112 := by omega
  have hheight : height - 40 - 40 = height - 80 := by omega
  have hcolumn : width - 56 - 56 - 16 = width - 128 := by omega
  have hbody : height - 40 - 40 - 80 - 16 = height - 176 := by omega
  cases shape with
  | emphasis => exact absurd rfl h
  | _ =>
    simp only [wholeSlots, List.map_cons, List.map_nil, WholeSlot.slot, ← hhalf, ← hcolumn, ← hbody,
      ← hwidth, ← hheight]
    rfl

/-- Two names alone stand for an emphasis layout. -/
private theorem LayoutShape.ofName_ne_emphasis (hfact : layout ≠ "fact")
    (hquote : layout ≠ "quote") :
    ofName layout ≠ .emphasis := by
  intro h
  rw [ofName] at h
  cases hlookup : knownLayouts.lookup layout with
  | none =>
    rw [hlookup] at h
    cases h
  | some shape =>
    rw [hlookup] at h
    obtain rfl : shape = .emphasis := h
    obtain ⟨front, rest, hsplit, -⟩ := List.lookup_eq_some_iff.mp hlookup
    have hmem : (layout, LayoutShape.emphasis) ∈ knownLayouts := by simp [hsplit]
    simp [knownLayouts, hfact, hquote] at hmem

/-- On every canvas of positive size, a layout grants the slots of its shape. -/
private theorem grants_wholeSlots (hfact : layout ≠ "fact") (hquote : layout ≠ "quote")
    (hwidth : 0 < width) (hheight : 0 < height) :
    Grants layout width height ((LayoutShape.ofName layout).wholeSlots width height) := by
  have hshape := LayoutShape.ofName_ne_emphasis hfact hquote
  have hpositive : (Quantity.int width).atMost 0 = false := by
    have hmost : (Quantity.int width).atMost 0 = decide (width ≤ 0) := Quantity.atMost_int width 0
    rw [hmost, decide_eq_false_iff_not, Int.not_le]
    exact hwidth
  obtain ⟨area, hprimary⟩ := exists_primarySlot_iff.mpr
    ⟨hpositive, hheight, fun h => absurd h hshape⟩
  obtain ⟨granted, hgranted, hfirst⟩ := Outcome.bind_eq_ok_iff.mp hprimary
  have hslots := (layoutArea_spec hgranted).2.2.1
  rw [LayoutShape.slots_whole hshape] at hslots
  have hwhole := (Except.ok.inj hslots).symm
  refine ⟨⟨granted, hgranted, hwhole⟩, ?_⟩
  rw [hwhole] at hfirst
  cases hcases : (LayoutShape.ofName layout).wholeSlots width height with
  | nil =>
    have hnil := LayoutShape.slots_whole hshape width height
    rw [hcases] at hnil
    exact absurd hnil LayoutShape.slots_ne_nil
  | cons s slots =>
    rw [hcases] at hfirst
    cases hfirst
    exact ⟨s, rfl, hprimary⟩

end Granted

/-! ### Small canvases -/

def LayoutShape.leastWidth : LayoutShape → Int
  | .fullBleed => 0
  | .columns | .columnsWithHeader => 128
  | _ => 112

def LayoutShape.leastHeight : LayoutShape → Int
  | .fullBleed => 0
  | .columnsWithHeader => 176
  | _ => 80

/-- How slots lie on a canvas. None is wider than the canvas, and of those only a header can be
higher. Columns, and a header and a column below it, leave room for the gap between them. Whether
there is room within the slots is up to the size of the canvas. -/
structure LieOn (shape : LayoutShape) (width height : Int) (slots : List WholeSlot) : Prop where
  width_le : ∀ s ∈ slots, s.width ≤ width
  height_le_iff : ∀ s ∈ slots, s.height ≤ height ↔ (s.name = "header" → 80 ≤ height)
  beside : ∀ s ∈ slots, ∀ t ∈ slots, s.name = "left" → t.name = "right" →
    s.width + 16 + t.width ≤ width
  below : ∀ s ∈ slots, ∀ t ∈ slots, s.name = "header" → t.name ≠ "header" →
    s.height + 16 + t.height ≤ height
  width_nonneg_iff : (∀ s ∈ slots, 0 ≤ s.width) ↔ shape.leastWidth ≤ width
  height_nonneg_iff : (∀ s ∈ slots, 0 ≤ s.height) ↔ shape.leastHeight ≤ height

private theorem LayoutShape.wholeSlots_lieOn {shape : LayoutShape} (hshape : shape ≠ .emphasis)
    {width : Int} (hwidth : 0 < width) (height : Int) :
    LieOn shape width height (shape.wholeSlots width height) := by
  cases shape with
  | emphasis => exact absurd rfl hshape
  | _ =>
    constructor <;> simp [wholeSlots, leastWidth, leastHeight] <;> omega

/-- The slots of a layout lie on a canvas of positive size, and none of them is less than empty if
and only if the canvas is as large as what the layout takes off it. -/
theorem slots_lieOn {layout : String} (hfact : layout ≠ "fact") (hquote : layout ≠ "quote")
    {width height : Int} (hwidth : 0 < width) (hheight : 0 < height) :
    ∃ slots, Grants layout width height slots ∧
      LieOn (LayoutShape.ofName layout) width height slots :=
  ⟨_, grants_wholeSlots hfact hquote hwidth hheight,
    LayoutShape.wholeSlots_lieOn (LayoutShape.ofName_ne_emphasis hfact hquote) hwidth height⟩

theorem slots_lieOn_of_header : ∃ slots, Grants "two-cols-header" 160 200 slots ∧
    LieOn .columnsWithHeader 160 200 slots :=
  slots_lieOn (by decide) (by decide) (by decide) (by decide)

/-- A canvas narrower than the insets, which is not empty and so is accepted. -/
theorem layoutArea_of_narrow :
    ∃ granted, layoutArea "default" ⟨100, 552⟩ = .ok granted ∧
      ∃ s ∈ granted.slots, s.width.less 0 = true := by
  decide +kernel

/-! ### Larger canvases -/

structure WholeSlot.Grows (s t : WholeSlot) : Prop where
  name_eq : s.name = t.name
  position_eq : s.position = t.position
  width_le : s.width ≤ t.width
  height_le : s.height ≤ t.height

private theorem LayoutShape.wholeSlots_grow (shape : LayoutShape)
    {width width' height height' : Int} (hwidth : width ≤ width') (hheight : height ≤ height') :
    List.Forall₂ WholeSlot.Grows (shape.wholeSlots width height)
      (shape.wholeSlots width' height') := by
  have hcolumn : (width - 128) / 2 ≤ (width' - 128) / 2 := by omega
  have hhalf : width / 2 - 56 ≤ width' / 2 - 56 := by omega
  cases shape with
  | padded => exact .cons ⟨rfl, rfl, by simpa, by simpa⟩ .nil
  | fullBleed => exact .cons ⟨rfl, rfl, hwidth, hheight⟩ .nil
  | columns =>
    exact .cons ⟨rfl, rfl, hcolumn, by simpa⟩ (.cons ⟨rfl, rfl, hcolumn, by simpa⟩ .nil)
  | columnsWithHeader =>
    refine .cons ⟨rfl, rfl, by simpa, Int.le_refl 80⟩ ?_
    exact .cons ⟨rfl, rfl, hcolumn, by simpa⟩ (.cons ⟨rfl, rfl, hcolumn, by simpa⟩ .nil)
  | emphasis => exact .nil
  | mediaLeft => exact .cons ⟨rfl, rfl, hhalf, by simpa⟩ .nil
  | mediaRight => exact .cons ⟨rfl, rfl, hhalf, by simpa⟩ .nil

structure HasColumns (width : Int) (slots : List WholeSlot) : Prop where
  exist : ∃ left ∈ slots, ∃ right ∈ slots, left.name = "left" ∧ right.name = "right"
  alike : ∀ left ∈ slots, ∀ right ∈ slots, left.name = "left" → right.name = "right" →
    left.width = right.width ∧ left.height = right.height ∧
      ∃ spare ∈ [(0 : Int), 1], left.width + 16 + right.width + spare = width - 56 - 56

private theorem LayoutShape.wholeSlots_hasColumns {shape : LayoutShape}
    (hshape : shape = .columns ∨ shape = .columnsWithHeader) (width height : Int) :
    HasColumns width (shape.wholeSlots width height) := by
  rcases hshape with rfl | rfl <;> constructor <;> simp [wholeSlots] <;> omega

def columnLayouts : List String := ["two-cols", "two-cols-header"]

private theorem LayoutShape.ofName_of_columns {layout : String} (h : layout ∈ columnLayouts) :
    ofName layout = .columns ∨ ofName layout = .columnsWithHeader := by
  rcases List.mem_pair.mp h with rfl | rfl
  · exact .inl rfl
  · exact .inr rfl

/-- A name that is not known stands for the default layout. -/
private theorem LayoutShape.ofName_of_unknown {layout : String}
    (h : layout ∉ knownLayouts.map (·.1)) : ofName layout = ofName "default" := by
  have hnone : knownLayouts.lookup layout = none := by
    rw [List.lookup_eq_none_iff]
    intro known hknown
    have hne : layout ≠ known.1 := by
      rintro rfl
      exact h (List.mem_map_of_mem hknown)
    simpa using hne
  rw [ofName, hnone]
  rfl

/-- On a larger canvas a layout grants the same slots, none of which is smaller. For a name
that is not known, they are the slots of the default layout; and columns share out what is there for
them. -/
theorem slots_grow {layout : String} (hfact : layout ≠ "fact") (hquote : layout ≠ "quote")
    {width width' height height' : Int} (hwidth : 0 < width) (hwidth' : width ≤ width')
    (hheight : 0 < height) (hheight' : height ≤ height') :
    ∃ slots slots', Grants layout width height slots ∧ Grants layout width' height' slots' ∧
      List.Forall₂ WholeSlot.Grows slots slots' ∧
      (layout ∉ knownLayouts.map (·.1) →
        Grants "default" width height slots ∧ Grants "default" width' height' slots') ∧
      (layout ∈ columnLayouts → HasColumns width slots ∧ HasColumns width' slots') := by
  have hgranted := grants_wholeSlots hfact hquote hwidth hheight
  have hgranted' := grants_wholeSlots hfact hquote (Int.lt_of_lt_of_le hwidth hwidth')
    (Int.lt_of_lt_of_le hheight hheight')
  refine ⟨_, _, hgranted, hgranted', LayoutShape.wholeSlots_grow _ hwidth' hheight', ?_, ?_⟩
  · intro hunknown
    rw [LayoutShape.ofName_of_unknown hunknown]
    exact ⟨grants_wholeSlots (by decide) (by decide) hwidth hheight,
      grants_wholeSlots (by decide) (by decide) (Int.lt_of_lt_of_le hwidth hwidth')
        (Int.lt_of_lt_of_le hheight hheight')⟩
  · intro hlayout
    have hshape := LayoutShape.ofName_of_columns hlayout
    exact ⟨LayoutShape.wholeSlots_hasColumns hshape width height,
      LayoutShape.wholeSlots_hasColumns hshape width' height'⟩

theorem slots_grow_of_odd :
    ∃ slots slots', Grants "two-cols" 981 552 slots ∧ Grants "two-cols" 1280 720 slots' ∧
      List.Forall₂ WholeSlot.Grows slots slots' ∧ HasColumns 981 slots := by
  obtain ⟨slots, slots', h, h', hgrow, -, hcolumns⟩ := @slots_grow "two-cols" (by decide)
    (by decide) 981 1280 552 720 (by decide) (by decide) (by decide) (by decide)
  exact ⟨slots, slots', h, h', hgrow, (hcolumns (by decide)).1⟩

end SlideOverflow.Geometry
