import SlideOverflow.Inspection.Overflow
import SlideOverflow.Proofs.Attribution.Located
import SlideOverflow.Proofs.Inspection.Parts

/-! Well-formed snapshots. The issues of such a snapshot are found, and each of them is on an
element that is described in texts. -/
namespace SlideOverflow.Inspection

open Number Outcome Json Attribution

variable {bad : Failure → Prop}

inductive Rectangle : Json → Prop where
  | record {fields : List (String × Json)} :
      (∀ name ∈ ["left", "top", "right", "bottom", "width", "height"],
        Holds fields name Measure) → Rectangle (.record fields)

inductive RectangleOrNone : Json → Prop where
  | rectangle {j : Json} : Rectangle j → RectangleOrNone j
  | none {j : Json} : j.isTruthy = false → RectangleOrNone j

inductive Opacity : Json → Prop where
  | measure {j : Json} : Measure j → Opacity j
  | other {j : Json} : (∀ q, j ≠ .number q) → Opacity j

inductive ListedAncestor : Json → Prop where
  | record {fields : List (String × Json)} : MayHold fields "opacity" Opacity →
      ListedAncestor (.record fields)

structure ElementFields (fields : List (String × Json)) : Prop where
  tag : MayHold fields "tag" IsText
  className : MayHold fields "className" IsTextOrNone
  text : MayHold fields "text" IsTextOrNone
  source : MayHold fields "src" IsTextOrNone
  opacity : MayHold fields "opacity" Opacity
  ancestors : MayHold fields "ancestors" (ListOf ListedAncestor)
  sizes : ∀ name ∈ ["clientWidth", "clientHeight", "scrollWidth", "scrollHeight"],
    MayHold fields name Measure
  rect : MayHold fields "rect" RectangleOrNone
  textRect : MayHold fields "textRect" RectangleOrNone

structure DescribedFields (fields : List (String × Json)) : Prop where
  tag : MayHold fields "tag" IsText
  className : MayHold fields "className" IsTextOrNone
  text : MayHold fields "text" IsTextOrNone
  source : MayHold fields "src" IsTextOrNone

structure StyledFields (fields : List (String × Json)) : Prop where
  opacity : MayHold fields "opacity" Opacity
  ancestors : MayHold fields "ancestors" (ListOf ListedAncestor)

private theorem ElementFields.described {fields : List (String × Json)} (h : ElementFields fields) :
    DescribedFields fields :=
  ⟨h.tag, h.className, h.text, h.source⟩

private theorem ElementFields.styled {fields : List (String × Json)} (h : ElementFields fields) :
    StyledFields fields :=
  ⟨h.opacity, h.ancestors⟩

inductive ListedElement : Json → Prop where
  | record {fields : List (String × Json)} : ElementFields fields → ListedElement (.record fields)

/-- A snapshot of a slide, or null where the slide is gone. -/
inductive WellFormedSnapshot : Json → Prop where
  | null : WellFormedSnapshot .null
  | record {fields : List (String × Json)} : MayHold fields "frame" RectangleOrNone →
      MayHold fields "elements" (ListOf ListedElement) →
      MayHold fields "invalidSelectors" (ListOf IsText) → WellFormedSnapshot (.record fields)

private theorem yields_side {rect : Json} (h : Rectangle rect) {name : String}
    (hname : name ∈ ["left", "top", "right", "bottom", "width", "height"]) :
    (rect.require name).Yields Measure bad := by
  cases h with
  | record h => exact yields_require (h name hname)

theorem RectangleOrNone.of_isTruthy {rect : Json} (h : RectangleOrNone rect)
    (htruthy : rect.isTruthy = true) : Rectangle rect := by
  cases h with
  | rectangle h => exact h
  | none h => rw [h] at htruthy; cases htruthy

theorem yields_isTransparent {opacity : Json} (h : Opacity opacity) :
    (isTransparent opacity).Yields (fun _ => True) bad := by
  cases h with
  | measure h =>
    cases h with
    | @number q x hq =>
      have hfloat : q.toFloat = .ok x := by rw [Quantity.toFloat, hq]; rfl
      rw [isTransparent, hfloat]
      exact trivial
  | other h =>
    cases opacity with
    | number q => exact absurd rfl (h q)
    | _ => exact trivial

private theorem yields_hides {ancestor : Json} (h : ListedAncestor ancestor) :
    (hides ancestor).Yields (fun _ => True) bad := by
  have hnull : Opacity .null := .other fun _ h => nomatch h
  cases h with
  | record hopacity =>
    apply (yields_field hnull hopacity).bind
    intro opacity ho
    apply (yields_isTransparent ho).bind
    intro transparent _
    split
    · exact trivial
    · exact (yields_anyField _ _).bind fun _ _ => trivial

private theorem yields_anyOf {test : Json → Outcome Bool} {l : List Json}
    (h : ∀ j ∈ l, (test j).Yields (fun _ => True) bad) :
    (anyOf test l).Yields (fun _ => True) bad := by
  induction l with
  | nil => exact trivial
  | cons j l ih =>
    rw [anyOf]
    apply (h j List.mem_cons_self).bind
    intro found _
    cases found with
    | true => exact trivial
    | false => exact ih fun k hk => h k (.tail j hk)

/-! ### Elements -/

/-- A text stays a text, and what counts as none becomes null. -/
private theorem present_text {j : Json} (h : IsTextOrNone j) :
    j.present = .null ∨ ∃ text, j.present = .text text := by
  rw [present]
  cases h with
  | text s =>
    split
    · exact .inr ⟨s, rfl⟩
    · exact .inl rfl
  | none h =>
    rw [h]
    exact .inl rfl

private theorem measure_zero : Measure (.number 0) := .number (by rfl)

private theorem yields_selectorOf {tag id className : Json} (htag : IsText tag)
    (hclass : IsTextOrNone className) :
    (selectorOf tag id className).Yields (fun _ => True) bad := by
  have hclasses : (classesOf className).Yields (fun _ => True) bad := by
    unfold classesOf
    cases hclass with
    | text s => exact trivial
    | none h =>
      split
      · exact trivial
      · rw [h]
        exact trivial
  cases htag with
  | text name =>
    rw [selectorOf]
    split
    · exact trivial
    · apply hclasses.bind
      intro classes _
      cases classes with
      | nil => exact trivial
      | cons c classes => exact trivial

theorem yields_clips (fields : List (String × Json)) :
    (clips (.record fields)).Yields (fun _ => True) bad := by
  have hclipped : (["overflow", "overflowX", "overflowY"].anyM fun name => do
      return (← (Json.record fields).field name).isOneOf ["hidden", "clip"]).Yields
        (fun _ => True) bad := by
    apply yields_anyM
    intro name _
    exact (yields_anyField fields name).bind fun _ _ => trivial
  apply hclipped.bind
  intro clipped _
  split
  · exact trivial
  · exact (yields_anyField fields "textOverflow").bind fun _ _ => trivial

private def FindsDescribed (found : Option Issue) : Prop :=
  ∀ issue, found = some issue → Described issue.element

private theorem FindsDescribed.none : FindsDescribed none := fun _ h => nomatch h

private theorem FindsDescribed.some {e : Element} (he : Described e) (m : Measurement) :
    FindsDescribed (some ⟨e, m, Option.none⟩) := by
  intro issue hissue
  cases hissue
  exact he

private theorem yields_hasExtent {rect : Json} (h : RectangleOrNone rect) :
    (hasExtent rect).Yields (fun extended => extended = true → Rectangle rect) bad := by
  rw [hasExtent]
  split
  · exact fun hfalse => nomatch hfalse
  · next htruthy =>
    have hrect := h.of_isTruthy (by simpa using htruthy)
    apply (yields_side hrect (by decide)).bind
    intro width _
    split
    · exact (yields_side hrect (by decide)).bind fun _ _ _ => hrect
    · exact fun _ => hrect

private theorem yields_edges {rect : Json} (h : Rectangle rect) :
    (edges rect).Yields (fun _ => True) bad := by
  apply (yields_side h (by decide)).bind
  intro _ _
  apply (yields_side h (by decide)).bind
  intro _ _
  apply (yields_side h (by decide)).bind
  intro _ _
  exact (yields_side h (by decide)).bind fun _ _ => trivial

/-- The excess of a side of a rectangle over the same side of another one, and what follows. -/
private theorem yields_sideExcess {α : Type} {kind : α → Prop} {r r' : Json} (h : Rectangle r)
    (h' : Rectangle r') {name : String}
    (hname : name ∈ ["left", "top", "right", "bottom", "width", "height"])
    {f : Quantity → Outcome α} (hf : ∀ x, (f x).Yields kind bad) :
    (do
      let side ← r.require name
      let side' ← r'.require name
      let x ← side.excess side'
      f x).Yields kind bad := by
  apply (yields_side h hname).bind
  intro side hside
  apply (yields_side h' hname).bind
  intro side' hside'
  exact (yields_excess hside hside').bind fun x _ => hf x

private theorem yields_overflowPast {frame rect : Json} (hframe : Rectangle frame)
    (hrect : Rectangle rect) : (overflowPast frame rect).Yields (fun _ => True) bad := by
  apply yields_sideExcess hframe hrect (by decide)
  intro left
  apply yields_sideExcess hframe hrect (by decide)
  intro top
  apply yields_sideExcess hrect hframe (by decide)
  intro right
  apply yields_sideExcess hrect hframe (by decide)
  intro bottom
  exact trivial

private theorem yields_scrolls {content container : Json} (style : Json) (ha : Measure content)
    (hb : Measure container) : (scrolls content container style).Yields (fun _ => True) bad := by
  cases ha with
  | number _ =>
    cases hb with
    | number _ => exact (yields_above _ _).bind fun _ _ => trivial

section Elements

variable {fields : List (String × Json)}

theorem yields_describe (h : DescribedFields fields) :
    (describe (.record fields)).Yields Described bad := by
  apply (yields_fieldOr (.text "") h.tag).bind
  intro tag htag
  apply (yields_anyField fields "id").bind
  intro id _
  apply (yields_field (.none rfl) h.className).bind
  intro className hclass
  apply (yields_field (.none rfl) h.text).bind
  intro text htext
  have hrest {source : Json} (hsource : IsTextOrNone source) : (do
      return {
        tag
        selector := ← selectorOf tag id className
        className := className.present
        id := id.present
        text := text.present
        source := source.present } : Outcome Element).Yields Described bad := by
    apply (yields_selectorOf htag hclass).bind
    intro selector _
    cases htag with
    | text name => exact ⟨⟨name, rfl⟩, present_text htext, present_text hsource⟩
  split
  · exact (yields_field (.none rfl) h.source).bind fun _ => hrest
  · exact hrest (.none rfl)

private theorem yields_isShown (h : StyledFields fields) :
    (isShown (.record fields)).Yields (fun _ => True) bad := by
  apply (yields_anyField fields "display").bind
  intro display _
  split
  · exact trivial
  apply (yields_anyField fields "visibility").bind
  intro visibility _
  split
  · exact trivial
  apply (yields_field (.other fun _ h => nomatch h) h.opacity).bind
  intro opacity hopacity
  apply (yields_isTransparent hopacity).bind
  intro transparent _
  split
  · exact trivial
  apply (yields_anyField fields "hiddenMarker").bind
  intro marker _
  split
  · exact trivial
  apply (yields_fieldOr .nil h.ancestors).bind
  intro ancestors hancestors
  apply (yields_items hancestors).bind
  intro listed hlisted
  exact (yields_anyOf fun j hj => yields_hides (hlisted j hj)).bind fun _ _ => trivial

variable (h : ElementFields fields)

include h

private theorem yields_measure {name : String}
    (hname : name ∈ ["clientWidth", "clientHeight", "scrollWidth", "scrollHeight"]) :
    (measure (.record fields) name).Yields Measure bad :=
  yields_fieldOr measure_zero (h.sizes name hname)

/-! ### Issues -/

private theorem yields_clipping {frame : Json} (hframe : RectangleOrNone frame) :
    (clipping frame (.record fields)).Yields (fun _ => True) bad := by
  apply (yields_measure h (by decide)).bind
  intro clientWidth hcw
  apply (yields_measure h (by decide)).bind
  intro clientHeight hch
  apply (yields_measure h (by decide)).bind
  intro scrollWidth hsw
  apply (yields_measure h (by decide)).bind
  intro scrollHeight hsh
  apply (yields_clips fields).bind
  intro clipped _
  split
  · apply (yields_excess hsw hcw).bind
    intro x _
    exact (yields_excess hsh hch).bind fun _ _ => trivial
  apply (yields_field (.none rfl) h.textRect).bind
  intro rect hrect
  apply (yields_anyField fields "hasDirectText").bind
  intro direct _
  split
  · next hpresent =>
    simp only [Bool.and_eq_true] at hpresent
    have hrect := hrect.of_isTruthy hpresent.1.2
    have hframe := hframe.of_isTruthy hpresent.2
    apply yields_sideExcess hrect hframe (by decide)
    intro x
    apply yields_sideExcess hrect hframe (by decide)
    intro y
    apply (yields_side hframe (by decide)).bind
    intro _ _
    apply (yields_side hframe (by decide)).bind
    intro _ _
    apply (yields_side hrect (by decide)).bind
    intro _ _
    exact (yields_side hrect (by decide)).bind fun _ _ => trivial
  · exact trivial

private theorem yields_textIssue {frame : Json} (hframe : RectangleOrNone frame) (q : Quantity) :
    (textIssue? (.number q) frame (.record fields)).Yields FindsDescribed bad := by
  apply (yields_clipping h hframe).bind
  rintro ⟨container, content, x, y⟩ _
  apply (yields_above x q).bind
  intro wide _
  apply (yields_above y q).bind
  intro high _
  split
  · exact (yields_describe h.described).bind fun _ he => .some he _
  · exact .none

private theorem yields_elementIssue {frame : Json} (hframe : Rectangle frame) (q : Quantity) :
    (elementIssue? (.number q) frame (.record fields)).Yields FindsDescribed bad := by
  apply (yields_isShown h.styled).bind
  intro shown _
  split
  · exact .none
  apply (yields_field (.none rfl) h.rect).bind
  intro rect hrect
  apply (yields_hasExtent hrect).bind
  intro extended hextended
  split
  · exact .none
  · next hsome =>
    have hrect : Rectangle rect := hextended (by simpa using hsome)
    apply (yields_overflowPast hframe hrect).bind
    rintro ⟨left, top, right, bottom⟩ _
    apply (yields_above _ q).bind
    intro past _
    split
    · apply (yields_describe h.described).bind
      intro element he
      apply (yields_edges hframe).bind
      intro _ _
      exact (yields_edges hrect).bind fun _ _ => .some he _
    · exact .none

private theorem yields_scrollIssue : (scrollIssue? (.record fields)).Yields FindsDescribed bad := by
  apply (yields_measure h (by decide)).bind
  intro clientWidth hcw
  apply (yields_measure h (by decide)).bind
  intro clientHeight hch
  apply (yields_measure h (by decide)).bind
  intro scrollWidth hsw
  apply (yields_measure h (by decide)).bind
  intro scrollHeight hsh
  apply (yields_anyField fields "overflowY").bind
  intro styleY _
  apply (yields_scrolls styleY hsh hch).bind
  intro vertical _
  apply (yields_anyField fields "overflowX").bind
  intro styleX _
  apply (yields_scrolls styleX hsw hcw).bind
  intro horizontal _
  split
  · exact .none
  · apply (yields_minus hsh hch).bind
    intro excessY _
    apply (yields_minus hsw hcw).bind
    intro excessX _
    exact (yields_describe h.described).bind fun _ he => .some he _

end Elements

/-- A judgement on each of the elements finds issues on elements that are described in texts. -/
private theorem yields_issuesBy {judge : Json → Outcome (Option Issue)}
    {fields : List (String × Json)} (helements : MayHold fields "elements" (ListOf ListedElement))
    (hjudge : ∀ fields, ElementFields fields →
      (judge (.record fields)).Yields FindsDescribed bad) :
    (issuesBy judge (.record fields)).Yields (fun issues => ∀ i ∈ issues, Described i.element)
      bad := by
  have hmeasured : (measuredRecords (.record fields)).Yields
      (fun records => ∀ r ∈ records, ListedElement r) bad := by
    apply (yields_fieldOr .nil helements).bind
    intro elements hlist
    apply (yields_items hlist).bind
    intro records hrecords
    have hkept := @yields_filterM _ bad (fun r => do
      return !(← Json.field r "excluded").isTruthy) records
    apply (hkept ?_).imp
    · intro kept hsub r hr
      exact hrecords r (hsub r hr)
    · intro r hr
      cases hrecords r hr with
      | record _ => exact (yields_anyField _ _).bind fun _ _ => trivial
  apply hmeasured.bind
  intro records hrecords
  have hjudged : (records.mapM judge).Yields (fun found => ∀ f ∈ found, FindsDescribed f) bad := by
    apply yields_mapM
    intro r hr
    cases hrecords r hr with
    | record h => exact hjudge _ h
  apply hjudged.bind
  intro found hfound i hi
  obtain ⟨f, hf, hsome⟩ := List.mem_filterMap.mp hi
  exact hfound f hf i hsome

/-- The issues of one class on a well-formed snapshot are found. -/
theorem Detection.yields_issuesOf {d : Detection} {q : Quantity}
    (hthreshold : d.threshold = .number q) {fields : List (String × Json)}
    (hframe : MayHold fields "frame" RectangleOrNone)
    (helements : MayHold fields "elements" (ListOf ListedElement)) (kind : IssueKind) :
    (d.issuesOf (.record fields) kind).Yields (fun issues => ∀ i ∈ issues, Described i.element)
      bad := by
  rw [issuesOf.eq_def, hthreshold]
  cases kind with
  | textOverflow =>
    apply (yields_field (.none rfl) hframe).bind
    intro frame hframe
    exact yields_issuesBy helements fun _ h => yields_textIssue h hframe q
  | elementOverflow =>
    apply (yields_field (.none rfl) hframe).bind
    intro frame hframe
    split
    · exact fun i hi => absurd hi List.not_mem_nil
    · next htruthy =>
      have hframe : Rectangle frame := hframe.of_isTruthy (by simpa using htruthy)
      have hsides : (["left", "top", "right", "bottom"].mapM frame.require).Yields
          (fun sides => ∀ side ∈ sides, Measure side) bad := by
        apply yields_mapM
        intro name hname
        exact yields_side hframe (List.mem_append_left ["width", "height"] hname)
      apply hsides.bind
      intro _ _
      exact yields_issuesBy helements fun _ h => yields_elementIssue h hframe q
  | scrollbar => exact yields_issuesBy helements fun _ h => yields_scrollIssue h

/-- The issues of a well-formed snapshot are found, whatever classes of overflow are looked for. -/
theorem Detection.yields_issues {d : Detection} {q : Quantity}
    (hthreshold : d.threshold = .number q)
    {fields : List (String × Json)} (hframe : MayHold fields "frame" RectangleOrNone)
    (helements : MayHold fields "elements" (ListOf ListedElement)) :
    (d.issues (.record fields)).Yields (fun issues => ∀ i ∈ issues, Described i.element) bad := by
  have hall := @yields_mapM _ _ _ bad (d.issuesOf (.record fields))
    (IssueKind.all.filter d.looksFor) fun kind _ =>
      yields_issuesOf hthreshold hframe helements kind
  apply hall.bind
  intro lists hlists i hi
  obtain ⟨l, hl, hil⟩ := List.mem_flatten.mp hi
  exact hlists l hl i hil

end SlideOverflow.Inspection
