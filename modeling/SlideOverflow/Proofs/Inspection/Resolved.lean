import SlideOverflow.Proofs.Inspection.ActiveSlide
import SlideOverflow.Proofs.Inspection.Addressed
import SlideOverflow.Proofs.Inspection.Whole

/-! Which of the listed slides is the active one. A census that lists slides tells one of them, and
each way to tell it is asked only where those before it find none. -/
namespace SlideOverflow.Inspection

open Number Outcome Json

/-! ### The first slide of a kind -/

def IsMarked (slide : Json) : Prop := ∃ j, slide.field "active" = .ok j ∧ j.isTruthy = true

def IsPositive (slide : Json) (name : String) : Prop :=
  ∃ q : Quantity, slide.field name = .ok (.number q) ∧ (0 : Quantity).less q = true

def IsSized (slide : Json) : Prop := IsPositive slide "width" ∧ IsPositive slide "height"

def IsFirst (P : Json → Prop) (slides : List Json) (index : Int) : Prop :=
  ∃ front slide rest, slides = front ++ slide :: rest ∧ (∀ s ∈ front, ¬P s) ∧ P slide ∧
    slide.require "index" = .ok (ofInt index)

def IsIndexIn (slides : List Json) (index : Int) : Prop :=
  ∃ slide ∈ slides, slide.require "index" = .ok (ofInt index)

section Search

variable {test : Json → Outcome Bool} {P : Json → Prop} {slides : List Json} {index : Int}

private theorem IsFirst.isIndexIn (h : IsFirst P slides index) : IsIndexIn slides index := by
  obtain ⟨front, slide, rest, rfl, -, -, hindex⟩ := h
  exact ⟨slide, List.mem_append_right _ List.mem_cons_self, hindex⟩

private theorem ListedSlide.exists_index {slide : Json} (h : ListedSlide slide) :
    ∃ index, slide.require "index" = .ok (ofInt index) := by
  cases h with
  | record hindex _ _ =>
    obtain ⟨_, hj, index, rfl⟩ := hindex
    exact ⟨index, by rw [require, hj]; rfl⟩

/-- A search for a slide with a property finds the first one, or there is none. -/
private theorem indexOfFirst_cases (htest : ∀ s ∈ slides, Decides (test s) (P s))
    (hslides : ∀ s ∈ slides, ListedSlide s) :
    (indexOfFirst test slides = .ok .null ∧ ∀ s ∈ slides, ¬P s) ∨
      ∃ index, indexOfFirst test slides = .ok (ofInt index) ∧ IsFirst P slides index := by
  induction slides with
  | nil => exact .inl ⟨rfl, nofun⟩
  | cons slide slides ih =>
    obtain ⟨b, hb, hP⟩ := htest slide List.mem_cons_self
    rw [indexOfFirst, hb, ok_bind]
    cases b with
    | true =>
      obtain ⟨index, hindex⟩ := (hslides slide List.mem_cons_self).exists_index
      exact .inr ⟨index, hindex, [], slide, slides, rfl, nofun, hP.mp rfl, hindex⟩
    | false =>
      have hnot : ¬P slide := fun h => Bool.false_ne_true (hP.mpr h)
      rcases ih (fun s hs => htest s (.tail slide hs)) fun s hs => hslides s (.tail slide hs) with
        ⟨hnone, hall⟩ | ⟨index, hfound, front, s, rest, rfl, hfront, hs, hindex⟩
      · exact .inl ⟨hnone, List.forall_mem_cons.mpr ⟨hnot, hall⟩⟩
      · exact .inr ⟨index, hfound, slide :: front, s, rest, rfl,
          List.forall_mem_cons.mpr ⟨hnot, hfront⟩, hs, hindex⟩

end Search

private theorem decides_isMarked {slide : Json} (h : ListedSlide slide) :
    Decides (do return (← slide.field "active").isTruthy) (IsMarked slide) := by
  cases h with
  | record _ _ _ =>
    rw [IsMarked, field_record]
    exact .ok (by simp)

/-- A size that is not told counts as none. -/
private theorem exists_size {fields : List (String × Json)} {name : String}
    (h : MayHold fields name fun j => ∃ q, j = .number q) :
    ∃ q : Quantity, fieldOr (.number 0) (.record fields) name = .ok (.number q) ∧
      ((0 : Quantity).less q = true ↔ IsPositive (.record fields) name) := by
  rw [IsPositive, field_record, fieldOr]
  cases hj : fields.lookup name with
  | none => exact ⟨0, rfl, by simp; decide⟩
  | some j =>
    obtain ⟨q, rfl⟩ := h j hj
    exact ⟨q, rfl, by simp⟩

private theorem decides_isSized {slide : Json} (h : ListedSlide slide) :
    Decides (hasSize slide) (IsSized slide) := by
  cases h with
  | @record fields _ hwidth hheight =>
    obtain ⟨width, hw, hwide⟩ := exists_size hwidth
    obtain ⟨height, hh, hhigh⟩ := exists_size hheight
    have hsize : hasSize (.record fields) = if (0 : Quantity).less width = true then
        .ok ((0 : Quantity).less height) else .ok false := by
      rw [hasSize, hw, hh]
      rfl
    rw [hsize, IsSized, ← hwide, ← hhigh]
    cases (0 : Quantity).less width with
    | true => exact .ok (by simp)
    | false => exact .ok (by simp)

/-! ### The ways to tell the active slide -/

def Resolver.found (r : Resolver) (index : Int) : Json × LogEntry :=
  (ofInt index, .note 3 ("Active slide " ++ (ofInt index).asText ++ " resolved by " ++ r.name))

/-- The way that tells the active slide, and the index of the slide that it finds. -/
inductive Tells (census : Json) (slides : List Json) : Resolver → Int → Prop where
  | marked {index : Int} : IsFirst IsMarked slides index → Tells census slides .marker index
  | addressed {index : Int} : (∀ s ∈ slides, ¬IsMarked s) →
      addressedSlide census = .ok (ofInt index) → Tells census slides .address index
  | sized {index : Int} : (∀ s ∈ slides, ¬IsMarked s) → addressedSlide census = .ok .null →
      IsFirst IsSized slides index → Tells census slides .size index
  | first {slide : Json} {rest : List Json} {index : Int} : (∀ s ∈ slides, ¬IsMarked s) →
      addressedSlide census = .ok .null → (∀ s ∈ slides, ¬IsSized s) → slides = slide :: rest →
      slide.require "index" = .ok (ofInt index) → Tells census slides .order index

section Resolving

variable {census : Json} {r : Resolver} {rs : List Resolver} {index : Int}

private theorem resolveBy_none (h : r.resolve census = .ok .null) :
    resolveBy census (r :: rs) = resolveBy census rs := by
  rw [resolveBy, h]
  rfl

private theorem resolveBy_found (h : r.resolve census = .ok (ofInt index)) :
    resolveBy census (r :: rs) = .ok (ofInt index, r) := by
  rw [resolveBy, h]
  rfl

private theorem activeSlide_of_resolveBy
    (h : resolveBy census Resolver.all = .ok (ofInt index, r)) :
    activeSlide census = .ok (r.found index) := by
  rw [activeSlide, h]
  rfl

end Resolving

section Census

variable {census : Json} {slides : List Json}

private theorem WellFormedCensus.exists_slides (h : WellFormedCensus census) :
    ∃ slides, censusSlides census = .ok slides ∧ ∀ s ∈ slides, ListedSlide s :=
  (yields_censusSlides h).exists_ok

variable (h : WellFormedCensus census) (hslides : censusSlides census = .ok slides)
  (hlisted : ∀ s ∈ slides, ListedSlide s)

include hslides hlisted in
private theorem markedSlide_cases :
    (markedSlide census = .ok .null ∧ ∀ s ∈ slides, ¬IsMarked s) ∨
      ∃ index, markedSlide census = .ok (ofInt index) ∧ IsFirst IsMarked slides index := by
  rw [markedSlide, hslides, ok_bind]
  exact indexOfFirst_cases (fun s hs => decides_isMarked (hlisted s hs)) hlisted

include hslides hlisted in
private theorem sizedSlide_cases :
    (sizedSlide census = .ok .null ∧ ∀ s ∈ slides, ¬IsSized s) ∨
      ∃ index, sizedSlide census = .ok (ofInt index) ∧ IsFirst IsSized slides index := by
  rw [sizedSlide, hslides, ok_bind]
  exact indexOfFirst_cases (fun s hs => decides_isSized (hlisted s hs)) hlisted

private theorem decides_tellsNumber {slide : Json} (h : ListedSlide slide) (n : Nat) :
    Decides (do return (← slide.field "pageNumber").same (.number (.int n)))
      (TellsNumber slide n) := by
  cases h with
  | record _ _ _ =>
    rw [TellsNumber, field_record]
    exact .ok (by simp)

include h hslides hlisted in
/-- The slide that the address leads to is a listed one, unless a number in it is too long. -/
private theorem addressedSlide_cases (hshort : ¬Overlong census) :
    addressedSlide census = .ok .null ∨
      ∃ index, addressedSlide census = .ok (ofInt index) ∧ IsIndexIn slides index := by
  obtain ⟨found, hfound, hrow⟩ := (yields_addressDigits h).exists_ok
  cases found with
  | none =>
    rw [addressedSlide, hfound]
    exact .inl rfl
  | some digits =>
    obtain ⟨rest, hrow⟩ := hrow digits rfl
    rw [addressedSlide_of_digits hfound hslides hrow,
      if_neg fun hlong => hshort ⟨digits, hfound, hlong⟩]
    rcases indexOfFirst_cases (fun s hs => decides_tellsNumber (hlisted s hs) (decimal digits))
      hlisted with ⟨hnone, -⟩ | ⟨index, hindex, hfirst⟩
    · exact .inl hnone
    · exact .inr ⟨index, hindex, hfirst.isIndexIn⟩

include h hslides in
private theorem slidesField_eq : fieldOr (.list []) census "slides" = .ok (.list slides) := by
  cases h with
  | @record fields hlist _ _ =>
    rw [censusSlides, fieldOr, ok_bind] at hslides
    rw [fieldOr]
    cases hj : fields.lookup "slides" with
    | none =>
      rw [hj] at hslides
      cases hslides
      rfl
    | some j =>
      rw [hj] at hslides
      cases hlist j hj
      cases hslides
      rfl

include h in
private theorem firstSlide_nil (hslides : censusSlides census = .ok []) :
    firstSlide census = .ok .null := by
  rw [firstSlide, slidesField_eq h hslides]
  rfl

include h in
private theorem firstSlide_cons {slide : Json} {rest : List Json}
    (hslides : censusSlides census = .ok (slide :: rest)) :
    firstSlide census = slide.require "index" := by
  rw [firstSlide, slidesField_eq h hslides]
  rfl

/-- The marked slide comes first, whatever the address and the sizes of the slides. -/
private theorem activeSlide_of_marked {index : Int}
    (hmarked : markedSlide census = .ok (ofInt index)) :
    activeSlide census = .ok (Resolver.marker.found index) :=
  activeSlide_of_resolveBy (resolveBy_found hmarked)

include h hslides hlisted in
/-- A census with slides tells one of them. -/
private theorem exists_tells (hshort : ¬Overlong census) (hne : slides ≠ []) :
    ∃ r index, Tells census slides r index ∧ IsIndexIn slides index ∧
      activeSlide census = .ok (r.found index) := by
  rcases markedSlide_cases hslides hlisted with ⟨hmarker, hunmarked⟩ | ⟨index, hmarked, hfirst⟩
  · have hmarker : Resolver.marker.resolve census = .ok .null := hmarker
    rcases addressedSlide_cases h hslides hlisted hshort with haddress | ⟨index, haddressed, hin⟩
    · have haddress' : Resolver.address.resolve census = .ok .null := haddress
      rcases sizedSlide_cases hslides hlisted with ⟨hsize, hunsized⟩ | ⟨index, hsized, hfirst⟩
      · have hsize : Resolver.size.resolve census = .ok .null := hsize
        obtain ⟨slide, rest, rfl⟩ := List.exists_cons_of_ne_nil hne
        obtain ⟨index, hindex⟩ := (hlisted slide List.mem_cons_self).exists_index
        have horder : Resolver.order.resolve census = .ok (ofInt index) :=
          (firstSlide_cons h hslides).trans hindex
        refine ⟨.order, index, .first hunmarked haddress hunsized rfl hindex,
          ⟨slide, List.mem_cons_self, hindex⟩, activeSlide_of_resolveBy ?_⟩
        rw [Resolver.all, resolveBy_none hmarker, resolveBy_none haddress', resolveBy_none hsize,
          resolveBy_found horder]
      · have hsize : Resolver.size.resolve census = .ok (ofInt index) := hsized
        refine ⟨.size, index, .sized hunmarked haddress hfirst, hfirst.isIndexIn,
          activeSlide_of_resolveBy ?_⟩
        rw [Resolver.all, resolveBy_none hmarker, resolveBy_none haddress', resolveBy_found hsize]
    · have haddress : Resolver.address.resolve census = .ok (ofInt index) := haddressed
      refine ⟨.address, index, .addressed hunmarked haddressed, hin, activeSlide_of_resolveBy ?_⟩
      rw [Resolver.all, resolveBy_none hmarker, resolveBy_found haddress]
  · exact ⟨.marker, index, .marked hfirst, hfirst.isIndexIn, activeSlide_of_marked hmarked⟩

include h in
/-- Without slides, each way finds none. -/
private theorem activeSlide_of_nil (hslides : censusSlides census = .ok [])
    (hshort : ¬Overlong census) :
    ∃ address, activeSlide census = .error (.noActiveSlide address) := by
  have hmarker : Resolver.marker.resolve census = .ok .null := by
    rw [Resolver.resolve, markedSlide, hslides]
    rfl
  have haddress : Resolver.address.resolve census = .ok .null := by
    have hlisted : ∀ s ∈ ([] : List Json), ListedSlide s := fun s hs => absurd hs List.not_mem_nil
    apply (addressedSlide_cases h hslides hlisted hshort).resolve_right
    rintro ⟨_, _, slide, hslide, -⟩
    exact absurd hslide List.not_mem_nil
  have hsize : Resolver.size.resolve census = .ok .null := by
    rw [Resolver.resolve, sizedSlide, hslides]
    rfl
  have horder : Resolver.order.resolve census = .ok .null := firstSlide_nil h hslides
  obtain ⟨address, htext⟩ : ∃ address, addressText census = .ok address := by
    cases h with
    | record _ _ _ => exact ⟨_, rfl⟩
  refine ⟨address, ?_⟩
  rw [activeSlide, Resolver.all, resolveBy_none hmarker, resolveBy_none haddress,
    resolveBy_none hsize, resolveBy_none horder, resolveBy, htext]
  rfl

end Census

/-- A census that lists slides tells one of them, in the first way that leads to any. A slide that
is marked is told whatever the address is. -/
theorem activeSlide_told {census : Json} (h : WellFormedCensus census) :
    ∃ slides, censusSlides census = .ok slides ∧
      ((∃ s ∈ slides, IsMarked s) → ∃ index, IsFirst IsMarked slides index ∧
        activeSlide census = .ok (Resolver.marker.found index)) ∧
      (¬Overlong census →
        ((∃ address, activeSlide census = .error (.noActiveSlide address)) ↔ slides = []) ∧
        (slides ≠ [] → ∃ r index, Tells census slides r index ∧ IsIndexIn slides index ∧
          activeSlide census = .ok (r.found index))) := by
  obtain ⟨slides, hslides, hlisted⟩ := h.exists_slides
  refine ⟨slides, hslides, ?_, fun hshort => ⟨⟨?_, ?_⟩, exists_tells h hslides hlisted hshort⟩⟩
  · rintro ⟨s, hs, hmarked⟩
    rcases markedSlide_cases hslides hlisted with ⟨-, hunmarked⟩ | ⟨index, hfound, hfirst⟩
    · exact absurd hmarked (hunmarked s hs)
    · exact ⟨index, hfirst, activeSlide_of_marked hfound⟩
  · rintro ⟨address, hnone⟩
    by_contra hne
    obtain ⟨r, index, -, -, hfound⟩ := exists_tells h hslides hlisted hshort hne
    rw [hnone] at hfound
    cases hfound
  · rintro rfl
    exact activeSlide_of_nil h hslides hshort

/-- A census of two slides without a mark, the second of which has a size, at an address without a
number. -/
def secondSized : Json :=
  .record [("pathname", .text "/deck/"), ("hash", .text ""),
    ("slides", .list [.record [("index", .ofInt 0), ("width", .ofInt 0), ("height", .ofInt 552)],
      .record [("index", .ofInt 1), ("width", .ofInt 980), ("height", .ofInt 552)]])]

private theorem wellFormed_secondSized : WellFormedCensus secondSized := by
  refine .record (fun j hj => ?_) (fun j hj => ?_) fun j hj => ?_
  · cases hj
    refine .list (List.forall_mem_cons.mpr ⟨?_, List.forall_mem_singleton.mpr ?_⟩)
    · exact .record ⟨_, rfl, 0, rfl⟩ (fun j hj => ⟨_, (Option.some.inj hj).symm⟩)
        fun j hj => ⟨_, (Option.some.inj hj).symm⟩
    · exact .record ⟨_, rfl, 1, rfl⟩ (fun j hj => ⟨_, (Option.some.inj hj).symm⟩)
        fun j hj => ⟨_, (Option.some.inj hj).symm⟩
  · cases hj
    exact .text _
  · cases hj
    exact .text _

theorem activeSlide_told_of_secondSized :
    WellFormedCensus secondSized ∧ ¬Overlong secondSized ∧
      (∃ slides r index, Tells secondSized slides r index ∧ IsIndexIn slides index ∧
        activeSlide secondSized = .ok (r.found index)) ∧
      activeSlide secondSized = .ok (Resolver.size.found 1) := by
  have hshort : ¬Overlong secondSized := by
    rintro ⟨digits, hdigits, -⟩
    cases hdigits
  obtain ⟨slides, hslides, -, htold⟩ := activeSlide_told wellFormed_secondSized
  cases hslides
  exact ⟨wellFormed_secondSized, hshort, ⟨_, (htold hshort).2 (List.cons_ne_nil _ _)⟩, rfl⟩

end SlideOverflow.Inspection
