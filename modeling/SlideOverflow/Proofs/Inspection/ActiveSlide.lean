import SlideOverflow.Proofs.Inspection.AddressNumber
import SlideOverflow.Proofs.Inspection.Parts
import SlideOverflow.Proofs.Number.Digits

/-! Well-formed censuses. Such a census tells the active slide, unless it lists no slide or the
address holds a number that is too long to be read. -/
namespace SlideOverflow.Inspection

open Number Outcome Json Text

variable {bad : Failure → Prop}

/-- A slide of a census: it has an index, and its size is given by numbers. -/
inductive ListedSlide : Json → Prop where
  | record {fields : List (String × Json)} :
      Holds fields "index" (fun j => ∃ n, j = ofInt n) →
      MayHold fields "width" (fun j => ∃ q, j = .number q) →
      MayHold fields "height" (fun j => ∃ q, j = .number q) → ListedSlide (.record fields)

inductive WellFormedCensus : Json → Prop where
  | record {fields : List (String × Json)} :
      MayHold fields "slides" (ListOf ListedSlide) →
      MayHold fields "pathname" IsTextOrNone → MayHold fields "hash" IsTextOrNone →
      WellFormedCensus (.record fields)

/-- A census whose address holds a number with more digits than whole numbers may have. -/
def Overlong (census : Json) : Prop :=
  ∃ digits, addressDigits? census = .ok (some digits) ∧ digitLimit < digits.length

private theorem yields_indexOfFirst {test : Json → Outcome Bool} {slides : List Json}
    (hslides : ∀ j ∈ slides, ListedSlide j)
    (htest : ∀ j, ListedSlide j → (test j).Yields (fun _ => True) bad) :
    (indexOfFirst test slides).Yields (fun _ => True) bad := by
  induction slides with
  | nil => exact trivial
  | cons j slides ih =>
    rw [indexOfFirst]
    have hj := hslides j List.mem_cons_self
    apply (htest j hj).bind
    intro found _
    cases found with
    | true =>
      cases hj with
      | record hindex _ _ => exact (yields_require hindex).imp fun _ _ => trivial
    | false => exact ih fun k hk => hslides k (.tail j hk)

section Census

variable {census : Json} (h : WellFormedCensus census)

include h

theorem yields_censusSlides :
    (censusSlides census).Yields (fun slides => ∀ j ∈ slides, ListedSlide j) bad := by
  cases h with
  | record hslides _ _ =>
    exact (yields_fieldOr .nil hslides).bind fun _ => yields_items

/-- One of the ways to find the active slide among the listed ones. -/
private theorem yields_slideBy {test : Json → Outcome Bool}
    (htest : ∀ j, ListedSlide j → (test j).Yields (fun _ => True) bad) :
    (do indexOfFirst test (← censusSlides census)).Yields (fun _ => True) bad :=
  (yields_censusSlides h).bind fun _ hslides => yields_indexOfFirst hslides htest

private theorem yields_addressPart {name : String} (hname : name = "pathname" ∨ name = "hash") :
    (addressPart census name).Yields (fun _ => True) bad := by
  cases h with
  | @record fields _ hpath hhash =>
    have hpart : MayHold fields name IsTextOrNone := by
      rcases hname with rfl | rfl
      · exact hpath
      · exact hhash
    apply (yields_field (.none rfl) hpart).bind
    intro j hj
    exact (yields_toText hj).bind fun _ _ => trivial

/-- The digits in an address stand in a row. -/
theorem yields_addressDigits :
    (addressDigits? census).Yields
      (fun found => ∀ digits, found = some digits → ∃ rest, IsRow digits rest) bad := by
  apply (yields_addressPart h (.inl rfl)).bind
  intro path _
  split
  · next hnumber =>
    rintro digits ⟨⟩
    obtain ⟨_, rest, -, hrow, -⟩ := isPathNumber_of_eq_some hnumber
    exact ⟨rest, hrow⟩
  · apply (yields_addressPart h (.inr rfl)).bind
    intro hash _ digits hnumber
    obtain ⟨_, rest, -, hrow, -⟩ := isHashNumber_of_eq_some hnumber
    exact ⟨rest, hrow⟩

private theorem yields_addressedSlide (hlong : Overlong census → bad (.defect .badValue)) :
    (addressedSlide census).Yields (fun _ => True) bad := by
  rw [addressedSlide]
  cases hfound : addressDigits? census with
  | error e =>
    have hnever : (addressDigits? census).Yields _ (fun _ => False) := yields_addressDigits h
    exact (hnever.error hfound).elim
  | ok found =>
    cases found with
    | none => exact trivial
    | some digits =>
      have hgood : (addressDigits? census).Yields _ (fun _ => False) := yields_addressDigits h
      obtain ⟨rest, hrow⟩ := hgood.result hfound digits rfl
      change (do
        let number ← Outcome.ofOption .badValue (readInt? 10 digits)
        indexOfFirst (fun s => do return (← s.field "pageNumber").same (.number (.int number)))
          (← censusSlides census) : Outcome Json).Yields _ _
      cases hread : readInt? 10 digits with
      | none => exact hlong ⟨digits, hfound, (readInt_digits hrow.ne_nil hrow.digits).mp hread⟩
      | some number =>
        apply yields_slideBy h
        intro j hj
        cases hj with
        | record _ _ _ => exact (yields_anyField _ _).bind fun _ _ => trivial

private theorem yields_firstSlide : (firstSlide census).Yields (fun _ => True) bad := by
  cases h with
  | record hslides _ _ =>
    apply (yields_fieldOr .nil hslides).bind
    intro slides hlist
    cases hlist with
    | @list items hitems =>
      cases items with
      | nil => exact trivial
      | cons j items =>
        have hj := hitems j List.mem_cons_self
        cases hj with
        | record hindex _ _ => exact (yields_require hindex).imp fun _ _ => trivial

private theorem yields_resolve (hlong : Overlong census → bad (.defect .badValue)) (r : Resolver) :
    (r.resolve census).Yields (fun _ => True) bad := by
  cases r with
  | marker =>
    apply yields_slideBy h
    intro j hj
    cases hj with
    | record _ _ _ => exact (yields_anyField _ _).bind fun _ _ => trivial
  | address => exact yields_addressedSlide h hlong
  | size =>
    apply yields_slideBy h
    intro j hj
    cases hj with
    | record _ hwidth hheight =>
      have hnumber {k : Json} (hk : ∃ q, k = .number q) :
          k.toQuantity.Yields (fun _ => True) bad := by
        obtain ⟨q, rfl⟩ := hk
        exact trivial
      apply (yields_fieldOr ⟨_, rfl⟩ hwidth).bind
      intro width hw
      apply (hnumber hw).bind
      intro q _
      split
      · apply (yields_fieldOr ⟨_, rfl⟩ hheight).bind
        intro height hh
        exact (hnumber hh).bind fun _ _ => trivial
      · exact trivial
  | order => exact yields_firstSlide h

/-- A well-formed census tells the active slide, unless there is none or its address holds too long
a number. -/
theorem yields_activeSlide (hnone : ∀ address, bad (.noActiveSlide address))
    (hlong : Overlong census → bad (.defect .badValue)) :
    (activeSlide census).Yields (fun _ => True) bad := by
  have hresolve (rs : List Resolver) : (resolveBy census rs).Yields (fun _ => True) bad := by
    induction rs with
    | nil =>
      have haddress : (addressText census).Yields (fun _ => True) bad := by
        cases h with
        | record _ _ _ =>
          apply (yields_anyFieldOr _ _ _).bind
          intro path _
          apply (yields_anyFieldOr _ _ _).bind
          intro hash _
          exact trivial
      exact haddress.bind fun address _ => hnone address
    | cons r rs ih =>
      rw [resolveBy]
      apply (yields_resolve h hlong r).bind
      intro index _
      split
      · exact ih
      · exact trivial
  exact (hresolve Resolver.all).bind fun _ _ => trivial

end Census

end SlideOverflow.Inspection
