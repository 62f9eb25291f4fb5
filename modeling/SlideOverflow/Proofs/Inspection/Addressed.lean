import SlideOverflow.Proofs.Inspection.AddressNumber
import SlideOverflow.Proofs.Inspection.Parts
import SlideOverflow.Proofs.Number.Digits

/-! The slide that an address names. It is the first one with the number in the path or, if no slide
has that number, the first one with the number in the hash. The number in the hash is looked at only
where the path holds none, so a slide can be named and yet not be found. -/
namespace SlideOverflow.Inspection

open Number Outcome Json Text

/-! ### Slides by their numbers -/

def TellsNumber (slide : Json) (n : Nat) : Prop :=
  ∃ j, slide.field "pageNumber" = .ok j ∧ j.same (.number (.int n)) = true

def TellsOther (slide : Json) (n : Nat) : Prop :=
  ∃ j, slide.field "pageNumber" = .ok j ∧ j.same (.number (.int n)) = false

def IsFirstWith (slides : List Json) (n : Nat) (index : Int) : Prop :=
  ∃ front slide rest, slides = front ++ slide :: rest ∧ (∀ s ∈ front, TellsOther s n) ∧
    TellsNumber slide n ∧ slide.require "index" = .ok (ofInt index)

/-- The digits by which an address names a slide, and the index of this slide. The number in the
path comes before the one in the hash. -/
inductive Names (census : Json) : List Char → Int → Prop where
  | path {path digits : List Char} {slides : List Json} {index : Int} :
      censusSlides census = .ok slides → addressPart census "pathname" = .ok path →
      IsPathNumber path digits → IsFirstWith slides (decimal digits) index →
      Names census digits index
  | hash {path hash digits : List Char} {slides : List Json} {index : Int} :
      censusSlides census = .ok slides → addressPart census "pathname" = .ok path →
      addressPart census "hash" = .ok hash →
      (∀ other, IsPathNumber path other → ∀ slide ∈ slides, TellsOther slide (decimal other)) →
      IsHashNumber hash digits → IsFirstWith slides (decimal digits) index →
      Names census digits index

def PathNamesSlide (census : Json) : Prop :=
  ∀ path digits, addressPart census "pathname" = .ok path → IsPathNumber path digits →
    ∃ slides, censusSlides census = .ok slides ∧
      ∃ slide ∈ slides, TellsNumber slide (decimal digits)

def Unmarked (census : Json) : Prop :=
  ∃ slides, censusSlides census = .ok slides ∧
    ∀ slide ∈ slides, ∃ j, slide.field "active" = .ok j ∧ j.isTruthy = false

section Search

variable {test : Json → Outcome Bool} {front : List Json}

private theorem indexOfFirst_skip (h : ∀ slide ∈ front, test slide = .ok false) (rest : List Json) :
    indexOfFirst test (front ++ rest) = indexOfFirst test rest := by
  induction front with
  | nil => rfl
  | cons slide front ih =>
    rw [List.cons_append, indexOfFirst, h slide List.mem_cons_self]
    exact ih fun s hs => h s (.tail slide hs)

private theorem indexOfFirst_none (h : ∀ slide ∈ front, test slide = .ok false) :
    indexOfFirst test front = .ok .null := by
  have hskip := indexOfFirst_skip h []
  rwa [List.append_nil] at hskip

private theorem indexOfFirst_found {slide : Json} (h : ∀ s ∈ front, test s = .ok false)
    (hslide : test slide = .ok true) (rest : List Json) :
    indexOfFirst test (front ++ slide :: rest) = slide.require "index" := by
  rw [indexOfFirst_skip h, indexOfFirst, hslide]
  rfl

end Search

private theorem Unmarked.markedSlide {census : Json} (h : Unmarked census) :
    markedSlide census = .ok .null := by
  obtain ⟨slides, hslides, hunmarked⟩ := h
  rw [Inspection.markedSlide, hslides]
  refine indexOfFirst_none fun slide hslide => ?_
  obtain ⟨j, hj, hfalse⟩ := hunmarked slide hslide
  rw [hj, ok_bind, hfalse]
  rfl

section Reading

variable {census : Json} {path digits : List Char} {slides : List Json}

/-- The search for the slide with the number that an address holds. -/
theorem addressedSlide_of_digits (hdigits : addressDigits? census = .ok (some digits))
    (hslides : censusSlides census = .ok slides) {rest : List Char} (hrow : IsRow digits rest) :
    addressedSlide census =
      if digitLimit < digits.length then .error (.defect .badValue)
      else indexOfFirst (fun s => do
        return (← s.field "pageNumber").same (.number (.int (decimal digits)))) slides := by
  rw [addressedSlide, hdigits, ok_bind]
  simp only [readInt_decimal hrow.ne_nil hrow.digits, hslides, ok_bind]
  split <;> rfl

private theorem TellsOther.test {slide : Json} {n : Nat} (h : TellsOther slide n) :
    (do return (← slide.field "pageNumber").same (.number (.int n)) : Outcome Bool) =
      .ok false := by
  obtain ⟨j, hj, hsame⟩ := h
  rw [hj, ok_bind, hsame]
  rfl

theorem TellsNumber.test {slide : Json} {n : Nat} (h : TellsNumber slide n) :
    (do return (← slide.field "pageNumber").same (.number (.int n)) : Outcome Bool) =
      .ok true := by
  obtain ⟨j, hj, hsame⟩ := h
  rw [hj, ok_bind, hsame]
  rfl

/-- Where the digits that are read name a slide, it is found, unless they are too many. -/
private theorem addressedSlide_of_first (hdigits : addressDigits? census = .ok (some digits))
    (hslides : censusSlides census = .ok slides) {rest : List Char} (hrow : IsRow digits rest)
    {index : Int} (hfirst : IsFirstWith slides (decimal digits) index) :
    addressedSlide census = .ok (ofInt index) ↔ digits.length ≤ digitLimit := by
  obtain ⟨front, slide, back, rfl, hfront, hslide, hindex⟩ := hfirst
  rw [addressedSlide_of_digits hdigits hslides hrow,
    indexOfFirst_found (fun s hs => (hfront s hs).test) hslide.test, hindex]
  split
  · next hlong => exact iff_of_false nofun (Nat.not_le.mpr hlong)
  · next hshort => exact iff_of_true rfl (Nat.not_lt.mp hshort)

/-- Where they name none, no slide is found. -/
private theorem addressedSlide_of_others (hdigits : addressDigits? census = .ok (some digits))
    (hslides : censusSlides census = .ok slides) {rest : List Char} (hrow : IsRow digits rest)
    (hothers : ∀ slide ∈ slides, TellsOther slide (decimal digits)) (index : Int) :
    addressedSlide census ≠ .ok (ofInt index) := by
  rw [addressedSlide_of_digits hdigits hslides hrow,
    indexOfFirst_none fun s hs => (hothers s hs).test]
  split <;> nofun

private theorem TellsOther.not_tellsNumber {slide : Json} {n : Nat} (h : TellsOther slide n) :
    ¬TellsNumber slide n := by
  intro h'
  cases h.test.symm.trans h'.test

private theorem IsFirstWith.exists_tellsNumber {n : Nat} {index : Int}
    (h : IsFirstWith slides n index) :
    ∃ slide ∈ slides, TellsNumber slide n := by
  obtain ⟨front, slide, back, rfl, -, hslide, -⟩ := h
  exact ⟨slide, List.mem_append_right _ List.mem_cons_self, hslide⟩

private theorem pathNamesSlide_iff (hslides : censusSlides census = .ok slides)
    (hpath : addressPart census "pathname" = .ok path) (hdigits : IsPathNumber path digits) :
    PathNamesSlide census ↔ ∃ slide ∈ slides, TellsNumber slide (decimal digits) := by
  constructor
  · intro h
    obtain ⟨slides', hslides', hexists⟩ := h path digits hpath hdigits
    cases hslides.symm.trans hslides'
    exact hexists
  · intro h path' digits' hpath' hdigits'
    cases hpath.symm.trans hpath'
    cases hdigits.eq_some.symm.trans hdigits'.eq_some
    exact ⟨slides, hslides, h⟩

private theorem pathNamesSlide_of_none (hpath : addressPart census "pathname" = .ok path)
    (hnone : pathNumber? path = none) : PathNamesSlide census := by
  intro path' digits' hpath' hdigits'
  cases hpath.symm.trans hpath'
  rw [hdigits'.eq_some] at hnone
  cases hnone

end Reading

variable {census : Json} {digits : List Char} {index : Int}

private theorem Names.addressedSlide_iff (h : Names census digits index) :
    addressedSlide census = .ok (ofInt index) ↔
      PathNamesSlide census ∧ digits.length ≤ digitLimit := by
  cases h with
  | path hslides hpath hdigits hfirst =>
    have hread : addressDigits? census = .ok (some digits) := by
      rw [addressDigits?, hpath, ok_bind, hdigits.eq_some]
      rfl
    rw [and_iff_right ((pathNamesSlide_iff hslides hpath hdigits).mpr hfirst.exists_tellsNumber)]
    obtain ⟨_, rest, -, hrow, -⟩ := hdigits
    exact addressedSlide_of_first hread hslides hrow hfirst
  | @hash path _ _ _ _ hslides hpath hhash hothers hdigits hfirst =>
    cases hnumber : pathNumber? path with
    | none =>
      have hread : addressDigits? census = .ok (some digits) := by
        rw [addressDigits?, hpath, ok_bind, hnumber, hhash, ok_bind, hdigits.eq_some]
        rfl
      obtain ⟨_, rest, -, hrow, -⟩ := hdigits
      rw [and_iff_right (pathNamesSlide_of_none hpath hnumber)]
      exact addressedSlide_of_first hread hslides hrow hfirst
    | some other =>
      -- The number in the path is read, though it names no slide.
      have hother := isPathNumber_of_eq_some hnumber
      have hread : addressDigits? census = .ok (some other) := by
        rw [addressDigits?, hpath, ok_bind, hnumber]
        rfl
      have hnot : ¬PathNamesSlide census := by
        rw [pathNamesSlide_iff hslides hpath hother]
        rintro ⟨slide, hmem, htells⟩
        exact (hothers other hother slide hmem).not_tellsNumber htells
      obtain ⟨_, rest, -, hrow, -⟩ := id hother
      exact iff_of_false (addressedSlide_of_others hread hslides hrow (hothers other hother) index)
        fun h => hnot h.1

private theorem activeSlide_of_addressed (hunmarked : Unmarked census)
    (h : addressedSlide census = .ok (ofInt index)) :
    activeSlide census = .ok (ofInt index, .note 3 ("Active slide " ++ (ofInt index).asText ++
      " resolved by " ++ Resolver.address.name)) := by
  have hmarker : Resolver.marker.resolve census = .ok .null := hunmarked.markedSlide
  have haddress : Resolver.address.resolve census = .ok (ofInt index) := h
  rw [activeSlide, Resolver.all, resolveBy, hmarker, ok_bind]
  simp only
  rw [resolveBy, haddress]
  rfl

/-- Where no slide is marked, the slide that the address names is the active one, if the number in
the path is that of a slide or there is none, and if the digits are not too many. The address does
not lead to it in any other case. -/
theorem activeSlide_of_names (hunmarked : Unmarked census) (h : Names census digits index) :
    (addressedSlide census = .ok (ofInt index) ↔
      PathNamesSlide census ∧ digits.length ≤ digitLimit) ∧
    (PathNamesSlide census → digits.length ≤ digitLimit →
      activeSlide census = .ok (ofInt index, .note 3 ("Active slide " ++ (ofInt index).asText ++
        " resolved by " ++ Resolver.address.name))) :=
  ⟨h.addressedSlide_iff, fun hnames hshort =>
    activeSlide_of_addressed hunmarked (h.addressedSlide_iff.mpr ⟨hnames, hshort⟩)⟩

/-- A census of two slides with no mark, at an address. The hash holds the number of the second
one. -/
def censusAt (path : String) : Json :=
  .record [("pathname", .text path), ("hash", .text "#2"),
    ("slides", .list [.record [("index", .ofInt 0), ("pageNumber", .ofInt 1)],
      .record [("index", .ofInt 1), ("pageNumber", .ofInt 2)]])]

private theorem unmarked_censusAt (path : String) : Unmarked (censusAt path) := by
  refine ⟨_, rfl, ?_⟩
  simp only [List.forall_mem_cons, List.not_mem_nil, false_implies, implies_true, and_true]
  exact ⟨⟨_, rfl, rfl⟩, _, rfl, rfl⟩

private theorem names_censusAt {path : String} {cs : List Char}
    (hpath : addressPart (censusAt path) "pathname" = .ok cs)
    (hother : ∀ digits, IsPathNumber cs digits → decimal digits ≠ 1 ∧ decimal digits ≠ 2) :
    Names (censusAt path) ['2'] 1 := by
  have hdiffers {n : Int} {m : Nat} (hne : n ≠ m) : (ofInt n).same (.number (.int m)) = false := by
    simpa [ofInt] using hne
  refine @Names.hash _ cs ['#', '2'] _ _ _ rfl hpath rfl (fun digits hdigits => ?_)
    ⟨['#'], [], rfl, ⟨List.cons_ne_nil _ _, List.forall_mem_singleton.mpr (by decide), nofun⟩,
      List.forall_mem_singleton.mpr (by decide)⟩ ?_
  · obtain ⟨hone, htwo⟩ := hother digits hdigits
    simp only [List.forall_mem_cons, List.not_mem_nil, false_implies, implies_true, and_true]
    exact ⟨⟨_, rfl, hdiffers (by omega)⟩, _, rfl, hdiffers (by omega)⟩
  · exact ⟨[_], _, [], rfl, by simpa using ⟨_, rfl, rfl⟩, ⟨_, rfl, rfl⟩, rfl⟩

/-- A path without a number leaves it to the hash. -/
theorem activeSlide_of_names_deck :
    Unmarked (censusAt "/deck/") ∧ Names (censusAt "/deck/") ['2'] 1 ∧
      addressedSlide (censusAt "/deck/") = .ok (.ofInt 1) ∧
      ∃ note, activeSlide (censusAt "/deck/") = .ok (.ofInt 1, note) := by
  have hnone {digits : List Char} : ¬IsPathNumber ['/', 'd', 'e', 'c', 'k', '/'] digits := by
    intro h
    cases h.eq_some
  have hnames : Names (censusAt "/deck/") ['2'] 1 := names_censusAt rfl fun _ h => (hnone h).elim
  have hpath : PathNamesSlide (censusAt "/deck/") := by
    rintro path digits ⟨⟩ h
    exact (hnone h).elim
  obtain ⟨hfound, hactive⟩ := activeSlide_of_names (unmarked_censusAt "/deck/") hnames
  exact ⟨unmarked_censusAt _, hnames, hfound.mpr ⟨hpath, by decide⟩, _, hactive hpath (by decide)⟩

/-- A number in a path that names no slide hides the slide that the hash names. -/
theorem activeSlide_hidden :
    Unmarked (censusAt "/2024/") ∧ Names (censusAt "/2024/") ['2'] 1 ∧
      addressedSlide (censusAt "/2024/") = .ok .null ∧
      ∃ note, activeSlide (censusAt "/2024/") = .ok (.ofInt 0, note) := by
  refine ⟨unmarked_censusAt _, names_censusAt rfl fun digits hdigits => ?_, rfl, _, rfl⟩
  cases hdigits.eq_some
  decide

end SlideOverflow.Inspection
