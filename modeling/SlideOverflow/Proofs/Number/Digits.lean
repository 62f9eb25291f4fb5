import Mathlib.Data.List.DropRight
import SlideOverflow.Number.Reading

/-! Numerals of whole numbers: blanks, a sign, and digits of any script, between which single
underscores may stand. A numeral is read as the number that it stands for, unless it has too many
digits, and nothing else is read. -/
namespace SlideOverflow.Number

open Text

/-! ### Numerals -/

def decimal (cs : List Char) : Nat := cs.foldl (fun n c => 10 * n + (digitValue? c).getD 0) 0

/-- What may follow a digit, and the digits in it: more digits, each with an underscore in front of
it or without one. -/
inductive Following (digit : Char → Bool) : List Char → List Char → Prop where
  | done : Following digit [] []
  | digit {c : Char} {cs ds : List Char} :
      digit c = true → Following digit cs ds → Following digit (c :: cs) (c :: ds)
  | mark {c : Char} {cs ds : List Char} :
      digit c = true → Following digit cs ds → Following digit ('_' :: c :: cs) (c :: ds)

inductive Sign : List Char → Bool → Prop where
  | none : Sign [] false
  | plus : Sign ['+'] false
  | minus : Sign ['-'] true

inductive Numeral (space digit : Char → Bool) : List Char → Bool → List Char → Prop where
  | mk {front sign body back ds : List Char} {c : Char} {negative : Bool} :
      (∀ b ∈ front, space b = true) → Sign sign negative → digit c = true →
      Following digit body ds → (∀ b ∈ back, space b = true) →
      Numeral space digit (front ++ (sign ++ (c :: body ++ back))) negative (c :: ds)

def isSurround (c : Char) : Bool := if c.toNat < 127 then isNumeralSpace c else isBlank c

def IsNumeral (cs : List Char) (negative : Bool) (ds : List Char) : Prop :=
  Numeral isSurround isDigit cs negative ds

def withSign (negative : Bool) (n : Nat) : Int := if negative then -n else n

def Spells (cs : List Char) (n : Int) : Prop :=
  ∃ negative ds, IsNumeral cs negative ds ∧ n = withSign negative (decimal ds)

/-- A text is a numeral with more digits than whole numbers may have. -/
def IsLong (cs : List Char) : Prop :=
  ∃ negative ds, IsNumeral cs negative ds ∧ digitLimit < ds.length

/-! ### Digits of every script -/

/-- Zeros are either the ASCII one, or stand in rows far from ASCII that hold no blank. -/
private theorem decimalZeros_place : ∀ z ∈ decimalZeros, z = 48 ∨ (127 ≤ z ∧
    (0xA0 < z ∧ z + 10 ≤ 0x1680 ∨ 0x1680 < z ∧ z + 10 ≤ 0x2000 ∨ 0x3000 < z)) := by
  decide

private theorem digitValue_spec {c : Char} (h : isDigit c = true) :
    ∃ z ∈ decimalZeros, ∃ d, digitValue? c = some d ∧ d < 10 ∧ c.toNat = z + d := by
  rw [isDigit, digitValue?, Option.isSome_map] at h
  obtain ⟨z, hz⟩ := Option.isSome_iff_exists.mp h
  have hrow := List.find?_some hz
  simp only [Bool.and_eq_true, decide_eq_true_eq] at hrow
  refine ⟨z, List.mem_of_find?_eq_some hz, c.toNat - z, ?_, by omega, by omega⟩
  rw [digitValue?, hz]
  rfl

private theorem hexValue_ofNat : ∀ d, d < 10 → hexValue? (Char.ofNat (48 + d)) = some d := by
  decide

private theorem isDigitOf_iff {c : Char} :
    isDigitOf 10 c = true ↔ 48 ≤ c.toNat ∧ c.toNat ≤ 57 := by
  rw [isDigitOf, hexValue?]
  simp only [Bool.and_eq_true, decide_eq_true_eq]
  split
  · next d hd =>
    rw [decide_eq_true_eq]
    split at hd
    · cases hd
      omega
    · split at hd
      · cases hd
        omega
      · split at hd <;> cases hd
        omega
  · next hd =>
    split at hd
    · cases hd
    · next hlow => exact iff_of_false (by decide) hlow

private def asciiChar (c : Char) : Char :=
  if c.toNat < 127 then c
  else if isBlank c then ' '
  else match digitValue? c with
    | some d => Char.ofNat (48 + d)
    | none => '?'

private theorem asciiForm_eq (cs : List Char) : asciiForm cs = cs.map asciiChar := rfl

private theorem isBlank_of_isDigit {c : Char} (h : isDigit c = true) (hc : 127 ≤ c.toNat) :
    isBlank c = false := by
  obtain ⟨z, hz, d, -, hd, hplace⟩ := digitValue_spec h
  rw [Bool.eq_false_iff]
  intro hblank
  simp only [isBlank, Bool.or_eq_true, Bool.and_eq_true, decide_eq_true_eq, beq_iff_eq] at hblank
  rcases decimalZeros_place z hz with rfl | ⟨hfar, hrow⟩ <;> omega

private theorem hexValue_asciiChar {c : Char} (h : isDigit c = true) :
    hexValue? (asciiChar c) = digitValue? c := by
  obtain ⟨z, hz, d, hvalue, hd, hplace⟩ := digitValue_spec h
  rw [asciiChar, hvalue]
  split
  · next hascii =>
    rcases decimalZeros_place z hz with rfl | ⟨hfar, -⟩
    · simp only [hexValue?, hplace, Bool.and_eq_true, decide_eq_true_eq]
      rw [if_pos (by omega), Nat.add_sub_cancel_left]
    · omega
  · next hascii =>
    rw [if_neg (by rw [isBlank_of_isDigit h (by omega)]; decide)]
    exact hexValue_ofNat d hd

private theorem isDigitOf_asciiChar (c : Char) : isDigitOf 10 (asciiChar c) = isDigit c := by
  cases h : isDigit c with
  | true =>
    obtain ⟨z, -, d, hvalue, hd, -⟩ := digitValue_spec h
    rw [isDigitOf, hexValue_asciiChar h, hvalue]
    exact decide_eq_true hd
  | false =>
    have hnone : digitValue? c = none :=
      Option.isNone_iff_eq_none.mp (Option.isSome_eq_false_iff.mp h)
    rw [← Bool.not_eq_true, isDigitOf_iff, asciiChar]
    split
    · rw [digitValue?, Option.map_eq_none_iff, List.find?_eq_none] at hnone
      have hzero := hnone 48 (by decide)
      rw [Bool.and_eq_true, decide_eq_true_eq, decide_eq_true_eq] at hzero
      omega
    · split
      · decide
      · rw [hnone]
        decide

private theorem isNumeralSpace_asciiChar (c : Char) :
    isNumeralSpace (asciiChar c) = isSurround c := by
  have hdigit : ∀ d, d < 10 → isNumeralSpace (Char.ofNat (48 + d)) = false := by decide
  rw [asciiChar, isSurround]
  split
  · rfl
  · split
    · next hblank =>
      rw [hblank]
      rfl
    · next hblank =>
      rw [Bool.eq_false_iff.mpr hblank]
      split
      · next d hvalue =>
        obtain ⟨_, -, _, hvalue', hd, -⟩ := digitValue_spec (c := c) (by rw [isDigit, hvalue]; rfl)
        rw [hvalue] at hvalue'
        cases hvalue'
        exact hdigit d hd
      · rfl

/-- No character but itself has one of these as its ASCII form. -/
private theorem asciiChar_eq_iff {c x : Char} (hx : x ∈ ['_', '+', '-']) :
    asciiChar c = x ↔ c = x := by
  have hplace : x.toNat < 127 ∧ x ≠ ' ' ∧ x ≠ '?' ∧ ∀ d, d < 10 → Char.ofNat (48 + d) ≠ x := by
    simp only [List.mem_cons, List.not_mem_nil, or_false] at hx
    rcases hx with rfl | rfl | rfl <;> decide
  obtain ⟨hlow, hspace, hmark, hdigit⟩ := hplace
  rw [asciiChar]
  split
  · rfl
  · next hfar =>
    refine iff_of_false ?_ (by rintro rfl; exact hfar hlow)
    split
    · exact hspace.symm
    · split
      · next d hvalue =>
        obtain ⟨_, -, _, hvalue', hd, -⟩ := digitValue_spec (c := c) (by rw [isDigit, hvalue]; rfl)
        rw [hvalue] at hvalue'
        cases hvalue'
        exact hdigit d hd
      · exact hmark.symm

/-! ### Reading -/

section Following

variable {digit : Char → Bool} {cs ds : List Char}

private theorem Following.all (h : Following digit cs ds) : ds.all digit = true := by
  induction h with
  | done => rfl
  | digit hc _ ih => rw [List.all_cons, hc, ih]; rfl
  | mark hc _ ih => rw [List.all_cons, hc, ih]; rfl

private theorem joinDigits_cons {c : Char} (before : Bool) (hc : c ≠ '_') (cs : List Char) :
    joinDigits? digit before (c :: cs) = (joinDigits? digit (digit c) cs).map (c :: ·) := by
  rw [joinDigits?]
  · rw [if_neg (by simpa using hc)]
  · intro d rest heq _
    exact hc heq

private theorem following_of_joinDigits (h : joinDigits? digit true cs = some ds)
    (hall : ds.all digit = true) : Following digit cs ds := by
  generalize hbefore : true = before at h
  induction before, cs using joinDigits?.induct digit generalizing ds with
  | case1 before =>
    cases h
    exact .done
  | case2 before c cs hc ih =>
    rw [joinDigits?, if_pos hc, Option.map_eq_some_iff] at h
    obtain ⟨rest, hrest, rfl⟩ := h
    rw [List.all_cons, Bool.and_eq_true] at hall
    exact .mark hall.1 (ih hall.2 rfl hrest)
  | case3 before c cs hc =>
    rw [joinDigits?, if_neg hc] at h
    cases h
  | case4 before c cs hne hc =>
    rw [joinDigits?, if_pos hc] at h
    · cases h
    · exact hne
  | case5 before c cs hne hc ih =>
    rw [joinDigits_cons before (by simpa using hc), Option.map_eq_some_iff] at h
    obtain ⟨rest, hrest, rfl⟩ := h
    rw [List.all_cons, Bool.and_eq_true] at hall
    exact .digit hall.1 (ih hall.2 hall.1.symm hrest)

variable (hmark : digit '_' = false)

include hmark

private theorem ne_mark {c : Char} (hc : digit c = true) : c ≠ '_' := by
  rintro rfl
  rw [hmark] at hc
  cases hc

private theorem Following.joinDigits (h : Following digit cs ds) :
    joinDigits? digit true cs = some ds := by
  induction h with
  | done => rfl
  | digit hc _ ih => rw [joinDigits_cons true (ne_mark hmark hc), hc, ih]; rfl
  | mark hc _ ih => rw [joinDigits?, hc, ih]; rfl

/-- Digits are joined from the first one on. -/
private theorem joinDigits_eq_some_iff {d : Char} :
    joinDigits? digit false cs = some (d :: ds) ∧ (d :: ds).all digit = true ↔
      ∃ body, cs = d :: body ∧ digit d = true ∧ Following digit body ds := by
  constructor
  · rintro ⟨hjoin, hall⟩
    rw [List.all_cons, Bool.and_eq_true] at hall
    cases cs with
    | nil => cases hjoin
    | cons c cs =>
      by_cases hc : c = '_'
      · subst hc
        cases cs <;> cases hjoin
      · rw [joinDigits_cons false hc, Option.map_eq_some_iff] at hjoin
        obtain ⟨rest, hrest, heq⟩ := hjoin
        cases heq
        rw [hall.1] at hrest
        exact ⟨cs, rfl, hall.1, following_of_joinDigits hrest hall.2⟩
  · rintro ⟨body, rfl, hd, hbody⟩
    rw [joinDigits_cons false (ne_mark hmark hd), hd, hbody.joinDigits hmark, List.all_cons, hd,
      hbody.all]
    exact ⟨rfl, rfl⟩

end Following

private theorem Following.exists_last {digit : Char → Bool} {c : Char} {body ds : List Char}
    (hc : digit c = true) (h : Following digit body ds) :
    ∃ init last, c :: body = init ++ [last] ∧ digit last = true := by
  induction h generalizing c with
  | done => exact ⟨[], c, rfl, hc⟩
  | digit hd _ ih =>
    obtain ⟨init, last, heq, hlast⟩ := ih hd
    exact ⟨c :: init, last, congrArg (c :: ·) heq, hlast⟩
  | mark hd _ ih =>
    obtain ⟨init, last, heq, hlast⟩ := ih hd
    exact ⟨c :: '_' :: init, last, congrArg (c :: '_' :: ·) heq, hlast⟩

private theorem exists_sign (cs : List Char) :
    ∃ sign, Sign sign (takeSign cs).1 ∧ cs = sign ++ (takeSign cs).2 := by
  unfold takeSign
  split
  · exact ⟨['-'], .minus, rfl⟩
  · exact ⟨['+'], .plus, rfl⟩
  · exact ⟨[], .none, rfl⟩

private theorem takeSign_of_sign {sign : List Char} {negative : Bool} (h : Sign sign negative)
    {c : Char} (hplus : c ≠ '+') (hminus : c ≠ '-') (body : List Char) :
    takeSign (sign ++ c :: body) = (negative, c :: body) := by
  cases h with
  | none =>
    rw [List.nil_append, takeSign]
    · rintro cs heq
      exact hminus (List.cons.inj heq).1
    · rintro cs heq
      exact hplus (List.cons.inj heq).1
  | plus => rfl
  | minus => rfl

private theorem exists_dropEndWhile {p : Char → Bool} (l : List Char) :
    ∃ back, l = dropEndWhile p l ++ back ∧ ∀ c ∈ back, p c = true :=
  ⟨l.rtakeWhile p, List.rdropWhile_append_rtakeWhile.symm, fun _ => List.mem_rtakeWhile_imp⟩

/-! ### In ASCII -/

private theorem not_space_of_digit {c : Char} (h : isDigitOf 10 c = true) :
    isNumeralSpace c = false := by
  obtain ⟨hlow, hhigh⟩ := isDigitOf_iff.mp h
  have hne : c ≠ ' ' := by
    rintro rfl
    exact absurd hlow (by decide)
  simp only [isNumeralSpace, Bool.or_eq_false_iff, beq_eq_false_iff_ne, Bool.and_eq_false_iff,
    decide_eq_false_iff_not]
  exact ⟨hne, by omega⟩

private theorem ne_sign_of_digit {c : Char} (h : isDigitOf 10 c = true) : c ≠ '+' ∧ c ≠ '-' := by
  constructor <;> rintro rfl <;> exact absurd h (by decide)

private def bare (bs : List Char) : List Char :=
  dropEndWhile isNumeralSpace (bs.dropWhile isNumeralSpace)

private theorem bare_eq {front sign body back : List Char} {c : Char} {negative : Bool}
    {ds : List Char} (hfront : ∀ b ∈ front, isNumeralSpace b = true) (hsign : Sign sign negative)
    (hc : isDigitOf 10 c = true) (hbody : Following (isDigitOf 10) body ds)
    (hback : ∀ b ∈ back, isNumeralSpace b = true) :
    bare (front ++ (sign ++ (c :: body ++ back))) = sign ++ c :: body := by
  have hstart : (sign ++ (c :: body ++ back)).dropWhile isNumeralSpace =
      sign ++ (c :: body ++ back) := by
    cases hsign with
    | none => exact List.dropWhile_cons_of_neg (by rw [not_space_of_digit hc]; decide)
    | plus => rfl
    | minus => rfl
  obtain ⟨init, last, heq, hlast⟩ := hbody.exists_last hc
  rw [bare, List.dropWhile_append_of_pos hfront, hstart, heq, List.append_assoc,
    ← List.append_assoc sign, List.singleton_append,
    dropEndWhile_append _ (not_space_of_digit hlast) hback, List.append_assoc]

private theorem asciiNumeral_iff {bs ds : List Char} {negative : Bool} :
    Numeral isNumeralSpace (isDigitOf 10) bs negative ds ↔
      (takeSign (bare bs)).1 = negative ∧ ds ≠ [] ∧
        joinDigits? (isDigitOf 10) false (takeSign (bare bs)).2 = some ds ∧
        ds.all (isDigitOf 10) = true := by
  constructor
  · rintro ⟨hfront, hsign, hc, hbody, hback⟩
    obtain ⟨hplus, hminus⟩ := ne_sign_of_digit hc
    rw [bare_eq hfront hsign hc hbody hback, takeSign_of_sign hsign hplus hminus]
    exact ⟨rfl, by simp, (joinDigits_eq_some_iff (by decide)).mpr ⟨_, rfl, hc, hbody⟩⟩
  · rintro ⟨hsign, hne, hjoin⟩
    obtain ⟨d, ds, rfl⟩ := List.exists_cons_of_ne_nil hne
    obtain ⟨body, hcore, hd, hbody⟩ := (joinDigits_eq_some_iff (by decide)).mp hjoin
    obtain ⟨back, hrest, hback⟩ := exists_dropEndWhile (p := isNumeralSpace)
      (bs.dropWhile isNumeralSpace)
    obtain ⟨sign, hsigned, heq⟩ := exists_sign (bare bs)
    rw [hsign] at hsigned
    rw [hcore] at heq
    have hbs : bs = bs.takeWhile isNumeralSpace ++ (sign ++ (d :: body ++ back)) := by
      rw [← List.append_assoc sign, ← heq, bare, ← hrest, List.takeWhile_append_dropWhile]
    rw [hbs]
    exact .mk (fun b hb => List.all_eq_true.mp List.all_takeWhile b hb) hsigned hd hbody hback

private theorem following_asciiForm {cs ds' : List Char} :
    Following (isDigitOf 10) (asciiForm cs) ds' ↔
      ∃ ds, Following isDigit cs ds ∧ ds' = asciiForm ds := by
  constructor
  · intro h
    generalize hbs : asciiForm cs = bs at h
    induction h generalizing cs with
    | done =>
      cases List.map_eq_nil_iff.mp hbs
      exact ⟨[], .done, rfl⟩
    | @digit c rest ds hc _ ih =>
      obtain ⟨a, as, rfl, rfl, hrest⟩ := List.map_eq_cons_iff.mp hbs
      obtain ⟨ds, hds, rfl⟩ := ih hrest
      exact ⟨a :: ds, .digit ((isDigitOf_asciiChar a).symm.trans hc) hds, rfl⟩
    | @mark c rest ds hc _ ih =>
      obtain ⟨a, as, rfl, ha, htail⟩ := List.map_eq_cons_iff.mp hbs
      obtain ⟨b, bs, rfl, rfl, hrest⟩ := List.map_eq_cons_iff.mp htail
      obtain ⟨ds, hds, rfl⟩ := ih hrest
      cases (asciiChar_eq_iff (by decide)).mp ha
      exact ⟨b :: ds, .mark ((isDigitOf_asciiChar b).symm.trans hc) hds, rfl⟩
  · rintro ⟨ds, h, rfl⟩
    induction h with
    | done => exact .done
    | digit hc _ ih => exact .digit ((isDigitOf_asciiChar _).trans hc) ih
    | mark hc _ ih => exact .mark ((isDigitOf_asciiChar _).trans hc) ih

private theorem sign_asciiForm {cs : List Char} {negative : Bool} :
    Sign (asciiForm cs) negative ↔ Sign cs negative := by
  constructor
  · intro h
    generalize hbs : asciiForm cs = bs at h
    cases h with
    | none =>
      cases List.map_eq_nil_iff.mp hbs
      exact .none
    | plus =>
      obtain ⟨a, rfl, ha⟩ := List.map_eq_singleton_iff.mp hbs
      cases (asciiChar_eq_iff (by decide)).mp ha
      exact .plus
    | minus =>
      obtain ⟨a, rfl, ha⟩ := List.map_eq_singleton_iff.mp hbs
      cases (asciiChar_eq_iff (by decide)).mp ha
      exact .minus
  · intro h
    cases h with
    | none => exact .none
    | plus => exact .plus
    | minus => exact .minus

private theorem spaces_asciiForm {cs : List Char} :
    (∀ b ∈ asciiForm cs, isNumeralSpace b = true) ↔ ∀ b ∈ cs, isSurround b = true := by
  rw [asciiForm_eq, List.forall_mem_map]
  simp only [isNumeralSpace_asciiChar]

/-- A text is a numeral if its ASCII form is one. -/
private theorem numeral_asciiForm {cs ds' : List Char} {negative : Bool} :
    Numeral isNumeralSpace (isDigitOf 10) (asciiForm cs) negative ds' ↔
      ∃ ds, Numeral isSurround isDigit cs negative ds ∧ ds' = asciiForm ds := by
  constructor
  · intro h
    generalize hbs : asciiForm cs = bs at h
    rw [asciiForm_eq] at hbs
    obtain ⟨hfront, hsign, hc, hbody, hback⟩ := h
    obtain ⟨front, signed, rfl, rfl, hsigned⟩ := List.map_eq_append_iff.mp hbs
    obtain ⟨sign, rest, rfl, rfl, hrest⟩ := List.map_eq_append_iff.mp hsigned
    obtain ⟨run, back, rfl, hrun, rfl⟩ := List.map_eq_append_iff.mp hrest
    obtain ⟨c, body, rfl, rfl, rfl⟩ := List.map_eq_cons_iff.mp hrun
    obtain ⟨ds, hds, rfl⟩ := following_asciiForm.mp hbody
    exact ⟨c :: ds, .mk (spaces_asciiForm.mp hfront) (sign_asciiForm.mp hsign)
      ((isDigitOf_asciiChar c).symm.trans hc) hds (spaces_asciiForm.mp hback), rfl⟩
  · rintro ⟨ds, ⟨hfront, hsign, hc, hbody, hback⟩, rfl⟩
    simp only [asciiForm_eq, List.map_append, List.map_cons]
    exact .mk (spaces_asciiForm.mpr hfront) (sign_asciiForm.mpr hsign)
      ((isDigitOf_asciiChar _).trans hc) (following_asciiForm.mpr ⟨_, hbody, rfl⟩)
      (spaces_asciiForm.mpr hback)

/-! ### What is read -/

private theorem positional_asciiForm {cs : List Char} (h : ∀ c ∈ cs, isDigit c = true) :
    positional 10 (asciiForm cs) = decimal cs := by
  rw [positional, asciiForm_eq, List.foldl_map, decimal]
  refine List.foldl_ext _ _ _ fun n c hc => ?_
  rw [hexValue_asciiChar (h c hc)]

private theorem dropBaseMark_ten (ds : List Char) : dropBaseMark 10 ds = ds := by
  unfold dropBaseMark
  split
  · rfl
  · rfl

private theorem readInt_ten (cs : List Char) :
    readInt? 10 cs =
      match joinDigits? (isDigitOf 10) false (takeSign (bare (asciiForm cs))).2 with
      | none | some [] => none
      | some ds =>
        if !ds.all (isDigitOf 10) || (10 == 10 && digitLimit < ds.length) then none
        else some (withSign (takeSign (bare (asciiForm cs))).1 (positional 10 ds)) := by
  rw [readInt?, bareNumeral, ← bare]
  simp only [dropBaseMark_ten]
  rfl

section Numerals

variable {cs ds ds' : List Char} {negative negative' : Bool} {n m : Int}

private theorem IsNumeral.digits (h : IsNumeral cs negative ds) : ∀ c ∈ ds, isDigit c = true := by
  cases h with
  | mk _ _ hc hbody _ =>
    exact List.forall_mem_cons.mpr ⟨hc, List.all_eq_true.mp hbody.all⟩

private theorem IsNumeral.readInt (h : IsNumeral cs negative ds) :
    readInt? 10 cs =
      if digitLimit < ds.length then none else some (withSign negative (decimal ds)) := by
  obtain ⟨hsign, hne, hjoin, hall⟩ := asciiNumeral_iff.mp (numeral_asciiForm.mpr ⟨ds, h, rfl⟩)
  have hlength : (asciiForm ds).length = ds.length := List.length_map _
  rw [readInt_ten, hjoin, hsign]
  obtain ⟨d, rest, hds⟩ := List.exists_cons_of_ne_nil hne
  rw [hds] at hall hlength
  rw [← positional_asciiForm h.digits, hds]
  simp [hall, hlength]

private theorem exists_isNumeral (h : readInt? 10 cs = some n) :
    ∃ negative ds, IsNumeral cs negative ds := by
  rw [readInt_ten] at h
  split at h
  · cases h
  · cases h
  · next ds hne hjoin =>
    have hall : ds.all (isDigitOf 10) = true := by
      by_contra hnot
      rw [Bool.not_eq_true] at hnot
      rw [hnot] at h
      cases h
    obtain ⟨ds', hnumeral, -⟩ := numeral_asciiForm.mp (asciiNumeral_iff.mpr ⟨rfl, hne, hjoin, hall⟩)
    exact ⟨_, ds', hnumeral⟩

/-- A text is a numeral in one way only, up to the scripts of its digits. -/
private theorem IsNumeral.unique (h : IsNumeral cs negative ds) (h' : IsNumeral cs negative' ds') :
    negative = negative' ∧ ds.length = ds'.length ∧ decimal ds = decimal ds' := by
  obtain ⟨hsign, -, hjoin, -⟩ := asciiNumeral_iff.mp (numeral_asciiForm.mpr ⟨ds, h, rfl⟩)
  obtain ⟨hsign', -, hjoin', -⟩ := asciiNumeral_iff.mp (numeral_asciiForm.mpr ⟨ds', h', rfl⟩)
  have hsame : asciiForm ds = asciiForm ds' := Option.some.inj (hjoin.symm.trans hjoin')
  refine ⟨hsign.symm.trans hsign', ?_, ?_⟩
  · have hlength := congrArg List.length hsame
    rwa [asciiForm_eq, asciiForm_eq, List.length_map, List.length_map] at hlength
  · rw [← positional_asciiForm h.digits, ← positional_asciiForm h'.digits, hsame]

theorem Spells.unique (h : Spells cs n) (h' : Spells cs m) : n = m := by
  obtain ⟨_, _, hnumeral, rfl⟩ := h
  obtain ⟨_, _, hnumeral', rfl⟩ := h'
  obtain ⟨hsign, -, hvalue⟩ := hnumeral.unique hnumeral'
  rw [hsign, hvalue]

/-- What is read as a whole number are the numerals that are not too long. -/
theorem readInt_eq_some_iff : readInt? 10 cs = some n ↔ Spells cs n ∧ ¬IsLong cs := by
  constructor
  · intro h
    obtain ⟨negative, ds, hnumeral⟩ := exists_isNumeral h
    rw [hnumeral.readInt] at h
    split at h
    · cases h
    · next hshort =>
      refine ⟨⟨negative, ds, hnumeral, (Option.some.inj h).symm⟩, ?_⟩
      rintro ⟨_, _, hnumeral', hlong⟩
      exact hshort ((hnumeral.unique hnumeral').2.1 ▸ hlong)
  · rintro ⟨⟨negative, ds, hnumeral, rfl⟩, hshort⟩
    rw [hnumeral.readInt, if_neg fun hlong => hshort ⟨negative, ds, hnumeral, hlong⟩]

end Numerals

/-- A row of digits is a numeral. -/
private theorem isNumeral_digits {cs : List Char} (hne : cs ≠ []) (h : ∀ c ∈ cs, isDigit c = true) :
    IsNumeral cs false cs := by
  have hrow (body : List Char) (hbody : ∀ c ∈ body, isDigit c = true) :
      Following isDigit body body := by
    induction body with
    | nil => exact .done
    | cons c body ih =>
      obtain ⟨hc, hbody⟩ := List.forall_mem_cons.mp hbody
      exact .digit hc (ih hbody)
  obtain ⟨c, body, rfl⟩ := List.exists_cons_of_ne_nil hne
  obtain ⟨hc, hbody⟩ := List.forall_mem_cons.mp h
  have hnumeral := @Numeral.mk isSurround isDigit [] [] body [] body c false nofun .none hc
    (hrow body hbody) nofun
  rwa [List.append_nil] at hnumeral

theorem readInt_decimal {cs : List Char} (hne : cs ≠ []) (h : ∀ c ∈ cs, isDigit c = true) :
    readInt? 10 cs = if digitLimit < cs.length then none else some ↑(decimal cs) :=
  (isNumeral_digits hne h).readInt

theorem readInt_digits {cs : List Char} (hne : cs ≠ []) (h : ∀ c ∈ cs, isDigit c = true) :
    readInt? 10 cs = none ↔ digitLimit < cs.length := by
  rw [readInt_decimal hne h]
  simp

end SlideOverflow.Number
