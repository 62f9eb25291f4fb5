import SlideOverflow.Number.Shortest

/-! Written forms of doubles. A `Style` says where positional notation ends and how the rest is
spelled; the digits come from exact arithmetic. -/
namespace SlideOverflow.Number

structure Style where
  /-- Least exponent of the leading digit that is written positionally. -/
  lowest : Int
  /-- First exponent of the leading digit that is no longer written positionally. -/
  limit : Int
  /-- Whether a whole number keeps a fraction of one zero. -/
  keepsFraction : Bool
deriving Repr

/-- Fewest digits that read back; positional from 0.0001 up to below 10^16; always a fraction. -/
def Style.exact : Style := ⟨-4, 16, true⟩

/-- Six significant digits; positional from 0.0001 up to below 10^6; no fraction of zeros. -/
def Style.general : Style := ⟨-4, 6, false⟩

def numeral (n : Nat) : List Char :=
  Nat.toDigits 10 n

theorem numeral_inj {m n : Nat} : numeral m = numeral n ↔ m = n := by
  constructor
  · intro h
    have hread := congrArg (fun ds => Nat.ofDigitChars 10 ds 0) h
    simpa only [numeral, Nat.ofDigitChars_ten_toDigits] using hread
  · rintro rfl
    rfl

def intText (n : Int) : List Char :=
  if n < 0 then '-' :: numeral n.natAbs else numeral n.natAbs

/-- A sign and at least two digits. -/
def exponentText (e : Int) : List Char :=
  let ds := numeral e.natAbs
  (if e < 0 then '-' else '+') :: (if ds.length < 2 then '0' :: ds else ds)

def Decimal.text (style : Style) (d : Decimal) : List Char :=
  let ds := numeral d.digits
  let p := d.leading
  if style.lowest ≤ p && p < style.limit then
    if 0 ≤ d.exponent then
      ds ++ List.replicate d.exponent.toNat '0' ++ (if style.keepsFraction then ".0".toList else [])
    else if 0 ≤ p then
      ds.take (p.toNat + 1) ++ '.' :: ds.drop (p.toNat + 1)
    else
      "0.".toList ++ List.replicate ((-p).toNat - 1) '0' ++ ds
  else
    (match ds with
    | [] => []
    | [first] => [first]
    | first :: rest => first :: '.' :: rest) ++ 'e' :: exponentText p

def nonFiniteText (x : Float) : List Char :=
  if x.isNaN then "nan".toList else if x < 0 then "-inf".toList else "inf".toList

private def signed (negative : Bool) (cs : List Char) : List Char :=
  if negative then '-' :: cs else cs

/-- The fewest digits that read back as the same double, with a point or an exponent so that it is
never taken for a whole number. -/
def exactText (x : Float) : List Char :=
  match Scaled.ofFloat? x with
  | none => nonFiniteText x
  | some s =>
    signed s.negative
      (if s.magnitude == 0 then "0.0".toList else (Decimal.shortest s).text .exact)

def generalText (x : Float) : List Char :=
  match Scaled.ofFloat? x with
  | none => nonFiniteText x
  | some s =>
    signed s.negative
      (if s.magnitude == 0 then ['0']
      else (Decimal.ofRatio s.numerator s.denominator 6).normal.text .general)

def wholeText (x : Float) : List Char :=
  match Scaled.ofFloat? x with
  | none => nonFiniteText x
  | some s => signed s.negative (numeral (roundHalfEven s.numerator s.denominator))

end SlideOverflow.Number
