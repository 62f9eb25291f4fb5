import SlideOverflow.Number.Scaled

/-! Decimal digits of a double by exact arithmetic on natural numbers: the fewest digits that read
back as the same double, and a given number of digits rounded half to even. -/
namespace SlideOverflow.Number

structure Decimal where
  digits : Nat
  exponent : Int
deriving DecidableEq, Repr

def digitCount (n : Nat) : Nat :=
  (Nat.toDigits 10 n).length

def roundHalfEven (num den : Nat) : Nat :=
  let q := num / den
  let twice := 2 * (num % den)
  if twice < den then q
  else if den < twice then q + 1
  else if q % 2 == 0 then q else q + 1

def shiftTen (num den : Nat) (k : Int) : Nat × Nat :=
  (num * Nat.pow 10 (-k).toNat, den * Nat.pow 10 k.toNat)

/-- The exponent `p` with `10 ^ p ≤ num / den < 10 ^ (p + 1)`, for a positive ratio. -/
def decimalExponent (num den : Nat) : Int :=
  let guess : Int := digitCount num - digitCount den
  let (n, d) := shiftTen num den guess
  if d ≤ n then guess else guess - 1

namespace Decimal

def normal (d : Decimal) : Decimal :=
  let zeros := ((Nat.toDigits 10 d.digits).reverse.takeWhile (· == '0')).length
  if d.digits == 0 then d else ⟨d.digits / Nat.pow 10 zeros, d.exponent + zeros⟩

def leading (d : Decimal) : Int :=
  d.exponent + digitCount d.digits - 1

def ofRatio (num den count : Nat) : Decimal :=
  let exponent := decimalExponent num den - count + 1
  let (n, d) := shiftTen num den exponent
  ⟨roundHalfEven n d, exponent⟩

/-- The better of the two neighbours of the value `v / d` on the grid of whole numbers that lie in
the interval from `lo / d` to `hi / d`, ends included when `closed`. -/
def neighbour? (lo v hi d : Nat) (closed : Bool) : Option Nat :=
  let below := v / d
  let above := below + 1
  let inside (w : Nat) : Bool :=
    if closed then lo ≤ w * d && w * d ≤ hi else lo < w * d && w * d < hi
  let fits := (if 0 < below && inside below then [below] else []) ++
    (if inside above then [above] else [])
  match fits with
  | [] => none
  | [w] => some w
  | _ => some (roundHalfEven v d)

/-- The first grid, from `count` digits on, that has a point in the interval. -/
def firstHit (lo v hi den : Nat) (closed : Bool) (p : Int) : Nat → Nat → Decimal
  | 0, count => ofRatio v den count
  | tries + 1, count =>
    let exponent := p - count + 1
    let up := Nat.pow 10 (-exponent).toNat
    let d := den * Nat.pow 10 exponent.toNat
    match neighbour? (lo * up) (v * up) (hi * up) d closed with
    | some w => ⟨w, exponent⟩
    | none => firstHit lo v hi den closed p tries (count + 1)

/-- The decimal with the fewest digits that rounds to the magnitude of `s`, and among those the
nearest one. The reals that round to a double reach half way to its two neighbours; the lower
neighbour of a power of two is at half the distance. `s` holds a positive magnitude of a double. -/
def shortest (s : Scaled) : Decimal :=
  let unit : Scaled := ⟨false, 1, s.exponent - 2⟩
  let v := 4 * s.magnitude
  let lo := if s.magnitude == Nat.pow 2 52 && s.exponent != -1074 then v - 1 else v - 2
  let num := unit.numerator
  let den := unit.denominator
  normal (firstHit (lo * num) (v * num) ((v + 2) * num) den (s.magnitude % 2 == 0)
    (decimalExponent (v * num) den) 17 1)

end Decimal

end SlideOverflow.Number
