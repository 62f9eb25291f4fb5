/-! The exact value of a finite double, as a whole number of units that are powers of two, and the
comparisons and roundings to whole numbers that this value decides. However long two whole numbers
are, their exact quotient is rounded to a double once: to the nearest number of units, and to the
even one where two are as near. -/
namespace SlideOverflow.Number

/-- The value `± magnitude · 2 ^ exponent`. The sign is kept apart because zero has one too. -/
structure Scaled where
  negative : Bool
  magnitude : Nat
  exponent : Int
deriving DecidableEq, Repr

namespace Scaled

def ofFloat? (x : Float) : Option Scaled :=
  let bits := x.toBits.toNat
  let negative := bits / Nat.pow 2 63 == 1
  let field : Nat := bits / Nat.pow 2 52 % 2048
  let fraction : Nat := bits % Nat.pow 2 52
  if field == 2047 then none
  else if field == 0 then some ⟨negative, fraction, -1074⟩
  else some ⟨negative, fraction + Nat.pow 2 52, (field : Int) - 1075⟩

def numerator (s : Scaled) : Nat :=
  s.magnitude * Nat.pow 2 s.exponent.toNat

def denominator (s : Scaled) : Nat :=
  Nat.pow 2 (-s.exponent).toNat

def signedNumerator (s : Scaled) : Int :=
  if s.negative then -s.numerator else s.numerator

def compareInt (n : Int) (s : Scaled) : Ordering :=
  compare (n * s.denominator) s.signedNumerator

def floor (s : Scaled) : Int :=
  s.signedNumerator.fdiv s.denominator

def ceil (s : Scaled) : Int :=
  -(-s.signedNumerator).fdiv s.denominator

def truncate (s : Scaled) : Int :=
  s.signedNumerator.tdiv s.denominator

end Scaled

/-! ### Quotients -/

/-- The whole number nearest to `n / d`; the even one where two are as near. -/
def nearest (n d : Nat) : Nat :=
  let rest := 2 * (n % d)
  if rest < d then n / d
  else if rest = d then n / d + n / d % 2
  else n / d + 1

def quotientExponent (n d : Nat) : Int :=
  let e : Int := n.log2 - d.log2
  if d * Nat.pow 2 e.toNat ≤ n * Nat.pow 2 (-e).toNat then e else e - 1

/-- The double nearest to `n / d`, which has to be below the largest one. It has 53 bits, in units
that are no smaller than those of the least doubles. -/
def Scaled.quotient (n d : Nat) : Scaled :=
  let unit := max (quotientExponent n d - 52) (-1074)
  ⟨false, nearest (n * Nat.pow 2 (-unit).toNat) (d * Nat.pow 2 unit.toNat), unit⟩

end SlideOverflow.Number
