import SlideOverflow.Number.Reading
import SlideOverflow.Number.Written

/-! Quantities as documents, settings and pages give them: whole numbers of any size and doubles.
The two stay apart in arithmetic and in print, and are compared by their exact values. -/
namespace SlideOverflow.Number

inductive Quantity where
  | int (n : Int)
  | real (x : Float)
deriving DecidableEq, Repr

namespace Quantity

instance : Inhabited Quantity := ⟨.int 0⟩

instance {n : Nat} : OfNat Quantity n := ⟨.int n⟩

instance : Coe Int Quantity := ⟨.int⟩

def compare? : Quantity → Quantity → Option Ordering
  | .int a, .int b => some (compare a b)
  | .int a, .real y =>
    match Scaled.ofFloat? y with
    | some s => some (Scaled.compareInt a s)
    | none => if y.isNaN then none else some (if y < 0 then .gt else .lt)
  | .real x, .int b =>
    match Scaled.ofFloat? x with
    | some s => some (Scaled.compareInt b s).swap
    | none => if x.isNaN then none else some (if x < 0 then .lt else .gt)
  | .real x, .real y =>
    if x < y then some .lt else if y < x then some .gt else if x == y then some .eq else none

def less (a b : Quantity) : Bool :=
  compare? a b == some .lt

def atMost (a b : Quantity) : Bool :=
  compare? a b == some .lt || compare? a b == some .eq

def same (a b : Quantity) : Bool :=
  compare? a b == some .eq

def isZero (a : Quantity) : Bool :=
  same a 0

@[simp] theorem less_int (a b : Int) : less (.int a) (.int b) = decide (a < b) := by
  simp only [less, compare?, compare, compareOfLessAndEq]
  split
  · next h => simp [h]
  · next h => split <;> simp_all

@[simp] theorem atMost_int (a b : Int) : atMost (.int a) (.int b) = decide (a ≤ b) := by
  simp only [atMost, compare?, compare, compareOfLessAndEq]
  split
  · next h => simp; omega
  · next h =>
    split
    · next e => simp [e]
    · next e => simp; omega

@[simp] theorem same_int (a b : Int) : same (.int a) (.int b) = decide (a = b) := by
  simp only [same, compare?, compare, compareOfLessAndEq]
  split
  · next h => simp; omega
  · next h => split <;> simp_all

/-- The larger of the two; the first one unless the second is above it. -/
def larger (a b : Quantity) : Quantity :=
  if less a b then b else a

theorem larger_int (a b : Int) : larger (.int a) (.int b) = .int (max a b) := by
  have hmax : max a b = if a < b then b else a := by omega
  rw [larger, less_int, hmax]
  by_cases h : a < b <;> simp [h]

def intToFloat? (n : Int) : Option Float :=
  let x := Float.ofScientific n.natAbs false 0
  if x.isInf then none else some (if n < 0 then -x else x)

def toFloat? : Quantity → Option Float
  | .int n => intToFloat? n
  | .real x => some x

/-- The written form: whole numbers in full, doubles with the fewest digits that read back. -/
def text : Quantity → List Char
  | .int n => intText n
  | .real x => exactText x

def toString (q : Quantity) : String :=
  String.ofList q.text

end Quantity

end SlideOverflow.Number
