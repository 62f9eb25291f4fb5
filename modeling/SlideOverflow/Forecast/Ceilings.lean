import SlideOverflow.Failure
import SlideOverflow.Metadata.Value.Text
import SlideOverflow.Number.Arithmetic
import SlideOverflow.Settings.Basic

/-! Ceilings: coarse limits on the length of headings and blocks of code. The settings give them and
the metadata of a document may replace them one by one. -/
namespace SlideOverflow.Forecast

open Metadata Number

inductive Ceiling where
  | h1
  | h2
  | h3
  | code
deriving DecidableEq, Repr

namespace Ceiling

def all : List Ceiling := [.h1, .h2, .h3, .code]

def key : Ceiling → String
  | .h1 => "h1MaxChars"
  | .h2 => "h2MaxChars"
  | .h3 => "h3MaxChars"
  | .code => "codeMaxLines"

end Ceiling

/-- The most characters of headings by their level, and the most lines of a block of code. -/
structure Ceilings where
  h1 : Quantity := 60
  h2 : Quantity := 80
  /-- Holds for the third level and all deeper ones. -/
  h3 : Quantity := 100
  code : Quantity := 30
deriving DecidableEq, Repr

namespace Ceilings

def get (c : Ceilings) : Ceiling → Quantity
  | .h1 => c.h1
  | .h2 => c.h2
  | .h3 => c.h3
  | .code => c.code

def set (c : Ceilings) (which : Ceiling) (value : Quantity) : Ceilings :=
  match which with
  | .h1 => { c with h1 := value }
  | .h2 => { c with h2 := value }
  | .h3 => { c with h3 := value }
  | .code => { c with code := value }

@[simp] theorem get_set_same (c : Ceilings) (k : Ceiling) (v : Quantity) :
    (c.set k v).get k = v := by
  cases k <;> rfl

theorem get_set_other (c : Ceilings) {k l : Ceiling} (v : Quantity) (h : l ≠ k) :
    (c.set k v).get l = c.get l := by
  cases k <;> cases l <;> simp_all [get, set]

def ofSettings (s : Settings) : Ceilings :=
  ⟨.int s.h1MaxChars, .int s.h2MaxChars, .int s.h3MaxChars, .int s.codeMaxLines⟩

def heading (c : Ceilings) (level : Int) : Quantity :=
  if level == 1 then c.h1 else if level == 2 then c.h2 else c.h3

end Ceilings

/-- The octets below 128 as characters; others become a character that no numeral holds. -/
def octetText (bs : List Nat) : List Char :=
  bs.map fun b => if b < 127 then Char.ofNat b else '?'

/-- The whole number that a value stands for: whole numbers, the whole part of doubles, and the text
of a whole number. -/
def wholeNumber : Value → Outcome Int
  | .number (.int n) => .ok n
  | .number (.real x) => Quantity.truncate x
  | .notNumber _ => Outcome.reject .badValue
  | .text c => Outcome.ofOption .badValue (readInt? 10 c.chars)
  | .octets bs => Outcome.ofOption .badValue (readInt? 10 (octetText bs))
  | _ => Outcome.reject .wrongKind

/-- A positive limit; none where the value is no number. An infinity is an error. -/
def usableCeiling? (v : Value) : Outcome (Option Int) :=
  match wholeNumber v with
  | .ok n => .ok (if 0 < n then some n else none)
  | .error (.defect .tooLarge) => .error (.defect .tooLarge)
  | .error _ => .ok none

structure UnusableCeiling where
  ceiling : Ceiling
  shown : List Char
  kept : Quantity
deriving Repr

def UnusableCeiling.message (u : UnusableCeiling) : String :=
  "Ignoring invalid threshold " ++ u.ceiling.key ++ "=" ++ String.ofList u.shown ++
    ", using " ++ u.kept.toString

namespace Ceilings

def readOne (defaults : Ceilings) (t : Table) (found : Ceilings × List UnusableCeiling)
    (k : Ceiling) : Outcome (Ceilings × List UnusableCeiling) :=
  match t.get? k.key with
  | none => .ok found
  | some d => do
    match ← usableCeiling? d.value with
    | some n => return (found.1.set k (.int n), found.2)
    | none => return (found.1, found.2 ++ [⟨k, ← d.shown, defaults.get k⟩])

/-- The limits after the metadata, which is read only if it is a mapping, and what is unusable in
it. -/
def ofDatum (defaults : Ceilings) (d : Datum) : Outcome (Ceilings × List UnusableCeiling) :=
  match d.table? with
  | some t => Ceiling.all.foldlM (readOne defaults t) (defaults, [])
  | none => .ok (defaults, [])

end Ceilings

end SlideOverflow.Forecast
