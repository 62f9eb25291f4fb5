import SlideOverflow.Number.Quantity
import SlideOverflow.Text.Codes

/-! Values as pages hand them over and as lists are written in settings: records, lists, texts,
numbers, truth values and null. -/
namespace SlideOverflow

open Number Text

/-- A value of this kind. The fields of a record stand in the order in which they came. -/
inductive Json where
  | null
  | bool (b : Bool)
  | number (q : Quantity)
  | text (s : String)
  /-- A text that holds half of a pair of code units and so is no string. -/
  | codes (c : Codes)
  | list (items : List Json)
  | record (fields : List (String × Json))
deriving Repr, BEq

namespace Json

instance : Inhabited Json := ⟨.null⟩

/-- Sets a field. A field that is already there keeps its place. -/
def put (fields : List (String × Json)) (name : String) (value : Json) : List (String × Json) :=
  if fields.any (·.1 == name) then
    fields.map fun f => if f.1 == name then (name, value) else f
  else fields ++ [(name, value)]

def ofCodes (c : Codes) : Json :=
  match c.string? with
  | some s => .text s
  | none => .codes c

def ofInt (n : Int) : Json := .number (.int n)

def ofNat (n : Nat) : Json := ofInt n

/-- Whether a value counts as present: null, zero, false and what is empty do not. -/
def isTruthy : Json → Bool
  | .null => false
  | .bool b => b
  | .number q => !q.isZero
  | .text s => s != ""
  | .codes _ => true
  | .list items => !items.isEmpty
  | .record fields => !fields.isEmpty

end Json

end SlideOverflow
