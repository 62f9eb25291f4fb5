import SlideOverflow.Json.Compare
import SlideOverflow.Number.Arithmetic

/-! Access to the parts of a page's answer. Answers are read part by part, and only a part that is
needed can be found wanting. -/
namespace SlideOverflow.Json

open Number

def fieldOr (default : Json) (j : Json) (name : String) : Outcome Json :=
  match j with
  | .record fields => .ok ((fields.lookup name).getD default)
  | _ => Outcome.reject .noFields

def field (j : Json) (name : String) : Outcome Json := fieldOr .null j name

def require (j : Json) (name : String) : Outcome Json :=
  match j with
  | .record fields => Outcome.ofOption (.missing name) (fields.lookup name)
  | _ => Outcome.reject .wrongKind

/-- The members of a list, the characters of a text, or the names of a record's fields. -/
def items : Json → Outcome (List Json)
  | .list items => .ok items
  | .text s => .ok (s.toList.map fun c => .text c.toString)
  | .record fields => .ok (fields.map fun f => .text f.1)
  | _ => Outcome.reject .wrongKind

def toQuantity (j : Json) : Outcome Quantity := Outcome.ofOption .wrongKind j.quantity?

def minus (a b : Json) : Outcome Quantity := do (← a.toQuantity).sub (← b.toQuantity)

def excess (a b : Json) : Outcome Quantity := do return Quantity.larger 0 (← a.minus b)

theorem minus_int (a b : Int) :
    minus (.number (.int a)) (.number (.int b)) = .ok (.int (a - b)) := rfl

theorem excess_int (a b : Int) :
    excess (.number (.int a)) (.number (.int b)) = .ok (.int (max 0 (a - b))) :=
  congrArg Except.ok (Quantity.larger_int 0 (a - b))

/-- The whole number that a value stands for: truth values are one and zero, doubles lose their
fraction, texts are read. -/
def toWhole : Json → Outcome Int
  | .number (.int n) => .ok n
  | .number (.real x) => Quantity.truncate x
  | .bool b => .ok (if b then 1 else 0)
  | .text s => Outcome.ofOption .badValue (readInt? 10 s.toList)
  | _ => Outcome.reject .wrongKind

def wholeOr (default : Int) (j : Json) : Outcome Int :=
  if j.isTruthy then j.toWhole else .ok default

def size : Json → Outcome Nat
  | .list items => .ok items.length
  | .text s => .ok s.length
  | .record fields => .ok fields.length
  | _ => Outcome.reject .wrongKind

def isText (s : String) : Json → Bool
  | .text t => t == s
  | _ => false

theorem isText_iff {s : String} {j : Json} : isText s j = true ↔ j = .text s := by
  cases j <;> simp [isText]

def isOneOf (texts : List String) : Json → Bool
  | .text t => texts.contains t
  | _ => false

def present (j : Json) : Json := if j.isTruthy then j else .null

def toText? (j : Json) : Outcome (Option String) :=
  if !j.isTruthy then .ok none
  else match j with
    | .text s => .ok (some s)
    | _ => Outcome.reject .wrongKind

end SlideOverflow.Json
