import SlideOverflow.Json.Basic
import SlideOverflow.Failure

/-! Equality and order of values. Truth values count as the numbers one and zero. Numbers have an
order, texts have one, and lists have one by their first members that differ; all else has none. -/
namespace SlideOverflow.Json

open Number Text

/-- The number that a value counts as: truth values are one and zero. -/
def quantity? : Json → Option Quantity
  | .number q => some q
  | .bool b => some (if b then 1 else 0)
  | _ => none

def points? : Json → Option (List Nat)
  | .text s => some (Codes.ofString s).points
  | .codes c => some c.points
  | _ => none

mutual

/-- Whether two values are equal. The order of a record's fields does not count. -/
def same : Json → Json → Bool
  | .null, .null => true
  | .list as, .list bs => sameItems as bs
  | .record fs, .record gs => fs.length == gs.length && sameFields fs gs
  | a, b =>
    match a.quantity?, b.quantity? with
    | some p, some q => p.same q
    | none, none => a.points?.isSome && a.points? == b.points?
    | _, _ => false

private def sameItems : List Json → List Json → Bool
  | [], [] => true
  | a :: as, b :: bs => same a b && sameItems as bs
  | _, _ => false

private def sameFields : List (String × Json) → List (String × Json) → Bool
  | [], _ => true
  | (name, a) :: fs, gs =>
    (match gs.lookup name with
    | some b => same a b
    | none => false) && sameFields fs gs

end

def pointsAbove : List Nat → List Nat → Bool
  | [], _ => false
  | _ :: _, [] => true
  | a :: as, b :: bs => if a == b then pointsAbove as bs else decide (b < a)

mutual

def above : Json → Json → Outcome Bool
  | .list as, .list bs => itemsAbove as bs
  | a, b =>
    match a.quantity?, b.quantity?, a.points?, b.points? with
    | some p, some q, _, _ => .ok (q.less p)
    | _, _, some s, some t => .ok (pointsAbove s t)
    | _, _, _, _ => Outcome.reject .wrongKind

private def itemsAbove : List Json → List Json → Outcome Bool
  | [], _ => .ok false
  | _ :: _, [] => .ok true
  | a :: as, b :: bs => if same a b then itemsAbove as bs else above a b

end

mutual

/-- Values that have no order are of the wrong kind; nothing else is wrong with them. -/
theorem above_eq_error {a b : Json} {e : Failure} (h : above a b = .error e) :
    e = .defect .wrongKind := by
  unfold above at h
  split at h
  · exact itemsAbove_eq_error h
  · split at h
    · cases h
    · cases h
    · cases h
      rfl

private theorem itemsAbove_eq_error {as bs : List Json} {e : Failure}
    (h : itemsAbove as bs = .error e) : e = .defect .wrongKind := by
  cases as with
  | nil => simp [itemsAbove] at h
  | cons a as =>
    cases bs with
    | nil => simp [itemsAbove] at h
    | cons b bs =>
      rw [itemsAbove] at h
      split at h
      · exact itemsAbove_eq_error h
      · exact above_eq_error h

end

@[simp] theorem same_int (a b : Int) :
    same (.number (.int a)) (.number (.int b)) = decide (a = b) := by
  simp [same, quantity?]

@[simp] theorem above_int (a b : Int) :
    above (.number (.int a)) (.number (.int b)) = .ok (decide (b < a)) := by
  simp [above, quantity?]

end SlideOverflow.Json
