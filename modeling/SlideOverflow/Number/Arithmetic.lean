import SlideOverflow.Failure

/-! Arithmetic on quantities. Two whole numbers give a whole number; as soon as a double takes part
the other operand is brought to a double, which fails beyond the largest one. -/
namespace SlideOverflow.Number.Quantity

def toFloat (q : Quantity) : Outcome Float :=
  Outcome.ofOption .tooLarge q.toFloat?

def combine (onInts : Int → Int → Int) (onReals : Float → Float → Float) :
    Quantity → Quantity → Outcome Quantity
  | .int a, .int b => .ok (.int (onInts a b))
  | a, b => do return .real (onReals (← a.toFloat) (← b.toFloat))

def add (a b : Quantity) : Outcome Quantity :=
  combine (· + ·) (· + ·) a b

def sub (a b : Quantity) : Outcome Quantity :=
  combine (· - ·) (· - ·) a b

def mul (a b : Quantity) : Outcome Quantity :=
  combine (· * ·) (· * ·) a b

/-- The quantity halved and rounded down. An infinity has no half to round. -/
def halfDown : Quantity → Quantity
  | .int n => .int (n.fdiv 2)
  | .real x => .real (if x.isInf then 0 / 0 else (x / 2).floor)

def ceil : Quantity → Outcome Int
  | .int n => .ok n
  | .real x =>
    match Scaled.ofFloat? x with
    | some s => .ok s.ceil
    | none => .error (.defect (if x.isNaN then .badValue else .tooLarge))

def truncate (x : Float) : Outcome Int :=
  match Scaled.ofFloat? x with
  | some s => .ok s.truncate
  | none => .error (.defect (if x.isNaN then .badValue else .tooLarge))

/-- The sum of a list, from the whole number zero. -/
def sum (qs : List Quantity) : Outcome Quantity :=
  qs.foldlM add 0

/-- With a double on the right, everything depends on the other operand. -/
theorem combine_real (onInts : Int → Int → Int) (onReals : Float → Float → Float) (a : Quantity)
    (y : Float) :
    combine onInts onReals a (.real y) = a.toFloat.map fun x => .real (onReals x y) := by
  cases a with
  | int n => cases h : (Quantity.int n).toFloat <;> simp only [combine, h] <;> rfl
  | real x => rfl

/-- So it does with a double on the left. -/
theorem real_combine (onInts : Int → Int → Int) (onReals : Float → Float → Float) (x : Float)
    (b : Quantity) :
    combine onInts onReals (.real x) b = b.toFloat.map fun y => .real (onReals x y) := by
  cases h : b.toFloat <;> simp only [combine, h] <;> rfl

@[simp] theorem mul_int (a b : Int) : mul (.int a) (.int b) = .ok (.int (a * b)) := rfl

end SlideOverflow.Number.Quantity
