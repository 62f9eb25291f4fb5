import SlideOverflow.Metadata.Fault
import SlideOverflow.Metadata.Value.Basic
import SlideOverflow.Text.Lower

/-! The values that texts stand for under a tag: truth values, numbers, dates, moments and octets. A
text that lies outside its tag ends the reading. -/
namespace SlideOverflow.Metadata

open Number Text

def boolOf (text : Codes) : Except Stop Value :=
  let word := text.lower
  if ["yes", "true", "on"].any fun w => word == Codes.ofString w then .ok (.bool true)
  else if ["no", "false", "off"].any fun w => word == Codes.ofString w then .ok (.bool false)
  else .error (.defect (.missing word))

private def colonParts (cs : List Char) : List (List Char) :=
  cs.splitOn ':'

private def readWhole (base : Nat) (cs : List Char) : Except Stop Int :=
  match readInt? base cs with
  | some n => .ok n
  | none => .error (.defect .badValue)

/-- The whole number of a text: underscores are dropped, a leading zero asks for base eight or for
the base of the letter behind it, and colons for base sixty. -/
def intOf (cs : List Char) : Except Stop Value := do
  let cs := cs.filter (· != '_')
  if cs.isEmpty then .error (.defect .noPosition)
  let (negative, bare) := takeSign cs
  let signed (n : Int) : Value := .number (.int (if negative then -n else n))
  match bare with
  | ['0'] => .ok (.number 0)
  | '0' :: 'b' :: ds => return signed (← readWhole 2 ds)
  | '0' :: 'x' :: ds => return signed (← readWhole 16 ds)
  | '0' :: _ => return signed (← readWhole 8 bare)
  | [] => .error (.defect .noPosition)
  | _ =>
    if bare.contains ':' then
      let digits ← (colonParts bare).mapM (readWhole 10)
      return signed (digits.foldl (fun n d => n * 60 + d) 0)
    else return signed (← readWhole 10 bare)

private def readDouble (cs : List Char) : Except Stop Float :=
  match readFloat? cs with
  | some x => .ok x
  | none => .error (.defect .badValue)

/-- A number in base sixty, its last digit first, added to a total. The first digit is worth
`worth`, each other one sixty times the one before. What a digit is worth has to be within the
doubles. -/
def sexagesimal (worth : Nat) (total : Float) : List Float → Except Stop Float
  | [] => .ok total
  | d :: ds =>
    match Quantity.intToFloat? worth with
    | some w => sexagesimal (worth * 60) (total + d * w) ds
    | none => .error (.defect .tooLarge)

/-- A double as a value. `origin` tells apart what is no number. -/
def doubleValue (origin : Nat) (x : Float) : Value :=
  if x.isNaN then .notNumber origin else .number (.real x)

/-- The double of a text: underscores are dropped, and colons ask for base sixty. What is no number
because a word says so has the origin zero, all else that is none the origin given. -/
def floatOf (origin : Nat) (cs : List Char) : Except Stop Value := do
  let cs := (cs.filter (· != '_')).map Char.toLower
  if cs.isEmpty then .error (.defect .noPosition)
  let (negative, bare) := takeSign cs
  let signed (x : Float) : Value := doubleValue origin (if negative then -x else x)
  if bare == ".inf".toList then return signed (1 / 0)
  else if bare == ".nan".toList then return .notNumber 0
  else if bare.contains ':' then
    let digits ← (colonParts bare).mapM readDouble
    return signed (← sexagesimal 1 0 digits.reverse)
  else return signed (← readDouble bare)

/-- The date or moment of a text. A line break at the very end does not count. -/
def momentOf (cs : List Char) : Except Stop Value :=
  let bare := if cs.getLast? == some '\n' then cs.dropLast else cs
  match readMoment? bare with
  | none => .error (.defect .noFields)
  | some (.inl d) => if d.isValid then .ok (.date d) else .error (.defect .badValue)
  | some (.inr m) => if m.isValid then .ok (.moment m) else .error (.defect .badValue)

/-! ### Octets

Octets are written in sixty-four letters, four letters for three octets. Characters that are no such
letters are skipped. -/

def sextet? (c : Char) : Option Nat :=
  let n := c.toNat
  if 65 ≤ n && n ≤ 90 then some (n - 65)
  else if 97 ≤ n && n ≤ 122 then some (n - 71)
  else if 48 ≤ n && n ≤ 57 then some (n + 4)
  else if c == '+' then some 62
  else if c == '/' then some 63
  else none

/-- Decodes letters from a state on: how many letters of the current four are read, the bits that
are left of the last one, how many signs of padding came since, and how many octets are complete. -/
def decodeLetters (read left pads done : Nat) : List Char → Except Cause (List Nat)
  | [] =>
    if read == 0 then .ok []
    else if read == 1 then .error (.oddOctets (done / 3 * 4 + 1))
    else .error .badPadding
  | c :: cs =>
    if c == '=' then
      if 2 ≤ read then
        if 4 ≤ read + (pads + 1) then .ok [] else decodeLetters read left (pads + 1) done cs
      else decodeLetters read left pads done cs
    else match sextet? c with
      | none => decodeLetters read left pads done cs
      | some v =>
        match read with
        | 0 => decodeLetters 1 v 0 done cs
        | 1 => (decodeLetters 2 (v % 16) 0 (done + 1) cs).map ((left * 4 + v / 16) :: ·)
        | 2 => (decodeLetters 3 (v % 4) 0 (done + 1) cs).map ((left * 16 + v / 4) :: ·)
        | _ => (decodeLetters 0 0 0 (done + 1) cs).map ((left * 64 + v) :: ·)

def decodeOctets (text : Text.Codes) : Except Cause (List Nat) :=
  if text.points.all (· < 128) then decodeLetters 0 0 0 0 text.chars else .error (.noAscii text)

end SlideOverflow.Metadata
