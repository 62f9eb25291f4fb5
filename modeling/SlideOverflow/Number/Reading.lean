import SlideOverflow.Text.Blank
import SlideOverflow.Text.Classes

/-! Numbers written as text. Decimal digits of every script count as digits, blanks around the
number are ignored, and a single underscore may stand between two digits. -/
namespace SlideOverflow.Number

open SlideOverflow.Text

/-- ASCII form of a numeral: digits of every script become ASCII digits, blanks above ASCII become
spaces, and everything else above ASCII becomes a character that no numeral holds. -/
def asciiForm (cs : List Char) : List Char :=
  cs.map fun c =>
    if c.toNat < 127 then c
    else if isBlank c then ' '
    else match digitValue? c with
      | some d => Char.ofNat (48 + d)
      | none => '?'

def isNumeralSpace (c : Char) : Bool :=
  c == ' ' || (9 ≤ c.toNat && c.toNat ≤ 13)

def bareNumeral (cs : List Char) : List Char :=
  dropEndWhile isNumeralSpace ((asciiForm cs).dropWhile isNumeralSpace)

def takeSign : List Char → Bool × List Char
  | '-' :: cs => (true, cs)
  | '+' :: cs => (false, cs)
  | cs => (false, cs)

/-- The text without underscores, provided each one stands between two digits. `digit` says what a
digit is and `before` whether the character in front was one. -/
def joinDigits? (digit : Char → Bool) (before : Bool) : List Char → Option (List Char)
  | [] => some []
  | '_' :: c :: cs =>
    if before && digit c then (joinDigits? digit true cs).map (c :: ·) else none
  | c :: cs =>
    if c == '_' then none else (joinDigits? digit (digit c) cs).map (c :: ·)

def hexValue? (c : Char) : Option Nat :=
  let n := c.toNat
  if 48 ≤ n && n ≤ 57 then some (n - 48)
  else if 97 ≤ n && n ≤ 102 then some (n - 87)
  else if 65 ≤ n && n ≤ 70 then some (n - 55)
  else none

def isDigitOf (base : Nat) (c : Char) : Bool :=
  match hexValue? c with
  | some d => d < base
  | none => false

def positional (base : Nat) (ds : List Char) : Nat :=
  ds.foldl (fun n c => base * n + (hexValue? c).getD 0) 0

/-- Most decimal digits a whole number may have; longer numerals are refused. -/
def digitLimit : Nat := 4300

def baseMark : Nat → List Char
  | 2 => ['b', 'B']
  | 8 => ['o', 'O']
  | 16 => ['x', 'X']
  | _ => []

/-- The digits without the mark of their base and the underscore that may follow it. -/
def dropBaseMark (base : Nat) : List Char → List Char
  | '0' :: m :: cs =>
    if (baseMark base).contains m then (match cs with | '_' :: rest => rest | _ => cs)
    else '0' :: m :: cs
  | cs => cs

def readInt? (base : Nat) (cs : List Char) : Option Int :=
  let (negative, cs) := takeSign (bareNumeral cs)
  match joinDigits? (isDigitOf base) false (dropBaseMark base cs) with
  | none | some [] => none
  | some ds =>
    if !ds.all (isDigitOf base) || (base == 10 && digitLimit < ds.length) then none
    else some (if negative then -(positional base ds) else positional base ds)

/-- The double nearest to `digits · 10 ^ exponent`, by its sign. The exponent is cut where the
result is zero or infinite whatever it is. -/
def ofDecimal (negative : Bool) (ds : List Char) (exponent : Int) : Float :=
  let m := positional 10 ds
  let size := exponent + ds.length
  let x : Float :=
    if m == 0 then 0
    else if size < -400 then 0
    else if exponent > 400 then 1 / 0
    else Float.ofScientific m (exponent < 0) exponent.natAbs
  if negative then -x else x

private def lowerAscii (cs : List Char) : List Char :=
  cs.map Char.toLower

def readDecimal? (cs : List Char) : Option (List Char × Int) :=
  let whole := cs.takeWhile (isDigitOf 10)
  let rest := cs.dropWhile (isDigitOf 10)
  let (fraction, rest) := match rest with
    | '.' :: r => (r.takeWhile (isDigitOf 10), r.dropWhile (isDigitOf 10))
    | r => ([], r)
  let ds := whole ++ fraction
  if ds.isEmpty then none
  else match rest with
    | [] => some (ds, -fraction.length)
    | e :: r =>
      let (negative, es) := takeSign r
      if (e == 'e' || e == 'E') && !es.isEmpty && es.all (isDigitOf 10) then
        let n : Int := positional 10 es
        some (ds, (if negative then -n else n) - fraction.length)
      else none

def readFloat? (cs : List Char) : Option Float :=
  match joinDigits? (isDigitOf 10) false (bareNumeral cs) with
  | none => none
  | some cs =>
    let (negative, cs) := takeSign cs
    let word := String.ofList (lowerAscii cs)
    if word == "inf" || word == "infinity" then
      some (if negative then -(1 / 0) else 1 / 0)
    else if word == "nan" then some (0 / 0)
    else (readDecimal? cs).map fun (ds, exponent) => ofDecimal negative ds exponent

end SlideOverflow.Number
