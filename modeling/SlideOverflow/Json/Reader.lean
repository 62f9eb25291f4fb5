import SlideOverflow.Json.Basic

/-! Reading values from text. Besides the values of the standard the names of the infinities and of
the number that is none are accepted. -/
namespace SlideOverflow.Json

open Number Text

private def isSpace (c : Char) : Bool := c == ' ' || c == '\t' || c == '\n' || c == '\r'

private def skipSpace (cs : List Char) : List Char := cs.dropWhile isSpace

def readUnit? (cs : List Char) : Option (Nat × List Char) :=
  let ds := cs.take 4
  if ds.length == 4 && ds.all (isDigitOf 16) then some (positional 16 ds, cs.drop 4) else none

/-- The code point that an escape with code units stands for, the first unit being read. Two units
may make up one character; half of such a pair alone stands for itself. -/
def joinUnits (unit : Nat) (cs : List Char) : Nat × List Char :=
  if 0xD800 ≤ unit && unit < 0xDC00 then
    match cs with
    | '\\' :: 'u' :: rest =>
      match readUnit? rest with
      | some (low, rest) =>
        if 0xDC00 ≤ low && low < 0xE000 then
          (0x10000 + (unit - 0xD800) * 0x400 + (low - 0xDC00), rest)
        else (unit, cs)
      | none => (unit, cs)
    | _ => (unit, cs)
  else (unit, cs)

def escapes : List (Char × Char) :=
  [('\x22', '\x22'), ('\\', '\\'), ('/', '/'), ('b', '\x08'), ('f', '\x0c'), ('n', '\n'),
   ('r', '\r'), ('t', '\t')]

/-- The text up to the closing quote, latest code point first in `acc`. -/
def readText? : Nat → List Nat → List Char → Option (Codes × List Char)
  | 0, _, _ => none
  | _, _, [] => none
  | fuel + 1, acc, c :: cs =>
    if c == '\x22' then some (⟨acc.reverse⟩, cs)
    else if c == '\\' then
      match cs with
      | 'u' :: rest =>
        match readUnit? rest with
        | some (unit, rest) =>
          let (n, rest) := joinUnits unit rest
          readText? fuel (n :: acc) rest
        | none => none
      | e :: rest =>
        match escapes.lookup e with
        | some ch => readText? fuel (ch.toNat :: acc) rest
        | none => none
      | [] => none
    else if c.toNat < 32 then none
    else readText? fuel (c.toNat :: acc) cs

private def digits (cs : List Char) : List Char × List Char :=
  (cs.takeWhile (isDigitOf 10), cs.dropWhile (isDigitOf 10))

def readNumber? (cs : List Char) : Option (Quantity × List Char) := do
  let (negative, cs) := match cs with
    | '-' :: rest => (true, rest)
    | _ => (false, cs)
  let (whole, rest) ← match cs with
    | '0' :: rest => some (['0'], rest)
    | _ => let (ds, rest) := digits cs; if ds.isEmpty then none else some (ds, rest)
  let (fraction, rest) := match rest with
    | '.' :: r => let (ds, r) := digits r; if ds.isEmpty then ([], rest) else (ds, r)
    | _ => ([], rest)
  let (exponent, rest) : Option Int × List Char := match rest with
    | e :: r =>
      if e == 'e' || e == 'E' then
        let (negative, r) := takeSign r
        let (ds, r) := digits r
        if ds.isEmpty then (none, rest)
        else (some (if negative then -(positional 10 ds) else positional 10 ds), r)
      else (none, rest)
    | [] => (none, rest)
  if fraction.isEmpty && exponent.isNone then
    if digitLimit < whole.length then none
    else
      let n : Int := positional 10 whole
      some (.int (if negative then -n else n), rest)
  else
    some (.real (ofDecimal negative (whole ++ fraction) (exponent.getD 0 - fraction.length)), rest)

def words : List (String × Json) :=
  [("null", .null), ("true", .bool true), ("false", .bool false), ("NaN", .number (.real (0 / 0))),
   ("Infinity", .number (.real (1 / 0))), ("-Infinity", .number (.real (-(1 / 0))))]

private def readWord? (cs : List Char) : Option (Json × List Char) :=
  (words.find? fun w => w.1.toList.isPrefixOf cs).map fun w => (w.2, cs.drop w.1.length)

mutual

def readValue? : Nat → List Char → Option (Json × List Char)
  | 0, _ => none
  | fuel + 1, cs =>
    match cs with
    | '\x22' :: rest =>
      (readText? (rest.length + 1) [] rest).map fun (c, rest) => (.ofCodes c, rest)
    | '[' :: rest =>
      match skipSpace rest with
      | ']' :: rest => some (.list [], rest)
      | rest => (readItems? fuel rest).map fun (items, rest) => (.list items, rest)
    | '\x7b' :: rest =>
      match skipSpace rest with
      | '\x7d' :: rest => some (.record [], rest)
      | rest => (readFields? fuel [] rest).map fun (fields, rest) => (.record fields, rest)
    | _ =>
      match readWord? cs with
      | some found => some found
      | none => (readNumber? cs).map fun (q, rest) => (.number q, rest)

def readItems? : Nat → List Char → Option (List Json × List Char)
  | 0, _ => none
  | fuel + 1, cs => do
    let (item, rest) ← readValue? fuel cs
    match skipSpace rest with
    | ',' :: rest =>
      let (items, rest) ← readItems? fuel (skipSpace rest)
      some (item :: items, rest)
    | ']' :: rest => some ([item], rest)
    | _ => none

def readFields? : Nat → List (String × Json) → List Char → Option (List (String × Json) × List Char)
  | 0, _, _ => none
  | fuel + 1, fields, cs => do
    match cs with
    | '\x22' :: rest =>
      let (name, rest) ← readText? (rest.length + 1) [] rest
      match skipSpace rest with
      | ':' :: rest =>
        let (value, rest) ← readValue? fuel (skipSpace rest)
        let fields := put fields name.toString value
        match skipSpace rest with
        | ',' :: rest => readFields? fuel fields (skipSpace rest)
        | '\x7d' :: rest => some (fields, rest)
        | _ => none
      | _ => none
    | _ => none

end

def ofText? (cs : List Char) : Option Json :=
  match readValue? (cs.length + 1) (skipSpace cs) with
  | some (v, rest) => if (skipSpace rest).isEmpty then some v else none
  | none => none

end SlideOverflow.Json
