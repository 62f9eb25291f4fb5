import SlideOverflow.Number.Reading

/-! Tags, which say how the text of a node is to be understood, and the rules that give a tag to
plain text that carries none. -/
namespace SlideOverflow.Metadata

inductive Tag where
  | null
  | bool
  | int
  | float
  | binary
  | timestamp
  | orderedMap
  | pairs
  | set
  | text
  | sequence
  | mapping
  | merge
  | value
  | other (address : String)
deriving DecidableEq, Repr

namespace Tag

def core : String := "tag:yaml.org,2002:"

private def names : List (String × Tag) :=
  [("null", .null), ("bool", .bool), ("int", .int), ("float", .float), ("binary", .binary),
   ("timestamp", .timestamp), ("omap", .orderedMap), ("pairs", .pairs), ("set", .set),
   ("str", .text), ("seq", .sequence), ("map", .mapping), ("merge", .merge), ("value", .value)]

def ofAddress (address : String) : Tag :=
  match names.find? fun (name, _) => core ++ name == address with
  | some (_, tag) => tag
  | none => .other address

def address : Tag → String
  | .other address => address
  | tag =>
    match names.find? fun (_, t) => t == tag with
    | some (name, _) => core ++ name
    | none => core

/-! ### Plain text -/

private def among (words : List String) (cs : List Char) : Bool :=
  words.any fun w => w.toList == cs

private def isDigit (c : Char) : Bool := Number.isDigitOf 10 c

private def isDigitOrUnderscore (c : Char) : Bool := isDigit c || c == '_'

private def dropSign : List Char → List Char
  | '+' :: cs => cs
  | '-' :: cs => cs
  | cs => cs

def isBoolWord (cs : List Char) : Bool :=
  among ["yes", "Yes", "YES", "no", "No", "NO", "true", "True", "TRUE", "false", "False", "FALSE",
    "on", "On", "ON", "off", "Off", "OFF"] cs

/-- Text that begins like a list of digits in base sixty: colons, each with one or two digits below
sixty behind it. Gives what follows the last of them that can be taken. -/
def sexagesimalTail : List Char → List Char
  | ':' :: a :: b :: cs =>
    if isDigit a && a.toNat < 54 && isDigit b then sexagesimalTail cs
    else if isDigit a then sexagesimalTail (b :: cs)
    else ':' :: a :: b :: cs
  | [':', a] => if isDigit a then [] else [':', a]
  | cs => cs

def isSexagesimal (first : Char → Bool) (rest : List Char → Bool) : List Char → Bool
  | c :: cs =>
    let tail := cs.dropWhile isDigitOrUnderscore
    first c && tail.head? == some ':' && (sexagesimalTail tail).length < tail.length &&
      rest (sexagesimalTail tail)
  | [] => false

def isExponent : List Char → Bool
  | [] => true
  | e :: s :: d :: ds =>
    (e == 'e' || e == 'E') && (s == '+' || s == '-') && (d :: ds).all isDigit
  | _ => false

def isFloatText (cs : List Char) : Bool :=
  let bare := dropSign cs
  let pointed : Bool :=
    match bare with
    | d :: ds =>
      isDigit d && (match ds.dropWhile isDigitOrUnderscore with
        | '.' :: tail => isExponent (tail.dropWhile isDigitOrUnderscore)
        | _ => false)
    | [] => false
  let fraction : Bool :=
    match cs with
    | '.' :: d :: ds => isDigit d && isExponent (ds.dropWhile isDigitOrUnderscore)
    | _ => false
  let sexagesimal := isSexagesimal isDigit (fun tail =>
    match tail with
    | '.' :: ds => ds.all isDigitOrUnderscore
    | _ => false) bare
  pointed || fraction || sexagesimal || among [".inf", ".Inf", ".INF"] bare ||
    among [".nan", ".NaN", ".NAN"] cs

private def isRow (p : Char → Bool) (cs : List Char) : Bool :=
  !cs.isEmpty && cs.all p

def isIntText (cs : List Char) : Bool :=
  match dropSign cs with
  | ['0'] => true
  | '0' :: 'b' :: ds => isRow (fun c => c == '0' || c == '1' || c == '_') ds
  | '0' :: 'x' :: ds => isRow (fun c => Number.isDigitOf 16 c || c == '_') ds
  | '0' :: ds => isRow (fun c => Number.isDigitOf 8 c || c == '_') ds
  | bare =>
    (match bare with
      | d :: ds => isDigit d && ds.all isDigitOrUnderscore
      | [] => false) || isSexagesimal isDigit List.isEmpty bare

def isNullText (cs : List Char) : Bool :=
  among ["", "~", "null", "Null", "NULL"] cs

def oneOrTwoDigits? (least : Nat) (cs : List Char) : Option (List Char × List Char) :=
  let ds := (cs.take 2).takeWhile isDigit
  if least ≤ ds.length then some (ds, cs.drop ds.length) else none

def isTimestampText (cs : List Char) : Bool :=
  let year := (cs.take 4).all isDigit && 4 ≤ cs.length
  let date : Bool :=
    match cs.drop 4 with
    | ['-', a, b, '-', c, d] => [a, b, c, d].all isDigit
    | _ => false
  let zone (cs : List Char) : Bool :=
    match cs.dropWhile fun c => c == ' ' || c == '\t' with
    | ['Z'] => true
    | s :: tail =>
      (s == '+' || s == '-') && (match oneOrTwoDigits? 1 tail with
        | some (_, []) => true
        | some (_, [':', a, b]) => isDigit a && isDigit b
        | _ => false)
    | [] => false
  let clock (cs : List Char) : Bool :=
    match oneOrTwoDigits? 1 cs with
    | some (_, ':' :: a :: b :: ':' :: c :: d :: tail) =>
      let tail := match tail with
        | '.' :: ds => ds.dropWhile isDigit
        | _ => tail
      [a, b, c, d].all isDigit && (tail.isEmpty || zone tail)
    | _ => false
  let dateTime : Bool :=
    match cs.drop 4 with
    | '-' :: tail =>
      (match oneOrTwoDigits? 1 tail with
      | some (_, '-' :: tail) =>
        (match oneOrTwoDigits? 1 tail with
        | some (_, t :: tail) =>
          if t == 'T' || t == 't' then clock tail
          else (t == ' ' || t == '\t') &&
            clock (tail.dropWhile fun c => c == ' ' || c == '\t')
        | _ => false)
      | _ => false)
    | _ => false
  year && (date || dateTime)

/-- The tag of plain text: the first kind of text that it is. A line break at the very end does not
count. -/
def ofPlain (cs : List Char) : Tag :=
  let bare := if cs.getLast? == some '\n' then cs.dropLast else cs
  if cs.isEmpty then .null
  else if isBoolWord bare then .bool
  else if isFloatText bare then .float
  else if isIntText bare then .int
  else if bare == ['<', '<'] then .merge
  else if !bare.isEmpty && isNullText bare then .null
  else if isTimestampText bare then .timestamp
  else if bare == ['='] then .value
  else if among ["!", "&", "*"] bare then .other (core ++ "yaml")
  else .text

end Tag

end SlideOverflow.Metadata
