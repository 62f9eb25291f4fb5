import SlideOverflow.Json.Basic

/-! Values as text. They are written in ASCII alone, on one line and without spaces, and shown in
words, as messages hold them. -/
namespace SlideOverflow.Json

open Number Text

def unitEscape (n : Nat) : List Char := '\\' :: 'u' :: hexDigits 4 n

def controlLetters : List (Nat × Char) :=
  [(8, 'b'), (9, 't'), (10, 'n'), (12, 'f'), (13, 'r')]

def escaped (n : Nat) : List Char :=
  if n == 0x22 || n == 0x5C then ['\\', Char.ofNat n]
  else if 32 ≤ n && n < 128 then [Char.ofNat n]
  else match controlLetters.lookup n with
    | some letter => ['\\', letter]
    | none =>
      if n < 0x10000 then unitEscape n
      else
        unitEscape (0xD800 + (n - 0x10000) / 0x400) ++ unitEscape (0xDC00 + (n - 0x10000) % 0x400)

def writtenText (c : Codes) : List Char :=
  '\x22' :: c.points.flatMap escaped ++ ['\x22']

def writtenNumber : Quantity → List Char
  | .int n => intText n
  | .real x =>
    if x.isNaN then "NaN".toList
    else if x.isInf then (if x < 0 then "-Infinity".toList else "Infinity".toList)
    else exactText x

private def commas (parts : List (List Char)) : List Char := [','].intercalate parts

mutual

def written : Json → List Char
  | .null => "null".toList
  | .bool b => if b then "true".toList else "false".toList
  | .number q => writtenNumber q
  | .text s => writtenText s
  | .codes c => writtenText c
  | .list items => '[' :: commas (writtenItems items) ++ [']']
  | .record fields => '\x7b' :: commas (writtenFields fields) ++ ['\x7d']

private def writtenItems : List Json → List (List Char)
  | [] => []
  | j :: js => written j :: writtenItems js

private def writtenFields : List (String × Json) → List (List Char)
  | [] => []
  | (name, j) :: fs => (writtenText name ++ ':' :: written j) :: writtenFields fs

end

def toText (j : Json) : String := String.ofList j.written

/-! ### In words -/

private def joined (parts : List (List Char)) : List Char := ", ".toList.intercalate parts

mutual

def shown : Json → List Char
  | .null => "None".toList
  | .bool b => if b then "True".toList else "False".toList
  | .number q => q.text
  | .text s => quoted s.toList
  | .codes c => quotedCodes c
  | .list items => '[' :: joined (shownItems items) ++ [']']
  | .record fields => '\x7b' :: joined (shownFields fields) ++ ['\x7d']

private def shownItems : List Json → List (List Char)
  | [] => []
  | j :: js => shown j :: shownItems js

private def shownFields : List (String × Json) → List (List Char)
  | [] => []
  | (name, j) :: fs => (quoted name.toList ++ ": ".toList ++ shown j) :: shownFields fs

end

def asText : Json → String
  | .text s => s
  | j => String.ofList j.shown

end SlideOverflow.Json
