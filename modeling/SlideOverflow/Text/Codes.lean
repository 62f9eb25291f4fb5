import SlideOverflow.Text.Classes

/-! Texts as rows of code points. Other than a string such a text may hold surrogates: halves of
pairs of code units, which are no characters by themselves. In quotes, what cannot be shown is
escaped; single quotes are used unless the text holds one and no double quote. -/
namespace SlideOverflow.Text

/-- A text as its code points. -/
structure Codes where
  points : List Nat
deriving DecidableEq, Repr

def isSurrogate (n : Nat) : Bool := 0xD800 ≤ n && n < 0xE000

namespace Codes

def ofChars (cs : List Char) : Codes := ⟨cs.map Char.toNat⟩

def ofString (s : String) : Codes := ofChars s.toList

instance : Inhabited Codes := ⟨⟨[]⟩⟩

instance : Coe String Codes := ⟨ofString⟩

def isEmpty (c : Codes) : Bool := c.points.isEmpty

/-- The text as characters; the replacement character stands for each half of a pair. -/
def chars (c : Codes) : List Char :=
  c.points.map fun n => if isSurrogate n then '\uFFFD' else Char.ofNat n

def toString (c : Codes) : String := String.ofList c.chars

def string? (c : Codes) : Option String :=
  if c.points.any isSurrogate then none else some c.toString

/-- A character's code point is no half of a pair. -/
theorem isSurrogate_toNat (c : Char) : isSurrogate c.toNat = false := by
  have h := c.valid
  simp only [UInt32.isValidChar, Nat.isValidChar] at h
  simp only [isSurrogate, Char.toNat, Bool.and_eq_false_iff, decide_eq_false_iff_not]
  omega

@[simp] theorem chars_ofChars (cs : List Char) : (ofChars cs).chars = cs := by
  simp [ofChars, chars, isSurrogate_toNat, Function.comp_def]

@[simp] theorem string?_ofString (s : String) : (ofString s).string? = some s := by
  have h : ¬ (ofString s).points.any isSurrogate = true := by
    simp only [ofString, ofChars, List.any_map, List.any_eq_true, not_exists, not_and]
    intro c _
    simp [isSurrogate_toNat]
  rw [string?, if_neg h]
  simp [toString, ofString]

end Codes

/-! ### In quotes -/

def hexDigits (width n : Nat) : List Char :=
  let ds := Nat.toDigits 16 n
  List.replicate (width - ds.length) '0' ++ ds

def quoteFor (codes : List Nat) : Char :=
  if codes.contains 0x27 && !codes.contains 0x22 then '\x22' else '\x27'

def escapeCode (n : Nat) : List Char :=
  if n < 0x100 then '\\' :: 'x' :: hexDigits 2 n
  else if n < 0x10000 then '\\' :: 'u' :: hexDigits 4 n
  else '\\' :: 'U' :: hexDigits 8 n

def escapePoint (quote : Char) (n : Nat) : List Char :=
  if n == quote.toNat || n == 0x5C then ['\\', Char.ofNat n]
  else if n == 9 then "\\t".toList
  else if n == 10 then "\\n".toList
  else if n == 13 then "\\r".toList
  else if isPrintable n then [Char.ofNat n]
  else escapeCode n

def quotedCodes (c : Codes) : List Char :=
  let q := quoteFor c.points
  q :: c.points.flatMap (escapePoint q) ++ [q]

def quoted (cs : List Char) : List Char := quotedCodes (.ofChars cs)

def quotedChar (c : Char) : String :=
  String.ofList (quoted [c])

def quotedOctets (octets : List Nat) : List Char :=
  let q := quoteFor octets
  'b' :: q :: octets.flatMap (fun n =>
    if n < 128 then escapePoint q n else '\\' :: 'x' :: hexDigits 2 n) ++ [q]

end SlideOverflow.Text
