/-! Text in UTF-8. Decoding stops at the first octet that no character can hold and says which
octets are at fault and why. Octets are natural numbers below 256. -/
namespace SlideOverflow.Text.Utf8

inductive Reason where
  | start
  | continuation
  | ended
deriving DecidableEq, Repr

structure Fault where
  first : Nat
  last : Nat
  octet : Nat
  reason : Reason
deriving DecidableEq, Repr

def Reason.text : Reason → String
  | .start => "invalid start byte"
  | .continuation => "invalid continuation byte"
  | .ended => "unexpected end of data"

private def decimal (n : Nat) : String :=
  String.ofList (Nat.toDigits 10 n)

private def hexPair (n : Nat) : String :=
  let ds := Nat.toDigits 16 n
  String.ofList (if ds.length < 2 then '0' :: ds else ds)

def Fault.message (f : Fault) : String :=
  (if f.first == f.last then
    "'utf-8' codec can't decode byte 0x" ++ hexPair f.octet ++ " in position " ++ decimal f.first
  else
    "'utf-8' codec can't decode bytes in position " ++ decimal f.first ++ "-" ++ decimal f.last)
    ++ ": " ++ f.reason.text

/-- For the first octet of a character: how many octets follow, the bounds of the next one, and
the part of the code point that it holds. -/
def lead? (b : Nat) : Option (Nat × Nat × Nat × Nat) :=
  if b < 0x80 then some (0, 0x80, 0xBF, b)
  else if b < 0xC2 then none
  else if b < 0xE0 then some (1, 0x80, 0xBF, b - 0xC0)
  else if b == 0xE0 then some (2, 0xA0, 0xBF, 0)
  else if b == 0xED then some (2, 0x80, 0x9F, 0xD)
  else if b < 0xF0 then some (2, 0x80, 0xBF, b - 0xE0)
  else if b == 0xF0 then some (3, 0x90, 0xBF, 0)
  else if b < 0xF4 then some (3, 0x80, 0xBF, b - 0xF0)
  else if b == 0xF4 then some (3, 0x80, 0x8F, 4)
  else none

/-- Decodes the octets from a state on: the octets still owed to the current character, the bounds
of the next one, the code point so far, where the character began and with which octet. -/
def decodeFrom (owed low high code begin first pos : Nat) : List Nat → Except Fault (List Char)
  | [] => if owed == 0 then .ok [] else .error ⟨begin, pos - 1, first, .ended⟩
  | b :: bs =>
    if owed == 0 then
      match lead? b with
      | none => .error ⟨pos, pos, b, .start⟩
      | some (0, _, _, code) => (decodeFrom 0 0 0 0 0 0 (pos + 1) bs).map (Char.ofNat code :: ·)
      | some (n, low, high, code) => decodeFrom n low high code pos b (pos + 1) bs
    else if low ≤ b && b ≤ high then
      let code := code * 64 + b % 64
      if owed == 1 then (decodeFrom 0 0 0 0 0 0 (pos + 1) bs).map (Char.ofNat code :: ·)
      else decodeFrom (owed - 1) 0x80 0xBF code begin first (pos + 1) bs
    else .error ⟨begin, pos - 1, first, .continuation⟩

def decode (octets : List Nat) : Except Fault (List Char) :=
  decodeFrom 0 0 0 0 0 0 0 octets

end SlideOverflow.Text.Utf8
