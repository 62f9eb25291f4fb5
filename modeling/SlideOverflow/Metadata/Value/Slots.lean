import SlideOverflow.Metadata.Value.Basic

/-! The order in which a set shows its members. Numbers stand in the slots of a table: each one in
the slot that its hash names or, where that one is taken, in the first free slot of a fixed walk. A
set with a member of another kind keeps the order in which its members came. -/
namespace SlideOverflow.Metadata

open Number

/-- Hashes are residues of this prime, with a sign. -/
def hashModulus : Nat := Nat.pow 2 61 - 1

/-- The hash of a signed residue; minus one stands for no hash and is passed over. -/
def signedHash (negative : Bool) (residue : Nat) : Int :=
  let hash : Int := if negative then -residue else residue
  if hash = -1 then -2 else hash

/-- The hash of a number. Equal numbers have the same one, be they whole or not: a power of two has
the residue of the power whose exponent is reduced modulo 61. -/
def numberHash? : Quantity → Option Int
  | .int n => some (signedHash (decide (n < 0)) (n.natAbs % hashModulus))
  | .real x =>
    match Scaled.ofFloat? x with
    | some s =>
      let power := Nat.pow 2 (s.exponent % 61).toNat
      some (signedHash s.negative (s.magnitude * power % hashModulus))
    | none => if x.isNaN then none else some (if x < 0 then -314159 else 314159)

/-- The slots of a table; a free one holds nothing. -/
abbrev Slots := Array (Option Value)

def slotCount (members : Nat) : Nat :=
  if members < 5 then 8 else Nat.pow 2 ((2 * members).log2 + 1)

def neighbours : Nat := 9

def Slots.freeFrom? (slots : Slots) (i reach : Nat) : Option Nat :=
  ((List.range (reach + 1)).map (i + ·)).find? fun j => slots[j]? == some none

/-- The free slot to which the walk from `i` comes. What is left of the hash loses five bits at each
step, so that after the last one the walk goes through all slots. -/
def Slots.walk (slots : Slots) : Nat → Nat → Nat → Nat
  | 0, i, _ => i
  | steps + 1, i, hash =>
    match slots.freeFrom? i (if i + neighbours < slots.size then neighbours else 0) with
    | some j => j
    | none =>
      let left := hash / 32
      slots.walk steps ((5 * i + 1 + left) % slots.size) left

def Slots.place (slots : Slots) (member : Value) (hash : Int) : Slots :=
  let unsigned := (hash % (Nat.pow 2 64 : Nat)).toNat
  slots.setIfInBounds (slots.walk (slots.size + 16) (unsigned % slots.size) unsigned) (some member)

def slotOrder (members : List Value) : List Value :=
  match members.mapM fun v => (v.keyNumber?.bind numberHash?).map fun h => (v, h) with
  | none => members
  | some hashed =>
    let free : Slots := Array.replicate (slotCount members.length) none
    (hashed.foldl (fun slots m => slots.place m.1 m.2) free).toList.filterMap id

end SlideOverflow.Metadata
