import SlideOverflow.Metadata.Value.Slots

/-! Values in words: as they are shown in messages, with texts in quotes, and as they stand where a
text is asked for. A collection within itself is shown by dots. A whole number with too many digits
has no words. -/
namespace SlideOverflow.Metadata

open Number Text

def boolText (b : Bool) : List Char :=
  if b then "True".toList else "False".toList

/-- The words of a number, unless it is a whole number with more digits than can be read back. -/
def numberText : Quantity → Outcome (List Char)
  | .int n =>
    if n.natAbs < Nat.pow 10 digitLimit then .ok (intText n) else Outcome.reject .badValue
  | .real x => .ok (exactText x)

namespace Collection

def abridged : Collection → List Char
  | .sequence _ => "[...]".toList
  | .mapping _ => "\x7b...\x7d".toList
  | .set _ => "set(...)".toList
  | .pair _ _ => "(...)".toList

def shown (item : Value → Outcome (List Char)) : Collection → Outcome (List Char)
  | .sequence items => do
    return '[' :: listed (← items.mapM item) ++ [']']
  | .mapping entries => do
    let parts ← entries.mapM fun e => do
      return (← item e.1) ++ ": ".toList ++ (← item e.2)
    return '\x7b' :: listed parts ++ ['\x7d']
  | .set [] => .ok "set()".toList
  | .set members => do
    return '\x7b' :: listed (← (slotOrder members).mapM item) ++ ['\x7d']
  | .pair a b => do
    return '(' :: listed [← item a, ← item b] ++ [')']

end Collection

/-- A value as it is shown in messages, when the collections of `path` are being shown. Each step
into a collection takes one off `fuel`; the path never holds a collection twice. -/
def Value.shownWithin (shelf : Shelf) (fuel : Nat) (path : List Nat) (v : Value) :
    Outcome (List Char) :=
  match v with
  | .null => .ok "None".toList
  | .bool b => .ok (boolText b)
  | .number q => numberText q
  | .notNumber _ => .ok "nan".toList
  | .text c => .ok (quotedCodes c)
  | .date d => .ok d.shown
  | .moment m => .ok m.shown
  | .octets bs => .ok (quotedOctets bs)
  | .collection n =>
    match shelf[n]? with
    | none => .ok []
    | some c =>
      if path.contains n then .ok c.abridged
      else match fuel with
        | 0 => .ok c.abridged
        | fuel + 1 => c.shown (shownWithin shelf fuel (n :: path))

namespace Datum

def shown (d : Datum) : Outcome (List Char) :=
  d.value.shownWithin d.shelf d.shelf.size []

/-- A value where a text is asked for: a text is itself, dates have their written form, and all
else is as shown in messages. -/
def asText (d : Datum) : Outcome Codes :=
  match d.value with
  | .text c => .ok c
  | .date date => .ok (.ofChars date.text)
  | .moment m => .ok (.ofChars (m.text ' '))
  | _ => do return .ofChars (← d.shown)

end Datum

end SlideOverflow.Metadata
