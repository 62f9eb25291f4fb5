import SlideOverflow.Json.Basic
import SlideOverflow.Metadata.Calendar
import SlideOverflow.Text.Codes

/-! Values that metadata can hold. Collections are kept by number, so that one of them can be part
of several others, or of itself. Mappings and sets keep the order in which their keys came. -/
namespace SlideOverflow.Metadata

open Number Text

inductive Value where
  | null
  | bool (b : Bool)
  | number (q : Quantity)
  /-- A double that is no number. Two of them are the same key only if they are of one origin. -/
  | notNumber (origin : Nat)
  | text (c : Codes)
  | date (d : Date)
  | moment (m : Moment)
  | octets (bs : List Nat)
  | collection (n : Nat)
deriving DecidableEq, Repr, Inhabited

abbrev Entries := List (Value × Value)

inductive Collection where
  | sequence (items : List Value)
  | mapping (entries : Entries)
  | set (members : List Value)
  | pair (first second : Value)
deriving DecidableEq, Repr

abbrev Shelf := Array Collection

namespace Value

def keyNumber? : Value → Option Quantity
  | .bool b => some (if b then 1 else 0)
  | .number q => some q
  | _ => none

/-- Whether two values are the same key. Numbers are compared by value, moments as points in
time. -/
def sameKey (a b : Value) : Bool :=
  match keyNumber? a, keyNumber? b with
  | some x, some y => x.same y
  | some _, none => false
  | none, some _ => false
  | none, none =>
    match a, b with
    | .moment m, .moment n => m.same n
    | _, _ => a == b

def isKey : Value → Bool
  | .collection _ => false
  | _ => true

end Value

namespace Entries

/-- Sets the value of a key. A key that is already there keeps its place and its first spelling. -/
def put (es : Entries) (key value : Value) : Entries :=
  if es.any fun e => e.1.sameKey key then
    es.map fun e => if e.1.sameKey key then (e.1, value) else e
  else es ++ [(key, value)]

def ofList (l : List (Value × Value)) : Entries :=
  l.foldl (fun es e => put es e.1 e.2) []

end Entries

def Collection.isEmpty : Collection → Bool
  | .sequence items => items.isEmpty
  | .mapping entries => entries.isEmpty
  | .set members => members.isEmpty
  | .pair _ _ => false

/-- A value with the collections that it refers to. -/
structure Datum where
  shelf : Shelf
  value : Value
deriving DecidableEq, Repr

structure Table where
  shelf : Shelf
  entries : Entries
deriving DecidableEq, Repr

namespace Table

def empty : Table := ⟨#[], []⟩

instance : Inhabited Table := ⟨empty⟩

def get? (t : Table) (key : String) : Option Datum :=
  (t.entries.find? fun e => e.1.sameKey (.text key)).map fun e => ⟨t.shelf, e.2⟩

def getOrNull (t : Table) (key : String) : Datum :=
  (t.get? key).getD ⟨#[], .null⟩

end Table

namespace Datum

def collection? (d : Datum) : Option Collection :=
  match d.value with
  | .collection n => d.shelf[n]?
  | _ => none

def table? (d : Datum) : Option Table :=
  match d.collection? with
  | some (.mapping entries) => some ⟨d.shelf, entries⟩
  | _ => none

def isTruthy (d : Datum) : Bool :=
  match d.value with
  | .null => false
  | .bool b => b
  | .number q => !q.isZero
  | .notNumber _ => true
  | .text c => !c.isEmpty
  | .date _ => true
  | .moment _ => true
  | .octets bs => !bs.isEmpty
  | .collection _ => d.collection?.any fun c => !c.isEmpty

mutual

def shelve (shelf : Shelf) : Json → Value × Shelf
  | .null => (.null, shelf)
  | .bool b => (.bool b, shelf)
  | .number q => (.number q, shelf)
  | .text s => (.text s, shelf)
  | .codes c => (.text c, shelf)
  | .list items =>
    let (values, shelf) := shelveItems shelf items
    (.collection shelf.size, shelf.push (.sequence values))
  | .record fields =>
    let (entries, shelf) := shelveFields shelf fields
    (.collection shelf.size, shelf.push (.mapping entries))

private def shelveItems (shelf : Shelf) : List Json → List Value × Shelf
  | [] => ([], shelf)
  | j :: js =>
    let (value, shelf) := shelve shelf j
    let (values, shelf) := shelveItems shelf js
    (value :: values, shelf)

private def shelveFields (shelf : Shelf) : List (String × Json) → Entries × Shelf
  | [] => ([], shelf)
  | (name, j) :: fs =>
    let (value, shelf) := shelve shelf j
    let (entries, shelf) := shelveFields shelf fs
    ((.text name, value) :: entries, shelf)

end

def ofJson (j : Json) : Datum :=
  let (value, shelf) := shelve #[] j
  ⟨shelf, value⟩

end Datum

end SlideOverflow.Metadata
