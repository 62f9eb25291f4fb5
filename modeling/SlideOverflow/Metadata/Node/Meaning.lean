import SlideOverflow.Metadata.Node.Grammar
import SlideOverflow.Metadata.Node.Basic
import SlideOverflow.Metadata.Value.Scalar

/-! The values that nodes stand for. A collection is put on the shelf empty when it is first met and
filled later, in the order in which collections were met. Each node has one value, so what an alias
names is one collection, and a collection may be part of itself. -/
namespace SlideOverflow.Metadata

open Number Text

structure Making where
  nodes : Nodes
  known : Array (Option Value)
  shelf : Shelf
  /-- The nodes of collections, each with the number of its collection, in the order in which they
  were met. -/
  met : Array (Nat × Nat)

abbrev Construction := StateT Making (Except Stop)

private def stopAt {α : Type} (cause : Cause) (place : Position) : Except Stop α :=
  .error (.fault (.plain cause place))

/-- The text of a node that is read as a scalar. A mapping with a key that carries the value tag
lends the text of that entry. -/
def scalarText (ns : Nodes) : Nat → Nat → Except Stop Codes
  | 0, _ => .error (.defect .endless)
  | fuel + 1, n =>
    let node := ns.node n
    match node.content with
    | .scalar text => .ok text
    | .sequence _ => stopAt (.noScalar .sequence) node.place
    | .mapping entries =>
      match entries.find? fun e => (ns.node e.1).tag == .value with
      | some (_, v) => scalarText ns fuel v
      | none => stopAt (.noScalar .mapping) node.place

def Collection.ofTag? : Tag → Option Collection
  | .orderedMap | .pairs | .sequence => some (.sequence [])
  | .set => some (.set [])
  | .mapping => some (.mapping [])
  | _ => none

def scalarValue (ns : Nodes) (n : Nat) : Except Stop Value := do
  let node := ns.node n
  let text := scalarText ns (ns.size + 1) n
  match node.tag with
  | .null => do
    let _ ← text
    return .null
  | .bool => text >>= boolOf
  | .int => do intOf (← text).chars
  | .float => do floatOf (n + 1) (← text).chars
  | .binary => do
    match decodeOctets (← text) with
    | .ok octets => return .octets octets
    | .error cause => stopAt cause node.place
  | .timestamp => do
    let text ← text
    match node.content with
    | .scalar _ => momentOf text.chars
    | _ => .error (.defect .wrongKind)
  | .text => do return .text (← text)
  | tag => stopAt (.unknownTag tag.address) node.place

/-- The value of a node. A collection that has not been met is put on the shelf. -/
def valueOf (n : Nat) : Construction Value := do
  let s ← get
  match s.known.getD n none with
  | some v => return v
  | none =>
    match Collection.ofTag? (s.nodes.node n).tag with
    | some empty =>
      let v := Value.collection s.shelf.size
      set { s with
        known := s.known.setIfInBounds n (some v)
        met := s.met.push (n, s.shelf.size)
        shelf := s.shelf.push empty }
      return v
    | none =>
      let v ← scalarValue s.nodes n
      set { s with known := s.known.setIfInBounds n (some v) }
      return v

def entriesOf (references n : Nat) : Construction Entries := do
  let node := (← get).nodes.node n
  match node.content with
  | .mapping _ =>
    let s ← get
    let (_, nodes) ← (mergeFrom (references + 1) n 0 []).run s.nodes
    set { s with nodes }
    let entries ← (nodes.node n).entries.mapM fun (k, v) => do
      let key ← valueOf k
      if !key.isKey then
        throw (.fault (.during .mapping node.place .unhashableKey (nodes.node k).place))
      return (key, ← valueOf v)
    return Entries.ofList entries
  | _ => stopAt (.noMapping node.kind) node.place

/-- The pair that an item of an ordered map or of pairs holds as its only entry. It gets a number of
its own on the shelf. -/
def pairOf (task : Task) (begun : Position) (n : Nat) : Construction Value := do
  let node := (← get).nodes.node n
  match node.content with
  | .mapping [(k, v)] =>
    let key ← valueOf k
    let value ← valueOf v
    let s ← get
    set { s with shelf := s.shelf.push (.pair key value) }
    return .collection s.shelf.size
  | .mapping entries =>
    throw (.fault (.during task begun (.manyItems entries.length) node.place))
  | _ => throw (.fault (.during task begun (.noSingleItem node.kind) node.place))

def pairsOf (task : Task) (n : Nat) : Construction Collection := do
  let node := (← get).nodes.node n
  match node.content with
  | .sequence items => return .sequence (← items.mapM (pairOf task node.place))
  | _ => throw (.fault (.during task node.place (.noItems node.kind) node.place))

def membersOf (references n : Nat) : Construction Collection := do
  let node := (← get).nodes.node n
  match node.tag with
  | .orderedMap => pairsOf .orderedMap n
  | .pairs => pairsOf .pairs n
  | .sequence =>
    match node.content with
    | .sequence items => return .sequence (← items.mapM valueOf)
    | _ => stopAt (.noSequence node.kind) node.place
  | .set => return .set ((← entriesOf references n).map (·.1))
  | _ => return .mapping (← entriesOf references n)

/-- Fills the collections from position `i` of those met on. More may be met on the way; there are
no more of them than nodes. -/
def fillFrom (references : Nat) : Nat → Nat → Construction Unit
  | 0, _ => pure ()
  | fuel + 1, i => do
    match (← get).met[i]? with
    | none => pure ()
    | some (n, number) =>
      let members ← membersOf references n
      modify fun s => { s with shelf := s.shelf.setIfInBounds number members }
      fillFrom references fuel (i + 1)

def Graph.meaning (g : Graph) : Except Stop Datum := do
  let start : Making := ⟨g.nodes, .replicate g.nodes.size none, #[], #[]⟩
  let make : Construction Value := do
    let v ← valueOf g.root
    fillFrom g.nodes.references g.nodes.size 0
    return v
  let (v, s) ← make.run start
  return ⟨s.shelf, v⟩

def Datum.ofText? (cs : List Char) : Except Stop Datum := do
  match ← Graph.ofText? cs with
  | none => return ⟨#[], .null⟩
  | some g => g.meaning

end SlideOverflow.Metadata
