import SlideOverflow.Metadata.Fault
import SlideOverflow.Metadata.Tag

/-! The nodes that a metadata text describes. They are kept by number: an alias stands for the
number of the node that it names, which may be a node around it. -/
namespace SlideOverflow.Metadata

open Text

/-- What a node holds. The nodes in it are given by their numbers. -/
inductive NodeContent where
  | scalar (text : Codes)
  | sequence (items : List Nat)
  | mapping (entries : List (Nat × Nat))
deriving DecidableEq, Repr

def NodeContent.kind : NodeContent → NodeKind
  | .scalar _ => .scalar
  | .sequence _ => .sequence
  | .mapping _ => .mapping

structure Node where
  tag : Tag
  content : NodeContent
  place : Position
deriving DecidableEq, Repr

namespace Node

instance : Inhabited Node := ⟨⟨.null, .scalar default, default⟩⟩

def kind (n : Node) : NodeKind := n.content.kind

def entries (n : Node) : List (Nat × Nat) :=
  match n.content with
  | .mapping entries => entries
  | _ => []

end Node

abbrev Nodes := Array Node

namespace Nodes

def node (ns : Nodes) (n : Nat) : Node := ns.getD n default

def update (ns : Nodes) (n : Nat) (f : Node → Node) : Nodes := ns.modify n f

end Nodes

/-- The nodes of a document, and the number of the one that all others belong to. -/
structure Graph where
  nodes : Nodes
  root : Nat
deriving Repr

/-! ### Merging

A mapping may refer to other mappings whose entries are put in front of its own. The
reference is taken out before the mapping that it names is merged itself, so a mapping may refer to
itself. -/

abbrev Merging := StateT Nodes (Except Stop)

def Merging.node (n : Nat) : Merging Node := do return (← get).node n

def ownEntries (ns : Nodes) (n index : Nat) : List (Nat × Nat) :=
  ((ns.node n).entries.drop index).takeWhile fun e => (ns.node e.1).tag != .merge

/-- A key with the value tag becomes a text for good. -/
def settleKey (ns : Nodes) (n : Nat) : Nodes :=
  if (ns.node n).tag == .value then ns.update n fun k => { k with tag := .text } else ns

/-- Merges the mapping `n` from the entry at `index` on. `front` are the entries found so far that
belong in front of it. Each call but the first takes one reference out, which bounds `fuel`. -/
def mergeFrom (fuel n index : Nat) (front : List (Nat × Nat)) : Merging Unit :=
  match fuel with
  | 0 => throw (.defect .endless)
  | fuel + 1 => do
    let own := ownEntries (← get) n index
    modify fun ns => own.foldl (fun ns e => settleKey ns e.1) ns
    let node ← Merging.node n
    let index := index + own.length
    match node.entries.drop index with
    | [] =>
      if !front.isEmpty then
        modify fun ns => ns.update n fun m => { m with content := .mapping (front ++ m.entries) }
    | (_, named) :: rest =>
      let kept := node.entries.take index ++ rest
      modify fun ns => ns.update n fun m => { m with content := .mapping kept }
      let other ← Merging.node named
      match other.content with
      | .mapping _ =>
        mergeFrom fuel named 0 []
        mergeFrom fuel n index (front ++ (← Merging.node named).entries)
      | .sequence items =>
        let groups ← items.mapM fun item => do
          let part ← Merging.node item
          match part.content with
          | .mapping _ =>
            mergeFrom fuel item 0 []
            return (← Merging.node item).entries
          | _ =>
            throw (.fault (.during .mapping node.place (.noMergePart part.kind) part.place))
        mergeFrom fuel n index (front ++ groups.reverse.flatten)
      | .scalar _ =>
        throw (.fault (.during .mapping node.place (.noMerge .scalar) other.place))

def Nodes.references (ns : Nodes) : Nat :=
  ((ns.toList.flatMap Node.entries).filter fun e => (ns.node e.1).tag == .merge).length

end SlideOverflow.Metadata
