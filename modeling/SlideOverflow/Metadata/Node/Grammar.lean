import SlideOverflow.Metadata.Node.Basic
import SlideOverflow.Metadata.Token.Row

/-! From the row of tokens to the nodes. Collections in brackets and collections shown by
indentation differ in their tokens alone; a key or value that is left out is empty text. A
collection gets its number before what is in it, so that an alias in it can name it. -/
namespace SlideOverflow.Metadata

/-- The tokens still to be read, the nodes read so far, and the names that are in force: shorthands
of tags, and the nodes that carry an anchor. -/
structure ReadingState where
  tokens : List Token
  stop : Option Stop
  handles : List (String × String)
  anchors : List (String × Nat)
  nodes : Nodes

abbrev Reading := StateT ReadingState (Except Stop)

namespace Reading

def fault {α : Type} (f : Fault) : Reading α := throw (.fault f)

def peek : Reading Token := do
  let s ← get
  match s.tokens, s.stop with
  | t :: _, _ => pure t
  | [], some stop => throw stop
  | [], none => pure ⟨.streamEnd, default⟩

def advance : Reading Unit :=
  modify fun s => { s with tokens := s.tokens.tail }

def at? (kinds : List TokenKind) : Reading Bool := do
  return kinds.contains (← peek).kind

def add (n : Node) : Reading Nat := do
  let s ← get
  set { s with nodes := s.nodes.push n }
  return s.nodes.size

def addEmpty (place : Position) : Reading Nat :=
  add ⟨.null, .scalar default, place⟩

end Reading

open Reading Text

def Position.after (p : Position) : Position :=
  ⟨p.index + 1, p.line, p.column + 1⟩

def standardHandles : List (String × String) := [("!", "!"), ("!!", Tag.core)]

/-- What may stand in front of a node: an anchor and a tag, in either order. The tag comes with its
own place. -/
structure Properties where
  anchor : Option String
  tag : Option (Option String × String × Position)
  place : Option Position

def properties : Reading Properties := do
  let t ← peek
  match t.body with
  | .anchor name =>
    advance
    let u ← peek
    match u.body with
    | .tag handle rest =>
      advance
      pure ⟨some name, some (handle, rest, u.place), some t.place⟩
    | _ => pure ⟨some name, none, some t.place⟩
  | .tag handle rest =>
    advance
    let u ← peek
    match u.body with
    | .anchor name =>
      advance
      pure ⟨some name, some (handle, rest, t.place), some t.place⟩
    | _ => pure ⟨none, some (handle, rest, t.place), some t.place⟩
  | _ => pure ⟨none, none, none⟩

def tagAddress (p : Properties) : Reading (Option String) := do
  match p.tag with
  | none => pure none
  | some (none, rest, _) => pure (some rest)
  | some (some handle, rest, place) =>
    match (← get).handles.lookup handle with
    | some expansion => pure (some (expansion ++ rest))
    | none => fault ⟨.undefinedHandle handle, place, some .node, p.place⟩

def collectionTag (own : Tag) : Option String → Tag
  | none => own
  | some "!" => own
  | some address => Tag.ofAddress address

/-- The tag of a scalar: plain text and text with an open tag are judged by what they say. -/
def scalarTag (style : ScalarStyle) (text : Codes) : Option String → Tag
  | none => if style == .plain then Tag.ofPlain text.chars else .text
  | some "!" => Tag.ofPlain text.chars
  | some address => Tag.ofAddress address

def claimAnchor (anchor : Option String) (place : Position) : Reading Unit := do
  match anchor with
  | none => pure ()
  | some name =>
    match (← get).anchors.lookup name with
    | some first =>
      let begun := ((← get).nodes.node first).place
      fault (.during (.firstAnchor name) begun .repeatedAnchor place)
    | none => pure ()

def addNamed (anchor : Option String) (n : Node) : Reading Nat := do
  claimAnchor anchor n.place
  let number ← add n
  match anchor with
  | none => pure ()
  | some name => modify fun s => { s with anchors := (name, number) :: s.anchors }
  return number

/-- Adds a collection, which is empty until what it holds has been read. -/
def addCollection (anchor : Option String) (tag : Tag) (place : Position) (empty : NodeContent)
    (read : Reading NodeContent) : Reading Nat := do
  let number ← addNamed anchor ⟨tag, empty, place⟩
  let content ← read
  modify fun s => { s with nodes := s.nodes.update number fun n => { n with content } }
  return number

mutual

/-- Reads a node. `block` tells whether it may be shown by indentation, `entries` whether hyphens
at the indentation of the surrounding mapping belong to it. -/
def readNode : Nat → Bool → Bool → Reading Nat
  | 0, _, _ => throw (.defect .noPosition)
  | fuel + 1, block, entries => do
    let t ← peek
    match t.body with
    | .alias name =>
      advance
      match (← get).anchors.lookup name with
      | some number => pure number
      | none => fault (.plain (.undefinedAlias name) t.place)
    | _ =>
      let props ← properties
      let tag ← tagAddress props
      let t ← peek
      let place := props.place.getD t.place
      let sequence (items : Reading (List Nat)) : Reading Nat :=
        addCollection props.anchor (collectionTag .sequence tag) place (.sequence [])
          (NodeContent.sequence <$> items)
      let mapping (items : Reading (List (Nat × Nat))) : Reading Nat :=
        addCollection props.anchor (collectionTag .mapping tag) place (.mapping [])
          (NodeContent.mapping <$> items)
      let scalar (style : ScalarStyle) (text : Codes) : Reading Nat :=
        addNamed props.anchor ⟨scalarTag style text tag, .scalar text, place⟩
      match t.body, block, entries with
      | .entry, _, true => sequence (readHyphens fuel)
      | .scalar style text, _, _ =>
        advance
        scalar style text
      | .openBracket, _, _ => sequence (do advance; readBracketItems fuel t.place true)
      | .openBrace, _, _ => mapping (do advance; readBraceItems fuel t.place true)
      | .sequenceStart, true, _ => sequence (do advance; readBlockItems fuel t.place)
      | .mappingStart, true, _ => mapping (do advance; readBlockEntries fuel t.place)
      | _, _, _ =>
        if props.place.isSome then scalar .plain default
        else
          fault (.during (if block then .blockNode else .flowNode) place (.noContent t.kind)
            t.place)

def readBlockItems : Nat → Position → Reading (List Nat)
  | 0, _ => throw (.defect .noPosition)
  | fuel + 1, begun => do
    let t ← peek
    match t.body with
    | .entry =>
      advance
      let item ←
        if ← at? [.entry, .blockEnd] then addEmpty t.place.after
        else readNode fuel true false
      return item :: (← readBlockItems fuel begun)
    | .blockEnd =>
      advance
      pure []
    | _ => fault (.during .blockCollection begun (.noBlockEnd t.kind) t.place)

/-- The items behind hyphens that stand at the indentation of the surrounding mapping. -/
def readHyphens : Nat → Reading (List Nat)
  | 0 => throw (.defect .noPosition)
  | fuel + 1 => do
    let t ← peek
    match t.body with
    | .entry =>
      advance
      let item ←
        if ← at? [.entry, .key, .value, .blockEnd] then addEmpty t.place.after
        else readNode fuel true false
      return item :: (← readHyphens fuel)
    | _ => pure []

def readBlockEntries : Nat → Position → Reading (List (Nat × Nat))
  | 0, _ => throw (.defect .noPosition)
  | fuel + 1, begun => do
    let t ← peek
    match t.body with
    | .key =>
      advance
      let key ←
        if ← at? [.key, .value, .blockEnd] then addEmpty t.place.after
        else readNode fuel true true
      let u ← peek
      let value ←
        if u.kind == .value then do
          advance
          if ← at? [.key, .value, .blockEnd] then addEmpty u.place.after
          else readNode fuel true true
        else addEmpty u.place
      return (key, value) :: (← readBlockEntries fuel begun)
    | .blockEnd =>
      advance
      pure []
    | _ => fault (.during .blockMapping begun (.noBlockEnd t.kind) t.place)

/-- The items of a sequence in brackets, up to the closing one. An item may be a single key with
its value. -/
def readBracketItems : Nat → Position → Bool → Reading (List Nat)
  | 0, _, _ => throw (.defect .noPosition)
  | fuel + 1, begun, first => do
    if !(← at? [.closeBracket]) then
      if !first then
        let t ← peek
        if t.kind == .comma then advance
        else fault (.during .flowSequence begun (.noSequenceEnd t.kind) t.place)
      let t ← peek
      match t.kind with
      | .key =>
        advance
        let key ←
          if ← at? [.value, .comma, .closeBracket] then addEmpty t.place.after
          else readNode fuel false false
        let value ← readBracketValue fuel [.comma, .closeBracket]
        let item ← add ⟨.mapping, .mapping [(key, value)], t.place⟩
        return item :: (← readBracketItems fuel begun false)
      | .closeBracket =>
        advance
        pure []
      | _ =>
        let item ← readNode fuel false false
        return item :: (← readBracketItems fuel begun false)
    else
      advance
      pure []

def readBracketValue : Nat → List TokenKind → Reading Nat
  | 0, _ => throw (.defect .noPosition)
  | fuel + 1, closing => do
    let u ← peek
    if u.kind == .value then
      advance
      if ← at? closing then addEmpty u.place.after
      else readNode fuel false false
    else addEmpty u.place

def readBraceItems : Nat → Position → Bool → Reading (List (Nat × Nat))
  | 0, _, _ => throw (.defect .noPosition)
  | fuel + 1, begun, first => do
    if !(← at? [.closeBrace]) then
      if !first then
        let t ← peek
        if t.kind == .comma then advance
        else fault (.during .flowMapping begun (.noMappingEnd t.kind) t.place)
      let t ← peek
      match t.kind with
      | .key =>
        advance
        let key ←
          if ← at? [.value, .comma, .closeBrace] then addEmpty t.place.after
          else readNode fuel false false
        let value ← readBracketValue fuel [.comma, .closeBrace]
        return (key, value) :: (← readBraceItems fuel begun false)
      | .closeBrace =>
        advance
        pure []
      | _ =>
        let key ← readNode fuel false false
        let value ← addEmpty (← peek).place
        return (key, value) :: (← readBraceItems fuel begun false)
    else
      advance
      pure []

end

/-- Takes the directives in front of a document: a version, which must be 1, and shorthands. -/
def readDirectives : Nat → Bool → List (String × String) → Reading Unit
  | 0, _, _ => pure ()
  | fuel + 1, versioned, handles => do
    let t ← peek
    match t.body with
    | .directive (.version major _) =>
      if versioned then fault (.plain .repeatedVersion t.place)
      else if major != 1 then fault (.plain .otherVersion t.place)
      else
        advance
        readDirectives fuel true handles
    | .directive (.handle name expansion) =>
      if (handles.lookup name).isSome then fault (.plain (.repeatedHandle name) t.place)
      else
        advance
        readDirectives fuel versioned (handles ++ [(name, expansion)])
    | .directive .unknown =>
      advance
      readDirectives fuel versioned handles
    | _ => modify fun s => { s with handles := handles ++ standardHandles }

def skipDocumentEnds : Nat → Reading Unit
  | 0 => pure ()
  | fuel + 1 => do
    if ← at? [.documentEnd] then
      advance
      skipDocumentEnds fuel

/-- Reads up to the marker of the next document and steps over it; gives the place where what
belongs to the document begins, or none at the end of the text. -/
def readDocumentStart (fuel : Nat) : Reading (Option Position) := do
  skipDocumentEnds fuel
  let t ← peek
  if t.kind == .streamEnd then pure none
  else
    readDirectives fuel false []
    let u ← peek
    if u.kind == .documentStart then
      advance
      pure (some t.place)
    else fault (.plain (.noDocumentStart u.kind) u.place)

def readDocument (fuel : Nat) : Reading (Option Nat) := do
  if ← at? [.directive, .documentStart, .streamEnd] then
    match ← readDocumentStart fuel with
    | none => pure none
    | some _ =>
      let node ←
        if ← at? [.directive, .documentStart, .documentEnd, .streamEnd] then
          addEmpty (← peek).place
        else readNode fuel true false
      finish fuel node
  else
    let node ← readNode fuel true false
    finish fuel node
where
  finish (fuel : Nat) (number : Nat) : Reading (Option Nat) := do
    if ← at? [.documentEnd] then advance
    match ← readDocumentStart fuel with
    | none => pure (some number)
    | some place =>
      let begun := ((← get).nodes.node number).place
      fault (.during .singleDocument begun .secondDocument place)

def Graph.ofText? (cs : List Char) : Except Stop (Option Graph) :=
  let row := TokenRow.ofText cs
  let fuel := 2 * row.tokens.length + 4
  match (readDocument fuel).run ⟨row.tokens, row.stop, standardHandles, [], #[]⟩ with
  | .ok (root, s) => .ok (root.map fun number => ⟨s.nodes, number⟩)
  | .error stop => .error stop

end SlideOverflow.Metadata
