import SlideOverflow.Deck.Block.Nesting
import SlideOverflow.Deck.Warning

/-! Reading the body of a slide. The first line that is not blank decides what construct begins
there; the construct says how many lines it takes, at least one, and reading goes on behind it. -/
namespace SlideOverflow.Deck

open Text

/-- What begins in a line: the node, if the lines make one, how many lines are taken, and what is
amiss. -/
structure Piece where
  node : Option ContentNode
  size : Nat
  warnings : List Warning
deriving Repr

inductive Construct where
  | heading (level : Nat) (text : List Char)
  | code
  | list (kind : ListKind)
  | image (label target : List Char)
  | table
  | quote
  | component (name : String) (closing : Bool)
  | slot (name : String)
  | comment
  | paragraph
deriving DecidableEq, Repr

def Construct.ofLine (l : Line) : Construct :=
  match heading? l with
  | some (level, text) => .heading level text
  | none =>
    if l.isFence then .code
    else if ListKind.unordered.opens l then .list .unordered
    else if ListKind.ordered.opens l then .list .ordered
    else match image? l.toList with
      | some (label, target) => .image label target
      | none =>
        if l.beginsWith ['|'] then .table
        else if l.beginsWith ['>'] then .quote
        else match l.component? with
          | some (name, closing) => .component name closing
          | none =>
            match l.slot? with
            | some name => .slot name
            | none =>
              if l.beginsWith Line.commentOpening then .comment else .paragraph

theorem Construct.beginsWith_of_comment {l : Line} (h : ofLine l = .comment) :
    l.beginsWith Line.commentOpening = true := by
  simp only [ofLine] at h
  repeat' split at h
  all_goals first | assumption | cases h

/-- No construct begins in the line that is known by how the line begins, slots and comments
aside. -/
structure Line.OpensNoBlock (l : Line) : Prop where
  heading : heading? l = none
  fence : l.isFence = false
  list : ∀ kind : ListKind, kind.opens l = false
  table : l.beginsWith ['|'] = false
  quote : l.beginsWith ['>'] = false

/-- A paragraph is what is left where no other construct begins. -/
theorem Construct.opensNoBlock_of_paragraph {l : Line} (h : ofLine l = .paragraph) :
    l.OpensNoBlock := by
  simp only [ofLine] at h
  repeat' split at h
  all_goals cases h
  simp only [Bool.not_eq_true] at *
  refine ⟨by assumption, by assumption, fun kind => ?_, by assumption, by assumption⟩
  cases kind <;> assumption

def lineNode (slide number : Nat) (l : Line) (form : NodeForm) (text : Option String) :
    ContentNode :=
  ⟨form, number, number, slide, l, text, text.map String.length, []⟩

def plainNode (slide number : Nat) (lines : List Line) (form : NodeForm) (text : String) :
    ContentNode :=
  ⟨form, number, number + lines.length - 1, slide, joinLines lines, some text, some text.length, []⟩

/-- The code between the opening line `l` and the first line that closes it; a block that is not
closed takes the rest of the slide. -/
def codePiece (slide number : Nat) (l : Line) (rest : List Line) : Piece :=
  let code := rest.takeWhile (!·.closesFence)
  let closed := code.length < rest.length
  let lines := l :: rest.take (code.length + 1)
  let node := plainNode slide number lines
    (.codeBlock (String.ofList l.fenceLanguage) code.length closed) (joinLines code)
  ⟨some node, lines.length, if closed then [] else [.unclosedCode number]⟩

/-- The first word of a target; what follows it is a title. -/
def imageSource (target : List Char) : List Char :=
  (words target).headD []

def tablePiece (slide number : Nat) (l : Line) (rest : List Line) : Piece :=
  let lines := l :: rest.takeWhile fun r => r.toList.contains '|'
  let rows := lines.filter (!·.isTableSeparator)
  let columns := lines.foldl (fun n r => max n r.cells.length) 0
  let text := joinLines (rows.map fun r => " ".intercalate (r.cells.map String.ofList))
  ⟨some (plainNode slide number lines (.table columns (rows.length - 1)) text), lines.length, []⟩

def commentPiece (number : Nat) (l : Line) (rest : List Line) : Piece :=
  if l.closesOwnComment then ⟨none, 1, []⟩
  else
    let inside := rest.takeWhile (!·.closesComment)
    if inside.length < rest.length then ⟨none, inside.length + 2, []⟩
    else ⟨none, rest.length + 1, [.unclosedComment number]⟩

/-- The lines up to the next break. A line that breaks paragraphs and opens nothing is left out. -/
def paragraphPiece (slide number : Nat) (l : Line) (rest : List Line) : Piece :=
  if l.breaksParagraph then ⟨none, 1, []⟩
  else
    let lines := l :: rest.takeWhile (!·.breaksParagraph)
    let text := trim (" ".intercalate (lines.map fun p => String.ofList p.stripped)).toList
    ⟨some (plainNode slide number lines .paragraph (String.ofList text)), lines.length, []⟩

def readPiece (slide number : Nat) (l : Line) (rest : List Line) : Piece :=
  match Construct.ofLine l with
  | .heading level text =>
    ⟨some (lineNode slide number l (.heading level) (some (String.ofList text))), 1, []⟩
  | .code => codePiece slide number l rest
  | .list kind =>
    let lines := l :: rest.take (listTail kind rest)
    ⟨some (listNode slide number kind lines), lines.length, []⟩
  | .image label target =>
    let form := .image (String.ofList label) (String.ofList (imageSource target))
    ⟨some (lineNode slide number l form none), 1, []⟩
  | .table => tablePiece slide number l rest
  | .quote =>
    let lines := l :: rest.take (quoteSpan rest)
    ⟨some (quoteNode slide number lines), lines.length, []⟩
  | .component name closing =>
    ⟨some (lineNode slide number l (.component name closing) none), 1, []⟩
  | .slot name => ⟨some (lineNode slide number l (.slotSeparator name) none), 1, []⟩
  | .comment => commentPiece number l rest
  | .paragraph => paragraphPiece slide number l rest

/-- The nodes of a body whose first line has number `number`, and what is amiss. `skip` lines are
already taken. -/
def readBody (slide : Nat) : Nat → Nat → List Line → List ContentNode × List Warning
  | _, _, [] => ([], [])
  | skip + 1, number, _ :: ls => readBody slide skip (number + 1) ls
  | 0, number, l :: ls =>
    if l.isEmpty then readBody slide 0 (number + 1) ls
    else
      let piece := readPiece slide number l ls
      let (nodes, warnings) := readBody slide (piece.size - 1) (number + 1) ls
      (piece.node.toList ++ nodes, piece.warnings ++ warnings)

section Steps

variable {slide number : Nat} {l : Line} {ls : List Line}

theorem readBody_skip (skip : Nat) :
    readBody slide (skip + 1) number (l :: ls) = readBody slide skip (number + 1) ls := rfl

theorem readBody_blank (h : l.isEmpty = true) :
    readBody slide 0 number (l :: ls) = readBody slide 0 (number + 1) ls := by
  rw [readBody, if_pos h]

/-- What begins in a line comes first, and reading goes on behind it. -/
theorem readBody_filled (h : l.isEmpty = false) :
    readBody slide 0 number (l :: ls) =
      ((readPiece slide number l ls).node.toList ++
          (readBody slide ((readPiece slide number l ls).size - 1) (number + 1) ls).1,
        (readPiece slide number l ls).warnings ++
          (readBody slide ((readPiece slide number l ls).size - 1) (number + 1) ls).2) := by
  rw [readBody, if_neg (by rw [h]; exact Bool.false_ne_true)]

end Steps

end SlideOverflow.Deck
