import SlideOverflow.Proofs.Deck.Extent
import SlideOverflow.Proofs.Deck.Runs
import SlideOverflow.Proofs.Deck.Spacing

/-! Reading with nothing taken for granted. Here a look-up can miss, nothing is the greatest of no
numbers, a loop tests the line that opens a construct like any other one, and the steps of reading
are counted. On every body this comes to what reading comes to, in no more steps than there are
lines. -/
namespace SlideOverflow.Deck.Checked

open Text

/-! ### Operations that can fail -/

def lineAt (lines : List Line) (i : Nat) : Outcome Line :=
  Outcome.ofOption .noPosition lines[i]?

def greatest : List Nat → Outcome Nat
  | [] => Outcome.reject .badValue
  | n :: ns => .ok (ns.foldl max n)

def firstWord (cs : List Char) : Outcome (List Char) :=
  if (trim cs).isEmpty then .ok [] else Outcome.ofOption .noPosition (words cs).head?

section Operations

variable {lines ls : List Line} {l : Line} {i : Nat}

private theorem lineAt_eq (h : lines.drop i = l :: ls) : lineAt lines i = .ok l := by
  rw [lineAt, ← List.head?_drop, h]
  rfl

private theorem drop_succ_of_drop (h : lines.drop i = l :: ls) : lines.drop (i + 1) = ls := by
  rw [← List.tail_drop, h]
  rfl

private theorem mapM_lineAt {n : Nat} (h : n ≤ (lines.drop i).length) :
    (List.range' i n).mapM (lineAt lines) = .ok ((lines.drop i).take n) := by
  induction n generalizing i with
  | zero => rfl
  | succ n ih =>
    cases hdrop : lines.drop i with
    | nil =>
      rw [hdrop] at h
      exact absurd h (Nat.not_succ_le_zero n)
    | cons l ls =>
      have hnext := drop_succ_of_drop hdrop
      rw [hdrop] at h
      have hrest := ih (i := i + 1) (by rw [hnext]; exact Nat.le_of_succ_le_succ h)
      rw [List.range'_succ, List.mapM_cons, lineAt_eq hdrop, Outcome.ok_bind, hrest,
        Outcome.ok_bind, hnext, List.take_succ_cons]
      rfl

private theorem greatest_map {f : NumberedLine → Nat} {filled : List NumberedLine}
    (hne : filled ≠ []) :
    greatest (filled.map f) = .ok (filled.foldl (fun n l => max n (f l)) 0) := by
  cases filled with
  | nil => exact absurd rfl hne
  | cons l ls => rw [List.map_cons, greatest, List.foldl_map, List.foldl_cons, Nat.zero_max]

private theorem firstWord_eq (cs : List Char) : firstWord cs = .ok (imageSource cs) := by
  rw [firstWord, imageSource]
  split
  · next hblank =>
    rw [words_eq_nil_iff.mpr (List.isEmpty_iff.mp hblank)]
    rfl
  · next hfilled =>
    cases hwords : words cs with
    | nil => exact absurd (List.isEmpty_iff.mpr (words_eq_nil_iff.mp hwords)) hfilled
    | cons w ws => rfl

end Operations

/-! ### Loops -/

/-- The test by which a loop goes on over a line: whether it has gone on over one before, the line,
and the line behind it. -/
structure Loop where
  goesOn (begun : Bool) (l : Line) (next : Option Line) : Bool

namespace Loop

def reach (t : Loop) : Bool → List Line → Nat
  | _, [] => 0
  | begun, l :: ls => if t.goesOn begun l ls.head? then t.reach true ls + 1 else 0

/-- Lists take indented lines along, but none of them begins with one. -/
def list (kind : ListKind) : Loop where
  goesOn begun l next := kind.isItem l || (begun && !l.isEmpty && l.isIndented) ||
    (l.isEmpty && next.any kind.isItem)

def table : Loop where
  goesOn _ l _ := l.toList.contains '|'

def quote : Loop where
  goesOn _ l next := l.beginsWith ['>'] || (l.isEmpty && next.any (·.beginsWith ['>']))

def paragraph : Loop where
  goesOn _ l _ := !l.breaksParagraph

variable {t : Loop} {begun : Bool} {l : Line} {ls : List Line}

private theorem reach_le (t : Loop) (begun : Bool) (ls : List Line) :
    t.reach begun ls ≤ ls.length := by
  induction ls generalizing begun with
  | nil => exact Nat.le_refl 0
  | cons l ls ih =>
    rw [reach]
    split
    · exact Nat.succ_le_succ (ih true)
    · exact Nat.zero_le _

private theorem reach_eq_takeWhile {p : Line → Bool}
    (h : ∀ begun l next, t.goesOn begun l next = p l) :
    t.reach begun ls = (ls.takeWhile p).length := by
  induction ls generalizing begun with
  | nil => rfl
  | cons l ls ih =>
    rw [reach, h]
    cases hp : p l with
    | true => rw [if_pos rfl, ih, List.takeWhile_cons_of_pos hp, List.length_cons]
    | false =>
      rw [if_neg Bool.false_ne_true,
        List.takeWhile_cons_of_neg (by rw [hp]; exact Bool.false_ne_true)]
      rfl

private theorem reach_list {kind : ListKind} : (list kind).reach true ls = listTail kind ls := by
  induction ls with
  | nil => rfl
  | cons l ls ih =>
    have hgoes : (list kind).goesOn true l ls.head? =
        if l.isEmpty then ls.head?.any kind.isItem else kind.isItem l || l.isIndented := by
      cases hl : l.isEmpty with
      | true =>
        have hitem : kind.isItem l = false := by
          rw [Bool.eq_false_iff]
          intro h
          rw [ListKind.isEmpty_of_isItem h] at hl
          cases hl
        simp [list, hl, hitem]
      | false => simp [list, hl]
    rw [reach, hgoes, listTail_cons, ih]

/-- An item is gone on over even where nothing has begun. -/
private theorem reach_list_opening {kind : ListKind} (h : kind.isItem l = true) :
    (list kind).reach false (l :: ls) = listTail kind ls + 1 := by
  rw [reach, if_pos (by simp [list, h]), reach_list]

example : (list .unordered).reach false ["  a", "- b"] = 0 := by decide +kernel

private theorem reach_quote : quote.reach begun ls = quoteSpan ls := by
  induction ls generalizing begun with
  | nil => rfl
  | cons l ls ih =>
    rw [reach, quoteSpan_cons, ih]
    rfl

end Loop

def block (t : Loop) (lines : List Line) (i : Nat) : Outcome (List Line) :=
  (List.range' i (t.reach false (lines.drop i))).mapM (lineAt lines)

private theorem block_eq (t : Loop) (lines : List Line) (i : Nat) :
    block t lines i = .ok ((lines.drop i).take (t.reach false (lines.drop i))) :=
  mapM_lineAt (t.reach_le false _)

private theorem block_takeWhile {t : Loop} {p : Line → Bool}
    (h : ∀ begun l next, t.goesOn begun l next = p l) (lines : List Line) (i : Nat) :
    block t lines i = .ok ((lines.drop i).takeWhile p) := by
  rw [block_eq, Loop.reach_eq_takeWhile h,
    ← List.prefix_iff_eq_take.mp (List.takeWhile_prefix p)]

/-! ### Nodes within nodes -/

abbrev Form := List NumberedLine → Outcome NodeForm

private def Form.Tells (form : Form) (known : List NumberedLine → NodeForm) : Prop :=
  ∀ lines ≠ [], form lines = .ok (known lines)

def listForm (kind : ListKind) : Form := fun filled => do
  let deepest ← greatest (filled.map (·.2.depth))
  return .list (kind == .ordered) (filled.countP fun l => kind.isItem l.2) deepest

def runForm : Form := fun run => do
  let head ← Outcome.ofOption .noPosition run.head?
  let deepest ← greatest (run.map (·.2.depth))
  return .list (ListKind.ordered.isItem head.2) (run.countP (·.2.isItem)) deepest

def quoteForm : Form := fun filled => do
  let _ ← Outcome.ofOption .noPosition filled.head?
  let most ← greatest (filled.map (·.2.quoteDepth))
  return .blockquote most

private theorem listForm_tells (kind : ListKind) : (listForm kind).Tells fun filled =>
    .list (kind == .ordered) (filled.countP fun l => kind.isItem l.2) (deepest filled) := by
  intro filled hne
  rw [listForm, greatest_map hne]
  rfl

private theorem runForm_tells : runForm.Tells listNesting.form := by
  intro run hne
  rw [runForm, greatest_map hne]
  cases run with
  | nil => exact absurd rfl hne
  | cons head tail => rfl

private theorem quoteForm_tells : quoteForm.Tells quoteNesting.form := by
  intro filled hne
  rw [quoteForm, greatest_map hne]
  cases filled with
  | nil => exact absurd rfl hne
  | cons head tail => rfl

/-- The nodes within a node. Every level of them uses up fuel. -/
def within (r : Nesting) (form : Form) (slide base : Nat) (lines : List Line) :
    Nat → List NumberedLine → Outcome (List ContentNode)
  | _, [] => .ok []
  | 0, _ :: _ => Outcome.reject .endless
  | fuel + 1, head :: tail =>
    (runs (r.joins head.2) [] tail).mapM fun run => do
      let form' ← form run
      let first ← Outcome.ofOption .noPosition run.head?
      let last ← Outcome.ofOption .noPosition run.getLast?
      let children ← within r form slide base lines fuel run
      return {
        form := form'
        first := first.1
        last := last.1
        slide := slide
        content := joinLines (linesBetween base lines first.1 last.1)
        text := some (r.text run)
        charCount := some (r.text run).length
        children := children }

def node (r : Nesting) (form run : Form) (slide first : Nat) (lines : List Line) :
    Outcome ContentNode := do
  let filled := (numbered first lines).filter fun l => !l.2.isEmpty
  let form' ← form filled
  let children ← within r run slide first lines filled.length filled
  return {
    form := form'
    first := first
    last := first + lines.length - 1
    slide := slide
    content := joinLines lines
    text := some (r.text filled)
    charCount := some (r.text filled).length
    children := children }

section Nodes

variable {r : Nesting} {form run : Form} {known : List NumberedLine → NodeForm}
  {slide base first : Nat} {lines ls : List Line} {l : Line}

/-- No run is empty, and none is longer than the lines that it is taken from. -/
private theorem within_eq (hform : form.Tells r.form) {fuel : Nat} {filled : List NumberedLine}
    (hfuel : filled.length ≤ fuel) :
    within r form slide base lines fuel filled = .ok (r.nodes slide base lines filled) := by
  induction fuel generalizing filled with
  | zero =>
    obtain rfl := List.length_eq_zero_iff.mp (Nat.le_zero.mp hfuel)
    rfl
  | succ fuel ih =>
    cases filled with
    | nil => rfl
    | cons head tail =>
      rw [within, Nesting.nodes_cons]
      apply Outcome.mapM_eq_ok
      intro run hrun
      have hne : run ≠ [] := ne_nil_of_mem_runs hrun
      have hlt := (Nesting.Inner.run hrun : r.Inner run (head :: tail)).length_lt
      rw [hform run hne, Outcome.ok_bind, ih (by omega : run.length ≤ fuel)]
      cases hhead : run.head? with
      | none => exact absurd (List.head?_eq_none_iff.mp hhead) hne
      | some p =>
        cases hlast : run.getLast? with
        | none => exact absurd (List.getLast?_eq_none_iff.mp hlast) hne
        | some q =>
          rw [Nesting.runNode, firstNumber, lastNumber, hhead, hlast]
          rfl

private theorem node_eq (hform : form.Tells known) (hrun : run.Tells r.form)
    (hl : l.isEmpty = false) :
    node r form run slide first (l :: ls) = .ok (r.node known slide first (l :: ls)) := by
  have hne : ((numbered first (l :: ls)).filter fun l => !l.2.isEmpty) ≠ [] := by
    rw [numbered, List.filter_cons_of_pos (by rw [hl]; rfl)]
    exact List.cons_ne_nil _ _
  rw [node, hform _ hne, Outcome.ok_bind, within_eq hrun (Nat.le_refl _)]
  rfl

end Nodes

/-! ### What begins in a line -/

def readPiece (slide first : Nat) (lines : List Line) (i : Nat) : Outcome Piece := do
  let l ← lineAt lines i
  let number := first + i
  let rest := lines.drop (i + 1)
  match Construct.ofLine l with
  | .heading level text =>
    return ⟨some (lineNode slide number l (.heading level) (some (String.ofList text))), 1, []⟩
  | .code => return codePiece slide number l rest
  | .list kind =>
    let taken ← block (.list kind) lines i
    let list ← node listNesting (listForm kind) runForm slide number taken
    return ⟨some list, taken.length, []⟩
  | .image label target =>
    let source ← firstWord target
    let form := .image (String.ofList label) (String.ofList source)
    return ⟨some (lineNode slide number l form none), 1, []⟩
  | .table =>
    let taken ← block .table lines i
    let rows := taken.filter (!·.isTableSeparator)
    let columns := taken.foldl (fun n r => max n r.cells.length) 0
    let text := joinLines (rows.map fun r => " ".intercalate (r.cells.map String.ofList))
    return ⟨some (plainNode slide number taken (.table columns (rows.length - 1)) text),
      taken.length, []⟩
  | .quote =>
    let taken ← block .quote lines i
    let quote ← node quoteNesting quoteForm quoteForm slide number taken
    return ⟨some quote, taken.length, []⟩
  | .component name closing =>
    return ⟨some (lineNode slide number l (.component name closing) none), 1, []⟩
  | .slot name => return ⟨some (lineNode slide number l (.slotSeparator name) none), 1, []⟩
  | .comment =>
    let _ ← Outcome.ofOption .badValue (firstOfTails (after? Line.commentOpening) l.toList)
    return commentPiece number l rest
  | .paragraph =>
    let taken ← block .paragraph lines i
    let text := trim (" ".intercalate (taken.map fun p => String.ofList p.stripped)).toList
    return if taken.isEmpty then ⟨none, 1, []⟩
      else ⟨some (plainNode slide number taken .paragraph (String.ofList text)), taken.length, []⟩

section Pieces

variable {slide first i : Nat} {lines ls : List Line} {l : Line}

/-- Every line that opens a construct passes the test of its loop, so nothing fails. -/
private theorem readPiece_eq (hdrop : lines.drop i = l :: ls) (hl : l.isEmpty = false) :
    readPiece slide first lines i = .ok (Deck.readPiece slide (first + i) l ls) := by
  rw [readPiece, lineAt_eq hdrop, Outcome.ok_bind, Deck.readPiece]
  dsimp only
  rw [drop_succ_of_drop hdrop]
  cases hconstruct : Construct.ofLine l with
  | heading level text => rfl
  | code => rfl
  | list kind =>
    have hitem := Construct.isItem_of_list hconstruct
    dsimp only
    rw [block_eq, hdrop, Loop.reach_list_opening hitem, Outcome.ok_bind, List.take_succ_cons,
      node_eq (listForm_tells kind) runForm_tells hl]
    rfl
  | image label target =>
    dsimp only
    rw [firstWord_eq]
    rfl
  | table =>
    have hopens : (l :: ls).takeWhile (fun r => r.toList.contains '|') =
        l :: ls.takeWhile fun r => r.toList.contains '|' := by
      rw [List.takeWhile_cons, if_pos (Construct.contains_of_table hconstruct)]
    dsimp only
    rw [block_takeWhile (p := fun r => r.toList.contains '|') (fun _ _ _ => rfl), hdrop, hopens]
    rfl
  | quote =>
    have hquote := Construct.beginsWith_of_quote hconstruct
    dsimp only
    rw [block_eq, hdrop, Loop.reach_quote, quoteSpan_cons, if_pos (by rw [hquote]; rfl),
      Outcome.ok_bind, List.take_succ_cons, node_eq quoteForm_tells quoteForm_tells hl]
    rfl
  | component name closing => rfl
  | slot name => rfl
  | comment =>
    obtain ⟨blanks, behind, hline, hblanks⟩ :=
      Line.exists_of_beginsWith (Construct.beginsWith_of_comment hconstruct)
    dsimp only
    rw [Line.firstOfTails_commentOpening hline hblanks]
    rfl
  | paragraph =>
    dsimp only
    rw [block_takeWhile (fun _ _ _ => rfl), hdrop, Outcome.ok_bind, paragraphPiece]
    cases hbreaks : l.breaksParagraph with
    | true =>
      rw [List.takeWhile_cons_of_neg (by simp [hbreaks])]
      rfl
    | false =>
      rw [List.takeWhile_cons_of_pos (by simp [hbreaks])]
      rfl

/-- What begins in a line takes that line and goes no further than the last one, and a node stands
for what is taken. -/
private theorem readPiece_progress (h : lines[i]? = some l) (hl : l.isEmpty = false) :
    let piece := Deck.readPiece slide (first + i) l (lines.drop (i + 1))
    readPiece slide first lines i = .ok piece ∧
      i < i + piece.size ∧ i + piece.size ≤ lines.length ∧
      ∀ n, piece.node = some n → n.first = first + i ∧ n.last + 1 = first + (i + piece.size) := by
  intro piece
  obtain ⟨hi, rfl⟩ := List.getElem?_eq_some_iff.mp h
  have hdrop : lines.drop i = lines[i] :: lines.drop (i + 1) := List.drop_eq_getElem_cons hi
  obtain ⟨hpos, hle⟩ : 0 < piece.size ∧ piece.size ≤ (lines.drop i).length := by
    rw [hdrop]
    exact readPiece_size hl
  rw [List.length_drop] at hle
  refine ⟨readPiece_eq hdrop hl, by omega, by omega, fun n hn => ?_⟩
  obtain ⟨hfirst, hlast⟩ := readPiece_range hl hn
  exact ⟨hfirst, by rw [hlast, Nat.add_assoc]⟩

end Pieces

/-! ### The body -/

def readBody (slide first : Nat) (lines : List Line) :
    Nat → Nat → Outcome (List ContentNode × List Warning)
  | 0, i => if i < lines.length then Outcome.reject .endless else .ok ([], [])
  | steps + 1, i =>
    match lines[i]? with
    | none => .ok ([], [])
    | some l =>
      if l.isEmpty then readBody slide first lines steps (i + 1)
      else do
        let piece ← readPiece slide first lines i
        let (nodes, warnings) ← readBody slide first lines steps (i + piece.size)
        return (piece.node.toList ++ nodes, piece.warnings ++ warnings)

section Body

variable {slide first : Nat} {lines : List Line}

/-- Each step takes at least one of the lines that are left. -/
private theorem readBody_eq {steps i : Nat} (h : lines.length ≤ i + steps) :
    readBody slide first lines steps i =
      .ok (Position.read slide ⟨first + i, lines.drop i⟩) := by
  induction steps generalizing i with
  | zero =>
    rw [Nat.add_zero] at h
    rw [readBody, if_neg (Nat.not_lt.mpr h), List.drop_eq_nil_of_le h]
    rfl
  | succ steps ih =>
    rw [readBody]
    cases hline : lines[i]? with
    | none =>
      rw [List.drop_eq_nil_of_le (List.getElem?_eq_none_iff.mp hline)]
      rfl
    | some l =>
      obtain ⟨hi, rfl⟩ := List.getElem?_eq_some_iff.mp hline
      have hdrop : lines.drop i = lines[i] :: lines.drop (i + 1) := List.drop_eq_getElem_cons hi
      dsimp only
      cases hl : lines[i].isEmpty with
      | true => rw [if_pos rfl, ih (by omega), hdrop, Position.read_blank hl, Nat.add_assoc]
      | false =>
        have hsize := @readPiece_size slide (first + i) lines[i] (lines.drop (i + 1)) hl
        rw [if_neg Bool.false_ne_true, readPiece_eq hdrop hl, Outcome.ok_bind, ih (by omega),
          Outcome.ok_bind, hdrop, Position.read_filled hl, Position.behind, ← hdrop,
          List.drop_drop, Nat.add_assoc]
        rfl

/-- At no line that is not blank does reading fail or stand still, and it ends after at most as many
steps as there are lines. -/
theorem readBody_progress (slide first start : Nat) (lines : List Line) :
    (∀ i l, lines[i]? = some l → l.isEmpty = false →
      let piece := Deck.readPiece slide (first + i) l (lines.drop (i + 1))
      readPiece slide first lines i = .ok piece ∧
        i < i + piece.size ∧ i + piece.size ≤ lines.length ∧
        ∀ n, piece.node = some n →
          n.first = first + i ∧ n.last + 1 = first + (i + piece.size)) ∧
      readBody slide first lines lines.length start =
        .ok (Deck.readBody slide 0 (first + start) (lines.drop start)) :=
  ⟨fun _ _ h hl => readPiece_progress h hl, readBody_eq (Nat.le_add_left _ _)⟩

/-- A quote that holds another one, behind a list that a blank line ends. -/
theorem readBody_progress_of_quote :
    let lines := ["- a", "", "> q", ">> r", "#tag"]
    let piece := Deck.readPiece 0 7 "> q" [">> r", "#tag"]
    lines[2]? = some "> q" ∧ Line.isEmpty "> q" = false ∧
      readPiece 0 5 lines 2 = .ok piece ∧ 2 < 2 + piece.size ∧ 2 + piece.size ≤ 5 ∧
      (∀ n, piece.node = some n → n.first = 7 ∧ n.last + 1 = 5 + (2 + piece.size)) ∧
      readBody 0 5 lines 5 0 = .ok (Deck.readBody 0 0 5 lines) := by
  intro lines piece
  have hline : lines[2]? = some "> q" := rfl
  have hfilled : Line.isEmpty "> q" = false := by decide +kernel
  obtain ⟨hprogress, hends⟩ := readBody_progress 0 5 0 lines
  obtain ⟨hread, hlt, hle, hrange⟩ := hprogress 2 "> q" hline hfilled
  exact ⟨hline, hfilled, hread, hlt, hle, hrange, hends⟩

end Body

end SlideOverflow.Deck.Checked
