import SlideOverflow.Proofs.Deck.Faithful

/-! Where the lines of a body stand does not matter to its nodes: with other numbers for the lines
come the same nodes with other numbers, at every depth. -/
namespace SlideOverflow.Deck

def ContentNode.renumbered (f : Nat → Nat) (slide : Nat) : ContentNode → ContentNode
  | ⟨form, first, last, _, content, text, charCount, children⟩ =>
    ⟨form, f first, f last, slide, content, text, charCount, children.map (renumbered f slide)⟩

namespace ContentNode

variable {f g : Nat → Nat} {slide other : Nat}

@[simp] theorem renumbered_form (n : ContentNode) : (n.renumbered f slide).form = n.form := by
  cases n
  rw [renumbered]

@[simp] theorem renumbered_text (n : ContentNode) : (n.renumbered f slide).text = n.text := by
  cases n
  rw [renumbered]

@[simp] theorem renumbered_charCount (n : ContentNode) :
    (n.renumbered f slide).charCount = n.charCount := by
  cases n
  rw [renumbered]

theorem renumbered_renumbered (n : ContentNode) :
    (n.renumbered f slide).renumbered g other = n.renumbered (g ∘ f) other := by
  match n with
  | ⟨form, first, last, _, content, text, charCount, children⟩ =>
    simp only [renumbered, List.map_map, Function.comp_apply]
    congr 1
    apply List.map_congr_left
    intro c hc
    exact renumbered_renumbered c

/-- Nothing changes for a node that is in the slide already, with the numbers that it has. -/
theorem renumbered_self {n : ContentNode} (hf : ∀ k, f k = k)
    (h : n.Everywhere (·.slide = slide)) : n.renumbered f slide = n := by
  induction h with
  | @intro n own _ ih =>
    cases n with
    | mk form first last s content text charCount children =>
      obtain rfl : s = slide := own
      rw [renumbered, hf, hf]
      congr 1
      exact (List.map_congr_left ih).trans (List.map_id' _)

private theorem everywhere_renumbered (n : ContentNode) :
    (n.renumbered f slide).Everywhere (·.slide = slide) := by
  match n with
  | ⟨form, first, last, _, content, text, charCount, children⟩ =>
    rw [renumbered]
    refine .intro rfl fun c hc => ?_
    obtain ⟨c, hc, rfl⟩ := List.mem_map.mp hc
    exact everywhere_renumbered c

end ContentNode

/-! ### Numbered lines -/

def raised (k : Nat) (l : NumberedLine) : NumberedLine := (l.1 + k, l.2)

section Raised

variable {k : Nat}

private theorem numbered_raised (first : Nat) (lines : List Line) :
    numbered (first + k) lines = (numbered first lines).map (raised k) := by
  induction lines generalizing first with
  | nil => rfl
  | cons l ls ih =>
    rw [numbered, numbered, List.map_cons, ← ih, Nat.add_right_comm]
    rfl

private theorem runs_raised (joins : Bool → Line → Bool) (run lines : List NumberedLine) :
    runs joins (run.map (raised k)) (lines.map (raised k)) =
      (runs joins run lines).map (List.map (raised k)) := by
  have hopen (run : List NumberedLine) : runs joins (run.map (raised k)) [] =
      (runs joins run []).map (List.map (raised k)) := by
    cases run <;> simp [runs]
  induction lines generalizing run with
  | nil => exact hopen run
  | cons l ls ih =>
    have hsame : joins (!(run.map (raised k)).isEmpty) (raised k l).2 =
        joins (!run.isEmpty) l.2 := by
      rw [List.isEmpty_map]
      rfl
    rw [List.map_cons]
    cases hl : joins (!run.isEmpty) l.2 with
    | true =>
      rw [runs_join (hsame.trans hl), runs_join hl]
      exact ih (l :: run)
    | false =>
      rw [runs_break (hsame.trans hl), runs_break hl, List.map_append, hopen run]
      exact congrArg _ (ih [])

private theorem firstNumber_raised {lines : List NumberedLine} (h : lines ≠ []) :
    firstNumber (lines.map (raised k)) = firstNumber lines + k := by
  cases lines with
  | nil => exact absurd rfl h
  | cons l ls => rfl

private theorem lastNumber_raised {lines : List NumberedLine} (h : lines ≠ []) :
    lastNumber (lines.map (raised k)) = lastNumber lines + k := by
  rw [lastNumber_eq h, lastNumber_eq (by simpa using h), List.getLast_map]
  rfl

private theorem linesBetween_raised (base first last : Nat) (lines : List Line) :
    linesBetween (base + k) lines (first + k) (last + k) = linesBetween base lines first last := by
  rw [linesBetween, linesBetween, Nat.add_sub_add_right, Nat.add_right_comm last,
    Nat.add_sub_add_right]

end Raised

/-! ### Nodes within nodes -/

structure Nesting.Numberless (r : Nesting) : Prop where
  form (k : Nat) (run : List NumberedLine) : r.form (run.map (raised k)) = r.form run
  text (k : Nat) (run : List NumberedLine) : r.text (run.map (raised k)) = r.text run

section Nestings

variable {r : Nesting} {k slide other : Nat}

private theorem Nesting.Numberless.within_raised (h : r.Numberless) (base : Nat) (lines : List Line)
    (fuel : Nat) (filled : List NumberedLine) :
    r.within slide (base + k) lines fuel (filled.map (raised k)) =
      (r.within other base lines fuel filled).map (·.renumbered (· + k) slide) := by
  induction fuel generalizing filled with
  | zero => rfl
  | succ fuel ih =>
    cases filled with
    | nil => rfl
    | cons head tail =>
      rw [List.map_cons, Nesting.within, Nesting.within, List.map_map,
        ← @List.map_nil _ _ (raised k), show (raised k head).2 = head.2 from rfl, runs_raised,
        List.map_map]
      apply List.map_congr_left
      intro run hrun
      have hne := ne_nil_of_mem_runs hrun
      simp only [Function.comp_apply, ContentNode.renumbered, h.form, h.text,
        firstNumber_raised hne, lastNumber_raised hne, linesBetween_raised, ih]

private theorem Nesting.Numberless.node_raised (h : r.Numberless)
    {form : List NumberedLine → NodeForm}
    (hform : ∀ run, form (run.map (raised k)) = form run) (first : Nat) {lines : List Line}
    (hne : lines ≠ []) :
    r.node form slide (first + k) lines =
      (r.node form other first lines).renumbered (· + k) slide := by
  have hpos := List.length_pos_iff.mpr hne
  have hfilled : (numbered (first + k) lines).filter (fun l => !l.2.isEmpty) =
      ((numbered first lines).filter fun l => !l.2.isEmpty).map (raised k) := by
    rw [numbered_raised, List.filter_map]
    rfl
  have hlast : first + k + lines.length - 1 = first + lines.length - 1 + k := by omega
  have hwithin := @Nesting.Numberless.within_raised r k slide other h first lines
  simp only [Nesting.node, hfilled, hform, h.text, List.length_map, hwithin,
    ContentNode.renumbered, hlast]

private theorem deepest_raised (run : List NumberedLine) :
    deepest (run.map (raised k)) = deepest run := by
  rw [deepest, List.foldl_map]
  rfl

private theorem listNesting_numberless : listNesting.Numberless where
  form k run := by
    simp only [listNesting, List.head?_map, Option.map_map, List.countP_map, deepest_raised]
    rfl
  text k run := by
    simp only [listNesting, listText, List.map_map]
    rfl

private theorem quoteNesting_numberless : quoteNesting.Numberless where
  form k run := by
    simp only [quoteNesting, mostMarkers, List.foldl_map]
    rfl
  text k run := by
    simp only [quoteNesting, quoteText, List.map_map]
    rfl

private theorem listNode_raised (number : Nat) (kind : ListKind) {lines : List Line}
    (hne : lines ≠ []) :
    listNode slide (number + k) kind lines =
      (listNode other number kind lines).renumbered (· + k) slide := by
  apply listNesting_numberless.node_raised _ number hne
  intro run
  simp only [List.countP_map, deepest_raised]
  rfl

private theorem quoteNode_raised (number : Nat) {lines : List Line} (hne : lines ≠ []) :
    quoteNode slide (number + k) lines =
      (quoteNode other number lines).renumbered (· + k) slide :=
  quoteNesting_numberless.node_raised (quoteNesting_numberless.form k) number hne

end Nestings

/-! ### Bodies -/

section Pieces

variable {k slide other number : Nat} {l : Line} {rest : List Line}

private theorem lineNode_raised (form : NodeForm) (text : Option String) :
    lineNode slide (number + k) l form text =
      (lineNode other number l form text).renumbered (· + k) slide := by
  simp only [lineNode, ContentNode.renumbered, List.map_nil]

private theorem plainNode_raised (lines : List Line) (form : NodeForm) (text : String) :
    plainNode slide (number + k) (l :: lines) form text =
      (plainNode other number (l :: lines) form text).renumbered (· + k) slide := by
  have hlast : number + k + (l :: lines).length - 1 = number + (l :: lines).length - 1 + k := by
    rw [List.length_cons]
    omega
  simp only [plainNode, ContentNode.renumbered, List.map_nil, hlast]

/-- What a construct takes depends on the lines alone. -/
private theorem readPiece_raised :
    (readPiece slide (number + k) l rest).node =
        (readPiece other number l rest).node.map (·.renumbered (· + k) slide) ∧
      (readPiece slide (number + k) l rest).size = (readPiece other number l rest).size := by
  simp only [readPiece]
  cases Construct.ofLine l with
  | heading level text => exact ⟨congrArg some (lineNode_raised _ _), rfl⟩
  | code => exact ⟨congrArg some (plainNode_raised _ _ _), rfl⟩
  | list kind => exact ⟨congrArg some (listNode_raised _ _ (List.cons_ne_nil _ _)), rfl⟩
  | image label target => exact ⟨congrArg some (lineNode_raised _ _), rfl⟩
  | table => exact ⟨congrArg some (plainNode_raised _ _ _), rfl⟩
  | quote => exact ⟨congrArg some (quoteNode_raised _ (List.cons_ne_nil _ _)), rfl⟩
  | component name closing => exact ⟨congrArg some (lineNode_raised _ _), rfl⟩
  | slot name => exact ⟨congrArg some (lineNode_raised _ _), rfl⟩
  | comment =>
    dsimp only [commentPiece]
    split
    · exact ⟨rfl, rfl⟩
    · split <;> exact ⟨rfl, rfl⟩
  | paragraph =>
    dsimp only [paragraphPiece]
    split
    · exact ⟨rfl, rfl⟩
    · exact ⟨congrArg some (plainNode_raised _ _ _), rfl⟩

end Pieces

/-- A body that stands `k` lines further down has the same nodes, `k` lines further down. -/
theorem readBody_raised (slide other skip number k : Nat) (lines : List Line) :
    (readBody slide skip (number + k) lines).1 =
      (readBody other skip number lines).1.map (·.renumbered (· + k) slide) := by
  induction lines generalizing skip number with
  | nil => cases skip <;> rfl
  | cons l ls ih =>
    cases skip with
    | succ skip =>
      rw [readBody_skip, readBody_skip, Nat.add_right_comm]
      exact ih skip (number + 1)
    | zero =>
      by_cases hblank : l.isEmpty = true
      · rw [readBody_blank hblank, readBody_blank hblank, Nat.add_right_comm]
        exact ih 0 (number + 1)
      · have hfilled : l.isEmpty = false := by simpa using hblank
        obtain ⟨hnode, hsize⟩ := @readPiece_raised k slide other number l ls
        rw [readBody_filled hfilled, readBody_filled hfilled, hnode, hsize, Nat.add_right_comm]
        dsimp only
        rw [ih, List.map_append, Option.toList_map]

/-- The nodes of a body belong to the slide that it is read for, at every depth. -/
theorem readBody_slide (slide skip number : Nat) (lines : List Line) :
    ∀ n ∈ (readBody slide skip number lines).1, n.Everywhere (·.slide = slide) := by
  intro n hn
  have hsame := readBody_raised slide slide skip number 0 lines
  rw [Nat.add_zero] at hsame
  rw [hsame] at hn
  obtain ⟨m, _, rfl⟩ := List.mem_map.mp hn
  exact m.everywhere_renumbered

end SlideOverflow.Deck
