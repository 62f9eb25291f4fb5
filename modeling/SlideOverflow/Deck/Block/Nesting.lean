import SlideOverflow.Deck.Node

/-! Blocks that hold blocks of their own kind: lists and quotes. Behind the first line of a block,
lines that belong together make up runs; each run is a node within the node of the block, and may
itself hold some. -/
namespace SlideOverflow.Deck

open Text

structure Nesting where
  /-- In a block whose first line is `head`, whether a line belongs to the run in front of it, or
  begins one where none is open. -/
  joins (head : Line) (isOpen : Bool) (l : Line) : Bool
  form : List NumberedLine → NodeForm
  text : List NumberedLine → String

/-- The runs of lines that join. `run` is the open run, latest line first; a line that does not join
closes it and belongs to no run. -/
def runs (joins : Bool → Line → Bool) (run : List NumberedLine) :
    List NumberedLine → List (List NumberedLine)
  | [] => if run.isEmpty then [] else [run.reverse]
  | l :: ls =>
    if joins (!run.isEmpty) l.2 then runs joins (l :: run) ls
    else (if run.isEmpty then [] else [run.reverse]) ++ runs joins [] ls

def firstNumber (lines : List NumberedLine) : Nat := (lines.head?.map (·.1)).getD 0

def lastNumber (lines : List NumberedLine) : Nat := (lines.getLast?.map (·.1)).getD 0

/-- The nodes within a node that consists of these lines, blank lines left out. Each of them has
fewer lines, so `fuel` may be the number of lines. `base` and `lines` are the whole block, from
which the contents are cut. -/
def Nesting.within (r : Nesting) (slide base : Nat) (lines : List Line) :
    Nat → List NumberedLine → List ContentNode
  | 0, _ => []
  | _, [] => []
  | fuel + 1, head :: tail =>
    (runs (r.joins head.2) [] tail).map fun run =>
      { form := r.form run
        first := firstNumber run
        last := lastNumber run
        slide := slide
        content := joinLines (linesBetween base lines (firstNumber run) (lastNumber run))
        text := some (r.text run)
        charCount := some (r.text run).length
        children := r.within slide base lines fuel run }

def Nesting.node (r : Nesting) (form : List NumberedLine → NodeForm) (slide first : Nat)
    (lines : List Line) : ContentNode :=
  let filled := (numbered first lines).filter fun l => !l.2.isEmpty
  { form := form filled
    first := first
    last := first + lines.length - 1
    slide := slide
    content := joinLines lines
    text := some (r.text filled)
    charCount := some (r.text filled).length
    children := r.within slide first lines filled.length filled }

/-! ### Runs -/

section Runs

variable {joins : Bool → Line → Bool} {run ls r : List NumberedLine} {l : NumberedLine}

theorem mem_runs_nil : r ∈ runs joins run [] ↔ run ≠ [] ∧ r = run.reverse := by
  cases run <;> simp [runs]

theorem flatten_runs_nil : (runs joins run []).flatten = run.reverse := by
  cases run <;> simp [runs]

theorem runs_join (h : joins (!run.isEmpty) l.2 = true) :
    runs joins run (l :: ls) = runs joins (l :: run) ls := by
  rw [runs, if_pos h]

/-- A line that does not join ends the open run. -/
theorem runs_break (h : joins (!run.isEmpty) l.2 = false) :
    runs joins run (l :: ls) = runs joins run [] ++ runs joins [] ls := by
  have hnil : runs joins run [] = if run.isEmpty then [] else [run.reverse] := rfl
  rw [hnil, runs, if_neg (by simp [h])]

/-- Runs take their lines in order, and none twice. -/
theorem runs_flatten_sublist (run ls : List NumberedLine) :
    (runs joins run ls).flatten.Sublist (run.reverse ++ ls) := by
  induction ls generalizing run with
  | nil => simp [flatten_runs_nil]
  | cons l ls ih =>
    cases hl : joins (!run.isEmpty) l.2 with
    | true =>
      rw [runs_join hl]
      have h := ih (l :: run)
      rwa [List.reverse_cons, List.append_assoc, List.singleton_append] at h
    | false =>
      rw [runs_break hl, List.flatten_append, flatten_runs_nil]
      exact (List.Sublist.refl _).append ((ih []).cons l)

theorem ne_nil_of_mem_runs (h : r ∈ runs joins run ls) : r ≠ [] := by
  have hopen {run : List NumberedLine} (hr : r ∈ runs joins run []) : r ≠ [] := by
    obtain ⟨hne, rfl⟩ := mem_runs_nil.mp hr
    simpa using hne
  induction ls generalizing run with
  | nil => exact hopen h
  | cons l ls ih =>
    cases hl : joins (!run.isEmpty) l.2 with
    | true =>
      rw [runs_join hl] at h
      exact ih h
    | false =>
      rw [runs_break hl] at h
      exact (List.mem_append.mp h).elim hopen ih

/-- The lines of a run stand behind one another. -/
theorem infix_of_mem_runs (h : r ∈ runs joins run ls) : r <:+: run.reverse ++ ls := by
  have hopen {run : List NumberedLine} (rest : List NumberedLine) (hr : r ∈ runs joins run []) :
      r <:+: run.reverse ++ rest := by
    obtain ⟨_, rfl⟩ := mem_runs_nil.mp hr
    exact (List.prefix_append _ _).isInfix
  induction ls generalizing run with
  | nil => exact hopen [] h
  | cons l ls ih =>
    cases hl : joins (!run.isEmpty) l.2 with
    | true =>
      rw [runs_join hl] at h
      simpa using ih h
    | false =>
      rw [runs_break hl] at h
      rcases List.mem_append.mp h with hr | hr
      · exact hopen (l :: ls) hr
      · exact (ih hr).trans ⟨run.reverse ++ [l], [], by simp⟩

end Runs

/-! ### First and last numbers -/

section Numbers

variable {lines : List NumberedLine}

theorem exists_firstNumber (h : lines ≠ []) : ∃ p ∈ lines, p.1 = firstNumber lines := by
  cases lines with
  | nil => exact absurd rfl h
  | cons p ps => exact ⟨p, List.mem_cons_self, rfl⟩

theorem lastNumber_eq (h : lines ≠ []) : lastNumber lines = (lines.getLast h).1 := by
  rw [lastNumber, List.getLast?_eq_some_getLast h]
  rfl

theorem exists_lastNumber (h : lines ≠ []) : ∃ p ∈ lines, p.1 = lastNumber lines :=
  ⟨lines.getLast h, List.getLast_mem h, (lastNumber_eq h).symm⟩

theorem firstNumber_lt {p q : NumberedLine} {ps : List NumberedLine}
    (h : (p :: ps).Pairwise fun a b => a.1 < b.1) (hq : q ∈ ps) : firstNumber (p :: ps) < q.1 :=
  List.rel_of_pairwise_cons h hq

theorem firstNumber_le {q : NumberedLine} (h : lines.Pairwise fun a b => a.1 < b.1)
    (hq : q ∈ lines) : firstNumber lines ≤ q.1 := by
  cases lines with
  | nil => exact absurd hq List.not_mem_nil
  | cons p ps =>
    rcases List.mem_cons.mp hq with rfl | hq
    · exact Nat.le_refl _
    · exact Nat.le_of_lt (firstNumber_lt h hq)

theorem le_lastNumber {q : NumberedLine} (h : lines.Pairwise fun a b => a.1 < b.1)
    (hq : q ∈ lines) : q.1 ≤ lastNumber lines := by
  have hne : lines ≠ [] := List.ne_nil_of_mem hq
  have hnumber := lastNumber_eq hne
  rw [← List.dropLast_concat_getLast hne] at h hq
  rcases List.mem_append.mp hq with hq | hq
  · have hlt := (List.pairwise_append.mp h).2.2 q hq _ (List.mem_singleton_self _)
    omega
  · obtain rfl := List.mem_singleton.mp hq
    omega

end Numbers

/-! ### Lists

A list goes on over items of its kind and over indented lines, and over a single blank
line that an item of its kind follows. Items deeper than the first line make up lists within it. -/

def listTail (kind : ListKind) : List Line → Nat
  | [] => 0
  | l :: ls =>
    let goesOn :=
      if l.isEmpty then (match ls with | [] => false | next :: _ => kind.isItem next)
      else kind.isItem l || l.isIndented
    if goesOn then listTail kind ls + 1 else 0

def listText (lines : List NumberedLine) : String :=
  joinLines (lines.map fun l => String.ofList (trim l.2.withoutMarker))

def deepest (lines : List NumberedLine) : Nat :=
  lines.foldl (fun d l => max d l.2.depth) 0

/-- Lists within a list. An item deeper than the first line of the list opens a run, and every
deeper line behind it belongs to it; deeper lines outside a run are wrapped text. -/
def listNesting : Nesting where
  joins := fun head isOpen l => decide (head.depth < l.depth) && (isOpen || l.isItem)
  form := fun run =>
    .list ((run.head?.map fun l => ListKind.ordered.isItem l.2).getD false)
      (run.countP (·.2.isItem)) (deepest run)
  text := listText

def listNode (slide first : Nat) (kind : ListKind) (lines : List Line) : ContentNode :=
  listNesting.node
    (fun filled =>
      .list (kind == .ordered) (filled.countP fun l => kind.isItem l.2) (deepest filled))
    slide first lines

/-! ### Quotes

A quote goes on over lines with a quote marker, and over blank lines that such a
line follows. Lines with more markers than the first one make up quotes within it. -/

def quoteSpan : List Line → Nat
  | [] => 0
  | l :: ls =>
    let goesOn := l.beginsWith ['>'] ||
      (l.isEmpty && (match ls with | [] => false | next :: _ => next.beginsWith ['>']))
    if goesOn then quoteSpan ls + 1 else 0

def quoteText (lines : List NumberedLine) : String :=
  " ".intercalate (((lines.map fun l => trim l.2.withoutQuoteMarkers).filter (!·.isEmpty)).map
    String.ofList)

def mostMarkers (lines : List NumberedLine) : Nat :=
  lines.foldl (fun d l => max d l.2.quoteDepth) 0

def quoteNesting : Nesting where
  joins := fun head _ l => decide (head.quoteDepth < l.quoteDepth)
  form := fun run => .blockquote (mostMarkers run)
  text := quoteText

def quoteNode (slide first : Nat) (lines : List Line) : ContentNode :=
  quoteNesting.node quoteNesting.form slide first lines

end SlideOverflow.Deck
