import SlideOverflow.Deck.Block.Reader

/-! Nodes and the lines that they stand for. A node of a block holds the lines of its range,
unchanged, and so do the nodes within it, which follow one another behind its first line. -/
namespace SlideOverflow.Deck

inductive ContentNode.Everywhere (P : ContentNode → Prop) : ContentNode → Prop where
  | intro {n : ContentNode} (own : P n) (within : ∀ c ∈ n.children, Everywhere P c) : Everywhere P n

/-- What it means that a node between the lines `first` and `last` stands for its lines. `lines`
begin with number `base`. -/
structure ContentNode.Faithful (slide base : Nat) (lines : List Line) (first last : Nat)
    (n : ContentNode) : Prop where
  slide_eq : n.slide = slide
  first_le : first ≤ n.first
  ordered : n.first ≤ n.last
  le_last : n.last ≤ last
  content_eq : n.content = joinLines (linesBetween base lines n.first n.last)
  charCount_eq : n.charCount = n.text.map String.length
  children_ascending : n.children.Pairwise fun c d => c.last < d.first
  children_inside : ∀ c ∈ n.children, n.first < c.first ∧ c.last ≤ n.last

namespace ContentNode

theorem Everywhere.own {P : ContentNode → Prop} {n : ContentNode} (h : n.Everywhere P) : P n := by
  cases h with
  | intro own _ => exact own

theorem Everywhere.imp {P Q : ContentNode → Prop} (hPQ : ∀ n, P n → Q n) {n : ContentNode}
    (h : n.Everywhere P) : n.Everywhere Q := by
  induction h with
  | intro own _ ih => exact .intro (hPQ _ own) ih

/-- A node of a block stands for the same lines in the text that the block is part of. -/
theorem Faithful.widen {slide base a b first last : Nat} {lines : List Line} {n : ContentNode}
    (h : n.Faithful slide a (linesBetween base lines a b) a b) (hbase : base ≤ a)
    (hfirst : first ≤ a) (hlast : b ≤ last) : n.Faithful slide base lines first last where
  slide_eq := h.slide_eq
  first_le := Nat.le_trans hfirst h.first_le
  ordered := h.ordered
  le_last := Nat.le_trans h.le_last hlast
  content_eq := by
    rw [h.content_eq, linesBetween_within lines hbase h.first_le h.le_last]
  charCount_eq := h.charCount_eq
  children_ascending := h.children_ascending
  children_inside := h.children_inside

end ContentNode

/-! ### Nodes within nodes -/

/-- The nodes that the runs of some lines make up follow one another behind the first line. `lines`
are a whole block, and `filled` are some of them with their numbers. -/
private theorem Nesting.within_spec (r : Nesting) {slide base last : Nat} {lines : List Line}
    {filled : List NumberedLine} (fuel : Nat) (hfilled : filled.Pairwise fun p q => p.1 < q.1)
    (hrange : ∀ p ∈ filled, base ≤ p.1 ∧ p.1 ≤ last) :
    (r.within slide base lines fuel filled).Pairwise (fun c d => c.last < d.first) ∧
      ∀ c ∈ r.within slide base lines fuel filled,
        firstNumber filled < c.first ∧ c.last ≤ lastNumber filled ∧
          c.Everywhere (ContentNode.Faithful slide base lines base last) := by
  -- Induction on the fuel. The runs are lists of the same block, ordered as the lines behind the
  -- first one are, so the hypothesis gives what is within each of them.
  induction fuel generalizing filled with
  | zero => exact ⟨.nil, fun c hc => absurd hc List.not_mem_nil⟩
  | succ fuel ih =>
    cases filled with
    | nil => exact ⟨.nil, fun c hc => absurd hc List.not_mem_nil⟩
    | cons head tail =>
      rw [Nesting.within]
      have hsub : (runs (r.joins head.2) [] tail).flatten.Sublist tail :=
        runs_flatten_sublist [] tail
      have hordered := List.pairwise_flatten.mp (hfilled.of_cons.sublist hsub)
      have hmem : ∀ run ∈ runs (r.joins head.2) [] tail, ∀ p ∈ run, p ∈ tail := by
        intro run hrun p hp
        exact hsub.subset (List.mem_flatten.mpr ⟨run, hrun, hp⟩)
      refine ⟨List.pairwise_map.mpr ?_, ?_⟩
      · -- One run ends in front of the first line of the next.
        refine hordered.2.imp_of_mem fun {run next} hrun hnext hlt => ?_
        obtain ⟨p, hp, hlast⟩ := exists_lastNumber (ne_nil_of_mem_runs hrun)
        obtain ⟨q, hq, hfirst⟩ := exists_firstNumber (ne_nil_of_mem_runs hnext)
        have hpq := hlt p hp q hq
        dsimp only
        omega
      · intro c hc
        obtain ⟨run, hrun, rfl⟩ := List.mem_map.mp hc
        have hpair := hordered.1 run hrun
        have hin := hmem run hrun
        have hbetween : ∀ p ∈ run, base ≤ p.1 ∧ p.1 ≤ last := fun p hp =>
          hrange p (.tail head (hin p hp))
        obtain ⟨p, hp, hfirst⟩ := exists_firstNumber (ne_nil_of_mem_runs hrun)
        obtain ⟨q, hq, hlast⟩ := exists_lastNumber (ne_nil_of_mem_runs hrun)
        have hhead : firstNumber (head :: tail) < p.1 := firstNumber_lt hfilled (hin p hp)
        have htail : q.1 ≤ lastNumber (head :: tail) :=
          le_lastNumber hfilled (.tail head (hin q hq))
        have hpq : firstNumber run ≤ q.1 := firstNumber_le hpair hq
        obtain ⟨hascending, hchildren⟩ := ih hpair hbetween
        refine ⟨by dsimp only; omega, by dsimp only; omega, .intro ?_ ?_⟩
        · exact {
            slide_eq := rfl
            first_le := by have := hbetween p hp; dsimp only; omega
            ordered := by dsimp only; omega
            le_last := by have := hbetween q hq; dsimp only; omega
            content_eq := rfl
            charCount_eq := rfl
            children_ascending := hascending
            children_inside := fun c hc => ⟨(hchildren c hc).1, (hchildren c hc).2.1⟩ }
        · exact fun c hc => (hchildren c hc).2.2

/-! ### Blocks -/

structure ContentNode.Takes (slide number : Nat) (own : List Line) (n : ContentNode) : Prop where
  first_eq : n.first = number
  last_eq : n.last + 1 = number + own.length
  faithful : n.Everywhere (ContentNode.Faithful slide number own n.first n.last)

theorem lineNode_takes (slide number : Nat) (l : Line) (form : NodeForm) (text : Option String) :
    (lineNode slide number l form text).Takes slide number [l] where
  first_eq := rfl
  last_eq := rfl
  faithful := by
    refine .intro ?_ fun c hc => absurd hc List.not_mem_nil
    exact {
      slide_eq := rfl
      first_le := Nat.le_refl _
      ordered := Nat.le_refl _
      le_last := Nat.le_refl _
      content_eq := by
        rw [lineNode, linesBetween_all [l] rfl]
        rfl
      charCount_eq := rfl
      children_ascending := .nil
      children_inside := fun c hc => absurd hc List.not_mem_nil }

theorem plainNode_takes (slide number : Nat) {own : List Line} (form : NodeForm) (text : String)
    (hne : own ≠ []) : (plainNode slide number own form text).Takes slide number own := by
  have hpos := List.length_pos_iff.mpr hne
  have hlast : number + own.length - 1 + 1 = number + own.length := by omega
  refine ⟨rfl, hlast, .intro ?_ fun c hc => absurd hc List.not_mem_nil⟩
  exact {
    slide_eq := rfl
    first_le := Nat.le_refl _
    ordered := by rw [plainNode]; dsimp only; omega
    le_last := Nat.le_refl _
    content_eq := by rw [plainNode, linesBetween_all own hlast]
    charCount_eq := rfl
    children_ascending := .nil
    children_inside := fun c hc => absurd hc List.not_mem_nil }

theorem Nesting.node_takes (r : Nesting) (form : List NumberedLine → NodeForm) (slide number : Nat)
    {own : List Line} (hne : own ≠ []) : (r.node form slide number own).Takes slide number own := by
  have hpos := List.length_pos_iff.mpr hne
  have hlast : number + own.length - 1 + 1 = number + own.length := by omega
  have hrange : ∀ p ∈ (numbered number own).filter (fun l => !l.2.isEmpty),
      number ≤ p.1 ∧ p.1 ≤ number + own.length - 1 := by
    intro p hp
    have := mem_numbered (List.mem_filter.mp hp).1
    omega
  have hfilled := (numbered_pairwise number own).filter fun l => !l.2.isEmpty
  obtain ⟨hascending, hchildren⟩ := @Nesting.within_spec r slide number _ own _
    ((numbered number own).filter fun l => !l.2.isEmpty).length hfilled hrange
  refine ⟨rfl, hlast, .intro ?_ fun c hc => (hchildren c hc).2.2⟩
  exact {
    slide_eq := rfl
    first_le := Nat.le_refl _
    ordered := by rw [Nesting.node]; dsimp only; omega
    le_last := Nat.le_refl _
    content_eq := by rw [Nesting.node, linesBetween_all own hlast]
    charCount_eq := rfl
    children_ascending := hascending
    children_inside := by
      intro c hc
      obtain ⟨hfirst, hle, hfaithful⟩ := hchildren c hc
      have hin := hfaithful.own
      refine ⟨?_, hin.le_last⟩
      -- The first filled line of the block stands at or behind its first line.
      have hsome : (numbered number own).filter (fun l => !l.2.isEmpty) ≠ [] := by
        intro hnone
        rw [Nesting.node] at hc
        simp only [hnone] at hc
        exact absurd hc List.not_mem_nil
      obtain ⟨p, hp, hp'⟩ := exists_firstNumber hsome
      have := hrange p hp
      rw [Nesting.node]
      dsimp only
      omega }

end SlideOverflow.Deck
