import SlideOverflow.Proofs.Deck.Nested

/-! Quotes. A quote reaches as far as its marked lines and the blank lines between them go. The
lines with more markers than its first one lie in the quotes within it, so its depth is told by its
first line and by them. -/
namespace SlideOverflow.Deck

open Text

/-- A line with a marker begins with one. -/
private theorem Line.beginsWith_of_quoteDepth {l : Line} (h : 0 < l.quoteDepth) :
    l.beginsWith ['>'] = true := by
  have hmarker (cs : List Char) (h : 0 < (quoteMarkers cs).1) :
      ∃ rest, trimStart cs = '>' :: rest := by
    induction cs with
    | nil => exact absurd h (Nat.lt_irrefl 0)
    | cons c cs ih =>
      rw [quoteMarkers] at h
      split at h
      · next hc =>
        rw [beq_iff_eq] at hc
        subst hc
        exact ⟨cs, List.dropWhile_cons_of_neg (by decide)⟩
      · split at h
        · next hblank =>
          rw [trimStart, List.dropWhile_cons_of_pos hblank]
          exact ih h
        · exact absurd h (Nat.lt_irrefl 0)
  obtain ⟨rest, hrest⟩ := hmarker l.toList h
  exact beginsWith_of_trimStart hrest

private theorem quoteNesting_ranks :
    quoteNesting.Ranks Line.quoteDepth fun l => l.beginsWith ['>'] where
  joins_eq head isOpen l := by
    have hjoins : quoteNesting.joins head isOpen l = decide (head.quoteDepth < l.quoteDepth) := rfl
    rw [hjoins]
    by_cases hlt : head.quoteDepth < l.quoteDepth
    · have hbegins := Line.beginsWith_of_quoteDepth (Nat.zero_lt_of_lt hlt)
      simp [hlt, hbegins]
    · simp [hlt]
  filled_of_opens l h := Line.isEmpty_of_beginsWith (List.cons_ne_nil _ _) h

/-! ### Depths -/

private theorem foldl_max_le_iff {α : Type} (f : α → Nat) (as : List α) (a b : Nat) :
    as.foldl (fun d x => max d (f x)) a ≤ b ↔ a ≤ b ∧ ∀ x ∈ as, f x ≤ b := by
  induction as generalizing a with
  | nil => simp
  | cons x xs ih =>
    rw [List.foldl_cons, ih, Nat.max_le, List.forall_mem_cons, and_assoc]

private theorem mostMarkers_le_iff {lines : List NumberedLine} {b : Nat} :
    mostMarkers lines ≤ b ↔ ∀ l ∈ lines, l.2.quoteDepth ≤ b := by
  rw [mostMarkers, foldl_max_le_iff]
  simp

namespace ContentNode

def markerDepth (n : ContentNode) : Nat :=
  match n.form with
  | .blockquote depth => depth
  | _ => 0

/-- The node is a quote, as deep as its first line and the quotes within it are. -/
def HasDepth (s : RawSlide) (n : ContentNode) : Prop :=
  (∀ c ∈ n.children, c.isQuote = true) ∧ ∃ head ∈ s.line? n.first,
    n.form = .blockquote (n.children.foldl (fun d c => max d c.markerDepth) head.quoteDepth)

end ContentNode

section Depths

variable {slide base : Nat} {lines : List Line} {s : RawSlide} {n : ContentNode}

private theorem Nesting.Fills.hasDepth (h : quoteNesting.Fills slide base lines s n)
    (hform : n.form = .blockquote (mostMarkers (s.filled n))) {head : Line}
    {tail : List NumberedLine} (hfilled : s.filled n = (n.first, head) :: tail) :
    n.HasDepth s := by
  have hmem : (n.first, head) ∈ s.filled n := hfilled ▸ List.mem_cons_self
  have hchild : ∀ c ∈ n.children, c.form = .blockquote (mostMarkers (s.filled c)) :=
    fun c hc => (h.isRunNode hc).form_eq
  refine ⟨fun c hc => by rw [ContentNode.isQuote, hchild c hc], head,
    RawSlide.line?_of_filled hfilled, ?_⟩
  rw [hform]
  congr 1
  refine eq_of_forall_ge_iff fun b => ?_
  rw [mostMarkers_le_iff, foldl_max_le_iff]
  constructor
  · intro hall
    refine ⟨hall _ hmem, fun c hc => ?_⟩
    rw [ContentNode.markerDepth, hchild c hc]
    exact mostMarkers_le_iff.mpr fun p hp => hall p ((h.child hc).1.isInfix.subset hp)
  · rintro ⟨hhead, hchildren⟩ p hp
    by_cases hlt : head.quoteDepth < p.2.quoteDepth
    · -- A line that is deeper than the first one lies in a quote within the node.
      have hbegins := Line.beginsWith_of_quoteDepth (Nat.zero_lt_of_lt hlt)
      obtain ⟨c, hc, hown⟩ := h.exists_child quoteNesting_ranks hfilled hp hbegins hlt
      have hle := hchildren c hc
      rw [ContentNode.markerDepth, hchild c hc] at hle
      exact mostMarkers_le_iff.mp hle p hown
    · omega

end Depths

namespace RawSlide

variable {s : RawSlide} {index : Nat} {n : ContentNode}

/-- At every depth of a quote, the lines of a node lie in the nodes within it, and make its
depth. -/
private theorem quote_everywhere (hn : n ∈ (s.body index).1) (hform : n.isQuote = true) :
    n.Everywhere fun m => m.HasDepth s ∧
      ∃ head ∈ s.line? m.first, m.Nests s Line.quoteDepth (fun l => l.beginsWith ['>']) head := by
  obtain ⟨l, ls, harrives, hbegins, heq⟩ := body_quote hn hform
  have hl := Line.isEmpty_of_beginsWith (List.cons_ne_nil _ _) hbegins
  obtain ⟨hfills, hform, tail, hfilled⟩ := quoteNesting.fills_node harrives hl heq
  obtain ⟨_, hfaithful⟩ := body_faithful hn
  have hdepth : n.Everywhere (ContentNode.HasDepth s) := by
    refine .intro (hfills.hasDepth hform hfilled) fun c hc => ?_
    refine (hfills.within c hc).imp fun m hm => ?_
    obtain ⟨_, _, hfilled⟩ := hm.head
    exact hm.fills.hasDepth hm.form_eq hfilled
  exact hdepth.and (hfills.everywhere_nests quoteNesting_ranks ⟨l, tail, hfilled⟩
    (hfaithful.imp fun m hm => hm.children_ascending))

/-- A quote takes its marked lines and the blank lines that a marked one follows, as many as there
are. At every depth, its deeper lines lie in the quotes within it, which with its first line make
its depth. The recursion that makes quotes within quotes comes to an end for all lines. -/
theorem body_quotes (s : RawSlide) (index : Nat) :
    (∀ n ∈ (s.body index).1, n.isQuote = true →
      quoteContinuation.Spans s n.first n.last) ∧
    (∀ n ∈ (s.body index).1, n.Everywhere fun m => m.isQuote = true → m.HasDepth s ∧
      ∃ head ∈ s.line? m.first, m.Nests s Line.quoteDepth (fun l => l.beginsWith ['>']) head) ∧
    quoteNesting.Ends := by
  refine ⟨fun n hn hform => body_quoteSpans hn hform, fun n hn => ?_, quoteNesting.ends⟩
  refine .of_kind (fun hform => quote_everywhere hn hform) fun c hc => ?_
  exact (body_within_kind hn c hc).imp fun m hm => hm.2

/-- A quote in whose lines the markers become more and fewer again. -/
theorem body_quotes_of_jumps :
    let s : RawSlide := ⟨1, 6, ["> a", ">> > b", "", "> > c", "> d", ""]⟩
    ∃ n ∈ (s.body 0).1, n.isQuote = true ∧ n.form = .blockquote 3 ∧
      quoteContinuation.Spans s n.first n.last ∧ n.HasDepth s ∧
      ∃ head ∈ s.line? n.first, n.Nests s Line.quoteDepth (fun l => l.beginsWith ['>']) head := by
  intro s
  obtain ⟨n, hn, hquote, hform⟩ :
      ∃ n ∈ (s.body 0).1, n.isQuote = true ∧ n.form = .blockquote 3 := by
    decide +kernel
  obtain ⟨hspans, hnests, _⟩ := body_quotes s 0
  have hown := (hnests n hn).own hquote
  exact ⟨n, hn, hquote, hform, hspans n hn hquote, hown.1, hown.2⟩

end RawSlide

end SlideOverflow.Deck
