import Mathlib.Data.List.Sort
import SlideOverflow.Proofs.Deck.Extent
import SlideOverflow.Proofs.Deck.Runs

/-! Nodes within nodes, of any kind. The filled lines of a node make up runs, and each run is the
filled lines of a node within it. So what a node holds is told by its own lines alone, at every
depth. -/
namespace SlideOverflow.Deck

/-! ### The lines of a node -/

namespace ContentNode

def Covers (n : ContentNode) (k : Nat) : Prop := n.first ≤ k ∧ k ≤ n.last

instance (n : ContentNode) (k : Nat) : Decidable (n.Covers k) :=
  inferInstanceAs (Decidable (_ ∧ _))

/-- Of nodes that follow one another, one at most covers a line. -/
private theorem countP_covers {cs : List ContentNode} (h : cs.Pairwise fun c d => c.last < d.first)
    {c : ContentNode} (hc : c ∈ cs) {k : Nat} (hk : c.Covers k) :
    cs.countP (fun d => d.Covers k) = 1 := by
  induction h with
  | nil => exact absurd hc List.not_mem_nil
  | @cons d ds hd _ ih =>
    rcases List.mem_cons.mp hc with rfl | hc
    · have hnone : ds.countP (fun d => d.Covers k) = 0 := by
        rw [List.countP_eq_zero]
        intro e he
        have hlt := hd e he
        have hhi := hk.2
        simp only [decide_eq_true_eq]
        intro hcovers
        have hlo := hcovers.1
        omega
      rw [List.countP_cons_of_pos (by simpa using hk), hnone]
    · have hnot : ¬d.Covers k := by
        intro hcovers
        have hlt := hd c hc
        have hhi := hcovers.2
        have hlo := hk.1
        omega
      rw [List.countP_cons_of_neg (by simpa using hnot), ih hc]

theorem Everywhere.and {P Q : ContentNode → Prop} {n : ContentNode} (hP : n.Everywhere P)
    (hQ : n.Everywhere Q) : n.Everywhere fun m => P m ∧ Q m := by
  induction hP with
  | intro own _ ih =>
    cases hQ with
    | intro own' within' => exact .intro ⟨own, own'⟩ fun c hc => ih c hc (within' c hc)

/-- What holds everywhere in the nodes of a kind holds of them wherever they are, if no node holds
nodes of another kind. -/
theorem Everywhere.of_kind {isKind : ContentNode → Bool} {P : ContentNode → Prop}
    {n : ContentNode} (h : isKind n = true → n.Everywhere P)
    (hwithin : ∀ c ∈ n.children, c.Everywhere fun m => isKind m = isKind n) :
    n.Everywhere fun m => isKind m = true → P m := by
  cases hkind : isKind n with
  | true =>
    refine (h hkind).imp ?_
    intro m hm _
    exact hm
  | false =>
    refine .intro (fun hown => ?_) fun c hc => (hwithin c hc).imp fun m hm hown => ?_
    · rw [hkind] at hown
      cases hown
    · rw [hm, hkind] at hown
      cases hown

end ContentNode

theorem mem_numbered_iff {first : Nat} {lines : List Line} {p : NumberedLine} :
    p ∈ numbered first lines ↔ first ≤ p.1 ∧ lines[p.1 - first]? = some p.2 := by
  refine ⟨fun h => ⟨(mem_numbered h).1, (mem_numbered h).2.2⟩, ?_⟩
  rintro ⟨hlo, hline⟩
  induction lines generalizing first with
  | nil => cases hline
  | cons l ls ih =>
    rw [numbered]
    rcases Nat.eq_or_lt_of_le hlo with heq | hlt
    · rw [← heq, Nat.sub_self, List.getElem?_cons_zero] at hline
      rw [heq, Option.some.inj hline]
      exact List.mem_cons_self
    · rw [show p.1 - first = p.1 - (first + 1) + 1 by omega, List.getElem?_cons_succ] at hline
      exact .tail _ (ih hlt hline)

/-- Lines in the order of their numbers are told by which they are. -/
private theorem eq_of_ascending {own other : List NumberedLine}
    (hown : own.Pairwise fun p q => p.1 < q.1)
    (hother : other.Pairwise fun p q => p.1 < q.1) (h : ∀ p, p ∈ own ↔ p ∈ other) :
    own = other := by
  have : Std.Irrefl fun p q : NumberedLine => p.1 < q.1 := ⟨fun p => Nat.lt_irrefl p.1⟩
  have : Std.Antisymm fun p q : NumberedLine => p.1 < q.1 :=
    ⟨fun _ _ h h' => absurd h (Nat.lt_asymm h')⟩
  exact hown.eq_of_mem_iff hother h

/-- Lines that stand behind one another are all those between the first and the last of them. -/
private theorem mem_of_isInfix {all run : List NumberedLine}
    (hall : all.Pairwise fun p q => p.1 < q.1)
    (h : run <:+: all) (hne : run ≠ []) {p : NumberedLine} (hp : p ∈ all)
    (hlo : firstNumber run ≤ p.1) (hhi : p.1 ≤ lastNumber run) : p ∈ run := by
  obtain ⟨front, rest, rfl⟩ := h
  obtain ⟨hfront, _, hbehind⟩ := List.pairwise_append.mp hall
  obtain ⟨_, _, hbefore⟩ := List.pairwise_append.mp hfront
  obtain ⟨a, ha, hfirst⟩ := exists_firstNumber hne
  obtain ⟨b, hb, hlast⟩ := exists_lastNumber hne
  rcases List.mem_append.mp hp with hp | hp
  · rcases List.mem_append.mp hp with hp | hp
    · have := hbefore p hp a ha
      omega
    · exact hp
  · have := hbehind b (List.mem_append_right _ hb) p hp
    omega

namespace RawSlide

variable {s : RawSlide} {n : ContentNode} {p : NumberedLine}

def filled (s : RawSlide) (n : ContentNode) : List NumberedLine :=
  (numbered s.first s.lines).filter fun p => decide (n.Covers p.1) && !p.2.isEmpty

theorem mem_filled :
    p ∈ s.filled n ↔ n.Covers p.1 ∧ s.line? p.1 = some p.2 ∧ p.2.isEmpty = false := by
  rw [filled, List.mem_filter, mem_numbered_iff, line?]
  constructor
  · rintro ⟨⟨hfirst, hline⟩, hp⟩
    rw [Bool.and_eq_true, decide_eq_true_eq, Bool.not_eq_true'] at hp
    rw [if_pos hfirst]
    exact ⟨hp.1, hline, hp.2⟩
  · rintro ⟨hcovers, hline, hp⟩
    split at hline
    · next hfirst => exact ⟨⟨hfirst, hline⟩, by simp [hcovers, hp]⟩
    · cases hline

private theorem filled_pairwise (s : RawSlide) (n : ContentNode) :
    (s.filled n).Pairwise fun p q => p.1 < q.1 :=
  (numbered_pairwise s.first s.lines).filter _

/-- A node that begins with a filled line has it as the first of its filled lines. -/
private theorem filled_eq_cons {l : Line} (hcovers : n.Covers n.first)
    (hline : s.line? n.first = some l)
    (hl : l.isEmpty = false) : ∃ tail, s.filled n = (n.first, l) :: tail := by
  have hmem : (n.first, l) ∈ s.filled n := mem_filled.mpr ⟨hcovers, hline, hl⟩
  have hascending := s.filled_pairwise n
  cases hfilled : s.filled n with
  | nil =>
    rw [hfilled] at hmem
    exact absurd hmem List.not_mem_nil
  | cons p tail =>
    rw [hfilled] at hmem hascending
    rcases List.mem_cons.mp hmem with heq | htail
    · exact ⟨tail, by rw [heq]⟩
    · have hlt := List.rel_of_pairwise_cons hascending htail
      have hp : p ∈ s.filled n := hfilled ▸ List.mem_cons_self
      have hlo := (mem_filled.mp hp).1.1
      dsimp only at hlt
      omega

theorem line?_of_filled {l : Line} {tail : List NumberedLine}
    (h : s.filled n = (n.first, l) :: tail) : s.line? n.first = some l :=
  (mem_filled.mp (h ▸ List.mem_cons_self)).2.1

end RawSlide

/-! ### What a node holds -/

namespace Nesting

variable {r : Nesting} {slide base : Nat} {lines : List Line} {s : RawSlide} {n : ContentNode}

def Fills (r : Nesting) (slide base : Nat) (lines : List Line) (s : RawSlide) (n : ContentNode) :
    Prop :=
  n.children = r.nodes slide base lines (s.filled n)

/-- A run of the lines of a node is the lines of the node that it makes. -/
private theorem filled_runNode {run : List NumberedLine} (h : r.Inner run (s.filled n)) :
    s.filled (r.runNode slide base lines run) = run := by
  have hpart := h.isInfix
  have hordered := s.filled_pairwise n
  have hrun := hordered.sublist hpart.sublist
  refine eq_of_ascending (s.filled_pairwise _) hrun fun p => ?_
  rw [RawSlide.mem_filled]
  constructor
  · rintro ⟨⟨hlo, hhi⟩, hline, hp⟩
    refine mem_of_isInfix hordered hpart h.ne_nil (RawSlide.mem_filled.mpr ⟨?_, hline, hp⟩) hlo hhi
    -- The run lies in the range of the node, and the line lies in the range of the run.
    obtain ⟨a, ha, hfirst⟩ := exists_firstNumber h.ne_nil
    obtain ⟨b, hb, hlast⟩ := exists_lastNumber h.ne_nil
    have hin := (RawSlide.mem_filled.mp (hpart.subset ha)).1.1
    have hout := (RawSlide.mem_filled.mp (hpart.subset hb)).1.2
    dsimp only [runNode] at hlo hhi
    constructor <;> omega
  · intro hp
    obtain ⟨_, hline, hfilled⟩ := RawSlide.mem_filled.mp (hpart.subset hp)
    exact ⟨⟨firstNumber_le hrun hp, le_lastNumber hrun hp⟩, hline, hfilled⟩

theorem Fills.child (h : r.Fills slide base lines s n) {c : ContentNode} (hc : c ∈ n.children) :
    r.Inner (s.filled c) (s.filled n) ∧ c = r.runNode slide base lines (s.filled c) := by
  rw [h] at hc
  obtain ⟨run, hinner, rfl⟩ := mem_nodes.mp hc
  rw [filled_runNode hinner]
  exact ⟨hinner, rfl⟩

/-- What is known of a node within a node: it is made from its own filled lines, and begins with the
first of them. -/
structure IsRunNode (r : Nesting) (slide base : Nat) (lines : List Line) (s : RawSlide)
    (n : ContentNode) : Prop where
  form_eq : n.form = r.form (s.filled n)
  head : ∃ l tail, s.filled n = (n.first, l) :: tail
  fills : r.Fills slide base lines s n

theorem Fills.isRunNode (h : r.Fills slide base lines s n) {c : ContentNode}
    (hc : c ∈ n.children) : r.IsRunNode slide base lines s c := by
  obtain ⟨hinner, heq⟩ := h.child hc
  refine ⟨congrArg ContentNode.form heq, ?_, ?_⟩
  · have hfirst : c.first = firstNumber (s.filled c) := congrArg ContentNode.first heq
    cases hown : s.filled c with
    | nil => exact absurd hown hinner.ne_nil
    | cons p tail =>
      rw [hown] at hfirst
      exact ⟨p.2, tail, by rw [hfirst]; rfl⟩
  · rw [Fills, congrArg ContentNode.children heq]
    rfl

theorem Fills.within (h : r.Fills slide base lines s n) :
    ∀ c ∈ n.children, c.Everywhere (r.IsRunNode slide base lines s) := by
  -- Induction on the lines of the node along the runs, which is how the nodes are made.
  generalize hown : s.filled n = own
  induction own using r.inner_wellFounded.induction generalizing n with
  | _ own ih =>
    intro c hc
    have hrun := h.isRunNode hc
    exact .intro hrun (ih _ (hown ▸ (h.child hc).1) hrun.fills rfl)

end Nesting

/-! ### Ranks -/

/-- How the lines of a node lie in the nodes within it. `level` is how deep a line is, and `head` is
the first line of the node. -/
structure ContentNode.Nests (s : RawSlide) (level : Line → Nat) (opens : Line → Bool) (head : Line)
    (n : ContentNode) : Prop where
  /-- A deeper line that can open a node lies in exactly one of the nodes. -/
  deeper : ∀ k, n.Covers k → ∀ l ∈ s.line? k, opens l = true → level head < level l →
    n.children.countP (fun c => c.Covers k) = 1
  /-- A filled line that is no deeper lies in none of them. -/
  shallow : ∀ k, ∀ l ∈ s.line? k, l.isEmpty = false → level l ≤ level head →
    ∀ c ∈ n.children, ¬c.Covers k
  openings : ∀ c ∈ n.children, ∃ l ∈ s.line? c.first, opens l = true ∧ level head < level l

namespace Nesting

variable {r : Nesting} {slide base : Nat} {lines : List Line} {s : RawSlide} {n : ContentNode}
  {level : Line → Nat} {opens : Line → Bool}

/-- Runs hold deeper lines than the first line of the block, and only some lines can open one. -/
structure Ranks (r : Nesting) (level : Line → Nat) (opens : Line → Bool) : Prop where
  joins_eq : ∀ head isOpen l,
    r.joins head isOpen l = (decide (level head < level l) && (isOpen || opens l))
  filled_of_opens : ∀ l, opens l = true → l.isEmpty = false

theorem Ranks.isRun (h : r.Ranks level opens) {head : NumberedLine} {tail run : List NumberedLine}
    (hrun : r.Inner run (head :: tail)) :
    IsRun (fun l => decide (level head.2 < level l)) opens run := by
  cases hrun with
  | run hrun => exact isRun_of_mem_runs (h.joins_eq head.2) (fun hne => absurd rfl hne) hrun

theorem Ranks.exists_run (h : r.Ranks level opens) (head : NumberedLine) {p : NumberedLine}
    {tail : List NumberedLine} (hp : p ∈ tail) (hopens : opens p.2 = true)
    (hdeep : level head.2 < level p.2) : ∃ run, r.Inner run (head :: tail) ∧ p ∈ run := by
  have hfilter := @filter_flatten_runs _ [] tail _ _ (h.joins_eq head.2)
  have hmem : p ∈ (runs (r.joins head.2) [] tail).flatten.filter fun p => opens p.2 := by
    rw [hfilter, List.mem_filter, List.reverse_nil, List.nil_append, List.mem_filter]
    exact ⟨⟨hp, by simpa using hdeep⟩, hopens⟩
  obtain ⟨run, hrun, hp⟩ := List.mem_flatten.mp (List.mem_filter.mp hmem).1
  exact ⟨run, .run hrun, hp⟩

/-- A deeper line of a node that can open one lies in a node within it. -/
theorem Fills.exists_child (h : r.Fills slide base lines s n) (hr : r.Ranks level opens)
    {head : Line} {tail : List NumberedLine} (hfilled : s.filled n = (n.first, head) :: tail)
    {p : NumberedLine} (hp : p ∈ s.filled n) (hopens : opens p.2 = true)
    (hdeep : level head < level p.2) : ∃ c ∈ n.children, p ∈ s.filled c := by
  rw [hfilled] at hp
  rcases List.mem_cons.mp hp with rfl | htail
  · exact absurd hdeep (Nat.lt_irrefl _)
  · obtain ⟨run, hinner, hrun⟩ := hr.exists_run (n.first, head) htail hopens hdeep
    rw [← hfilled] at hinner
    refine ⟨r.runNode slide base lines run, ?_, by rwa [filled_runNode hinner]⟩
    rw [h]
    exact mem_nodes.mpr ⟨run, hinner, rfl⟩

theorem Fills.nests (h : r.Fills slide base lines s n) (hr : r.Ranks level opens) {head : Line}
    {tail : List NumberedLine} (hfilled : s.filled n = (n.first, head) :: tail)
    (hordered : n.children.Pairwise fun c d => c.last < d.first) :
    n.Nests s level opens head := by
  have hrun : ∀ c ∈ n.children,
      IsRun (fun l => decide (level head < level l)) opens (s.filled c) := fun c hc =>
    hr.isRun (hfilled ▸ (h.child hc).1)
  refine ⟨fun k hk l hl hopens hdeep => ?_, fun k l hl hp hlevel c hc hk => ?_, fun c hc => ?_⟩
  · have hmem : (k, l) ∈ s.filled n :=
      RawSlide.mem_filled.mpr ⟨hk, hl, hr.filled_of_opens l hopens⟩
    obtain ⟨c, hc, hown⟩ := h.exists_child hr hfilled hmem hopens hdeep
    exact ContentNode.countP_covers hordered hc (RawSlide.mem_filled.mp hown).1
  · have hdeep := (hrun c hc).deep (k, l) (RawSlide.mem_filled.mpr ⟨hk, hl, hp⟩)
    have hlt : level head < level l := of_decide_eq_true hdeep
    omega
  · obtain ⟨l, rest, hown⟩ := (h.isRunNode hc).head
    have hmem : (c.first, l) ∈ s.filled c := hown ▸ List.mem_cons_self
    obtain ⟨p, hp, hopens⟩ := (hrun c hc).opens
    rw [hown] at hp
    cases hp
    exact ⟨l, RawSlide.line?_of_filled hown, hopens,
      of_decide_eq_true ((hrun c hc).deep _ hmem)⟩

/-- At every depth, the lines of a node lie in the nodes within it. -/
theorem Fills.everywhere_nests (h : r.Fills slide base lines s n) (hr : r.Ranks level opens)
    (hhead : ∃ l tail, s.filled n = (n.first, l) :: tail)
    (hordered : n.Everywhere fun m => m.children.Pairwise fun c d => c.last < d.first) :
    n.Everywhere fun m => ∃ head ∈ s.line? m.first, m.Nests s level opens head := by
  have hmade : n.Everywhere fun m =>
      r.Fills slide base lines s m ∧ ∃ l tail, s.filled m = (m.first, l) :: tail :=
    .intro ⟨h, hhead⟩ fun c hc => (h.within c hc).imp fun m hm => ⟨hm.fills, hm.head⟩
  refine (hmade.and hordered).imp ?_
  rintro m ⟨⟨hfills, l, tail, hfilled⟩, hascending⟩
  exact ⟨l, RawSlide.line?_of_filled hfilled, hfills.nests hr hfilled hascending⟩

end Nesting

/-! ### The blocks of a slide -/

section Blocks

variable {s : RawSlide} {index : Nat} {n : ContentNode}

/-- A node of a slide stands for the lines of its range, and so do the nodes within it. -/
theorem RawSlide.body_faithful (hn : n ∈ (s.body index).1) :
    ∃ lines, n.Everywhere (ContentNode.Faithful index n.first lines n.first n.last) := by
  obtain ⟨l, ls, _, hl, hnode⟩ := exists_origin (s.body_eq index ▸ hn)
  obtain ⟨p, own, rest, _, _, hp, hstands⟩ := @readPiece_isPartOf index n.first l ls hl
  rw [hnode] at hp
  cases p with
  | node m =>
    cases hp
    exact ⟨own, hstands.takes.faithful⟩
  | comment a b => cases hp
  | dropped k => cases hp

/-- Lists hold lists, and quotes hold quotes. -/
theorem RawSlide.body_within_kind (hn : n ∈ (s.body index).1) :
    ∀ c ∈ n.children, c.Everywhere fun m => m.isList = n.isList ∧ m.isQuote = n.isQuote := by
  intro c hc
  obtain ⟨l, ls, _, _, hnode⟩ := exists_origin (s.body_eq index ▸ hn)
  have hmakes := readPiece_makes hnode
  generalize n.first = number at hmakes
  cases hmakes with
  | plain hnone _ =>
    rw [hnone] at hc
    exact absurd hc List.not_mem_nil
  | list kind =>
    refine (listNesting.within_form _ _ _ _ _ c hc).imp ?_
    rintro m ⟨run, hm⟩
    rw [ContentNode.isList, ContentNode.isQuote, hm]
    exact ⟨rfl, rfl⟩
  | quote =>
    refine (quoteNesting.within_form _ _ _ _ _ c hc).imp ?_
    rintro m ⟨run, hm⟩
    rw [ContentNode.isList, ContentNode.isQuote, hm]
    exact ⟨rfl, rfl⟩
  | paragraph text => exact absurd hc List.not_mem_nil

/-- The nodes within a block that begins with a filled line are those that its filled lines hold. -/
theorem Nesting.fills_node (r : Nesting) {form : List NumberedLine → NodeForm} {number size : Nat}
    {l : Line} {ls : List Line} (h : Arrives index s.bodyStart ⟨number, l :: ls⟩)
    (hl : l.isEmpty = false) (hn : n = r.node form index number (l :: ls.take size)) :
    r.Fills index number (l :: ls.take size) s n ∧ n.form = form (s.filled n) ∧
      ∃ tail, s.filled n = (n.first, l) :: tail := by
  have hfirst : n.first = number := congrArg ContentNode.first hn
  have hlast : n.last + 1 = number + (l :: ls.take size).length := by
    rw [hn, Nesting.node]
    dsimp only
    rw [List.length_cons]
    omega
  have hline {k : Nat} (hk : n.Covers k) : s.line? k = (l :: ls.take size)[k - number]? := by
    obtain ⟨hlo, hhi⟩ := hk
    rw [s.line?_eq h (hfirst ▸ hlo)]
    dsimp only
    rw [← List.take_succ_cons, List.length_take] at hlast
    rw [← List.take_succ_cons, List.getElem?_take, if_pos (by omega)]
  have hown : s.filled n = (numbered number (l :: ls.take size)).filter fun l => !l.2.isEmpty := by
    refine eq_of_ascending (s.filled_pairwise n) ((numbered_pairwise _ _).filter _) fun p => ?_
    rw [RawSlide.mem_filled, List.mem_filter, Bool.not_eq_true']
    constructor
    · rintro ⟨hcovers, hp, hfilled⟩
      rw [hline hcovers] at hp
      exact ⟨mem_numbered_iff.mpr ⟨hfirst ▸ hcovers.1, hp⟩, hfilled⟩
    · rintro ⟨hp, hfilled⟩
      obtain ⟨hlo, hhi, hget⟩ := mem_numbered hp
      have hcovers : n.Covers p.1 := ⟨by omega, by omega⟩
      exact ⟨hcovers, (hline hcovers).trans hget, hfilled⟩
  have hcovers : n.Covers n.first := ⟨Nat.le_refl _, by rw [List.length_cons] at hlast; omega⟩
  refine ⟨?_, ?_, RawSlide.filled_eq_cons hcovers ?_ hl⟩
  · rw [Nesting.Fills, hown, hn]
    rfl
  · rw [hown, hn]
    rfl
  · rw [hline hcovers, hfirst, Nat.sub_self, List.getElem?_cons_zero]

end Blocks

end SlideOverflow.Deck
