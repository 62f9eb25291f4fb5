import Mathlib.Algebra.GroupWithZero.Nat
import SlideOverflow.Proofs.Deck.Nested

/-! The items of lists within lists. However the indents of its lines jump, each item of a list is
on the own level of one list in its tree. A list within a list counts all of its items, of whichever
kind; the list of a slide counts only those of its own kind. -/
namespace SlideOverflow.Deck

private theorem Line.isEmpty_of_isItem {l : Line} (h : l.isItem = true) : l.isEmpty = false := by
  obtain ⟨kind, hkind⟩ := isItem_iff.mp h
  exact ListKind.isEmpty_of_isItem hkind

private theorem listNesting_ranks : listNesting.Ranks Line.depth Line.isItem where
  joins_eq _ _ _ := rfl
  filled_of_opens _ := Line.isEmpty_of_isItem

namespace ContentNode

def all : ContentNode → List ContentNode
  | ⟨form, first, last, slide, content, text, charCount, children⟩ =>
    ⟨form, first, last, slide, content, text, charCount, children⟩ :: children.flatMap all

private theorem all_eq (n : ContentNode) : n.all = n :: n.children.flatMap all := by
  cases n
  rw [all]

def IsOwnLevel (s : RawSlide) (k : Nat) (n : ContentNode) : Prop :=
  n.Covers k ∧ ∃ head ∈ s.line? n.first, ∃ l ∈ s.line? k, l.depth ≤ head.depth

instance (s : RawSlide) (k : Nat) (n : ContentNode) : Decidable (n.IsOwnLevel s k) :=
  inferInstanceAs (Decidable (_ ∧ _))

/-- The lists within a list hold its items, and lie in its range. -/
structure HoldsItems (s : RawSlide) (n : ContentNode) : Prop where
  nests : ∃ head ∈ s.line? n.first, n.Nests s Line.depth Line.isItem head
  inside : ∀ c ∈ n.children, n.first ≤ c.first ∧ c.last ≤ n.last

private theorem sum_covers (cs : List ContentNode) (k : Nat) :
    (cs.map fun c => if c.Covers k then 1 else 0).sum = cs.countP fun c => c.Covers k := by
  induction cs with
  | nil => rfl
  | cons c cs ih =>
    rw [List.map_cons, List.sum_cons, ih, List.countP_cons, Nat.add_comm]
    by_cases hc : c.Covers k <;> simp [hc]

/-- An item is on the own level of one node of a tree that it lies in, and of none in another. -/
private theorem countP_all {s : RawSlide} {n : ContentNode} (h : n.Everywhere (HoldsItems s))
    {k : Nat} {l : Line} (hl : l ∈ s.line? k) (hitem : l.isItem = true) :
    n.all.countP (fun m => m.IsOwnLevel s k) = if n.Covers k then 1 else 0 := by
  induction h with
  | @intro n own _ ih =>
    obtain ⟨head, hhead, hnests⟩ := own.nests
    -- By induction, each node within the node counts once if it covers the line.
    have hchildren : (n.children.flatMap all).countP (fun m => m.IsOwnLevel s k) =
        n.children.countP fun c => c.Covers k := by
      rw [List.countP_flatMap, ← sum_covers]
      exact congrArg List.sum (List.map_congr_left ih)
    have hown : n.IsOwnLevel s k ↔ n.Covers k ∧ l.depth ≤ head.depth := by
      refine and_congr_right fun _ => ⟨?_, fun hle => ⟨head, hhead, l, hl, hle⟩⟩
      rintro ⟨head', hhead', l', hl', hle⟩
      rwa [Option.mem_unique hhead hhead', Option.mem_unique hl hl']
    rw [all_eq, List.countP_cons, hchildren]
    by_cases hcovers : n.Covers k
    · by_cases hle : l.depth ≤ head.depth
      · have hnone : n.children.countP (fun c => c.Covers k) = 0 := by
          rw [List.countP_eq_zero]
          intro c hc
          simpa using hnests.shallow k l hl (Line.isEmpty_of_isItem hitem) hle c hc
        simp [hown, hcovers, hle, hnone]
      · have hone := hnests.deeper k hcovers l hl hitem (by omega)
        simp [hown, hcovers, hle, hone]
    · have hnone : n.children.countP (fun c => c.Covers k) = 0 := by
        rw [List.countP_eq_zero]
        intro c hc
        simp only [decide_eq_true_eq]
        intro hk
        have hin := own.inside c hc
        exact hcovers ⟨Nat.le_trans hin.1 hk.1, Nat.le_trans hk.2 hin.2⟩
      simp [hown, hcovers, hnone]

end ContentNode

namespace RawSlide

variable {s : RawSlide} {index : Nat} {n : ContentNode}

/-- The nodes within a list are made from its filled lines, which begin with an item. -/
private theorem list_fills (hn : n ∈ (s.body index).1) (hform : n.isList = true) :
    ∃ (lines : List Line) (kind : ListKind), listNesting.Fills index n.first lines s n ∧
      n.form = .list (kind == .ordered) ((s.filled n).countP fun l => kind.isItem l.2)
        (deepest (s.filled n)) ∧
      ∃ l tail, s.filled n = (n.first, l) :: tail := by
  obtain ⟨kind, l, ls, harrives, hitem, heq⟩ := body_list hn hform
  have hl := ListKind.isEmpty_of_isItem hitem
  obtain ⟨hfills, hform, tail, hfilled⟩ := listNesting.fills_node harrives hl heq
  exact ⟨_, kind, hfills, hform, l, tail, hfilled⟩

private theorem list_holdsItems (hn : n ∈ (s.body index).1) (hform : n.isList = true) :
    n.Everywhere (ContentNode.HoldsItems s) := by
  obtain ⟨lines, kind, hfills, _, hhead⟩ := list_fills hn hform
  obtain ⟨_, hfaithful⟩ := body_faithful hn
  have hnests := hfills.everywhere_nests listNesting_ranks hhead
    (hfaithful.imp fun m hm => hm.children_ascending)
  refine (hnests.and hfaithful).imp fun m hm => ⟨hm.1, fun c hc => ?_⟩
  have hin := hm.2.children_inside c hc
  exact ⟨Nat.le_of_lt hin.1, hin.2⟩

/-- The lists within lists hold each deeper item once and nothing else but deeper lines, each item
of the list of a slide is on the own level of one list in its tree, and the recursion that makes the
lists within a list comes to an end for all lines. -/
theorem body_listItems (s : RawSlide) (index : Nat) :
    (∀ n ∈ (s.body index).1, n.Everywhere fun m => m.isList = true →
      ∃ head ∈ s.line? m.first, m.Nests s Line.depth Line.isItem head) ∧
    (∀ n ∈ (s.body index).1, n.isList = true → ∀ k, n.Covers k → ∀ l ∈ s.line? k,
      l.isItem = true → n.all.countP (fun m => m.IsOwnLevel s k) = 1) ∧
    listNesting.Ends := by
  refine ⟨fun n hn => ?_, fun n hn hform k hk l hl hitem => ?_, listNesting.ends⟩
  · refine .of_kind (fun hform => ?_) fun c hc => (body_within_kind hn c hc).imp fun m hm => hm.1
    exact (list_holdsItems hn hform).imp fun m hm => hm.nests
  · rw [ContentNode.countP_all (list_holdsItems hn hform) hl hitem, if_pos hk]

/-- Indents that jump up and down: line 4 is an item of the list within the list that line 3
opens. -/
theorem body_listItems_of_jumps :
    let s : RawSlide := ⟨1, 5, ["- a", "    - b", "  - c", "      1. d", "- e"]⟩
    ∃ n ∈ (s.body 0).1, n.isList = true ∧ n.Covers 4 ∧
      (∃ l ∈ s.line? 4, l.isItem = true) ∧
      (∃ head ∈ s.line? n.first, n.Nests s Line.depth Line.isItem head) ∧
      n.all.countP (fun m => m.IsOwnLevel s 4) = 1 := by
  intro s
  obtain ⟨n, hn, hform, hcovers⟩ : ∃ n ∈ (s.body 0).1, n.isList = true ∧ n.Covers 4 := by
    decide +kernel
  obtain ⟨l, hl, hitem⟩ : ∃ l ∈ s.line? 4, l.isItem = true := by decide +kernel
  obtain ⟨hnests, honce, _⟩ := body_listItems s 0
  exact ⟨n, hn, hform, hcovers, ⟨l, hl, hitem⟩, (hnests n hn).own hform,
    honce n hn hform 4 hcovers l hl hitem⟩

end RawSlide

/-! ### Item counts -/

namespace ContentNode

def itemCount (n : ContentNode) : Nat :=
  match n.form with
  | .list _ itemCount _ => itemCount
  | _ => 0

def ownItems (s : RawSlide) (head : Line) (n : ContentNode) : Nat :=
  (s.filled n).countP fun l => l.2.isItem && decide (l.2.depth ≤ head.depth)

/-- The count of a list is that of the items on its own level and the counts of the lists within
it. -/
def AddsUp (s : RawSlide) (n : ContentNode) : Prop :=
  ∃ head ∈ s.line? n.first,
    n.itemCount = n.ownItems s head + (n.children.map itemCount).sum

instance (s : RawSlide) (n : ContentNode) : Decidable (n.AddsUp s) :=
  inferInstanceAs (Decidable (∃ head ∈ _, _))

end ContentNode

section Counts

variable {slide base : Nat} {lines : List Line} {s : RawSlide} {n : ContentNode}

/-- All items of a list are on its own level or counted by one of the lists within it. -/
private theorem Nesting.Fills.items (h : listNesting.Fills slide base lines s n) {head : Line}
    {tail : List NumberedLine} (hfilled : s.filled n = (n.first, head) :: tail) :
    n.ownItems s head + (n.children.map ContentNode.itemCount).sum =
      (s.filled n).countP fun l => l.2.isItem := by
  have hdeeper : (n.children.map ContentNode.itemCount).sum =
      ((s.filled n).filter fun l => decide (head.depth < l.2.depth)).countP
        fun l => l.2.isItem := by
    have hruns := @filter_flatten_runs _ [] tail _ _ (listNesting_ranks.joins_eq head)
    rw [h, hfilled, Nesting.nodes_cons, List.map_map]
    calc
      _ = ((runs (listNesting.joins head) [] tail).map
            (List.countP fun l => l.2.isItem)).sum := rfl
      _ = (runs (listNesting.joins head) [] tail).flatten.countP fun l => l.2.isItem :=
        List.countP_flatten.symm
      _ = (tail.filter fun l => decide (head.depth < l.2.depth)).countP fun l => l.2.isItem := by
        rw [List.countP_eq_length_filter, hruns, ← List.countP_eq_length_filter]
        rfl
      _ = _ := by rw [List.filter_cons_of_neg (by simp)]
  have hown : n.ownItems s head =
      ((s.filled n).filter fun l => !decide (head.depth < l.2.depth)).countP
        fun l => l.2.isItem := by
    rw [ContentNode.ownItems, List.countP_filter]
    congr 1
    funext l
    rw [← decide_not, decide_eq_decide.mpr Nat.not_lt]
  rw [hown, hdeeper, Nat.add_comm]
  exact (List.countP_eq_countP_filter_add (s.filled n) _ _).symm

/-- A list within a list counts all of its items. -/
private theorem Nesting.IsRunNode.addsUp (h : listNesting.IsRunNode slide base lines s n) :
    n.AddsUp s := by
  obtain ⟨l, tail, hfilled⟩ := h.head
  refine ⟨l, RawSlide.line?_of_filled hfilled, ?_⟩
  rw [h.fills.items hfilled, ContentNode.itemCount, h.form_eq]
  rfl

end Counts

/-- Of two counts, one of which counts more, the greater one is reached only by counting the
same. -/
private theorem countP_eq_iff {lines : List NumberedLine} {p q : NumberedLine → Bool}
    (h : ∀ l, p l = true → q l = true) :
    lines.countP p = lines.countP q ↔ ∀ l ∈ lines, q l = true → p l = true := by
  have hboth : lines.countP p = (lines.filter q).countP p := by
    rw [List.countP_filter]
    congr 1
    funext l
    cases hp : p l with
    | true => simp [h l hp]
    | false => rfl
  rw [hboth, List.countP_eq_length_filter (p := q), List.countP_eq_length]
  simp only [List.mem_filter, and_imp]

/-- A list of a slide adds up if and only if all items in its range are of its own kind. The lists
within it add up in any case. -/
theorem RawSlide.body_itemCounts (s : RawSlide) (index : Nat) :
    ∀ n ∈ (s.body index).1, ∀ (kind : ListKind) (itemCount maxDepth : Nat),
      n.form = .list (kind == .ordered) itemCount maxDepth →
        (n.AddsUp s ↔
          ∀ k, n.Covers k → ∀ l ∈ s.line? k, l.isItem = true → kind.isItem l = true) ∧
        ∀ c ∈ n.children, c.Everywhere (ContentNode.AddsUp s) := by
  intro n hn kind itemCount maxDepth hform
  have hlist : n.isList = true := by rw [ContentNode.isList, hform]
  obtain ⟨lines, other, hfills, hown, head, tail, hfilled⟩ := list_fills hn hlist
  obtain rfl : other = kind :=
    ListKind.eq_of_ordered (NodeForm.list.inj (hown.symm.trans hform)).1
  have hcount : n.itemCount = (s.filled n).countP fun l => other.isItem l.2 := by
    rw [ContentNode.itemCount, hown]
  have hadds : n.AddsUp s ↔ (s.filled n).countP (fun l => other.isItem l.2) =
      (s.filled n).countP fun l => l.2.isItem := by
    rw [ContentNode.AddsUp, line?_of_filled hfilled, hcount, ← hfills.items hfilled]
    simp
  refine ⟨hadds.trans ((countP_eq_iff fun l hl => Line.isItem_iff.mpr ⟨other, hl⟩).trans ?_),
    fun c hc => (hfills.within c hc).imp fun m hm => hm.addsUp⟩
  constructor
  · intro h k hk l hl hitem
    exact h (k, l) (mem_filled.mpr ⟨hk, hl, Line.isEmpty_of_isItem hitem⟩) hitem
  · intro h p hp hitem
    obtain ⟨hk, hl, _⟩ := mem_filled.mp hp
    exact h p.1 hk p.2 hl hitem

/-- Bullets within bullets, at three depths. -/
theorem RawSlide.body_itemCounts_of_bullets :
    let s : RawSlide := ⟨1, 4, ["- a", "  - b", "    - c", "- d"]⟩
    ∃ n ∈ (s.body 0).1, n.form = .list (ListKind.unordered == .ordered) 4 2 ∧ n.AddsUp s ∧
      ∀ c ∈ n.children, c.Everywhere (ContentNode.AddsUp s) := by
  intro s
  obtain ⟨n, hn, hform, hbullets⟩ : ∃ n ∈ (s.body 0).1,
      n.form = .list (ListKind.unordered == .ordered) 4 2 ∧
        ∀ p ∈ s.filled n, p.2.isItem = true → ListKind.unordered.isItem p.2 = true := by
    decide +kernel
  obtain ⟨hadds, hwithin⟩ := s.body_itemCounts 0 n hn .unordered 4 2 hform
  refine ⟨n, hn, hform, hadds.mpr fun k hk l hl hitem => ?_, hwithin⟩
  exact hbullets (k, l) (mem_filled.mpr ⟨hk, hl, Line.isEmpty_of_isItem hitem⟩) hitem

/-- A numbered list within a bullet. The list says that it has one item, the list within it has
two. -/
theorem Presentation.read_mixed_items :
    ∃ p, (Presentation.read {} {} "- a\n  1. b\n  2. c".toList).1 = .ok p ∧
      ∃ s ∈ p.slides, ∃ n ∈ s.nodes, n.form = .list false 1 1 ∧
        n.children.map ContentNode.itemCount = [2] ∧ ¬n.AddsUp s.source := by
  decide +kernel

end SlideOverflow.Deck
