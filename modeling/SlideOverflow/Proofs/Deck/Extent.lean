import SlideOverflow.Proofs.Deck.Openings

/-! How far lists and quotes go. Both go on over lines of their own kind, and over a blank line that
such a line follows; lists take indented lines along too. Whether a blank line belongs to a block is
told by the line behind it, so two blank lines in a row end it, and it never ends with one. -/
namespace SlideOverflow.Deck

def RawSlide.line? (s : RawSlide) (k : Nat) : Option Line :=
  if s.first ≤ k then s.lines[k - s.first]? else none

/-- Which filled lines a block goes on over: those of its own kind, and those that it takes
along. -/
structure Continuation where
  isOwn : Line → Bool
  isTaken : Line → Bool
  filled_of_own {l : Line} (h : isOwn l = true) : l.isEmpty = false
  filled_of_taken {l : Line} (h : isTaken l = true) : l.isEmpty = false

namespace Continuation

def Joins (c : Continuation) (next : Option Line) (l : Line) : Prop :=
  c.isOwn l = true ∨ c.isTaken l = true ∨ l.isEmpty = true ∧ ∃ m ∈ next, c.isOwn m = true

instance (c : Continuation) (next : Option Line) (l : Line) : Decidable (c.Joins next l) :=
  inferInstanceAs (Decidable (_ ∨ _ ∨ _ ∧ _))

/-- The first `n` lines are all that a block goes on over. -/
structure Longest (c : Continuation) (lines : List Line) (n : Nat) : Prop where
  inside : ∀ i < n, ∃ l ∈ lines[i]?, c.Joins lines[i + 1]? l
  stops : ∀ l ∈ lines[n]?, ¬c.Joins lines[n + 1]? l

/-- What it means that a block reaches from line `first` to line `last` of a slide. -/
structure Spans (c : Continuation) (s : RawSlide) (first last : Nat) : Prop where
  opening : ∃ l ∈ s.line? first, c.isOwn l = true
  inside : ∀ k, first ≤ k → k ≤ last → ∃ l ∈ s.line? k, c.Joins (s.line? (k + 1)) l
  /-- The line that follows a blank one is in the range. -/
  followed : ∀ k, first ≤ k → k ≤ last → ∀ l ∈ s.line? k, l.isEmpty = true →
    k + 1 ≤ last ∧ ∃ m ∈ s.line? (k + 1), c.isOwn m = true
  noTwoBlank : ∀ k, first ≤ k → k + 1 ≤ last → ∀ l ∈ s.line? k, ∀ m ∈ s.line? (k + 1),
    l.isEmpty = true → m.isEmpty = false
  lastFilled : ∃ l ∈ s.line? last, l.isEmpty = false
  stops : ∀ l ∈ s.line? (last + 1), ¬c.Joins (s.line? (last + 2)) l
  longest : ∀ stop, (∀ k, first ≤ k → k ≤ stop → ∃ l ∈ s.line? k, c.Joins (s.line? (k + 1)) l) →
    stop ≤ last

section Longest

variable {c : Continuation} {l : Line} {ls : List Line} {n : Nat}

theorem Joins.next_isOwn {next : Option Line} (h : c.Joins next l) (hl : l.isEmpty = true) :
    ∃ m ∈ next, c.isOwn m = true := by
  rcases h with hown | htaken | ⟨_, hnext⟩
  · rw [c.filled_of_own hown] at hl
    cases hl
  · rw [c.filled_of_taken htaken] at hl
    cases hl
  · exact hnext

theorem Longest.cons (h : c.Joins ls.head? l) (hrest : c.Longest ls n) :
    c.Longest (l :: ls) (n + 1) := by
  refine ⟨fun i hi => ?_, fun m hm => ?_⟩
  · cases i with
    | zero => exact ⟨l, rfl, by simpa [List.head?_eq_getElem?] using h⟩
    | succ i => simpa using hrest.inside i (Nat.lt_of_succ_lt_succ hi)
  · simpa using hrest.stops m (by simpa using hm)

/-- A block that takes its lines one by one takes all that it goes on over. -/
private theorem longest_of_steps {span : List Line → Nat} (hnil : span [] = 0)
    (hcons : ∀ l ls, span (l :: ls) = if c.Joins ls.head? l then span ls + 1 else 0)
    (ls : List Line) : c.Longest ls (span ls) := by
  induction ls with
  | nil =>
    rw [hnil]
    exact ⟨fun i hi => absurd hi (Nat.not_lt_zero i), fun _ hl => by cases hl⟩
  | cons l ls ih =>
    rw [hcons]
    split
    · next hjoins => exact ih.cons hjoins
    · next hjoins =>
      refine ⟨fun i hi => absurd hi (Nat.not_lt_zero i), fun m hm => ?_⟩
      obtain rfl : l = m := by simpa using hm
      simpa [List.head?_eq_getElem?] using hjoins

theorem Longest.le_length (h : c.Longest ls n) : n ≤ ls.length := by
  cases n with
  | zero => exact Nat.zero_le _
  | succ n =>
    obtain ⟨l, hl, _⟩ := h.inside n (Nat.lt_succ_self n)
    exact (List.getElem?_eq_some_iff.mp hl).1

end Longest

end Continuation

/-- The lines of a slide from a position on, by their numbers in the document. -/
theorem RawSlide.line?_eq {s : RawSlide} {index k : Nat} {p : Position}
    (h : Arrives index s.bodyStart p) (hk : p.number ≤ k) :
    s.line? k = p.rest[k - p.number]? := by
  have hfirst : s.first ≤ p.number := Nat.le_trans (Nat.le_add_right _ _) h.number_le
  rw [line?, if_pos (Nat.le_trans hfirst hk), s.line_eq h hk]

/-- A block of a slide that begins with a line of its own kind and takes all that it goes on
over. -/
theorem Continuation.Longest.spans {c : Continuation} {s : RawSlide} {index number n : Nat}
    {l : Line} {ls : List Line} (h : Arrives index s.bodyStart ⟨number, l :: ls⟩)
    (hl : c.isOwn l = true) (hlongest : c.Longest ls n) : c.Spans s number (number + n) := by
  have hline (i : Nat) : s.line? (number + i) = (l :: ls)[i]? := by
    rw [s.line?_eq h (Nat.le_add_right _ _), Nat.add_sub_cancel_left]
  have hall := hlongest.cons (.inl hl)
  have hinside : ∀ k, number ≤ k → k ≤ number + n →
      ∃ m ∈ s.line? k, c.Joins (s.line? (k + 1)) m := by
    intro k hlo hhi
    obtain ⟨i, rfl⟩ := Nat.exists_eq_add_of_le hlo
    rw [hline, Nat.add_assoc, hline]
    exact hall.inside i (by omega)
  have hstops : ∀ m ∈ s.line? (number + n + 1), ¬c.Joins (s.line? (number + n + 2)) m := by
    intro m hm
    rw [Nat.add_assoc, hline] at hm ⊢
    exact hall.stops m hm
  have hfollowed : ∀ k, number ≤ k → k ≤ number + n → ∀ m ∈ s.line? k, m.isEmpty = true →
      k + 1 ≤ number + n ∧ ∃ next ∈ s.line? (k + 1), c.isOwn next = true := by
    intro k hlo hhi m hm hblank
    obtain ⟨m', hm', hjoins⟩ := hinside k hlo hhi
    obtain rfl : m = m' := Option.mem_unique hm hm'
    obtain ⟨next, hnext, hown⟩ := hjoins.next_isOwn hblank
    refine ⟨?_, next, hnext, hown⟩
    by_contra hlast
    obtain rfl : k = number + n := by omega
    exact hstops next hnext (.inl hown)
  refine ⟨⟨l, hline 0, hl⟩, hinside, hfollowed, ?_, ?_, hstops, ?_⟩
  · intro k hlo hhi m hm next hnext hblank
    obtain ⟨_, next', hnext', hown⟩ := hfollowed k hlo (by omega) m hm hblank
    obtain rfl : next = next' := Option.mem_unique hnext hnext'
    exact c.filled_of_own hown
  · obtain ⟨m, hm, _⟩ := hinside (number + n) (Nat.le_add_right _ _) (Nat.le_refl _)
    refine ⟨m, hm, ?_⟩
    rw [Bool.eq_false_iff]
    intro hblank
    have := (hfollowed _ (Nat.le_add_right _ _) (Nat.le_refl _) m hm hblank).1
    omega
  · intro stop hstop
    by_contra hlt
    obtain ⟨m, hm, hjoins⟩ := hstop (number + n + 1) (by omega) (by omega)
    exact hstops m hm hjoins

/-! ### Lists and quotes -/

theorem ListKind.isEmpty_of_isItem {kind : ListKind} {l : Line} (h : kind.isItem l = true) :
    l.isEmpty = false := by
  obtain ⟨c, cs, hcs, _⟩ := ListKind.trimStart_of_itemText h
  exact Line.isEmpty_of_beginsWith (List.cons_ne_nil _ _) (Line.beginsWith_of_trimStart hcs)

/-- The kind of a list is told by whether it is ordered. -/
theorem ListKind.eq_of_ordered {kind other : ListKind}
    (h : (kind == .ordered) = (other == .ordered)) : kind = other := by
  revert h
  cases kind <;> cases other <;> decide

def ListKind.continuation (kind : ListKind) : Continuation where
  isOwn := kind.isItem
  isTaken := fun l => !l.isEmpty && l.isIndented
  filled_of_own := ListKind.isEmpty_of_isItem
  filled_of_taken := fun h => by simp_all

def quoteContinuation : Continuation where
  isOwn := fun l => l.beginsWith ['>']
  isTaken := fun _ => false
  filled_of_own := Line.isEmpty_of_beginsWith (List.cons_ne_nil _ _)
  filled_of_taken := fun h => by cases h

theorem listTail_cons (kind : ListKind) (l : Line) (ls : List Line) :
    listTail kind (l :: ls) =
      if (if l.isEmpty then ls.head?.any kind.isItem else kind.isItem l || l.isIndented) then
        listTail kind ls + 1 else 0 := by
  cases ls <;> rfl

theorem quoteSpan_cons (l : Line) (ls : List Line) :
    quoteSpan (l :: ls) =
      if l.beginsWith ['>'] || (l.isEmpty && ls.head?.any (·.beginsWith ['>'])) then
        quoteSpan ls + 1 else 0 := by
  cases ls <;> rfl

theorem listTail_longest (kind : ListKind) (ls : List Line) :
    kind.continuation.Longest ls (listTail kind ls) := by
  refine Continuation.longest_of_steps rfl (fun l ls => ?_) ls
  have hjoins : kind.continuation.Joins ls.head? l ↔
      (if l.isEmpty then ls.head?.any kind.isItem else kind.isItem l || l.isIndented) = true := by
    cases hl : l.isEmpty with
    | true =>
      have hitem : kind.isItem l ≠ true := fun h => by
        rw [ListKind.isEmpty_of_isItem h] at hl
        cases hl
      simp [Continuation.Joins, ListKind.continuation, hl, hitem, Option.any_eq_true]
    | false => simp [Continuation.Joins, ListKind.continuation, hl]
  rw [listTail_cons]
  simp only [hjoins]

private theorem quoteSpan_longest (ls : List Line) :
    quoteContinuation.Longest ls (quoteSpan ls) := by
  refine Continuation.longest_of_steps rfl (fun l ls => ?_) ls
  have hjoins : quoteContinuation.Joins ls.head? l ↔
      (l.beginsWith ['>'] || (l.isEmpty && ls.head?.any (·.beginsWith ['>']))) = true := by
    simp [Continuation.Joins, quoteContinuation, Option.any_eq_true]
  rw [quoteSpan_cons]
  simp only [hjoins]

theorem Construct.isItem_of_list {l : Line} {kind : ListKind} (h : ofLine l = .list kind) :
    kind.isItem l = true := by
  have hopens : kind.opens l = true := by
    simp only [ofLine] at h
    repeat' split at h
    all_goals cases h
    all_goals assumption
  rw [ListKind.opens] at hopens
  rw [ListKind.isItem]
  cases ht : kind.itemText? l with
  | some text => rfl
  | none =>
    rw [ht] at hopens
    cases hopens

theorem Construct.beginsWith_of_quote {l : Line} (h : ofLine l = .quote) :
    l.beginsWith ['>'] = true := by
  simp only [ofLine] at h
  repeat' split at h
  all_goals first | assumption | cases h

theorem Construct.contains_of_table {l : Line} (h : ofLine l = .table) :
    l.toList.contains '|' = true := by
  have hbegins : l.beginsWith ['|'] = true := by
    simp only [ofLine] at h
    repeat' split at h
    all_goals first | assumption | cases h
  obtain ⟨blanks, behind, hl, -⟩ := Line.exists_of_beginsWith hbegins
  simp [hl]

/-- Only a list that begins with an item, and a quote, can hold nodes. -/
private theorem readPiece_nested {slide number : Nat} {l : Line} {ls : List Line} {n : ContentNode}
    (hn : (readPiece slide number l ls).node = some n) (hform : n.form.IsNested) :
    (∃ kind : ListKind, kind.isItem l = true ∧
        n = listNode slide number kind (l :: ls.take (listTail kind ls))) ∨
      l.beginsWith ['>'] = true ∧ n = quoteNode slide number (l :: ls.take (quoteSpan ls)) := by
  rw [readPiece] at hn
  cases hconstruct : Construct.ofLine l with
  | list kind =>
    rw [hconstruct] at hn
    cases hn
    exact .inl ⟨kind, Construct.isItem_of_list hconstruct, rfl⟩
  | quote =>
    rw [hconstruct] at hn
    cases hn
    exact .inr ⟨Construct.beginsWith_of_quote hconstruct, rfl⟩
  | comment =>
    rw [hconstruct] at hn
    dsimp only at hn
    rw [(commentPiece_spec (Construct.beginsWith_of_comment hconstruct)).1] at hn
    cases hn
  | paragraph =>
    rw [hconstruct] at hn
    dsimp only [paragraphPiece] at hn
    split at hn <;> cases hn
    cases hform
  | _ =>
    rw [hconstruct] at hn
    cases hn
    cases hform

def ContentNode.isQuote (n : ContentNode) : Bool :=
  match n.form with
  | .blockquote _ => true
  | _ => false

namespace RawSlide

variable {s : RawSlide} {index : Nat} {n : ContentNode}

/-- Where a list of a slide stands, and what it consists of. -/
theorem body_list (hn : n ∈ (s.body index).1) (hform : n.isList = true) :
    ∃ (kind : ListKind) (l : Line) (ls : List Line),
      Arrives index s.bodyStart ⟨n.first, l :: ls⟩ ∧ kind.isItem l = true ∧
        n = listNode index n.first kind (l :: ls.take (listTail kind ls)) := by
  obtain ⟨l, ls, harrives, _, hnode⟩ := exists_origin (s.body_eq index ▸ hn)
  have hnested : n.form.IsNested := by
    rw [ContentNode.isList] at hform
    split at hform
    · next heq => exact heq ▸ .list _ _ _
    · cases hform
  rcases readPiece_nested hnode hnested with ⟨kind, hitem, hlist⟩ | ⟨_, hquote⟩
  · exact ⟨kind, l, ls, harrives, hitem, hlist⟩
  · rw [hquote] at hform
    cases hform

/-- Where a quote of a slide stands, and what it consists of. -/
theorem body_quote (hn : n ∈ (s.body index).1) (hform : n.isQuote = true) :
    ∃ (l : Line) (ls : List Line),
      Arrives index s.bodyStart ⟨n.first, l :: ls⟩ ∧ l.beginsWith ['>'] = true ∧
        n = quoteNode index n.first (l :: ls.take (quoteSpan ls)) := by
  obtain ⟨l, ls, harrives, _, hnode⟩ := exists_origin (s.body_eq index ▸ hn)
  have hnested : n.form.IsNested := by
    rw [ContentNode.isQuote] at hform
    split at hform
    · next heq => exact heq ▸ .quote _
    · cases hform
  rcases readPiece_nested hnode hnested with ⟨kind, _, hlist⟩ | ⟨hbegins, hquote⟩
  · rw [hlist] at hform
    cases hform
  · exact ⟨l, ls, harrives, hbegins, hquote⟩

/-- Quotes reach as far as they go on. -/
theorem body_quoteSpans (hn : n ∈ (s.body index).1) (hform : n.isQuote = true) :
    quoteContinuation.Spans s n.first n.last := by
  obtain ⟨l, ls, harrives, hbegins, heq⟩ := body_quote hn hform
  have hlongest := quoteSpan_longest ls
  have hlast : n.last = n.first + quoteSpan ls := by
    rw [heq]
    simp [quoteNode, Nesting.node, Nat.min_eq_left hlongest.le_length]
  rw [hlast]
  exact hlongest.spans harrives hbegins

/-- A list begins with an item of its kind, goes on over items of the kind, indented lines and blank
lines that an item of the kind follows, and ends in front of a line that is none of these. -/
theorem body_listSpans (s : RawSlide) (index : Nat) :
    ∀ n ∈ (s.body index).1, ∀ (kind : ListKind) (itemCount maxDepth : Nat),
      n.form = .list (kind == .ordered) itemCount maxDepth →
        kind.continuation.Spans s n.first n.last := by
  intro n hn kind itemCount maxDepth hform
  have hlist : n.isList = true := by rw [ContentNode.isList, hform]
  obtain ⟨other, l, ls, harrives, hitem, heq⟩ := body_list hn hlist
  obtain rfl : other = kind := by
    rw [heq] at hform
    exact ListKind.eq_of_ordered (NodeForm.list.inj hform).1
  have hlongest := listTail_longest other ls
  have hlast : n.last = n.first + listTail other ls := by
    rw [heq]
    simp [listNode, Nesting.node, Nat.min_eq_left hlongest.le_length]
  rw [hlast]
  exact hlongest.spans harrives hitem

/-- A list that goes on over an indented line and a blank one, and ends in front of two blank
lines. -/
theorem body_listSpans_of_blanks :
    let s : RawSlide := ⟨1, 7, ["- a", "  b", "", "- c", "", "", "- d"]⟩
    ∃ n ∈ (s.body 0).1, n.form = .list (ListKind.unordered == .ordered) 2 1 ∧
      n.first = 1 ∧ n.last = 4 ∧ ListKind.unordered.continuation.Spans s n.first n.last := by
  intro s
  obtain ⟨n, hn, hform, hfirst, hlast⟩ : ∃ n ∈ (s.body 0).1,
      n.form = .list (ListKind.unordered == .ordered) 2 1 ∧ n.first = 1 ∧ n.last = 4 := by
    decide +kernel
  exact ⟨n, hn, hform, hfirst, hlast, body_listSpans s 0 n hn .unordered 2 1 hform⟩

end RawSlide

end SlideOverflow.Deck
