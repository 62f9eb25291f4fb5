import SlideOverflow.Proofs.Deck.Reading

/-! Blocks that are not closed. A block of code or a comment that nothing closes takes all lines up
to the end of its slide. So a slide has at most one of them, and nothing comes behind it. -/
namespace SlideOverflow.Deck

def ContentNode.isUnclosed (n : ContentNode) : Bool :=
  match n.form with
  | .codeBlock _ _ closed => !closed
  | _ => false

/-- How reading comes to line `stop`, behind the last one: with every block closed, in a block of
code, which is the last node, or in a comment. It tells of the latter two. -/
inductive BodyEnd (stop : Nat) : List ContentNode × List Warning → Prop where
  | closed {nodes : List ContentNode} : (∀ n ∈ nodes, n.isUnclosed = false) →
      BodyEnd stop (nodes, [])
  | code {nodes : List ContentNode} {last : ContentNode} : (∀ n ∈ nodes, n.isUnclosed = false) →
      last.isUnclosed = true → last.last + 1 = stop →
      BodyEnd stop (nodes ++ [last], [.unclosedCode last.first])
  | comment {nodes : List ContentNode} {number : Nat} : (∀ n ∈ nodes, n.isUnclosed = false) →
      BodyEnd stop (nodes, [.unclosedComment number])

section Pieces

variable {slide number : Nat} {l : Line} {ls : List Line}

private theorem ends_single {n : ContentNode} (stop : Nat) (hn : n.isUnclosed = false) :
    BodyEnd stop ([n], []) := by
  refine .closed fun m hm => ?_
  rwa [List.mem_singleton.mp hm]

private theorem ends_none (stop : Nat) : BodyEnd stop ([], []) :=
  .closed fun _ hn => absurd hn List.not_mem_nil

private theorem codePiece_ends :
    BodyEnd (number + (l :: ls).length)
        ((codePiece slide number l ls).node.toList, (codePiece slide number l ls).warnings) ∧
      ((codePiece slide number l ls).warnings ≠ [] →
        (codePiece slide number l ls).size = (l :: ls).length) := by
  dsimp only [codePiece]
  by_cases hclosed : (ls.takeWhile (!·.closesFence)).length < ls.length
  · rw [if_pos hclosed]
    exact ⟨ends_single _ (by simp [ContentNode.isUnclosed, plainNode, hclosed]),
      fun h => absurd rfl h⟩
  · rw [if_neg hclosed, List.take_of_length_le (by omega)]
    refine ⟨@BodyEnd.code _ [] _ (fun n hn => absurd hn List.not_mem_nil) ?_ ?_, fun _ => rfl⟩
    · simp [ContentNode.isUnclosed, plainNode, hclosed]
    · dsimp only [plainNode]
      rw [List.length_cons]
      omega

private theorem commentPiece_ends :
    BodyEnd (number + (l :: ls).length)
        ((commentPiece number l ls).node.toList, (commentPiece number l ls).warnings) ∧
      ((commentPiece number l ls).warnings ≠ [] →
        (commentPiece number l ls).size = (l :: ls).length) := by
  rw [commentPiece]
  split
  · exact ⟨ends_none _, fun h => absurd rfl h⟩
  · dsimp only
    split
    · exact ⟨ends_none _, fun h => absurd rfl h⟩
    · exact ⟨.comment fun n hn => absurd hn List.not_mem_nil, fun _ => rfl⟩

/-- What is not closed is told of, and takes all lines. -/
private theorem readPiece_ends :
    BodyEnd (number + (l :: ls).length)
        ((readPiece slide number l ls).node.toList, (readPiece slide number l ls).warnings) ∧
      ((readPiece slide number l ls).warnings ≠ [] →
        (readPiece slide number l ls).size = (l :: ls).length) := by
  rw [readPiece]
  cases Construct.ofLine l with
  | code => exact codePiece_ends
  | comment => exact commentPiece_ends
  | paragraph =>
    dsimp only [paragraphPiece]
    split
    · exact ⟨ends_none _, fun h => absurd rfl h⟩
    · exact ⟨ends_single _ rfl, fun h => absurd rfl h⟩
  | _ => exact ⟨ends_single _ rfl, fun h => absurd rfl h⟩

end Pieces

theorem BodyEnd.append {stop : Nat} {front nodes : List ContentNode} {warnings : List Warning}
    (hfront : ∀ n ∈ front, n.isUnclosed = false) (h : BodyEnd stop (nodes, warnings)) :
    BodyEnd stop (front ++ nodes, warnings) := by
  cases h with
  | closed hnodes => exact .closed fun n hn => (List.mem_append.mp hn).elim (hfront n) (hnodes n)
  | code hnodes hlast hstop =>
    rw [← List.append_assoc]
    exact .code (fun n hn => (List.mem_append.mp hn).elim (hfront n) (hnodes n)) hlast hstop
  | comment hnodes => exact .comment fun n hn => (List.mem_append.mp hn).elim (hfront n) (hnodes n)

/-- Reading from a position on ends in one of these ways. -/
private theorem Position.read_ends (slide : Nat) (p : Position) :
    BodyEnd (p.number + p.rest.length) (p.read slide) := by
  induction p using Position.induction slide with
  | nil number => exact ends_none _
  | blank number l ls hl ih =>
    rw [Position.read_blank hl, List.length_cons]
    rwa [Nat.add_assoc, Nat.add_comm 1] at ih
  | piece number l ls hl ih =>
    obtain ⟨hpiece, hall⟩ := @readPiece_ends slide number l ls
    have hsize := (@readPiece_size slide number l ls hl).2
    rw [Position.read_filled hl]
    cases hwarnings : (readPiece slide number l ls).warnings with
    | nil =>
      -- Everything in the piece is closed, so the rest decides.
      have hstop : (Position.behind slide number l ls).number +
          (Position.behind slide number l ls).rest.length = number + (l :: ls).length := by
        rw [Position.behind]
        dsimp only
        rw [List.length_drop]
        omega
      rw [hstop] at ih
      rw [hwarnings] at hpiece
      refine BodyEnd.append ?_ ih
      generalize (readPiece slide number l ls).node.toList = nodes at hpiece
      cases hpiece with
      | closed hnodes => exact hnodes
    | cons w ws =>
      -- The piece takes all lines, so nothing comes behind it.
      have hrest : (Position.behind slide number l ls).read slide = ([], []) := by
        rw [Position.behind, hall (by rw [hwarnings]; exact List.cons_ne_nil w ws),
          List.drop_length, Position.read_nil]
      rw [hrest, List.append_nil, List.append_nil, ← hwarnings]
      exact hpiece

theorem RawSlide.body_ends (s : RawSlide) (index : Nat) :
    BodyEnd (s.first + s.lines.length) (s.body index) := by
  have h := s.bodyStart.read_ends index
  have hle := slideMetadata_le s.lines
  rw [← s.body_eq] at h
  simp only [bodyStart, List.length_drop] at h
  rwa [Nat.add_assoc, Nat.add_sub_cancel' hle] at h

theorem BodyEnd.length_le {stop : Nat} {found : List ContentNode × List Warning}
    (h : BodyEnd stop found) : found.2.length ≤ 1 := by
  cases h <;> simp

/-- A block of code that is not closed is the last node and reaches to the end. -/
theorem BodyEnd.unclosed {stop : Nat} {found : List ContentNode × List Warning}
    (h : BodyEnd stop found) :
    ∀ n ∈ found.1, n.isUnclosed = true → found.1.getLast? = some n ∧ n.last + 1 = stop := by
  intro n hn hunclosed
  cases h with
  | closed hnodes => exact absurd hunclosed (by rw [hnodes n hn]; exact Bool.false_ne_true)
  | code hnodes _ hstop =>
    rcases List.mem_append.mp hn with hn | hn
    · exact absurd hunclosed (by rw [hnodes n hn]; exact Bool.false_ne_true)
    · rw [List.mem_singleton.mp hn]
      exact ⟨List.getLast?_concat, hstop⟩
  | comment hnodes => exact absurd hunclosed (by rw [hnodes n hn]; exact Bool.false_ne_true)

end SlideOverflow.Deck
