import Mathlib.Logic.ExistsUnique
import Mathlib.Data.List.TakeWhile
import SlideOverflow.Proofs.Deck.Faithful

/-! What becomes of the lines of a slide. Reading takes them part by part: each part is a node, a
comment, or a line that opens nothing and is dropped. The parts follow one another, and only blank
lines lie between them. -/
namespace SlideOverflow.Deck
open Text

/-! ### Parts -/

inductive Part where
  | node (n : ContentNode)
  | comment (first last : Nat)
  | dropped (number : Nat)

namespace Part

def first : Part → Nat
  | .node n => n.first
  | .comment first _ => first
  | .dropped number => number

def last : Part → Nat
  | .node n => n.last
  | .comment _ last => last
  | .dropped number => number

def node? : Part → Option ContentNode
  | .node n => some n
  | _ => none

def Covers (p : Part) (number : Nat) : Prop := p.first ≤ number ∧ number ≤ p.last

end Part

/-- The lines of a comment, in front of `rest`. It runs through the first line that closes it, or to
the end where none does. In its first line, what closes it stands behind what opens it. -/
inductive CommentLines (rest : List Line) : List Line → Prop where
  | alone {l : Line} : l.beginsWith Line.commentOpening = true → l.closesOwnComment = true →
      CommentLines rest [l]
  | closed {l closing : Line} {inside : List Line} : l.beginsWith Line.commentOpening = true →
      l.closesOwnComment = false → (∀ i ∈ inside, i.closesComment = false) →
      closing.closesComment = true → CommentLines rest (l :: (inside ++ [closing]))
  | unclosed {l : Line} {inside : List Line} : l.beginsWith Line.commentOpening = true →
      l.closesOwnComment = false → (∀ i ∈ inside, i.closesComment = false) → rest = [] →
      CommentLines rest (l :: inside)

/-- The marker of an item and nothing else: a hyphen, a star, a plus sign, or digits and a dot. -/
inductive IsMarker : List Char → Prop where
  | hyphen : IsMarker ['-']
  | star : IsMarker ['*']
  | plus : IsMarker ['+']
  | number {digits : List Char} : digits ≠ [] → (∀ d ∈ digits, isDigit d = true) →
      IsMarker (digits ++ ['.'])

/-- The lines that are dropped where nothing goes on. -/
inductive Line.Droppable (l : Line) : Prop where
  | sign : l.beginsWith ['#'] = true → heading? l = none → Droppable l
  | tag : l.beginsWith ['<'] = true → Droppable l
  | colons : l.beginsWith [':', ':'] = true → Droppable l
  | marker : IsMarker l.stripped → Droppable l

inductive Part.Stands (slide number : Nat) (rest : List Line) : List Line → Part → Prop where
  | node {n : ContentNode} {own : List Line} : own ≠ [] → n.Takes slide number own →
      Stands slide number rest own (.node n)
  | comment {own : List Line} : own ≠ [] → CommentLines rest own →
      Stands slide number rest own (.comment number (number + own.length - 1))
  | dropped {l : Line} : l.Droppable → Stands slide number rest [l] (.dropped number)

theorem Part.Stands.range {slide number : Nat} {rest own : List Line} {p : Part}
    (h : p.Stands slide number rest own) :
    p.first = number ∧ p.last + 1 = number + own.length ∧ 0 < own.length := by
  cases h with
  | node hne htakes =>
    exact ⟨htakes.first_eq, htakes.last_eq, List.length_pos_iff.mpr hne⟩
  | comment hne _ =>
    have hpos := List.length_pos_iff.mpr hne
    exact ⟨rfl, by dsimp only [Part.last]; omega, hpos⟩
  | dropped _ => exact ⟨rfl, rfl, Nat.one_pos⟩

theorem Part.Stands.takes {slide number : Nat} {rest own : List Line} {n : ContentNode}
    (h : (Part.node n).Stands slide number rest own) : n.Takes slide number own := by
  cases h with
  | node _ htakes => exact htakes

theorem Part.Stands.commentLines {slide number a b : Nat} {rest own : List Line}
    (h : (Part.comment a b).Stands slide number rest own) : CommentLines rest own := by
  cases h with
  | comment _ hlines => exact hlines

theorem Part.Stands.droppable {slide number k : Nat} {rest own : List Line}
    (h : (Part.dropped k).Stands slide number rest own) : ∃ l, own = [l] ∧ l.Droppable := by
  cases h with
  | @dropped l hl => exact ⟨l, rfl, hl⟩

/-! ### What begins in a line -/

private theorem isMarker_of_itemText {kind : ListKind} {l : Line} (h : kind.itemText? l = some []) :
    IsMarker l.stripped := by
  have hblank (rest : List Char) (h : afterBlanks? rest = some []) :
      ∀ b ∈ rest, isBlank b = true := by
    cases rest with
    | nil => exact fun b hb => absurd hb List.not_mem_nil
    | cons c cs =>
      simp only [afterBlanks?] at h
      split at h
      · next hc =>
        have hcs : ∀ b ∈ cs, isBlank b = true :=
          List.dropWhile_eq_nil_iff.mp (Option.some.inj h)
        exact fun b hb => (List.mem_cons.mp hb).elim (fun heq => heq ▸ hc) (hcs b)
      · cases h
  rw [Line.stripped, trim]
  cases kind with
  | unordered =>
    simp only [ListKind.itemText?] at h
    cases hcs : trimStart l.toList with
    | nil =>
      rw [hcs] at h
      cases h
    | cons m rest =>
      rw [hcs] at h
      dsimp only at h
      split at h
      · next hm =>
        have hstripped (hm : isBlank m = false) : trimEnd (m :: rest) = [m] :=
          dropEndWhile_append [] hm (hblank rest h)
        simp only [Bool.or_eq_true, beq_iff_eq] at hm
        rcases hm with (rfl | rfl) | rfl
        · rw [hstripped (by decide)]
          exact .hyphen
        · rw [hstripped (by decide)]
          exact .star
        · rw [hstripped (by decide)]
          exact .plus
      · cases h
  | ordered =>
    simp only [ListKind.itemText?] at h
    split at h
    · next d digits rest htake hdrop =>
      have hsplit := @List.takeWhile_append_dropWhile _ isDigit (trimStart l.toList)
      rw [htake, hdrop] at hsplit
      rw [← hsplit, trimEnd, dropEndWhile_append _ (by decide) (hblank rest h)]
      refine .number (List.cons_ne_nil d digits) fun c hc => ?_
      rw [← htake] at hc
      exact List.mem_takeWhile_imp hc
    · cases h

private theorem droppable_of_breaks {l : Line} (hl : l.isEmpty = false)
    (hc : Construct.ofLine l = .paragraph) (hb : l.breaksParagraph = true) : l.Droppable := by
  obtain ⟨hheading, hfence, hopens, hbar, hquote⟩ := Construct.opensNoBlock_of_paragraph hc
  rw [Line.breaksParagraph, hl, Bool.false_or, Bool.or_eq_true] at hb
  rcases hb with hitem | hopening
  · have hbare (kind : ListKind) {text : List Char} (h : kind.itemText? l = some text) :
        IsMarker l.stripped := by
      have ho := hopens kind
      rw [ListKind.opens, h] at ho
      have hnil : text = [] := by simpa using ho
      exact isMarker_of_itemText (hnil ▸ h)
    rw [Line.isItem, Line.itemText?] at hitem
    split at hitem
    · next text h => exact .marker (hbare _ h)
    · obtain ⟨text, h⟩ := Option.isSome_iff_exists.mp hitem
      exact .marker (hbare _ h)
  · -- Of the openings that break a paragraph, three would have begun a block in this line.
    obtain ⟨opening, hmem, hbegins⟩ := List.any_eq_true.mp hopening
    simp only [List.mem_cons, List.not_mem_nil, or_false] at hmem
    rcases hmem with rfl | rfl | rfl | rfl | rfl | rfl
    · exact .sign hbegins hheading
    · rw [Line.isFence, hbegins] at hfence
      cases hfence
    · rw [show ">".toList = ['>'] from rfl, hquote] at hbegins
      cases hbegins
    · rw [show "|".toList = ['|'] from rfl, hbar] at hbegins
      cases hbegins
    · exact .tag hbegins
    · exact .colons hbegins

def Piece.IsPartOf (piece : Piece) (slide number : Nat) (lines : List Line) : Prop :=
  ∃ (p : Part) (own rest : List Line), lines = own ++ rest ∧ piece.size = own.length ∧
    piece.node = p.node? ∧ p.Stands slide number rest own

section Pieces

variable {slide number : Nat} {l : Line} {rest : List Line}

private theorem isPartOf_of_takes {n : ContentNode} {own tail : List Line} {warnings : List Warning}
    (hl : l :: rest = own ++ tail) (hne : own ≠ []) (h : n.Takes slide number own) :
    Piece.IsPartOf ⟨some n, own.length, warnings⟩ slide number (l :: rest) :=
  ⟨.node n, own, tail, hl, rfl, rfl, .node hne h⟩

private theorem codePiece_isPartOf :
    (codePiece slide number l rest).IsPartOf slide number (l :: rest) := by
  have hsplit := (List.take_append_drop ((rest.takeWhile (!·.closesFence)).length + 1) rest).symm
  exact isPartOf_of_takes (congrArg (l :: ·) hsplit) (List.cons_ne_nil _ _)
    (plainNode_takes slide number _ _ (List.cons_ne_nil _ _))

private theorem tablePiece_isPartOf :
    (tablePiece slide number l rest).IsPartOf slide number (l :: rest) := by
  have hsplit :=
    (@List.takeWhile_append_dropWhile _ (fun r : Line => r.toList.contains '|') rest).symm
  exact isPartOf_of_takes (congrArg (l :: ·) hsplit) (List.cons_ne_nil _ _)
    (plainNode_takes slide number _ _ (List.cons_ne_nil _ _))

/-- A comment makes no node and takes its lines. -/
theorem commentPiece_spec (hl : l.beginsWith Line.commentOpening = true) :
    (commentPiece number l rest).node = none ∧ ∃ own tail, l :: rest = own ++ tail ∧
      (commentPiece number l rest).size = own.length ∧ CommentLines tail own := by
  rw [commentPiece]
  split
  · next hown => exact ⟨rfl, [l], rest, rfl, rfl, .alone hl hown⟩
  · next hown =>
    rw [Bool.not_eq_true] at hown
    have hinside : ∀ i ∈ rest.takeWhile (!·.closesComment), i.closesComment = false := by
      intro i hi
      simpa using List.mem_takeWhile_imp hi
    have hsplit := @List.takeWhile_append_dropWhile _ (!·.closesComment) rest
    have hclosing := List.head?_dropWhile_not (!·.closesComment) rest
    generalize rest.takeWhile (!·.closesComment) = inside at hinside hsplit
    cases hdrop : rest.dropWhile (!·.closesComment) with
    | nil =>
      obtain rfl : inside = rest := by simpa [hdrop] using hsplit
      dsimp only
      rw [if_neg (Nat.lt_irrefl _)]
      exact ⟨rfl, l :: inside, [], by simp, rfl, .unclosed hl hown hinside rfl⟩
    | cons closing tail =>
      have hcloses : closing.closesComment = true := by simpa [hdrop] using hclosing
      rw [hdrop] at hsplit
      have hlt : inside.length < rest.length := by simp [← hsplit]
      dsimp only
      rw [if_pos hlt]
      exact ⟨rfl, l :: (inside ++ [closing]), tail, by simp [← hsplit], by simp,
        .closed hl hown hinside hcloses⟩

theorem CommentLines.ne_nil {own tail : List Line} (h : CommentLines tail own) : own ≠ [] := by
  cases h <;> exact List.cons_ne_nil _ _

private theorem commentPiece_isPartOf (hl : l.beginsWith Line.commentOpening = true) :
    (commentPiece number l rest).IsPartOf slide number (l :: rest) := by
  obtain ⟨hnode, own, tail, hsplit, hsize, hlines⟩ := @commentPiece_spec number l rest hl
  exact ⟨.comment number (number + own.length - 1), own, tail, hsplit, hsize, hnode,
    .comment hlines.ne_nil hlines⟩

private theorem paragraphPiece_isPartOf (hl : l.isEmpty = false)
    (hc : Construct.ofLine l = .paragraph) :
    (paragraphPiece slide number l rest).IsPartOf slide number (l :: rest) := by
  rw [paragraphPiece]
  split
  · next hb =>
    exact ⟨.dropped number, [l], rest, rfl, rfl, rfl, .dropped (droppable_of_breaks hl hc hb)⟩
  · have hsplit := (@List.takeWhile_append_dropWhile _ (!·.breaksParagraph) rest).symm
    exact isPartOf_of_takes (congrArg (l :: ·) hsplit) (List.cons_ne_nil _ _)
      (plainNode_takes slide number _ _ (List.cons_ne_nil _ _))

/-- What begins in a line takes that line and some behind it, and accounts for all of them. -/
theorem readPiece_isPartOf (hl : l.isEmpty = false) :
    (readPiece slide number l rest).IsPartOf slide number (l :: rest) := by
  have hsingle (form : NodeForm) (text : Option String) :
      Piece.IsPartOf ⟨some (lineNode slide number l form text), 1, []⟩ slide number (l :: rest) :=
    isPartOf_of_takes rfl (List.cons_ne_nil l []) (lineNode_takes slide number l form text)
  have hsplit (k : Nat) : l :: rest = l :: rest.take k ++ rest.drop k :=
    congrArg (l :: ·) (List.take_append_drop k rest).symm
  rw [readPiece]
  cases hc : Construct.ofLine l with
  | heading level text => exact hsingle _ _
  | code => exact codePiece_isPartOf
  | list kind =>
    exact isPartOf_of_takes (hsplit _) (List.cons_ne_nil _ _)
      (listNesting.node_takes _ slide number (List.cons_ne_nil _ _))
  | image label target => exact hsingle _ _
  | table => exact tablePiece_isPartOf
  | quote =>
    exact isPartOf_of_takes (hsplit _) (List.cons_ne_nil _ _)
      (quoteNesting.node_takes _ slide number (List.cons_ne_nil _ _))
  | component name closing => exact hsingle _ _
  | slot name => exact hsingle _ _
  | comment => exact commentPiece_isPartOf (Construct.beginsWith_of_comment hc)
  | paragraph => exact paragraphPiece_isPartOf hl hc

end Pieces

/-! ### A whole body -/

/-- From number `number` on, the lines fall apart into the parts and, between them, blank lines. -/
inductive Accounts (slide : Nat) : Nat → List Line → List Part → Prop where
  | nil (number : Nat) : Accounts slide number [] []
  | blank {number : Nat} {l : Line} {ls : List Line} {parts : List Part} : l.isEmpty = true →
      Accounts slide (number + 1) ls parts → Accounts slide number (l :: ls) parts
  | part {number : Nat} {own rest : List Line} {p : Part} {parts : List Part} :
      p.Stands slide number rest own → Accounts slide (number + own.length) rest parts →
      Accounts slide number (own ++ rest) (p :: parts)

/-- Reading accounts for all lines but the first `skip` ones, which are already taken. -/
theorem readBody_accounts (slide skip number : Nat) (lines : List Line) :
    ∃ parts, Accounts slide (number + skip) (lines.drop skip) parts ∧
      parts.filterMap Part.node? = (readBody slide skip number lines).1 := by
  -- Induction on the lines, for any `skip`: of a part, the lines behind its first one are those to
  -- skip from there on.
  induction lines generalizing skip number with
  | nil =>
    rw [List.drop_nil]
    exact ⟨[], .nil _, by cases skip <;> rfl⟩
  | cons l ls ih =>
    cases skip with
    | succ skip =>
      obtain ⟨parts, hparts, hnodes⟩ := ih skip (number + 1)
      rw [List.drop_succ_cons, readBody_skip, show number + (skip + 1) = number + 1 + skip by omega]
      exact ⟨parts, hparts, hnodes⟩
    | zero =>
      rw [Nat.add_zero, List.drop_zero]
      cases hl : l.isEmpty with
      | true =>
        obtain ⟨parts, hparts, hnodes⟩ := ih 0 (number + 1)
        rw [readBody_blank hl]
        exact ⟨parts, .blank hl hparts, hnodes⟩
      | false =>
        obtain ⟨p, own, rest, hsplit, hsize, hnode, hstands⟩ :=
          @readPiece_isPartOf slide number l ls hl
        obtain ⟨parts, hparts, hnodes⟩ := ih (own.length - 1) (number + 1)
        have hpos := hstands.range.2.2
        have hrest : ls.drop (own.length - 1) = rest := by
          have hdrop : (l :: ls).drop own.length = rest := by rw [hsplit, List.drop_left]
          rwa [← Nat.sub_add_cancel hpos, List.drop_succ_cons] at hdrop
        refine ⟨p :: parts, ?_, ?_⟩
        · rw [hsplit]
          refine .part hstands ?_
          rwa [hrest, show number + 1 + (own.length - 1) = number + own.length by omega] at hparts
        · rw [readBody_filled hl, hsize, hnode, ← hnodes, List.filterMap_cons]
          cases p.node? <;> rfl

namespace Accounts

variable {slide number : Nat} {lines : List Line} {parts : List Part}

theorem bounds (h : Accounts slide number lines parts) :
    ∀ p ∈ parts, number ≤ p.first ∧ p.first ≤ p.last ∧ p.last < number + lines.length := by
  induction h with
  | nil number => exact fun p hp => absurd hp List.not_mem_nil
  | blank _ _ ih =>
    intro p hp
    have := ih p hp
    rw [List.length_cons]
    omega
  | part hstands _ ih =>
    intro q hq
    have hrange := hstands.range
    rw [List.length_append]
    rcases List.mem_cons.mp hq with rfl | hq
    · omega
    · have := ih q hq
      omega

theorem ascending (h : Accounts slide number lines parts) :
    parts.Pairwise fun p q => p.last < q.first := by
  induction h with
  | nil number => exact .nil
  | blank _ _ ih => exact ih
  | part hstands hrest ih =>
    refine .cons (fun q hq => ?_) ih
    have hrange := hstands.range
    have hlo := (hrest.bounds q hq).1
    omega

/-- Every part consists of the lines of its range, in front of the lines behind it. -/
theorem stands (h : Accounts slide number lines parts) :
    ∀ p ∈ parts, p.Stands slide p.first (lines.drop (p.last + 1 - number))
      (linesBetween number lines p.first p.last) := by
  induction h with
  | nil number => exact fun p hp => absurd hp List.not_mem_nil
  | @blank number l ls parts _ hrest ih =>
    intro p hp
    have hbounds := hrest.bounds p hp
    have hstands := ih p hp
    rw [← linesBetween_drop (l :: ls) hbounds.1, List.drop_one, List.tail_cons]
    rwa [show p.last + 1 - number = p.last + 1 - (number + 1) + 1 by omega, List.drop_succ_cons]
  | @part number own rest p parts hstands hrest ih =>
    intro q hq
    rcases List.mem_cons.mp hq with rfl | hq
    · obtain ⟨hfirst, hlast, hpos⟩ := hstands.range
      have hown : linesBetween number (own ++ rest) number q.last = own := by
        rw [linesBetween, Nat.sub_self, List.drop_zero,
          show q.last + 1 - number = own.length by omega, List.take_left]
      rw [hfirst, hown, show q.last + 1 - number = own.length by omega, List.drop_left]
      exact hstands
    · have hbounds := hrest.bounds q hq
      have hq := ih q hq
      rw [← linesBetween_drop (own ++ rest) hbounds.1, List.drop_left]
      rwa [show q.last + 1 - number = own.length + (q.last + 1 - (number + own.length)) by omega,
        ← List.drop_drop, List.drop_left]

theorem covers (h : Accounts slide number lines parts) :
    ∀ k l, lines[k]? = some l → l.isEmpty = false → ∃ p ∈ parts, p.Covers (number + k) := by
  induction h with
  | nil number => exact fun k l hk => absurd hk (by simp)
  | @blank number l ls parts hl _ ih =>
    intro k m hk hm
    cases k with
    | zero =>
      obtain rfl : l = m := by simpa using hk
      rw [hl] at hm
      cases hm
    | succ k =>
      obtain ⟨p, hp, hcovers⟩ := ih k m (by simpa using hk) hm
      rw [Nat.add_right_comm, Nat.add_assoc] at hcovers
      exact ⟨p, hp, hcovers⟩
  | @part number own rest p parts hstands hrest ih =>
    intro k m hk hm
    have hrange := hstands.range
    by_cases hin : k < own.length
    · exact ⟨p, List.mem_cons_self, by constructor <;> omega⟩
    · rw [List.getElem?_append_right (by omega)] at hk
      obtain ⟨q, hq, hcovers⟩ := ih (k - own.length) m hk hm
      rw [show number + own.length + (k - own.length) = number + k by omega] at hcovers
      exact ⟨q, .tail p hq, hcovers⟩

end Accounts

theorem Part.eq_of_covers {parts : List Part} (h : parts.Pairwise fun p q => p.last < q.first)
    {p q : Part} (hp : p ∈ parts) (hq : q ∈ parts) {k : Nat} (hpk : p.Covers k)
    (hqk : q.Covers k) : p = q := by
  obtain ⟨hpfirst, hplast⟩ := hpk
  obtain ⟨hqfirst, hqlast⟩ := hqk
  induction h with
  | nil => exact absurd hp List.not_mem_nil
  | @cons r rs hr _ ih =>
    rcases List.mem_cons.mp hp with rfl | hpr <;> rcases List.mem_cons.mp hq with rfl | hqr
    · rfl
    · have := hr q hqr
      omega
    · have := hr p hpr
      omega
    · exact ih hpr hqr

/-- What it means that parts account for the lines of a slide behind the first `start` ones, where
`first` is the number of the first line of the slide. -/
structure Coverage (first start : Nat) (lines : List Line) (nodes : List ContentNode)
    (parts : List Part) : Prop where
  /-- The nodes that are read are those among the parts. -/
  nodes_eq : parts.filterMap Part.node? = nodes
  ascending : parts.Pairwise fun p q => p.last < q.first
  /-- A line with text is one of exactly one part. -/
  covered : ∀ k l, start ≤ k → lines[k]? = some l → l.isEmpty = false →
    ∃! p, p ∈ parts ∧ p.Covers (first + k)
  comments : ∀ a b, .comment a b ∈ parts → first + start ≤ a ∧ a ≤ b ∧
    CommentLines (lines.drop (b + 1 - first)) (linesBetween first lines a b)
  dropped : ∀ k, .dropped k ∈ parts → first + start ≤ k ∧
    ∃ l, linesBetween first lines k k = [l] ∧ l.Droppable

/-- No text of a slide is lost: behind its metadata, each line with text is one of exactly one node,
or of a comment, or is dropped alone as a line that opens nothing. -/
theorem readBody_coverage (slide first start : Nat) (lines : List Line) :
    ∃ parts, Coverage first start lines
      (readBody slide 0 (first + start) (lines.drop start)).1 parts := by
  obtain ⟨parts, hparts, hnodes⟩ :=
    readBody_accounts slide 0 (first + start) (lines.drop start)
  rw [Nat.add_zero, List.drop_zero] at hparts
  -- The parts stand in the whole slide as they stand behind its metadata.
  have hstands : ∀ p ∈ parts, p.Stands slide p.first (lines.drop (p.last + 1 - first))
      (linesBetween first lines p.first p.last) := by
    intro p hp
    have hbounds := hparts.bounds p hp
    have hp := hparts.stands p hp
    rwa [linesBetween_drop lines hbounds.1, List.drop_drop,
      show start + (p.last + 1 - (first + start)) = p.last + 1 - first by omega] at hp
  refine ⟨parts, hnodes, hparts.ascending, ?_, ?_, ?_⟩
  · intro k l hk hl hfilled
    have hdrop : (lines.drop start)[k - start]? = some l := by
      rwa [List.getElem?_drop, Nat.add_sub_cancel' hk]
    obtain ⟨p, hp, hcovers⟩ := hparts.covers (k - start) l hdrop hfilled
    rw [show first + start + (k - start) = first + k by omega] at hcovers
    exact ⟨p, ⟨hp, hcovers⟩, fun q hq => Part.eq_of_covers hparts.ascending hq.1 hp hq.2 hcovers⟩
  · intro a b hab
    have hbounds := hparts.bounds _ hab
    have hlines := hstands _ hab
    exact ⟨hbounds.1, hbounds.2.1, hlines.commentLines⟩
  · intro k hk
    exact ⟨(hparts.bounds _ hk).1, (hstands _ hk).droppable⟩

end SlideOverflow.Deck
