import Mathlib.Logic.Relation
import SlideOverflow.Deck.Presentation
import SlideOverflow.Proofs.Deck.Coverage

/-! Reading a body step by step. In front of a blank line, reading steps over that line; in front of
any other line, it takes what begins there as a whole. Every node of a body is what begins in a line
at which reading arrives. -/
namespace SlideOverflow.Deck

/-- Where reading stands: in front of `rest`, whose first line has number `number`. -/
structure Position where
  number : Nat
  rest : List Line
deriving DecidableEq

namespace Position

def read (slide : Nat) (p : Position) : List ContentNode × List Warning :=
  readBody slide 0 p.number p.rest

def behind (slide number : Nat) (l : Line) (ls : List Line) : Position :=
  let size := (readPiece slide number l ls).size
  ⟨number + size, (l :: ls).drop size⟩

end Position

inductive Step (slide : Nat) : Position → Position → Prop where
  | blank {number : Nat} {l : Line} {ls : List Line} : l.isEmpty = true →
      Step slide ⟨number, l :: ls⟩ ⟨number + 1, ls⟩
  | piece {number : Nat} {l : Line} {ls : List Line} : l.isEmpty = false →
      Step slide ⟨number, l :: ls⟩ (Position.behind slide number l ls)

abbrev Arrives (slide : Nat) : Position → Position → Prop := Relation.ReflTransGen (Step slide)

def RawSlide.bodyStart (s : RawSlide) : Position :=
  let start := (slideMetadata s.lines).2
  ⟨s.first + start, s.lines.drop start⟩

theorem RawSlide.body_eq (s : RawSlide) (index : Nat) : s.body index = s.bodyStart.read index := rfl

/-! ### What begins in a line -/

section Piece

variable {slide number : Nat} {l : Line} {ls : List Line}

theorem readPiece_size (hl : l.isEmpty = false) :
    0 < (readPiece slide number l ls).size ∧
      (readPiece slide number l ls).size ≤ (l :: ls).length := by
  obtain ⟨p, own, rest, hsplit, hsize, _, hstands⟩ := @readPiece_isPartOf slide number l ls hl
  have hpos := hstands.range.2.2
  rw [hsplit, List.length_append, hsize]
  omega

/-- A node takes all lines that are read at once. -/
theorem readPiece_range {n : ContentNode} (hl : l.isEmpty = false)
    (hn : (readPiece slide number l ls).node = some n) :
    n.first = number ∧ n.last + 1 = number + (readPiece slide number l ls).size := by
  obtain ⟨p, own, rest, _, hsize, hnode, hstands⟩ := @readPiece_isPartOf slide number l ls hl
  have hrange := hstands.range
  rw [hn] at hnode
  cases p with
  | node m =>
    cases hnode
    rw [hsize]
    exact ⟨hrange.1, hrange.2.1⟩
  | comment a b => cases hnode
  | dropped k => cases hnode

/-- The nodes within a node lie in its range. -/
theorem readPiece_inside {n : ContentNode} (hl : l.isEmpty = false)
    (hn : (readPiece slide number l ls).node = some n) :
    n.Everywhere fun m => n.first ≤ m.first ∧ m.last ≤ n.last := by
  obtain ⟨p, own, rest, _, _, hnode, hstands⟩ := @readPiece_isPartOf slide number l ls hl
  rw [hn] at hnode
  cases p with
  | node m =>
    cases hnode
    exact hstands.takes.faithful.imp fun m hm => ⟨hm.first_le, hm.le_last⟩
  | comment a b => cases hnode
  | dropped k => cases hnode

end Piece

/-! ### Nodes within nodes -/

inductive NodeForm.IsNested : NodeForm → Prop where
  | list (ordered : Bool) (itemCount maxDepth : Nat) : IsNested (.list ordered itemCount maxDepth)
  | quote (depth : Nat) : IsNested (.blockquote depth)

namespace ContentNode

variable {n : ContentNode}

theorem not_isParagraph_of_nested (h : n.form.IsNested) : n.isParagraph = false := by
  rw [isParagraph]
  generalize n.form = form at h
  cases h <;> rfl

theorem not_isCode_of_nested (h : n.form.IsNested) : n.isCode = false := by
  rw [isCode]
  generalize n.form = form at h
  cases h <;> rfl

end ContentNode

theorem Nesting.within_form (r : Nesting) (slide base : Nat) (lines : List Line) (fuel : Nat)
    (filled : List NumberedLine) :
    ∀ c ∈ r.within slide base lines fuel filled,
      c.Everywhere fun m => ∃ run, m.form = r.form run := by
  induction fuel generalizing filled with
  | zero => exact fun c hc => absurd hc List.not_mem_nil
  | succ fuel ih =>
    cases filled with
    | nil => exact fun c hc => absurd hc List.not_mem_nil
    | cons head tail =>
      intro c hc
      rw [Nesting.within] at hc
      obtain ⟨run, _, rfl⟩ := List.mem_map.mp hc
      exact .intro ⟨run, rfl⟩ (ih run)

inductive Makes (slide number : Nat) (l : Line) (ls : List Line) : ContentNode → Prop where
  | plain {n : ContentNode} : n.children = [] → n.isParagraph = false → Makes slide number l ls n
  | list (kind : ListKind) :
      Makes slide number l ls (listNode slide number kind (l :: ls.take (listTail kind ls)))
  | quote : Makes slide number l ls (quoteNode slide number (l :: ls.take (quoteSpan ls)))
  | paragraph (text : String) : Makes slide number l ls
      (plainNode slide number (l :: ls.takeWhile (!·.breaksParagraph)) .paragraph text)

theorem readPiece_makes {slide number : Nat} {l : Line} {ls : List Line} {n : ContentNode}
    (hn : (readPiece slide number l ls).node = some n) : Makes slide number l ls n := by
  rw [readPiece] at hn
  cases hconstruct : Construct.ofLine l with
  | list kind =>
    rw [hconstruct] at hn
    cases hn
    exact .list kind
  | quote =>
    rw [hconstruct] at hn
    cases hn
    exact .quote
  | comment =>
    rw [hconstruct] at hn
    dsimp only at hn
    rw [(commentPiece_spec (Construct.beginsWith_of_comment hconstruct)).1] at hn
    cases hn
  | paragraph =>
    rw [hconstruct] at hn
    dsimp only [paragraphPiece] at hn
    split at hn
    · cases hn
    · cases hn
      exact .paragraph _
  | _ =>
    rw [hconstruct] at hn
    cases hn
    exact .plain rfl rfl

/-- Only lists and quotes hold nodes, which are lists and quotes again. -/
private theorem readPiece_within {slide number : Nat} {l : Line} {ls : List Line} {n : ContentNode}
    (hn : (readPiece slide number l ls).node = some n) :
    ∀ c ∈ n.children, c.Everywhere fun m => m.form.IsNested := by
  intro c hc
  cases readPiece_makes hn with
  | plain hnone _ =>
    rw [hnone] at hc
    exact absurd hc List.not_mem_nil
  | list kind =>
    refine (listNesting.within_form _ _ _ _ _ c hc).imp ?_
    rintro m ⟨run, hm⟩
    rw [hm]
    exact .list _ _ _
  | quote =>
    refine (quoteNesting.within_form _ _ _ _ _ c hc).imp ?_
    rintro m ⟨run, hm⟩
    rw [hm]
    exact .quote _
  | paragraph text => exact absurd hc List.not_mem_nil

/-! ### Steps -/

private theorem readBody_eq_drop (slide skip number : Nat) (lines : List Line) :
    readBody slide skip number lines = readBody slide 0 (number + skip) (lines.drop skip) := by
  induction lines generalizing skip number with
  | nil => cases skip <;> rfl
  | cons l ls ih =>
    cases skip with
    | zero => rfl
    | succ skip =>
      rw [readBody_skip, ih, List.drop_succ_cons, Nat.add_assoc, Nat.add_comm 1]

namespace Position

variable {slide number : Nat} {l : Line} {ls : List Line}

theorem read_nil : read slide ⟨number, []⟩ = ([], []) := rfl

theorem read_blank (hl : l.isEmpty = true) :
    read slide ⟨number, l :: ls⟩ = read slide ⟨number + 1, ls⟩ := readBody_blank hl

theorem read_filled (hl : l.isEmpty = false) :
    read slide ⟨number, l :: ls⟩ =
      ((readPiece slide number l ls).node.toList ++ (read slide (behind slide number l ls)).1,
        (readPiece slide number l ls).warnings ++ (read slide (behind slide number l ls)).2) := by
  have hpos := (@readPiece_size slide number l ls hl).1
  have hrest : readBody slide ((readPiece slide number l ls).size - 1) (number + 1) ls =
      read slide (behind slide number l ls) := by
    obtain ⟨size, hsize⟩ := Nat.exists_eq_add_one.mpr hpos
    rw [readBody_eq_drop, read, behind, hsize, List.drop_succ_cons, Nat.add_sub_cancel,
      Nat.add_assoc, Nat.add_comm 1]
  rw [read, readBody_filled hl, hrest]

/-- What holds at the end of a body holds everywhere in it if it holds in front of a step whenever
it holds behind it. -/
@[elab_as_elim]
theorem induction (slide : Nat) {motive : Position → Prop} (p : Position)
    (nil : ∀ number, motive ⟨number, []⟩)
    (blank : ∀ number l ls, l.isEmpty = true → motive ⟨number + 1, ls⟩ → motive ⟨number, l :: ls⟩)
    (piece : ∀ number l ls, l.isEmpty = false → motive (behind slide number l ls) →
      motive ⟨number, l :: ls⟩) : motive p := by
  obtain ⟨number, rest⟩ := p
  induction hlength : rest.length using Nat.strong_induction_on generalizing number rest with
  | _ length ih =>
    subst hlength
    cases rest with
    | nil => exact nil number
    | cons l ls =>
      cases hl : l.isEmpty with
      | true => exact blank number l ls hl (ih _ (Nat.lt_succ_self _) _ _ rfl)
      | false =>
        refine piece number l ls hl (ih _ ?_ _ _ rfl)
        have hsize := @readPiece_size slide number l ls hl
        rw [List.length_drop]
        omega

/-- The nodes that come of some lines stand for them. -/
theorem bounds {p : Position} {n : ContentNode} (h : n ∈ (p.read slide).1) :
    p.number ≤ n.first ∧ n.first ≤ n.last ∧ n.last < p.number + p.rest.length := by
  obtain ⟨parts, hparts, hnodes⟩ := readBody_accounts slide 0 p.number p.rest
  rw [read, ← hnodes] at h
  obtain ⟨part, hpart, hnode⟩ := List.mem_filterMap.mp h
  have hbounds := hparts.bounds part hpart
  cases part with
  | node m =>
    cases hnode
    exact hbounds
  | comment a b => cases hnode
  | dropped k => cases hnode

end Position

/-! ### Arriving -/

section Arriving

variable {slide : Nat} {p q : Position}

theorem Step.number_le (h : Step slide p q) : p.number ≤ q.number := by
  cases h with
  | blank _ => exact Nat.le_succ _
  | piece _ => exact Nat.le_add_right _ _

theorem Step.rest_eq (h : Step slide p q) : q.rest = p.rest.drop (q.number - p.number) := by
  cases h with
  | blank _ => simp
  | piece _ => simp [Position.behind]

/-- What is read in a step comes first, and ends in front of the lines behind the step. -/
theorem Step.read_eq (h : Step slide p q) : ∃ nodes warnings,
    p.read slide = (nodes ++ (q.read slide).1, warnings ++ (q.read slide).2) ∧
      ∀ n ∈ nodes, n.last < q.number := by
  cases h with
  | blank hl =>
    refine ⟨[], [], ?_, fun n hn => absurd hn List.not_mem_nil⟩
    rw [Position.read_blank hl]
    rfl
  | piece hl =>
    refine ⟨_, _, Position.read_filled hl, fun n hn => ?_⟩
    have hrange := readPiece_range hl (Option.mem_toList.mp hn)
    rw [Position.behind]
    dsimp only
    omega

theorem Arrives.number_le (h : Arrives slide p q) : p.number ≤ q.number := by
  induction h with
  | refl => exact Nat.le_refl _
  | tail _ hstep ih => exact Nat.le_trans ih hstep.number_le

theorem Arrives.rest_eq (h : Arrives slide p q) : q.rest = p.rest.drop (q.number - p.number) := by
  induction h with
  | refl => simp
  | tail hpq hstep ih =>
    have hle := Arrives.number_le hpq
    have hnext := hstep.number_le
    rw [hstep.rest_eq, ih, List.drop_drop]
    congr 1
    omega

theorem Arrives.read_eq (h : Arrives slide p q) : ∃ nodes warnings,
    p.read slide = (nodes ++ (q.read slide).1, warnings ++ (q.read slide).2) ∧
      ∀ n ∈ nodes, n.last < q.number := by
  induction h with
  | refl => exact ⟨[], [], rfl, fun n hn => absurd hn List.not_mem_nil⟩
  | tail _ hstep ih =>
    obtain ⟨front, told, hfront, hends⟩ := ih
    obtain ⟨nodes, warnings, hread, hlast⟩ := hstep.read_eq
    refine ⟨front ++ nodes, told ++ warnings, ?_, fun n hn => ?_⟩
    · rw [hfront, hread, List.append_assoc, List.append_assoc]
    · have hle := hstep.number_le
      rcases List.mem_append.mp hn with hn | hn
      · have := hends n hn
        omega
      · exact hlast n hn

/-- Every node is what begins in a line at which reading arrives. -/
theorem exists_origin {n : ContentNode} (h : n ∈ (p.read slide).1) :
    ∃ l ls, Arrives slide p ⟨n.first, l :: ls⟩ ∧ l.isEmpty = false ∧
      (readPiece slide n.first l ls).node = some n := by
  induction p using Position.induction slide with
  | nil number => exact absurd h List.not_mem_nil
  | blank number l ls hl ih =>
    rw [Position.read_blank hl] at h
    obtain ⟨m, ms, harrives, horigin⟩ := ih h
    exact ⟨m, ms, .head (.blank hl) harrives, horigin⟩
  | piece number l ls hl ih =>
    rw [Position.read_filled hl] at h
    rcases List.mem_append.mp h with hn | hn
    · have hnode := Option.mem_toList.mp hn
      obtain rfl := (readPiece_range hl hnode).1
      exact ⟨l, ls, .refl, hl, hnode⟩
    · obtain ⟨m, ms, harrives, horigin⟩ := ih hn
      exact ⟨m, ms, .head (.piece hl) harrives, horigin⟩

end Arriving

/-- The nodes within the nodes of a slide, at any depth, are lists and quotes. -/
theorem RawSlide.body_within {s : RawSlide} {index : Nat} {n : ContentNode}
    (hn : n ∈ (s.body index).1) : ∀ c ∈ n.children, c.Everywhere fun m => m.form.IsNested := by
  rw [s.body_eq] at hn
  obtain ⟨_, _, _, _, hnode⟩ := exists_origin hn
  exact readPiece_within hnode

/-- The lines of a slide, by their numbers, from a position on. -/
theorem RawSlide.line_eq {s : RawSlide} {index k : Nat} {p : Position}
    (h : Arrives index s.bodyStart p) (hk : p.number ≤ k) :
    s.lines[k - s.first]? = p.rest[k - p.number]? := by
  have hle := h.number_le
  rw [h.rest_eq]
  simp only [RawSlide.bodyStart] at hle ⊢
  rw [List.drop_drop, List.getElem?_drop]
  congr 1
  omega

end SlideOverflow.Deck
