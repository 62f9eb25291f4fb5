import SlideOverflow.Deck.Line

/-! Content nodes: the units that the body of a slide is made of. -/
namespace SlideOverflow.Deck

inductive NodeForm where
  | heading (level : Nat)
  | list (ordered : Bool) (itemCount maxDepth : Nat)
  | codeBlock (language : String) (lineCount : Nat) (closed : Bool)
  | image (label source : String)
  | table (columns rows : Nat)
  | blockquote (depth : Nat)
  | paragraph
  | component (name : String) (closing : Bool)
  | slotSeparator (name : String)
deriving DecidableEq, Repr

/-- A node of the body of a slide. It covers lines of the document, from `first` to `last`, which
are its content. Markers have no text; lists and quotes may have nodes within them. -/
structure ContentNode where
  form : NodeForm
  first : Nat
  last : Nat
  slide : Nat
  content : String
  text : Option String
  /-- Number of characters of the text, for a node that has one. -/
  charCount : Option Nat
  children : List ContentNode
deriving Repr

namespace ContentNode

def level? (n : ContentNode) : Option Nat :=
  match n.form with
  | .heading level => some level
  | _ => none

def isHeading (n : ContentNode) (level : Nat) : Bool := n.level? == some level

def isList (n : ContentNode) : Bool :=
  match n.form with
  | .list .. => true
  | _ => false

def isCode (n : ContentNode) : Bool :=
  match n.form with
  | .codeBlock .. => true
  | _ => false

def isImage (n : ContentNode) : Bool :=
  match n.form with
  | .image .. => true
  | _ => false

def isTable (n : ContentNode) : Bool :=
  match n.form with
  | .table .. => true
  | _ => false

def isParagraph (n : ContentNode) : Bool :=
  match n.form with
  | .paragraph => true
  | _ => false

end ContentNode

abbrev NumberedLine := Nat × Line

def numbered (first : Nat) : List Line → List NumberedLine
  | [] => []
  | l :: ls => (first, l) :: numbered (first + 1) ls

theorem mem_numbered {first : Nat} {lines : List Line} {p : NumberedLine}
    (h : p ∈ numbered first lines) :
    first ≤ p.1 ∧ p.1 < first + lines.length ∧ lines[p.1 - first]? = some p.2 := by
  induction lines generalizing first with
  | nil => exact absurd h List.not_mem_nil
  | cons l ls ih =>
    rw [numbered] at h
    rw [List.length_cons]
    rcases List.mem_cons.mp h with rfl | h
    · exact ⟨Nat.le_refl _, by omega, by simp⟩
    · obtain ⟨hlo, hhi, hget⟩ := ih h
      refine ⟨by omega, by omega, ?_⟩
      rw [show p.1 - first = p.1 - (first + 1) + 1 by omega, List.getElem?_cons_succ, hget]

/-- Numbers ascend. -/
theorem numbered_pairwise (first : Nat) (lines : List Line) :
    (numbered first lines).Pairwise fun p q => p.1 < q.1 := by
  induction lines generalizing first with
  | nil => exact .nil
  | cons l ls ih =>
    refine List.pairwise_cons.mpr ⟨fun p hp => ?_, ih (first + 1)⟩
    have hlo := (mem_numbered hp).1
    exact hlo

def linesBetween (base : Nat) (lines : List Line) (first last : Nat) : List Line :=
  (lines.drop (first - base)).take (last + 1 - first)

/-- The lines in front of a range do not matter to it. -/
theorem linesBetween_drop {base k first last : Nat} (lines : List Line) (h : base + k ≤ first) :
    linesBetween (base + k) (lines.drop k) first last = linesBetween base lines first last := by
  rw [linesBetween, linesBetween, List.drop_drop,
    show k + (first - (base + k)) = first - base by omega]

/-- All lines, by their numbers. -/
theorem linesBetween_all {base last : Nat} (lines : List Line)
    (h : last + 1 = base + lines.length) : linesBetween base lines base last = lines := by
  rw [linesBetween, Nat.sub_self, List.drop_zero, show last + 1 - base = lines.length by omega,
    List.take_length]

/-- A range within a range. -/
theorem linesBetween_within {base a b first last : Nat} (lines : List Line) (hbase : base ≤ a)
    (hfirst : a ≤ first) (hlast : last ≤ b) :
    linesBetween a (linesBetween base lines a b) first last =
      linesBetween base lines first last := by
  simp only [linesBetween]
  rw [List.drop_take, List.drop_drop, List.take_take,
    show a - base + (first - a) = first - base by omega]
  congr 1
  omega

end SlideOverflow.Deck
