import SlideOverflow.Deck.Block.Nesting

/-! The recursion that makes nodes within nodes. Behind the first line of a node, runs of its lines
make up nodes, and each run is shorter than the lines that it is taken from. So the recursion comes
to an end for all lines, and what it makes does not depend on a bound. -/
namespace SlideOverflow.Deck

/-! ### What runs hold -/

structure IsRun (deep opens : Line → Bool) (run : List NumberedLine) : Prop where
  deep : ∀ p ∈ run, deep p.2 = true
  opens : ∃ p ∈ run.head?, opens p.2 = true

section Runs

variable {joins : Bool → Line → Bool} {run ls r : List NumberedLine} {deep opens : Line → Bool}
  (hjoins : ∀ isOpen l, joins isOpen l = (deep l && (isOpen || opens l)))
include hjoins

theorem isRun_of_mem_runs (hrun : run ≠ [] → IsRun deep opens run.reverse)
    (h : r ∈ runs joins run ls) : IsRun deep opens r := by
  induction ls generalizing run with
  | nil =>
    obtain ⟨hne, rfl⟩ := mem_runs_nil.mp h
    exact hrun hne
  | cons l ls ih =>
    cases hl : joins (!run.isEmpty) l.2 with
    | true =>
      rw [runs_join hl] at h
      refine ih (fun _ => ?_) h
      rw [hjoins, Bool.and_eq_true, Bool.or_eq_true] at hl
      rw [List.reverse_cons]
      cases run with
      | nil =>
        have hopens : opens l.2 = true := by simpa using hl.2
        exact ⟨by simpa using hl.1, l, rfl, hopens⟩
      | cons q qs =>
        obtain ⟨hdeep, p, hp, hopens⟩ := hrun (List.cons_ne_nil q qs)
        refine ⟨fun t ht => ?_, p, by simp_all, hopens⟩
        rcases List.mem_append.mp ht with ht | ht
        · exact hdeep t ht
        · rw [List.mem_singleton.mp ht]
          exact hl.1
    | false =>
      rw [runs_break hl] at h
      rcases List.mem_append.mp h with hr | hr
      · obtain ⟨hne, rfl⟩ := mem_runs_nil.mp hr
        exact hrun hne
      · exact ih (fun hne => absurd rfl hne) hr

/-- Of the lines that can open a run, the deep ones are in runs, in order and each of them once. -/
theorem filter_flatten_runs :
    (runs joins run ls).flatten.filter (fun p => opens p.2) =
      (run.reverse ++ ls.filter fun p => deep p.2).filter fun p => opens p.2 := by
  induction ls generalizing run with
  | nil => rw [flatten_runs_nil, List.filter_nil, List.append_nil]
  | cons l ls ih =>
    cases hl : joins (!run.isEmpty) l.2 with
    | true =>
      rw [runs_join hl, ih]
      rw [hjoins, Bool.and_eq_true] at hl
      simp [List.filter_cons_of_pos, hl.1]
    | false =>
      rw [runs_break hl, List.flatten_append, List.filter_append, ih, List.filter_append]
      rw [flatten_runs_nil, List.filter_append]
      congr 1
      rw [hjoins, Bool.and_eq_false_iff, Bool.or_eq_false_iff] at hl
      rcases hl with hdeep | ⟨_, hopens⟩
      · simp [hdeep]
      · cases hdeep : deep l.2 <;> simp [hdeep, hopens]

end Runs

/-! ### The recursion -/

namespace Nesting

variable (r : Nesting) (slide base : Nat) (lines : List Line)

/-- The nodes that some lines hold, with no bound on how deep they are. -/
def nodes (filled : List NumberedLine) : List ContentNode :=
  r.within slide base lines filled.length filled

def runNode (run : List NumberedLine) : ContentNode where
  form := r.form run
  first := firstNumber run
  last := lastNumber run
  slide := slide
  content := joinLines (linesBetween base lines (firstNumber run) (lastNumber run))
  text := some (r.text run)
  charCount := some (r.text run).length
  children := r.nodes slide base lines run

/-- The nodes that `filled` holds are made from these lines among others. -/
inductive Inner : List NumberedLine → List NumberedLine → Prop where
  | run {head : NumberedLine} {tail run : List NumberedLine} :
      run ∈ runs (r.joins head.2) [] tail → Inner run (head :: tail)

/-- The recursion that makes nodes within nodes comes to an end for all lines: no chain of runs goes
on for ever, and there is no bound on how deep the nodes are. -/
structure Ends : Prop where
  wellFounded : WellFounded r.Inner
  node : ∀ form slide first lines, (r.node form slide first lines).children =
    r.nodes slide first lines ((numbered first lines).filter fun l => !l.2.isEmpty)
  nil : ∀ slide base lines, r.nodes slide base lines [] = []
  cons : ∀ slide base lines head tail, r.nodes slide base lines (head :: tail) =
    (runs (r.joins head.2) [] tail).map (r.runNode slide base lines)

variable {r slide base lines}

theorem Inner.length_lt {run filled : List NumberedLine} (h : r.Inner run filled) :
    run.length < filled.length := by
  cases h with
  | run hrun =>
    have := (infix_of_mem_runs hrun).length_le
    simpa using Nat.lt_succ_of_le this

theorem Inner.isInfix {run filled : List NumberedLine} (h : r.Inner run filled) :
    run <:+: filled := by
  cases h with
  | @run head tail _ hrun =>
    exact (infix_of_mem_runs hrun).trans ⟨[head], [], by simp⟩

theorem Inner.ne_nil {run filled : List NumberedLine} (h : r.Inner run filled) : run ≠ [] := by
  cases h with
  | run hrun => exact ne_nil_of_mem_runs hrun

theorem inner_wellFounded (r : Nesting) : WellFounded r.Inner :=
  Subrelation.wf Inner.length_lt (measure List.length).wf

/-- How much fuel there is does not matter, if there is enough. -/
private theorem within_congr {filled : List NumberedLine} {fuel other : Nat}
    (h : filled.length ≤ fuel) (hother : filled.length ≤ other) :
    r.within slide base lines fuel filled = r.within slide base lines other filled := by
  induction fuel generalizing other filled with
  | zero =>
    obtain rfl := List.length_eq_zero_iff.mp (Nat.le_zero.mp h)
    cases other <;> rfl
  | succ fuel ih =>
    cases filled with
    | nil => cases other <;> rfl
    | cons head tail =>
      obtain ⟨other, rfl⟩ := Nat.exists_eq_add_one.mpr (Nat.lt_of_lt_of_le (Nat.succ_pos _) hother)
      rw [within, within]
      apply List.map_congr_left
      intro run hrun
      have hlt := (Inner.run hrun : r.Inner run (head :: tail)).length_lt
      rw [ih (by omega) (by omega : run.length ≤ other)]

theorem nodes_cons (head : NumberedLine) (tail : List NumberedLine) :
    r.nodes slide base lines (head :: tail) =
      (runs (r.joins head.2) [] tail).map (r.runNode slide base lines) := by
  rw [nodes, List.length_cons, within]
  apply List.map_congr_left
  intro run hrun
  have hlt := (Inner.run hrun : r.Inner run (head :: tail)).length_lt
  rw [runNode, nodes, within_congr (Nat.le_of_lt_succ hlt) (Nat.le_refl _)]

theorem ends (r : Nesting) : r.Ends where
  wellFounded := r.inner_wellFounded
  node _ _ _ _ := rfl
  nil _ _ _ := rfl
  cons _ _ _ := nodes_cons

theorem mem_nodes {filled : List NumberedLine} {c : ContentNode} :
    c ∈ r.nodes slide base lines filled ↔
      ∃ run, r.Inner run filled ∧ c = r.runNode slide base lines run := by
  cases filled with
  | nil =>
    refine iff_of_false List.not_mem_nil ?_
    rintro ⟨run, ⟨⟩, _⟩
  | cons head tail =>
    rw [nodes_cons, List.mem_map]
    constructor
    · rintro ⟨run, hrun, rfl⟩
      exact ⟨run, .run hrun, rfl⟩
    · rintro ⟨run, ⟨hrun⟩, rfl⟩
      exact ⟨run, hrun, rfl⟩

end Nesting

end SlideOverflow.Deck
