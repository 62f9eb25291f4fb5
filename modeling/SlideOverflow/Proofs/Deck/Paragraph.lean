import SlideOverflow.Proofs.Deck.Openings

/-! What goes on with a paragraph. What ends it is told by how a line begins, apart from the way in
which the construct of a line is found. The two agree on every construct but those that are looked
for anywhere in a line: a paragraph runs on over images and over the tags of components. -/
namespace SlideOverflow.Deck

/-- A line that goes on with a paragraph. If reading began in it, it would find a paragraph again
unless an image or the tag of a component stands in it. -/
structure Line.GoesOn (l : Line) : Prop where
  filled : l.isEmpty = false
  plain : Construct.ofLine l = .paragraph ↔ l.IsPlain
  marked : Construct.ofLine l ≠ .paragraph →
    (∃ label target, Construct.ofLine l = .image label target) ∨
      ∃ name closing, Construct.ofLine l = .component name closing

private theorem Line.goesOn {l : Line} (h : l.breaksParagraph = false) : l.GoesOn := by
  have hfilled : l.isEmpty = false := by
    rw [breaksParagraph, Bool.or_eq_false_iff, Bool.or_eq_false_iff] at h
    exact h.1.1
  obtain ⟨hblock, hslot, hcomment⟩ := opensNoBlock_of_goesOn h
  by_cases hplain : l.IsPlain
  · have hl := Construct.ofLine_of_isPlain hblock hslot hplain
    rw [hcomment] at hl
    exact ⟨hfilled, iff_of_true hl hplain, fun hne => absurd hl hne⟩
  · have hmarked := Construct.ofLine_of_not_isPlain hblock hplain
    refine ⟨hfilled, iff_of_false (fun hl => ?_) hplain, fun _ => hmarked⟩
    rw [hl] at hmarked
    rcases hmarked with ⟨_, _, himage⟩ | ⟨_, _, hcomponent⟩
    · cases himage
    · cases hcomponent

/-- Of what can begin in a line, only a paragraph gives the node of one. It takes the lines that go
on with it. -/
private theorem readPiece_paragraph {slide number : Nat} {l : Line} {ls : List Line}
    {n : ContentNode}
    (hn : (readPiece slide number l ls).node = some n) (hform : n.isParagraph = true) :
    n.last = number + (ls.takeWhile (!·.breaksParagraph)).length := by
  cases readPiece_makes hn with
  | plain _ hno =>
    rw [hno] at hform
    cases hform
  | list kind => cases hform
  | quote => cases hform
  | paragraph text => simp [plainNode]

def ContentNode.IsUnbroken (s : RawSlide) (n : ContentNode) : Prop :=
  ∀ k, n.first < k → k ≤ n.last → ∃ l ∈ s.lines[k - s.first]?, l.GoesOn

/-- Behind the first line of every paragraph, at any depth, there are only lines that go on with it.
So none of them is blank, and the sole constructs that could begin there are images and tags of
components. -/
theorem RawSlide.body_paragraphs (s : RawSlide) (index : Nat) :
    ∀ n ∈ (s.body index).1, n.Everywhere fun m => m.isParagraph = true → m.IsUnbroken s := by
  intro n hn
  obtain ⟨l, ls, harrives, _, hnode⟩ := exists_origin (s.body_eq index ▸ hn)
  refine .intro (fun hform k hlo hhi => ?_) fun c hc => ?_
  · have hlast := readPiece_paragraph hnode hform
    -- Line `k` is among those that the paragraph takes behind its first line.
    obtain ⟨i, hi⟩ : ∃ i, k - n.first = i + 1 := Nat.exists_eq_add_one.mpr (by omega)
    have htaken : i < (ls.takeWhile (!·.breaksParagraph)).length := by omega
    have hgoes := List.mem_takeWhile_imp (List.getElem_mem htaken)
    have hprefix : ls.takeWhile (!·.breaksParagraph) <+: ls := List.takeWhile_prefix _
    refine ⟨(ls.takeWhile (!·.breaksParagraph))[i], ?_, Line.goesOn (by simpa using hgoes)⟩
    rw [s.line_eq harrives (Nat.le_of_lt hlo), hi, List.getElem?_cons_succ, hprefix.getElem htaken]
    exact Option.mem_def.mpr (List.getElem?_eq_getElem _)
  · refine (RawSlide.body_within hn c hc).imp fun m hnested hform => ?_
    rw [ContentNode.not_isParagraph_of_nested hnested] at hform
    cases hform

theorem RawSlide.body_paragraphs_of_two_lines :
    let s : RawSlide := ⟨1, 2, ["Intro", "and *more*"]⟩
    ∃ n ∈ (s.body 0).1, n.isParagraph = true ∧ n.first < 2 ∧ 2 ≤ n.last ∧
      n.Everywhere fun m => m.isParagraph = true → m.IsUnbroken s := by
  intro s
  obtain ⟨n, hn, hrange⟩ :
      ∃ n ∈ (s.body 0).1, n.isParagraph = true ∧ n.first < 2 ∧ 2 ≤ n.last := by
    decide +kernel
  exact ⟨n, hn, hrange.1, hrange.2.1, hrange.2.2, s.body_paragraphs 0 n hn⟩

/-- An image in the second line of a paragraph, where reading would find it if it began there. -/
theorem Presentation.read_paragraph_over_image :
    ∃ p, (Presentation.read {} {} "Intro\n![a](b.png)".toList).1 = .ok p ∧
      ∃ s ∈ p.slides, ∃ n ∈ s.nodes, n.isParagraph = true ∧ n.first < 2 ∧ 2 ≤ n.last ∧
        ∃ l ∈ s.lines[2 - s.first]?, Construct.ofLine l = .image "a".toList "b.png".toList := by
  decide +kernel

end SlideOverflow.Deck
