import SlideOverflow.Proofs.Deck.Lookup

/-! The list item that a rendered text came from. Among the items of all lists of a slide, one whose
plain text is the text itself comes before all that only share their beginning with it. The lines
that continue the item are looked for in the slide alone, and are still lines of its list. -/
namespace SlideOverflow.Deck

open Text

/-! ### The best match -/

/-- One of two texts continues the other, and neither is empty. -/
def Agree (source rendered : List Char) : Prop :=
  source ≠ [] ∧ rendered ≠ [] ∧ (rendered <+: source ∨ source <+: rendered)

theorem agrees_iff {source rendered : List Char} :
    agrees source rendered = true ↔ Agree source rendered := by
  simp [agrees, Agree, and_assoc]

instance (source rendered : List Char) : Decidable (Agree source rendered) :=
  decidable_of_iff _ agrees_iff

theorem Agree.refl {text : List Char} (h : text ≠ []) : Agree text text :=
  ⟨h, h, .inl List.prefix_rfl⟩

section BestMatch

variable {α : Type} {plain : α → List Char} {needle : List Char} {candidates : List α}

private theorem bestMatch_eq_none_iff (hne : needle ≠ []) :
    bestMatch plain needle candidates = none ↔ ∀ c ∈ candidates, ¬Agree (plain c) needle := by
  rw [bestMatch_eq_or, Option.or_eq_none_iff, List.find?_eq_none, List.find?_eq_none]
  constructor
  · exact fun hnone c hc hagree => hnone.2 c hc (agrees_iff.mpr hagree)
  · refine fun hnone => ⟨fun c hc heq => hnone c hc ?_, fun c hc hagree => ?_⟩
    · rw [beq_iff_eq.mp heq]
      exact .refl hne
    · exact hnone c hc (agrees_iff.mp hagree)

/-- The first candidate that equals the text is the best match; without one, it is the first that
agrees with the text. -/
private theorem bestMatch_first {key : α → Nat} (h : candidates.Pairwise fun a b => key a < key b)
    {c : α} (hc : bestMatch plain needle candidates = some c) :
    plain c = needle ∧ (∀ d ∈ candidates, plain d = needle → key c ≤ key d) ∨
      (∀ d ∈ candidates, plain d ≠ needle) ∧ Agree (plain c) needle ∧
        ∀ d ∈ candidates, Agree (plain d) needle → key c ≤ key d := by
  rw [bestMatch_eq_or] at hc
  rcases Option.or_eq_some_iff.mp hc with hc | ⟨hnone, hc⟩
  · have heq : plain c = needle := by simpa using List.find?_some hc
    have hleast := le_of_find?_eq_some h hc
    exact .inl ⟨heq, fun d hmem hd => hleast d hmem (beq_iff_eq.mpr hd)⟩
  · have hfound : agrees (plain c) needle = true := by simpa using List.find?_some hc
    have hleast := le_of_find?_eq_some h hc
    refine .inr ⟨fun d hd => ?_, agrees_iff.mp hfound, fun d hd hagree =>
      hleast d hd (agrees_iff.mpr hagree)⟩
    simpa using List.find?_eq_none.mp hnone d hd

end BestMatch

/-! ### Items and their lists -/

private theorem Line.Continues.isIndented {l item : Line} (h : l.Continues item) :
    l.isIndented = true := by
  have hdeeper := h.deeper
  rw [Line.isIndented]
  cases hl : l.toList with
  | nil =>
    rw [Line.indent, Line.indent, hl] at hdeeper
    simp at hdeeper
  | cons c cs =>
    cases hc : isBlank c with
    | true => simp [hc]
    | false =>
      rw [Line.indent, Line.indent, hl, List.takeWhile_cons_of_neg (by simp [hc])] at hdeeper
      simp at hdeeper

/-- A list takes all indented lines behind an item, so an item does not reach beyond its list. -/
private theorem RawSlide.ItemSpans.last_le {s : RawSlide} {index : Nat} {n : ContentNode}
    (hn : n ∈ (s.body index).1) (hlist : n.isList = true) {item : Line} {first last : Nat}
    (hfirst : n.Covers first) (h : s.ItemSpans item first last) : last ≤ n.last := by
  obtain ⟨kind, l, ls, harrives, hitem, heq⟩ := body_list hn hlist
  have hlongest := listTail_longest kind ls
  have hlast : n.last = n.first + listTail kind ls := by
    rw [heq]
    simp [listNode, Nesting.node, Nat.min_eq_left hlongest.le_length]
  have hspans := hlongest.spans harrives hitem
  rw [← hlast] at hspans
  refine hspans.longest last fun k hlo hhi => ?_
  by_cases hk : k ≤ first
  · exact hspans.inside k hlo (Nat.le_trans hk hfirst.2)
  · obtain ⟨m, hm, hcontinues⟩ := h.inside k (by omega) hhi
    refine ⟨m, hm, .inr (.inl ?_)⟩
    simp [ListKind.continuation, hcontinues.filled, hcontinues.isIndented]

namespace Slide

inductive IsBestItem (s : Slide) (needle : List Char) (number : Nat) : Prop where
  | equal {n : ContentNode} : s.IsItemOf n number needle →
      (∀ m k, s.IsItemOf m k needle → number ≤ k) → IsBestItem s needle number
  | agrees {n : ContentNode} {plain : List Char} : (∀ m k, ¬s.IsItemOf m k needle) →
      s.IsItemOf n number plain → Agree plain needle →
      (∀ m k other, s.IsItemOf m k other → Agree other needle → number ≤ k) →
      IsBestItem s needle number

structure LocatesItem (s : Slide) (needle : List Char) (r : LineRange) : Prop where
  best : s.IsBestItem needle r.first
  spans : ∃ item, s.source.ItemSpans item r.first r.last
  inList : ∀ n plain, s.IsItemOf n r.first plain → n.first ≤ r.first ∧ r.last ≤ n.last
  content_eq : r.content = joinLines (linesBetween s.first s.lines r.first r.last)

/-- An item is found for every text, unless no item of the slide agrees with it in plain text. -/
theorem findItem_locates {settings : Settings} {keys : MetadataKeys} {source : List Char}
    {p : Presentation} (hread : (Presentation.read settings keys source).1 = .ok p) {s : Slide}
    (hs : s ∈ p.slides) (text : String) :
    ∃ found, s.findItem text = .ok found ∧
      (found = none ↔ plainText text.toList = [] ∨
        ∀ n number plain, s.IsItemOf n number plain → ¬Agree plain (plainText text.toList)) ∧
      ∀ r ∈ found, s.LocatesItem (plainText text.toList) r := by
  have h := Presentation.readFrom hread hs
  have hnodes := (Presentation.mem_cut_of_read hread hs).2
  obtain ⟨items, hordered, hmem, hspec⟩ := h.findItem_spec text
  have hitem (i : Nat × List Char) : i ∈ items ↔ ∃ n, s.IsItemOf n i.1 i.2 := hmem i.1 i.2
  have hnone (hne : plainText text.toList ≠ []) :
      bestMatch (·.2) (plainText text.toList) items = none ↔
        ∀ n number plain, s.IsItemOf n number plain → ¬Agree plain (plainText text.toList) := by
    rw [bestMatch_eq_none_iff hne]
    constructor
    · exact fun hall n number plain hn => hall (number, plain) ((hmem number plain).mpr ⟨n, hn⟩)
    · rintro hall ⟨number, plain⟩ hi
      obtain ⟨n, hn⟩ := (hmem number plain).mp hi
      exact hall n number plain hn
  rcases hspec with ⟨hmiss, hfind⟩ | ⟨hne, i, hbest, item, last, hspans, hfind⟩
  · refine ⟨none, hfind, iff_of_true rfl ?_, fun r hr => by cases hr⟩
    by_cases hempty : plainText text.toList = []
    · exact .inl hempty
    · exact .inr ((hnone hempty).mp (hmiss.resolve_left hempty))
  · refine ⟨_, hfind, iff_of_false nofun ?_, fun r hr => ?_⟩
    · rintro (hempty | hall)
      · exact hne hempty
      · rw [(hnone hne).mpr hall] at hbest
        cases hbest
    · cases hr
      obtain ⟨n, hn⟩ := (hitem i).mp (mem_of_bestMatch hbest)
      refine ⟨?_, ⟨item, hspans⟩, fun m plain hm => ⟨hm.covers.1, ?_⟩, rfl⟩
      · rcases bestMatch_first hordered hbest with ⟨heq, hleast⟩ | ⟨hothers, hagree, hleast⟩
        · refine .equal (heq ▸ hn) fun m k hm => ?_
          exact hleast (k, _) ((hmem k _).mpr ⟨m, hm⟩) rfl
        · refine .agrees (fun m k hm => ?_) hn hagree fun m k other hm hother => ?_
          · exact hothers (k, _) ((hmem k _).mpr ⟨m, hm⟩) rfl
          · exact hleast (k, other) ((hmem k other).mpr ⟨m, hm⟩) hother
      · exact hspans.last_le (hnodes ▸ hm.mem) hm.isList hm.covers

/-- The item with the very text, in the second of two lists, and the line that continues it. The
first list has an item that begins with the text. -/
theorem findItem_locates_of_equal_item :
    let source := "- alphabet\n\nText\n\n- **alpha**\n  more".toList
    let range : LineRange := ⟨5, 6, "- **alpha**\n  more"⟩
    ∃ p, (Presentation.read {} {} source).1 = .ok p ∧ ∃ s ∈ p.slides,
      s.findItem "alpha" = .ok (some range) ∧ s.LocatesItem (plainText "alpha".toList) range := by
  intro source range
  have hfinds : (Presentation.read {} {} source).1.toOption.bind (fun p =>
      p.slides.head?.map fun s => (s.findItem "alpha").toOption) = some (some (some range)) := by
    decide +kernel
  obtain ⟨p, hp, hfinds⟩ := Option.bind_eq_some_iff.mp hfinds
  obtain ⟨s, hs, hfinds⟩ := Option.map_eq_some_iff.mp hfinds
  have hread := Outcome.toOption_eq_some_iff.mp hp
  have hmem := List.mem_of_head? hs
  obtain ⟨found, hfound, _, hlocates⟩ := findItem_locates hread hmem "alpha"
  rw [hfound] at hfinds
  cases hfinds
  exact ⟨p, hread, s, hmem, hfound, hlocates range rfl⟩

end Slide

end SlideOverflow.Deck
