import SlideOverflow.Deck.Locate
import SlideOverflow.Proofs.Deck.Nested
import SlideOverflow.Proofs.Deck.NodeTree

/-! Look-ups on a slide that was read from a document. Every range that is found lies in the slide
and holds the lines of the document as they stand; the position of no line is missed. -/
namespace SlideOverflow.Deck

open Text

/-- A slide that was read from the lines of a document. -/
structure Slide.ReadFrom (lines : List Line) (s : Slide) : Prop where
  one_le_first : 1 ≤ s.first
  ordered : s.first ≤ s.last
  last_eq : s.last + 1 = s.first + s.lines.length
  lines_eq : s.lines = linesBetween 1 lines s.first s.last
  nodes : s.NodesFaithful lines

theorem Presentation.readFrom {settings : Settings} {keys : MetadataKeys} {source : List Char}
    {p : Presentation} (h : (Presentation.read settings keys source).1 = .ok p) {s : Slide}
    (hs : s ∈ p.slides) : s.ReadFrom (sourceLines source) := by
  obtain ⟨hsource, hnodes⟩ := Presentation.mem_cut_of_read h hs
  obtain ⟨hone, hordered, hlast, hlines⟩ := cut_slide hsource
  exact ⟨hone, hordered, hlast, hlines, Slide.nodesFaithful_of_mem_cut hsource hnodes⟩

/-- What it means that a range of lines of a slide holds their text as the document has it. -/
structure LineRange.Quotes (lines : List Line) (s : Slide) (r : LineRange) : Prop where
  first_le : s.first ≤ r.first
  ordered : r.first ≤ r.last
  le_last : r.last ≤ s.last
  content_eq : r.content = joinLines (linesBetween 1 lines r.first r.last)

theorem bestMatch_eq_or {α : Type} (plain : α → List Char) (needle : List Char)
    (candidates : List α) : bestMatch plain needle candidates =
      (candidates.find? fun c => plain c == needle).or
        (candidates.find? fun c => agrees (plain c) needle) := by
  rw [bestMatch]
  cases candidates.find? fun c => plain c == needle <;> rfl

theorem mem_of_bestMatch {α : Type} {plain : α → List Char} {needle : List Char}
    {candidates : List α} {c : α} (h : bestMatch plain needle candidates = some c) :
    c ∈ candidates := by
  rw [bestMatch_eq_or] at h
  rcases Option.or_eq_some_iff.mp h with h | ⟨_, h⟩ <;> exact List.mem_of_find?_eq_some h

/-- What is found first in ascending order is the least that can be found. -/
theorem le_of_find?_eq_some {α : Type} {key : α → Nat} {p : α → Bool} {l : List α} {a : α}
    (hl : l.Pairwise fun a b => key a < key b) (h : l.find? p = some a) :
    ∀ b ∈ l, p b = true → key a ≤ key b := by
  obtain ⟨_, front, rest, rfl, hfront⟩ := List.find?_eq_some_iff_append.mp h
  intro b hb hpb
  rcases List.mem_append.mp hb with hb | hb
  · have := hfront b hb
    simp [hpb] at this
  · rcases List.mem_cons.mp hb with rfl | hb
    · exact Nat.le_refl _
    · exact Nat.le_of_lt (List.rel_of_pairwise_cons (List.pairwise_append.mp hl).2.1 hb)

/-! ### Look-ups on a slide -/

namespace Slide

variable {lines : List Line} {s : Slide}

theorem ReadFrom.linesBetween_eq (h : s.ReadFrom lines) {first last : Nat}
    (hfirst : s.first ≤ first) (hlast : last ≤ s.last) :
    linesBetween s.first s.lines first last = linesBetween 1 lines first last := by
  rw [h.lines_eq]
  exact linesBetween_within lines h.one_le_first hfirst hlast

theorem ReadFrom.quotes_node (h : s.ReadFrom lines) {n : ContentNode} (hn : n ∈ s.nodes) :
    n.range.Quotes lines s := by
  have own := (h.nodes.everywhere n hn).own
  exact ⟨own.first_le, own.ordered, own.le_last, own.content_eq⟩

theorem mem_of_findConstruct {t : Target} {text : Option String} {r : LineRange}
    (hr : s.findConstruct t text = some r) : ∃ n ∈ s.nodes, n.range = r := by
  obtain ⟨n, hn, rfl⟩ := Option.map_eq_some_iff.mp hr
  have hmem : n ∈ s.nodes.filter t.isMet := by
    rcases Option.or_eq_some_iff.mp ((Option.or_eq_orElse ..).trans hn) with hfound | ⟨_, hhead⟩
    · exact List.mem_of_find?_eq_some hfound
    · exact List.mem_of_head? hhead
  exact ⟨n, (List.mem_filter.mp hmem).1, rfl⟩

theorem mem_of_findParagraph {text : String} {r : LineRange} (hr : s.findParagraph text = some r) :
    ∃ n ∈ s.nodes, n.range = r := by
  rw [findParagraph] at hr
  split at hr
  · cases hr
  · obtain ⟨n, hn, rfl⟩ := Option.map_eq_some_iff.mp hr
    exact ⟨n, (List.mem_filter.mp (mem_of_bestMatch hn)).1, rfl⟩

theorem line?_eq (s : Slide) (number : Nat) :
    s.source.line? number = if s.first ≤ number then s.lines[number - s.first]? else none := rfl

private theorem lineAt?_eq {number : Nat} (h : s.first ≤ number) :
    s.lineAt? (number - s.first) = s.source.line? number := by
  rw [lineAt?, if_pos (by omega), line?_eq, if_pos h]
  congr 1
  omega

/-- Every number of a slide is the position of a line, and no other number is. -/
theorem ReadFrom.exists_line_iff (h : s.ReadFrom lines) {number : Nat} :
    (∃ l, s.source.line? number = some l) ↔ s.first ≤ number ∧ number ≤ s.last := by
  have hlast := h.last_eq
  rw [line?_eq]
  constructor
  · rintro ⟨l, hl⟩
    split at hl
    · next hlo =>
      have hlt := (List.getElem?_eq_some_iff.mp hl).1
      omega
    · cases hl
  · rintro ⟨hlo, hhi⟩
    have hlt : number - s.first < s.lines.length := by omega
    rw [if_pos hlo]
    exact ⟨_, List.getElem?_eq_getElem hlt⟩

private theorem mem_numbered_lines {p : NumberedLine} :
    p ∈ numbered s.first s.lines ↔ s.source.line? p.1 = some p.2 := by
  rw [mem_numbered_iff, line?_eq]
  split
  · next hlo => exact and_iff_right hlo
  · next hlo => exact iff_of_false (fun hp => hlo hp.1) nofun

/-- The line that is found holds the piece of the text, and no line in front of it does. -/
theorem findText_first {text : String} {r : LineRange} (hr : s.findText text = some r) :
    r.last = r.first ∧ s.source.line? r.first = some r.content ∧
      (trim text.toList).take searchLength <:+: r.content.toList ∧
      ∀ k, ∀ l ∈ s.source.line? k, (trim text.toList).take searchLength <:+: l.toList →
        r.first ≤ k := by
  rw [findText] at hr
  split at hr
  · cases hr
  · obtain ⟨⟨number, l⟩, hl, rfl⟩ := Option.map_eq_some_iff.mp hr
    have hleast := le_of_find?_eq_some (numbered_pairwise s.first s.lines) hl
    refine ⟨rfl, mem_numbered_lines.mp (List.mem_of_find?_eq_some hl), ?_, fun k m hm hpiece => ?_⟩
    · exact (occursIn_iff _ _).mp (by simpa using List.find?_some hl)
    · exact hleast (k, m) (mem_numbered_lines.mpr hm) ((occursIn_iff _ _).mpr hpiece)

theorem ReadFrom.findText_quotes (h : s.ReadFrom lines) {text : String} {r : LineRange}
    (hr : s.findText text = some r) : r.Quotes lines s := by
  obtain ⟨hsingle, hline, _, _⟩ := findText_first hr
  obtain ⟨hlo, hhi⟩ := h.exists_line_iff.mp ⟨_, hline⟩
  refine ⟨hlo, hsingle.ge, hsingle ▸ hhi, ?_⟩
  have hone : linesBetween s.first s.lines r.first r.first = [r.content] := by
    rw [line?_eq, if_pos hlo] at hline
    obtain ⟨hlt, hget⟩ := List.getElem?_eq_some_iff.mp hline
    rw [linesBetween, List.drop_eq_getElem_cons hlt, hget, Nat.add_sub_cancel_left]
    rfl
  rw [hsingle, ← h.linesBetween_eq hlo hhi, hone]
  rfl

/-! ### Items -/

/-- Line `number` is an item of the list `n` of a slide, and `plain` is its plain text. -/
structure IsItemOf (s : Slide) (n : ContentNode) (number : Nat) (plain : List Char) : Prop where
  mem : n ∈ s.nodes
  isList : n.isList = true
  covers : n.Covers number
  line : ∃ l ∈ s.source.line? number, ∃ text ∈ l.itemText?, plainText text = plain

/-- The lines of a node are found, all of them and in order. -/
theorem ReadFrom.exists_linesOf (h : s.ReadFrom lines) {n : ContentNode} (hn : n ∈ s.nodes) :
    ∃ own, s.linesOf n = .ok own ∧ own.Pairwise (fun p q => p.1 < q.1) ∧
      ∀ p : NumberedLine, p ∈ own ↔ n.Covers p.1 ∧ s.source.line? p.1 = some p.2 := by
  have hrange := h.quotes_node hn
  have hfirst : s.first ≤ n.first := hrange.first_le
  have hlast : n.last ≤ s.last := hrange.le_last
  have hcovers (number : Nat) :
      number ∈ List.range' n.first (n.last + 1 - n.first) ↔ n.Covers number := by
    rw [List.mem_range'_1, ContentNode.Covers]
    omega
  -- What is found for a single number.
  let find (number : Nat) : Outcome NumberedLine := do
    return (number, ← Outcome.ofOption .noPosition (s.lineAt? (number - s.first)))
  have hfind (number : Nat) (p : NumberedLine) :
      find number = .ok p ↔ p.1 = number ∧ s.lineAt? (number - s.first) = some p.2 := by
    cases hl : s.lineAt? (number - s.first) with
    | none => simp [find, hl, Outcome.ofOption, bind, Except.bind]
    | some l =>
      simp [find, hl, Outcome.ofOption, bind, Except.bind, pure, Except.pure, Prod.ext_iff, eq_comm]
  obtain ⟨own, hown⟩ : ∃ own, s.linesOf n = .ok own := by
    refine Outcome.exists_mapM_eq_ok_iff.mpr fun number hnumber => ?_
    have hnumber := (hcovers number).mp hnumber
    have hlo := Nat.le_trans hfirst hnumber.1
    obtain ⟨l, hl⟩ := h.exists_line_iff.mpr ⟨hlo, Nat.le_trans hnumber.2 hlast⟩
    exact ⟨(number, l), (hfind number _).mpr ⟨rfl, (lineAt?_eq hlo).trans hl⟩⟩
  refine ⟨own, hown, ?_, fun p => ?_⟩
  · refine Outcome.pairwise_of_mapM_eq_ok hown (List.pairwise_lt_range' (s := n.first)) ?_
    intro j k hlt p q hp hq
    rwa [((hfind j p).mp hp).1, ((hfind k q).mp hq).1]
  · rw [Outcome.mem_of_mapM_eq_ok hown]
    constructor
    · rintro ⟨number, hnumber, hp⟩
      obtain ⟨rfl, hl⟩ := (hfind number p).mp hp
      have hnumber := (hcovers p.1).mp hnumber
      exact ⟨hnumber, (lineAt?_eq (Nat.le_trans hfirst hnumber.1)).symm.trans hl⟩
    · rintro ⟨hp, hl⟩
      refine ⟨p.1, (hcovers p.1).mpr hp, (hfind p.1 p).mpr ⟨rfl, ?_⟩⟩
      exact (lineAt?_eq (Nat.le_trans hfirst hp.1)).trans hl

/-- The items of a slide are found, all of them and in order. -/
theorem ReadFrom.exists_items (h : s.ReadFrom lines) :
    ∃ items, s.items = .ok items ∧ items.Pairwise (fun a b => a.1 < b.1) ∧
      ∀ number plain, (number, plain) ∈ items ↔ ∃ n, s.IsItemOf n number plain := by
  have hfound {n : ContentNode} (hn : n ∈ s.nodes) {own : List NumberedLine}
      (hown : s.linesOf n = .ok own) : own.Pairwise (fun p q => p.1 < q.1) ∧
        ∀ p : NumberedLine, p ∈ own ↔ n.Covers p.1 ∧ s.source.line? p.1 = some p.2 := by
    obtain ⟨_, hsame, hspec⟩ := h.exists_linesOf hn
    rw [hown] at hsame
    exact Except.ok.inj hsame ▸ hspec
  have hlists {n : ContentNode} (hn : n ∈ s.nodes.filter ContentNode.isList) : n ∈ s.nodes :=
    (List.mem_filter.mp hn).1
  obtain ⟨owns, howns⟩ := Outcome.exists_mapM_eq_ok_iff.mpr
    fun n hn => (h.exists_linesOf (hlists hn)).imp fun _ hown => hown.1
  refine ⟨_, by rw [items, howns]; rfl, ?_, fun number plain => ?_⟩
  · -- Each list ends in front of the next one, so the order of their lines is that of the lists.
    have hordered : owns.flatten.Pairwise fun p q => p.1 < q.1 := by
      refine List.pairwise_flatten.mpr ⟨fun own hown => ?_, ?_⟩
      · obtain ⟨n, hn, hlines⟩ := (Outcome.mem_of_mapM_eq_ok howns).mp hown
        exact (hfound (hlists hn) hlines).1
      · have hnodes := (h.nodes.ascending.filter ContentNode.isList).imp_of_mem
          (S := fun m n => m ∈ s.nodes ∧ n ∈ s.nodes ∧ m.last < n.first)
          fun hm hn hlt => ⟨hlists hm, hlists hn, hlt⟩
        refine Outcome.pairwise_of_mapM_eq_ok howns hnodes ?_
        rintro m n ⟨hm, hn, hlt⟩ own other hown hother p hp q hq
        have hbefore := (((hfound hm hown).2 p).mp hp).1.2
        have hbehind := (((hfound hn hother).2 q).mp hq).1.1
        omega
    refine List.pairwise_filterMap.mpr (hordered.imp fun {p q} hlt a ha b hb => ?_)
    obtain ⟨_, _, rfl⟩ := Option.map_eq_some_iff.mp ha
    obtain ⟨_, _, rfl⟩ := Option.map_eq_some_iff.mp hb
    exact hlt
  · rw [List.mem_filterMap]
    constructor
    · rintro ⟨p, hp, hitem⟩
      obtain ⟨text, htext, heq⟩ := Option.map_eq_some_iff.mp hitem
      obtain ⟨rfl, rfl⟩ := Prod.mk.inj heq
      obtain ⟨own, hown, hp⟩ := List.mem_flatten.mp hp
      obtain ⟨n, hn, hlines⟩ := (Outcome.mem_of_mapM_eq_ok howns).mp hown
      obtain ⟨hcovers, hl⟩ := ((hfound (hlists hn) hlines).2 p).mp hp
      exact ⟨n, hlists hn, (List.mem_filter.mp hn).2, hcovers, p.2, hl, text, htext, rfl⟩
    · rintro ⟨n, hn, hlist, hcovers, l, hl, text, htext, rfl⟩
      obtain ⟨own, hlines, _⟩ := h.exists_linesOf hn
      have hp : (number, l) ∈ own := ((hfound hn hlines).2 (number, l)).mpr ⟨hcovers, hl⟩
      have hown : own ∈ owns := (Outcome.mem_of_mapM_eq_ok howns).mpr
        ⟨n, List.mem_filter.mpr ⟨hn, hlist⟩, hlines⟩
      exact ⟨(number, l), List.mem_flatten.mpr ⟨own, hown, hp⟩,
        Option.map_eq_some_iff.mpr ⟨text, htext, rfl⟩⟩

end Slide

/-! ### Wrapped lines -/

structure Line.Continues (l item : Line) : Prop where
  filled : l.isEmpty = false
  noItem : l.isItem = false
  deeper : item.indent < l.indent

private theorem wraps_iff {item l : Line} : wraps item.indent l = true ↔ l.Continues item := by
  rw [wraps, Bool.and_eq_true, Bool.and_eq_true, Bool.not_eq_true', Bool.not_eq_true',
    decide_eq_true_eq]
  exact ⟨fun h => ⟨h.1.1, h.1.2, h.2⟩, fun h => ⟨⟨h.filled, h.noItem⟩, h.deeper⟩⟩

structure RawSlide.ItemSpans (s : RawSlide) (item : Line) (first last : Nat) : Prop where
  opening : s.line? first = some item
  ordered : first ≤ last
  inside : ∀ k, first < k → k ≤ last → ∃ l ∈ s.line? k, l.Continues item
  stops : ∀ l ∈ s.line? (last + 1), ¬l.Continues item

/-- What follows the elements that are taken is not to be taken. -/
private theorem not_of_getElem?_length_takeWhile {α : Type} {p : α → Bool} {l : List α} {a : α}
    (h : l[(l.takeWhile p).length]? = some a) : p a = false := by
  induction l with
  | nil => cases h
  | cons b l ih =>
    by_cases hb : p b = true
    · rw [List.takeWhile_cons_of_pos hb, List.length_cons, List.getElem?_cons_succ] at h
      exact ih h
    · rw [List.takeWhile_cons_of_neg hb] at h
      cases h
      simpa using hb

namespace Slide

variable {lines : List Line} {s : Slide}

/-- The end of an item is found, and it lies in the slide. -/
theorem ReadFrom.exists_itemEnd (h : s.ReadFrom lines) {number : Nat} {item : Line}
    (hitem : s.source.line? number = some item) :
    ∃ last : Nat, s.itemEnd number = .ok last ∧ s.source.ItemSpans item number last := by
  have hlo := (h.exists_line_iff.mp ⟨item, hitem⟩).1
  let behind := s.lines.drop (number - s.first + 1)
  let wrapped := behind.takeWhile (wraps item.indent)
  have hline (i : Nat) : s.source.line? (number + 1 + i) = behind[i]? := by
    rw [line?_eq, if_pos (by omega), List.getElem?_drop]
    congr 1
    omega
  refine ⟨number + wrapped.length, ?_, hitem, Nat.le_add_right _ _, fun k hk hle => ?_, ?_⟩
  · have hbehind : s.linesBehind (number - s.first) = behind := by
      rw [linesBehind, if_pos (by omega)]
      congr 1
      omega
    rw [itemEnd, lineAt?_eq hlo, hitem, hbehind]
    rfl
  · obtain ⟨i, rfl⟩ := Nat.exists_eq_add_of_lt hk
    have hi : i < wrapped.length := by omega
    have hprefix : wrapped <+: behind := List.takeWhile_prefix _
    refine ⟨wrapped[i], ?_, wraps_iff.mp (List.mem_takeWhile_imp (List.getElem_mem hi))⟩
    rw [Nat.add_right_comm, hline, hprefix.getElem hi]
    exact Option.mem_def.mpr (List.getElem?_eq_getElem _)
  · intro l hl hcontinues
    rw [Nat.add_right_comm, hline] at hl
    have hstop := not_of_getElem?_length_takeWhile hl
    rw [wraps_iff.mpr hcontinues] at hstop
    cases hstop

theorem ReadFrom.itemSpans_within (h : s.ReadFrom lines) {item : Line} {first last : Nat}
    (hspans : s.source.ItemSpans item first last) : s.first ≤ first ∧ last ≤ s.last := by
  have hfirst := h.exists_line_iff.mp ⟨item, hspans.opening⟩
  refine ⟨hfirst.1, ?_⟩
  rcases Nat.eq_or_lt_of_le hspans.ordered with rfl | hlt
  · exact hfirst.2
  · obtain ⟨l, hl, _⟩ := hspans.inside last hlt (Nat.le_refl _)
    exact (h.exists_line_iff.mp ⟨l, hl⟩).2

/-- Of the items in order, the one that matches best is found with the lines that continue it. -/
theorem ReadFrom.findItem_spec (h : s.ReadFrom lines) (text : String) :
    ∃ items : List (Nat × List Char), items.Pairwise (fun a b => a.1 < b.1) ∧
      (∀ number plain, (number, plain) ∈ items ↔ ∃ n, s.IsItemOf n number plain) ∧
      ((plainText text.toList = [] ∨ bestMatch (·.2) (plainText text.toList) items = none) ∧
          s.findItem text = .ok none ∨
        plainText text.toList ≠ [] ∧ ∃ i ∈ bestMatch (·.2) (plainText text.toList) items,
          ∃ item last, s.source.ItemSpans item i.1 last ∧ s.findItem text =
            .ok (some ⟨i.1, last, joinLines (linesBetween s.first s.lines i.1 last)⟩)) := by
  obtain ⟨items, hitems, hordered, hmem⟩ := h.exists_items
  refine ⟨items, hordered, hmem, ?_⟩
  rw [findItem]
  by_cases hempty : plainText text.toList = []
  · exact .inl ⟨.inl hempty, by rw [if_pos (List.isEmpty_iff.mpr hempty)]; rfl⟩
  · rw [if_neg (by simpa using hempty), hitems]
    dsimp only [bind, Except.bind]
    cases hbest : bestMatch (·.2) (plainText text.toList) items with
    | none => exact .inl ⟨.inr rfl, rfl⟩
    | some i =>
      obtain ⟨n, hitem⟩ := (hmem i.1 i.2).mp (mem_of_bestMatch hbest)
      obtain ⟨item, hl, _⟩ := hitem.line
      obtain ⟨last, hlast, hspans⟩ := h.exists_itemEnd hl
      exact .inr ⟨hempty, i, rfl, item, last, hspans, by simp only [hlast]; rfl⟩

/-- What is found is an item of a list. -/
theorem ReadFrom.exists_isItemOf (h : s.ReadFrom lines) {text : String} {r : LineRange}
    (hr : s.findItem text = .ok (some r)) : ∃ n plain, s.IsItemOf n r.first plain := by
  obtain ⟨items, _, hmem, ⟨_, hfind⟩ | ⟨_, i, hbest, _, _, _, hfind⟩⟩ := h.findItem_spec text
  · rw [hfind] at hr
    cases hr
  · rw [hfind] at hr
    cases hr
    exact ((hmem i.1 i.2).mp (mem_of_bestMatch hbest)).imp fun n hn => ⟨i.2, hn⟩

/-- The item that a text came from is looked for without failing. -/
theorem ReadFrom.exists_findItem (h : s.ReadFrom lines) (text : String) :
    ∃ found, s.findItem text = .ok found ∧ ∀ r, found = some r → r.Quotes lines s := by
  obtain ⟨_, _, _, ⟨_, hnone⟩ | ⟨_, i, _, item, last, hspans, hsome⟩⟩ := h.findItem_spec text
  · exact ⟨none, hnone, fun r hr => nomatch hr⟩
  · refine ⟨_, hsome, fun r hr => ?_⟩
    cases hr
    obtain ⟨hlo, hhi⟩ := h.itemSpans_within hspans
    exact ⟨hlo, hspans.ordered, hhi, congrArg joinLines (h.linesBetween_eq hlo hhi)⟩

theorem ReadFrom.findItem_quotes (h : s.ReadFrom lines) {text : String} {r : LineRange}
    (hr : s.findItem text = .ok (some r)) : r.Quotes lines s := by
  obtain ⟨found, hfound, hquotes⟩ := h.exists_findItem text
  rw [hfound] at hr
  exact hquotes r (Except.ok.inj hr)

end Slide

end SlideOverflow.Deck
