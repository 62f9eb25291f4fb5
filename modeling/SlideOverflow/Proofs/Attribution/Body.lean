import SlideOverflow.Proofs.Attribution.Strategies

/-! Attribution to the body of a slide. Nodes are read from the body alone, so whatever is found
among them lies behind the metadata. A piece of text is looked for in all lines of the slide, and a
line of the metadata is taken for its origin where the piece occurs in one. -/
namespace SlideOverflow.Attribution

open Text Deck

/-- What it means that a slide begins with metadata, which ends with the separator that closes it.
-/
structure HasMetadata (s : Slide) (metadata : List Line) : Prop where
  lines_eq : ∃ body, s.lines = metadata ++ body
  closed : ∃ opening block closing, metadata = opening :: (block ++ [closing]) ∧
    opening.isSeparator = true ∧ (∀ l ∈ block, l.isSeparator = false) ∧ closing.isSeparator = true

structure InBody (s : Slide) (metadata : List Line) (r : LineRange) : Prop where
  behind : s.first + metadata.length ≤ r.first
  ordered : r.first ≤ r.last
  le_last : r.last ≤ s.last

def OccursIn (text : String) (l : Line) : Prop :=
  (trim text.toList).take searchLength <:+: l.toList

instance (text : String) (l : Line) : Decidable (OccursIn text l) :=
  decidable_of_iff _ (occursIn_iff ((trim text.toList).take searchLength) l.toList)

namespace HasMetadata

variable {lines metadata : List Line} {s : Slide} {r : LineRange}

private theorem behind (hmeta : HasMetadata s metadata) (h : s.ReadFrom lines) {n : ContentNode}
    (hn : n ∈ s.nodes) : s.first + metadata.length ≤ n.first := by
  obtain ⟨body, hlines⟩ := hmeta.lines_eq
  obtain ⟨opening, block, closing, rfl, ho, hb, hc⟩ := hmeta.closed
  have hbehind := h.nodes.behindMetadata (by simpa using hlines) ho hb hc n hn
  rw [List.length_cons, List.length_append, List.length_singleton]
  exact hbehind

private theorem inBody_node (hmeta : HasMetadata s metadata) (h : s.ReadFrom lines)
    (hr : ∃ n ∈ s.nodes, n.range = r) : InBody s metadata r := by
  obtain ⟨n, hn, rfl⟩ := hr
  have hquotes := h.quotes_node hn
  exact ⟨hmeta.behind h hn, hquotes.ordered, hquotes.le_last⟩

/-- An item stands in a list, so it stands behind the metadata as the list does. -/
private theorem inBody_item (hmeta : HasMetadata s metadata) (h : s.ReadFrom lines) {text : String}
    (hr : s.findItem text = .ok (some r)) : InBody s metadata r := by
  obtain ⟨n, plain, hitem⟩ := h.exists_isItemOf hr
  have hquotes := h.findItem_quotes hr
  exact ⟨Nat.le_trans (hmeta.behind h hitem.mem) hitem.covers.1, hquotes.ordered, hquotes.le_last⟩

/-- The metadata takes the first numbers of the slide. -/
private theorem mem_iff (hmeta : HasMetadata s metadata) {l : Line} :
    l ∈ metadata ↔ ∃ k, s.source.line? k = some l ∧ k < s.first + metadata.length := by
  obtain ⟨body, hlines⟩ := hmeta.lines_eq
  constructor
  · intro hl
    obtain ⟨i, hi, rfl⟩ := List.mem_iff_getElem.mp hl
    refine ⟨s.first + i, ?_, Nat.add_lt_add_left hi _⟩
    rw [Slide.line?_eq, if_pos (Nat.le_add_right _ _), hlines, Nat.add_sub_cancel_left,
      List.getElem?_append_left hi, List.getElem?_eq_getElem hi]
  · rintro ⟨k, hk, hlt⟩
    rw [Slide.line?_eq] at hk
    split at hk
    · rw [hlines, List.getElem?_append_left (by omega)] at hk
      exact List.mem_of_getElem? hk
    · cases hk

/-- A text is found in the body if and only if it does not occur in the metadata. -/
private theorem inBody_text_iff (hmeta : HasMetadata s metadata) (h : s.ReadFrom lines)
    {text : String} (hr : s.findText text = some r) :
    InBody s metadata r ↔ ∀ l ∈ metadata, ¬OccursIn text l := by
  obtain ⟨hsingle, hline, hoccurs, hleast⟩ := Slide.findText_first hr
  have hquotes := h.findText_quotes hr
  constructor
  · intro hbody l hl hoccurs
    obtain ⟨k, hk, hlt⟩ := hmeta.mem_iff.mp hl
    have hle := hleast k l hk hoccurs
    have hbehind := hbody.behind
    omega
  · intro hnone
    refine ⟨Nat.le_of_not_lt fun hlt => ?_, hquotes.ordered, hquotes.le_last⟩
    exact hnone r.content (hmeta.mem_iff.mpr ⟨r.first, hline, hlt⟩) hoccurs

end HasMetadata

namespace Strategy

variable {metadata : List Line} {s : Slide} {r : LineRange} {e : Element} {tagClass : TagClass}

/-- Whatever the cascade, the lines that it finds lie in the body, unless the strategy that finds
them looks for a text whose first characters occur in the metadata, or takes the whole slide. -/
theorem firstFinding_inBody_iff {settings : Settings} {keys : MetadataKeys} {source : List Char}
    {p : Presentation} (hread : (Presentation.read settings keys source).1 = .ok p)
    (hs : s ∈ p.slides) (hmeta : HasMetadata s metadata) {cascade : List Strategy}
    {strategy : Strategy}
    (hfind : firstFinding s tagClass e cascade = .ok (some (strategy, r)))
    (hpart : strategy ≠ .wholeSlide) :
    InBody s metadata r ↔
      ∀ text, strategy.LooksFor e text → ∀ l ∈ metadata, ¬OccursIn text l := by
  have h := Presentation.readFrom hread hs
  rcases find_cases hpart (firstFinding_eq_some hfind) with
    ⟨hnode, hr | ⟨text, hr⟩⟩ | ⟨text, htext, hr⟩
  · exact iff_of_true (hmeta.inBody_node h hr) fun text htext => absurd htext (hnode text)
  · exact iff_of_true (hmeta.inBody_item h hr) fun text htext => absurd htext (hnode text)
  · rw [hmeta.inBody_text_iff h hr]
    constructor
    · exact fun hnone other hother => htext.unique hother ▸ hnone
    · exact fun hnone => hnone text htext

/-- An inline element whose text occurs in the body only. -/
theorem firstFinding_inBody_of_strong :
    let source := "---\nlayout: center\n---\n# A\nIt is **strong**".toList
    let metadata : List Line := ["---", "layout: center", "---"]
    let e : Element := { tag := .text "strong", selector := .text "strong", text := .text "strong" }
    let range : LineRange := ⟨5, 5, "It is **strong**"⟩
    ∃ p, (Presentation.read {} {} source).1 = .ok p ∧ ∃ s ∈ p.slides, HasMetadata s metadata ∧
      firstFinding s (.ofTag "strong") e cascade = .ok (some (.inlineText, range)) ∧
        InBody s metadata range := by
  intro source metadata e range
  have hfinds : ∃ p, (Presentation.read {} {} source).1 = .ok p ∧ ∃ s ∈ p.slides,
      s.lines = metadata ++ ["# A", "It is **strong**"] ∧
        (firstFinding s (.ofTag "strong") e cascade).toOption =
          some (some (.inlineText, range)) := by
    decide +kernel
  obtain ⟨p, hread, s, hs, hlines, hfind⟩ := hfinds
  have hmeta : HasMetadata s metadata :=
    ⟨⟨_, hlines⟩, "---", ["layout: center"], "---", rfl, by decide, by decide, by decide⟩
  have hfind := Outcome.toOption_eq_some_iff.mp hfind
  refine ⟨p, hread, s, hs, hmeta, hfind, ?_⟩
  refine (firstFinding_inBody_iff hread hs hmeta hfind (by decide)).mpr fun text htext => ?_
  obtain rfl := htext.unique (.inlineText rfl)
  decide

/-- An inline element whose text is a value of the metadata too. The line of the metadata is taken
for the line that the element came from. -/
theorem firstFinding_not_inBody_of_center :
    let source := "---\nlayout: center\n---\n# A\nIt is **center**".toList
    let metadata : List Line := ["---", "layout: center", "---"]
    let e : Element := { tag := .text "strong", selector := .text "strong", text := .text "center" }
    let range : LineRange := ⟨2, 2, "layout: center"⟩
    ∃ p, (Presentation.read {} {} source).1 = .ok p ∧ ∃ s ∈ p.slides, HasMetadata s metadata ∧
      firstFinding s (.ofTag "strong") e cascade = .ok (some (.inlineText, range)) ∧
        ¬InBody s metadata range ∧ s.source.line? 5 = some "It is **center**" := by
  intro source metadata e range
  have hfinds : ∃ p, (Presentation.read {} {} source).1 = .ok p ∧ ∃ s ∈ p.slides,
      s.lines = metadata ++ ["# A", "It is **center**"] ∧ s.first = 1 ∧
        (firstFinding s (.ofTag "strong") e cascade).toOption =
            some (some (.inlineText, range)) ∧
          s.source.line? 5 = some "It is **center**" := by
    decide +kernel
  obtain ⟨p, hread, s, hs, hlines, hfirst, hfind, hline⟩ := hfinds
  have hmeta : HasMetadata s metadata :=
    ⟨⟨_, hlines⟩, "---", ["layout: center"], "---", rfl, by decide, by decide, by decide⟩
  refine ⟨p, hread, s, hs, hmeta, Outcome.toOption_eq_some_iff.mp hfind, fun hbody => ?_, hline⟩
  have hbehind : s.first + 3 ≤ 2 := hbody.behind
  omega

end Strategy

end SlideOverflow.Attribution
