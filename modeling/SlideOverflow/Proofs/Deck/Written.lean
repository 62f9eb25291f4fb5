import SlideOverflow.Deck.Presentation

/-! Decks as they are written down, and what cutting makes of them. A separator can be the boundary
of a slide, open or close metadata of a slide, or do so for the whole document; which of these it is
follows from the lines behind it, so a deck says of each slide what keeps its separators apart. -/
namespace SlideOverflow.Deck
open Metadata

def separator : Line := "---"

private theorem isSeparator_separator : separator.isSeparator = true := by decide

structure SlideText where
  metadata : Option (List Line)
  body : List Line
deriving DecidableEq, Repr

namespace SlideText

/-- The lines of a slide. Metadata stands between two separators, which belong to the slide. -/
def lines (s : SlideText) : List Line :=
  match s.metadata with
  | some block => separator :: (block ++ separator :: s.body)
  | none => s.body

/-- What parts a slide from the one in front of it: a separator of its own, unless it has
metadata. -/
def boundary (s : SlideText) : List Line :=
  match s.metadata with
  | some _ => []
  | none => [separator]

structure Plain (s : SlideText) : Prop where
  metadata : ∀ block ∈ s.metadata, ∀ l ∈ block, l.isSeparator = false
  body : ∀ l ∈ s.body, l.isSeparator = false
  filled : s.metadata = none → ∃ l ∈ s.body, l.isEmpty = false

def SetApart (s : SlideText) : Prop :=
  s.metadata = none → ∀ l ∈ s.body.head?, l.isEmpty = true ∨ l.beginsWith ['#'] = true

/-- No blank line and no line that begins like a heading stands in metadata before the first line
that sets a slide key. A line that begins like a heading sets none. -/
def ShowsMetadata (keys : List String) (s : SlideText) : Prop :=
  ∀ block ∈ s.metadata, ∀ l ∈ block.takeWhile fun l => l.beginsWith ['#'] || !l.setsKey keys,
    l.isEmpty = false ∧ l.beginsWith ['#'] = false

instance (s : SlideText) : Decidable s.Plain :=
  decidable_of_iff ((∀ block ∈ s.metadata, ∀ l ∈ block, l.isSeparator = false) ∧
      (∀ l ∈ s.body, l.isSeparator = false) ∧
      (s.metadata = none → ∃ l ∈ s.body, l.isEmpty = false))
    ⟨fun ⟨hm, hb, hf⟩ => ⟨hm, hb, hf⟩, fun ⟨hm, hb, hf⟩ => ⟨hm, hb, hf⟩⟩

instance (s : SlideText) : Decidable s.SetApart :=
  inferInstanceAs (Decidable (_ → _))

instance (keys : List String) (s : SlideText) : Decidable (s.ShowsMetadata keys) :=
  inferInstanceAs (Decidable (∀ block ∈ s.metadata, _))

structure Follows (keys : List String) (s : SlideText) : Prop where
  plain : s.Plain
  apart : s.SetApart
  shown : s.ShowsMetadata keys

instance (keys : List String) (s : SlideText) : Decidable (s.Follows keys) :=
  decidable_of_iff (s.Plain ∧ s.SetApart ∧ s.ShowsMetadata keys)
    ⟨fun ⟨hp, ha, hs⟩ => ⟨hp, ha, hs⟩, fun ⟨hp, ha, hs⟩ => ⟨hp, ha, hs⟩⟩

end SlideText

structure DeckText where
  documentBlock : Option (List Line)
  slides : List SlideText
deriving DecidableEq, Repr

namespace DeckText

def opening (d : DeckText) : List Line :=
  match d.documentBlock with
  | some block => separator :: (block ++ [separator])
  | none => []

/-- The document in which a deck is written down. Nothing parts the first slide from what stands in
front of it. -/
def lines (d : DeckText) : List Line :=
  d.opening ++
    match d.slides with
    | [] => []
    | s :: ss => s.lines ++ ss.flatMap fun t => t.boundary ++ t.lines

def placedFrom (number : Nat) : List SlideText → List RawSlide
  | [] => []
  | s :: ss =>
    let first := number + s.boundary.length
    ⟨first, first + s.lines.length - 1, s.lines⟩ :: placedFrom (first + s.lines.length) ss

def placed (d : DeckText) : List RawSlide :=
  match d.slides with
  | [] => []
  | s :: ss =>
    let first := d.opening.length + 1
    ⟨first, first + s.lines.length - 1, s.lines⟩ :: placedFrom (first + s.lines.length) ss

/-- What lets the separators of a deck be told apart. The first slide of a deck without
document-wide metadata must not be taken for such metadata; all other metadata of slides has to
show itself. -/
structure WellFormed (keys : MetadataKeys) (d : DeckText) : Prop where
  documentBlock : ∀ block ∈ d.documentBlock,
    (∀ l ∈ block, l.isSeparator = false) ∧ ∃ l ∈ block, l.setsKey keys.document = true
  first : ∀ s ∈ d.slides.head?, s.Plain
  later : ∀ s ∈ d.slides.tail, s.Follows keys.slide
  firstMetadata : d.documentBlock ≠ none → ∀ s ∈ d.slides.head?, s.ShowsMetadata keys.slide
  firstKeys : d.documentBlock = none → ∀ s ∈ d.slides.head?, ∀ block ∈ s.metadata, ∀ l ∈ block,
    l.setsKey keys.document = false

instance (keys : MetadataKeys) (d : DeckText) : Decidable (d.WellFormed keys) :=
  decidable_of_iff
    ((∀ block ∈ d.documentBlock,
        (∀ l ∈ block, l.isSeparator = false) ∧ ∃ l ∈ block, l.setsKey keys.document = true) ∧
      (∀ s ∈ d.slides.head?, s.Plain) ∧ (∀ s ∈ d.slides.tail, s.Follows keys.slide) ∧
      (d.documentBlock ≠ none → ∀ s ∈ d.slides.head?, s.ShowsMetadata keys.slide) ∧
      (d.documentBlock = none → ∀ s ∈ d.slides.head?, ∀ block ∈ s.metadata, ∀ l ∈ block,
        l.setsKey keys.document = false))
    ⟨fun ⟨hb, hf, hl, hm, hk⟩ => ⟨hb, hf, hl, hm, hk⟩,
      fun ⟨hb, hf, hl, hm, hk⟩ => ⟨hb, hf, hl, hm, hk⟩⟩

end DeckText

/-! ### The separators in front of a slide -/

private theorem opensSlideBlock_of_shown {keys : List String} {block rest : List Line}
    (hplain : ∀ l ∈ block, l.isSeparator = false)
    (hshown : ∀ l ∈ block.takeWhile fun l => l.beginsWith ['#'] || !l.setsKey keys,
      l.isEmpty = false ∧ l.beginsWith ['#'] = false) :
    opensSlideBlock keys (block ++ separator :: rest) = true := by
  induction block with
  | nil => rw [List.nil_append, opensSlideBlock, isSeparator_separator, Bool.true_or]
  | cons l block ih =>
    rw [List.cons_append, opensSlideBlock, hplain l List.mem_cons_self, Bool.false_or]
    cases hset : l.beginsWith ['#'] || !l.setsKey keys with
    | true =>
      rw [List.takeWhile_cons_of_pos (by exact hset)] at hshown
      obtain ⟨hempty, hheading⟩ := hshown l List.mem_cons_self
      have hrest := ih (fun k hk => hplain k (.tail l hk)) fun k hk => hshown k (.tail l hk)
      rw [hempty, hheading, hrest, Bool.or_true]
      rfl
    | false =>
      obtain ⟨hheading, hkey⟩ := Bool.or_eq_false_iff.mp hset
      have hkey : l.setsKey keys = true := by simpa using hkey
      rw [Line.isEmpty_of_setsKey hkey, hheading, hkey]
      rfl

private theorem opensSlideBlock_of_apart {keys : List String} {l : Line} {ls : List Line}
    (hplain : l.isSeparator = false) (hl : l.isEmpty = true ∨ l.beginsWith ['#'] = true) :
    opensSlideBlock keys (l :: ls) = false := by
  rw [opensSlideBlock, hplain]
  rcases hl with hl | hl <;> simp [hl]

section Cutting

variable {keys : List String} {first number : Nat} {current rest : List Line}

/-- A slide ends the one in front of it, and its own lines are collected up to its end. -/
private theorem cutFrom_following {s : SlideText} (h : s.Follows keys) :
    cutFrom keys none first current number (s.boundary ++ s.lines ++ rest) =
      (collected first (number - 1) current ++
          (cutFrom keys none (number + s.boundary.length) s.lines.reverse
            (number + s.boundary.length + s.lines.length) rest).1,
        (cutFrom keys none (number + s.boundary.length) s.lines.reverse
          (number + s.boundary.length + s.lines.length) rest).2) := by
  obtain ⟨metadata, body⟩ := s
  obtain ⟨hp, ha, hm⟩ := h
  cases metadata with
  | some block =>
    have hblock := hp.metadata block rfl
    have hopens : opensSlideBlock keys (block ++ separator :: body ++ rest) = true := by
      rw [List.append_assoc]
      exact opensSlideBlock_of_shown hblock (hm block rfl)
    simp only [SlideText.boundary, SlideText.lines, List.nil_append, List.cons_append,
      cutFrom_metadata isSeparator_separator hopens,
      cutFrom_enclosed hblock isSeparator_separator hp.body, List.length_nil, List.length_cons,
      List.reverse_cons, Nat.add_zero, Nat.add_assoc, Nat.add_comm 1]
  | none =>
    obtain ⟨k, hk, _⟩ := hp.filled rfl
    cases body with
    | nil => exact absurd hk List.not_mem_nil
    | cons l ls =>
      have hopens : opensSlideBlock keys (l :: ls ++ rest) = false :=
        opensSlideBlock_of_apart (hp.body l List.mem_cons_self) (ha rfl l rfl)
      simp only [SlideText.boundary, SlideText.lines, List.cons_append, List.nil_append]
      rw [← List.cons_append, cutFrom_boundary isSeparator_separator hopens,
        cutFrom_lines hp.body, List.append_nil, List.length_singleton]

/-- A slide with nothing in front of it needs no boundary. -/
private theorem cutFrom_leading {s : SlideText} (hp : s.Plain) (hm : s.ShowsMetadata keys) :
    cutFrom keys none number [] number (s.lines ++ rest) =
      cutFrom keys none number s.lines.reverse (number + s.lines.length) rest := by
  obtain ⟨metadata, body⟩ := s
  cases metadata with
  | some block =>
    have hf := @cutFrom_following keys number number [] rest ⟨some block, body⟩
      ⟨hp, (fun h => nomatch h), hm⟩
    exact hf
  | none => rw [SlideText.lines, cutFrom_lines hp.body, List.append_nil]

private theorem SlideText.Plain.lines_filled {s : SlideText} (h : s.Plain) :
    ∃ l ∈ s.lines, l.isEmpty = false := by
  obtain ⟨metadata, body⟩ := s
  cases metadata with
  | some block =>
    exact ⟨separator, List.mem_cons_self, Line.isEmpty_of_isSeparator isSeparator_separator⟩
  | none => exact h.filled rfl

private theorem SlideText.Plain.lines_ne_nil {s : SlideText} (h : s.Plain) : s.lines ≠ [] := by
  obtain ⟨l, hl, _⟩ := h.lines_filled
  exact List.ne_nil_of_mem hl

/-- Slides that follow a first one are cut where they were put together. -/
private theorem cutFrom_placedFrom (ss : List SlideText) (h : ∀ s ∈ ss, s.Follows keys) :
    cutFrom keys none first current number (ss.flatMap fun s => s.boundary ++ s.lines) =
      (collected first (number - 1) current ++ DeckText.placedFrom number ss, none) := by
  induction ss generalizing first current number with
  | nil => rw [List.flatMap_nil, cutFrom_nil, DeckText.placedFrom, List.append_nil]
  | cons s ss ih =>
    have hs := h s List.mem_cons_self
    rw [List.flatMap_cons, cutFrom_following hs, ih fun t ht => h t (.tail s ht),
      collected_reverse hs.plain.lines_ne_nil]
    rfl

end Cutting

namespace DeckText

variable {keys : MetadataKeys} {d : DeckText}

private theorem placedFrom_lines (number : Nat) (ss : List SlideText) :
    (placedFrom number ss).map RawSlide.lines = ss.map SlideText.lines := by
  induction ss generalizing number with
  | nil => rfl
  | cons s ss ih => rw [placedFrom, List.map_cons, List.map_cons, ih]

/-- There is a place for every slide of a deck, in order, and it holds the slide's lines. -/
private theorem placed_lines (d : DeckText) :
    d.placed.map RawSlide.lines = d.slides.map SlideText.lines := by
  obtain ⟨documentBlock, slides⟩ := d
  cases slides with
  | nil => rfl
  | cons s ss => rw [placed, List.map_cons, List.map_cons, placedFrom_lines]

private theorem WellFormed.plain (h : d.WellFormed keys) : ∀ s ∈ d.slides, s.Plain := by
  intro s hs
  obtain ⟨documentBlock, slides⟩ := d
  cases slides with
  | nil => exact absurd hs List.not_mem_nil
  | cons t ts =>
    rcases List.mem_cons.mp hs with rfl | hs
    · exact h.first s rfl
    · exact (h.later s hs).plain

private theorem WellFormed.keepFilled_placed (h : d.WellFormed keys) :
    keepFilled d.placed = d.placed := by
  refine List.filter_eq_self.mpr fun r hr => ?_
  have hmem : r.lines ∈ d.slides.map SlideText.lines := by
    rw [← placed_lines]
    exact List.mem_map_of_mem hr
  obtain ⟨s, hs, heq⟩ := List.mem_map.mp hmem
  obtain ⟨l, hl, he⟩ := (h.plain s hs).lines_filled
  have hall : r.lines.all Line.isEmpty = false :=
    List.all_eq_false.mpr ⟨l, heq ▸ hl, by rw [he]; exact Bool.false_ne_true⟩
  rw [hall]
  rfl

private theorem cutFrom_slides {keys : List String} {number : Nat} {s : SlideText}
    {ss : List SlideText} (hs : s.Plain)
    (hss : ∀ t ∈ ss, t.Follows keys) :
    cutFrom keys none number s.lines.reverse (number + s.lines.length)
        (ss.flatMap fun t => t.boundary ++ t.lines) =
      (⟨number, number + s.lines.length - 1, s.lines⟩ ::
        placedFrom (number + s.lines.length) ss, none) := by
  rw [cutFrom_placedFrom ss hss, collected_reverse hs.lines_ne_nil]
  rfl

private theorem cut_documentBlock {block : List Line} {slides : List SlideText}
    (h : WellFormed keys ⟨some block, slides⟩) :
    cut keys (lines ⟨some block, slides⟩) = ⟨block, false, placed ⟨some block, slides⟩, none⟩ := by
  obtain ⟨hplain, hset⟩ := h.documentBlock block rfl
  have hany : block.any (·.setsKey keys.document) = true := List.any_eq_true.mpr hset
  have hfilled := h.keepFilled_placed
  cases slides with
  | nil =>
    have hlines : lines ⟨some block, []⟩ = separator :: (block ++ separator :: []) := by
      simp [lines, opening]
    rw [hlines, cut_document isSeparator_separator hplain hany isSeparator_separator]
    rfl
  | cons s ss =>
    have hlines : lines ⟨some block, s :: ss⟩ =
        separator ::
          (block ++ separator :: (s.lines ++ ss.flatMap fun t => t.boundary ++ t.lines)) := by
      simp [lines, opening]
    have hplaced : placed ⟨some block, s :: ss⟩ =
        ⟨block.length + 3, block.length + 3 + s.lines.length - 1, s.lines⟩ ::
          placedFrom (block.length + 3 + s.lines.length) ss := by
      simp [placed, opening]
    have hs : s.Plain := h.first s rfl
    have hss : ∀ t ∈ ss, t.Follows keys.slide := h.later
    rw [hlines, cut_document isSeparator_separator hplain hany isSeparator_separator,
      cutFrom_leading hs (h.firstMetadata (by simp) s rfl), cutFrom_slides hs hss,
      ← hplaced, hfilled]

private theorem cut_slides {s : SlideText} {ss : List SlideText}
    (h : WellFormed keys ⟨none, s :: ss⟩) :
    cut keys (lines ⟨none, s :: ss⟩) = ⟨[], false, placed ⟨none, s :: ss⟩, none⟩ := by
  have hs : s.Plain := h.first s rfl
  have hss : ∀ t ∈ ss, t.Follows keys.slide := h.later
  have hfilled := h.keepFilled_placed
  have hcut : cutFrom keys.slide none 1 s.lines.reverse (1 + s.lines.length)
      (ss.flatMap fun t => t.boundary ++ t.lines) = (placed ⟨none, s :: ss⟩, none) :=
    cutFrom_slides hs hss
  change cut keys (s.lines ++ ss.flatMap fun t => t.boundary ++ t.lines) = _
  obtain ⟨metadata, body⟩ := s
  cases metadata with
  | some block =>
    have hblock := hs.metadata block rfl
    have hopens (rest : List Line) :
        opensDocumentBlock keys.document (block ++ separator :: body ++ rest) = false := by
      rw [opensDocumentBlock_eq, List.append_assoc, List.cons_append,
        List.takeWhile_append_of_pos (by simpa using hblock),
        List.takeWhile_cons_of_neg (by simp [isSeparator_separator]), List.append_nil]
      exact List.any_eq_false.mpr fun l hl => by simp [h.firstKeys rfl _ rfl block rfl l hl]
    rw [SlideText.lines] at hcut ⊢
    have hcollect : (block ++ separator :: body).reverse ++ [separator] =
        (separator :: (block ++ separator :: body)).reverse := by rw [List.reverse_cons]
    have hnumber : 2 + (block ++ separator :: body).length =
        1 + (separator :: (block ++ separator :: body)).length := by
      rw [List.length_cons]
      omega
    rw [List.cons_append, cut_metadata isSeparator_separator (hopens _),
      cutFrom_enclosed hblock isSeparator_separator hs.body, hcollect, hnumber, hcut, hfilled]
  | none =>
    obtain ⟨k, hk, hke⟩ := hs.filled rfl
    cases body with
    | nil => exact absurd hk List.not_mem_nil
    | cons l ls =>
      have hall : (l :: ls ++ ss.flatMap fun t => t.boundary ++ t.lines).all Line.isEmpty = false :=
        List.all_eq_false.mpr ⟨k, List.mem_append_left _ hk, by rw [hke]; exact Bool.false_ne_true⟩
      rw [List.cons_append] at hall
      rw [SlideText.lines] at hcut ⊢
      rw [List.cons_append, cut_text (hs.body l List.mem_cons_self) hall, ← List.cons_append,
        cutFrom_lines hs.body, List.append_nil, hcut, hfilled]

/-- Cutting the document in which a deck is written down gives the deck back: the lines of its
document-wide block, and each slide in its place. No block stays open. -/
private theorem cut_lines (h : d.WellFormed keys) :
    cut keys d.lines = ⟨d.documentBlock.getD [], false, d.placed, none⟩ := by
  obtain ⟨documentBlock, slides⟩ := d
  cases documentBlock with
  | some block => exact cut_documentBlock h
  | none =>
    cases slides with
    | nil => exact cut_blank rfl
    | cons s ss => exact cut_slides h

private theorem splitSlides_lines (h : d.WellFormed keys) :
    (splitSlides keys d.lines).outcome =
      (Block.read (blockText (d.documentBlock.getD []))).map fun block =>
        (d.placed, block.content) := by
  rw [splitSlides_outcome, cut_lines h]

/-- Splitting the document in which a deck is written down gives its slides, each with its lines and
in its place, exactly when the document-wide block is not refused; it never gives other slides. -/
theorem splitSlides_written (h : d.WellFormed keys) :
    d.placed.map RawSlide.lines = d.slides.map SlideText.lines ∧
      (∀ slides table, (splitSlides keys d.lines).outcome = .ok (slides, table) →
        slides = d.placed) ∧
      ((∃ table, (splitSlides keys d.lines).outcome = .ok (d.placed, table)) ↔
        Block.isRefused (blockText (d.documentBlock.getD [])) = false) := by
  rw [← Block.exists_read_iff, splitSlides_lines h]
  refine ⟨placed_lines d, fun slides table hs => ?_, fun ⟨table, hs⟩ => ?_, fun ⟨block, hb⟩ => ?_⟩
  · obtain ⟨block, _, heq⟩ := Outcome.map_eq_ok_iff.mp hs
    exact (congrArg Prod.fst heq).symm
  · obtain ⟨block, hb, _⟩ := Outcome.map_eq_ok_iff.mp hs
    exact ⟨block, hb⟩
  · exact ⟨block.content, by rw [hb]; rfl⟩

/-- A theme for the document, a slide with a layout, and a slide behind a separator of its own. -/
theorem splitSlides_written_of_theme : ∃ table,
    (splitSlides {} ["---", "theme: seriph", "---", "---", "layout: fact", "---", "# Fact", "---",
      "# Next"]).outcome = .ok ([⟨4, 7, ["---", "layout: fact", "---", "# Fact"]⟩,
        ⟨9, 9, ["# Next"]⟩], table) :=
  ((@splitSlides_written {} ⟨some ["theme: seriph"],
    [⟨some ["layout: fact"], ["# Fact"]⟩, ⟨none, ["# Next"]⟩]⟩ (by decide +kernel)).2.2).mpr
    (by decide +kernel)

/-- A day that no calendar has, in the document-wide block of a well-formed deck: no slide of it is
returned. -/
theorem splitSlides_impossible_day :
    let d : DeckText := ⟨some ["theme: seriph", "when: 2024-13-45"], [⟨none, ["# Next"]⟩]⟩
    d.WellFormed {} ∧ ¬∃ table, (splitSlides {} d.lines).outcome = .ok (d.placed, table) := by
  intro d
  have hd : d.WellFormed {} := by decide +kernel
  have hrefused : Block.isRefused (blockText (d.documentBlock.getD [])) = true := by
    decide +kernel
  refine ⟨hd, fun ⟨table, h⟩ => ?_⟩
  rw [splitSlides_lines hd] at h
  obtain ⟨block, hb, _⟩ := Outcome.map_eq_ok_iff.mp h
  rw [Block.exists_read_iff _ |>.mp ⟨block, hb⟩] at hrefused
  exact Bool.false_ne_true hrefused

end DeckText

end SlideOverflow.Deck
