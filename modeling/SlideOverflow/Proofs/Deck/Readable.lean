import SlideOverflow.Proofs.Deck.Warnings
import SlideOverflow.Proofs.Geometry.Fit
import SlideOverflow.Proofs.Metadata.Words

/-! Which documents are read, and what becomes of their metadata. Trouble with the text of a
document only gives warnings and defaults; what stops the reading is a metadata block that is
refused, a value without words, or a canvas that does not suit the layout of a slide. -/
namespace SlideOverflow.Deck
open Metadata Number SlideOverflow.Geometry

/-! ### What metadata says -/

/-- The table of a metadata block; empty if the block is refused. -/
def tableOf (lines : List Line) : Table :=
  match Block.read (blockText lines) with
  | .ok block => block.content
  | .error _ => .empty

private theorem readBlock_eq_ok_iff {line : Nat} {lines : List Line} {t : Table} :
    (readBlock line lines).outcome = .ok t ↔
      Block.isRefused (blockText lines) = false ∧ t = tableOf lines := by
  rw [← Block.exists_read_iff, tableOf, readBlock]
  simp only [Findings.outcome_bind, Findings.outcome_ofOutcome, Findings.outcome_warn,
    Findings.outcome_pure]
  constructor
  · intro h
    obtain ⟨block, hb, h⟩ := Outcome.bind_eq_ok_iff.mp h
    cases h
    exact ⟨⟨block, hb⟩, by rw [hb]⟩
  · rintro ⟨⟨block, hb⟩, rfl⟩
    rw [hb]
    rfl

/-- The words of a metadata value, or a default where it is absent or has none. -/
def wordsOr (default : String) (d : Datum) : Text.Codes :=
  match textOr default d with
  | .ok words => words
  | .error _ => default

theorem textOr_eq_ok_iff {default : String} {d : Datum} {words : Text.Codes} :
    textOr default d = .ok words ↔ d.HasWords ∧ words = wordsOr default d := by
  have hok : (∃ words, textOr default d = .ok words) ↔ d.HasWords := by
    cases ht : d.isTruthy with
    | true => rw [textOr, if_pos ht, Datum.exists_asText_iff]
    | false =>
      rw [textOr, if_neg (by rw [ht]; exact Bool.false_ne_true)]
      exact ⟨fun _ => Datum.hasWords_of_absent ht, fun _ => ⟨_, rfl⟩⟩
  rw [← hok, wordsOr]
  constructor
  · intro h
    exact ⟨⟨words, h⟩, by rw [h]⟩
  · rintro ⟨⟨words', h⟩, rfl⟩
    rw [h]

def widthOf (settings : Settings) (asked : Datum) : Quantity :=
  (usableWidth? asked.value).getD (.int settings.canvasWidth)

private theorem exists_widthOrDefault_iff {settings : Settings} {asked : Datum} {width : Quantity} :
    (∃ warnings, widthOrDefault settings asked = .ok (width, warnings)) ↔
      (usableWidth? asked.value = none → asked.HasWords) ∧ width = widthOf settings asked := by
  constructor
  · rintro ⟨told, h⟩
    have hreading := widthOrDefault_reading h
    rw [widthOf]
    cases hq : usableWidth? asked.value with
    | some q => exact ⟨fun h => absurd h (Option.some_ne_none _), (hreading.usable q hq).1⟩
    | none =>
      by_cases hnull : asked.value = .null
      · exact ⟨fun _ => Datum.hasWords_of_absent (by rw [Datum.isTruthy, hnull]),
          (hreading.absent hnull).1⟩
      · obtain ⟨hwidth, text, htext, _⟩ := hreading.unusable hq hnull
        exact ⟨fun _ => (Datum.exists_shown_iff asked).mp ⟨text, htext⟩, hwidth⟩
  · rintro ⟨hwords, rfl⟩
    rw [widthOrDefault, widthOf]
    cases hq : usableWidth? asked.value with
    | some q => exact ⟨[], rfl⟩
    | none =>
      dsimp only
      split
      · exact ⟨[], rfl⟩
      · obtain ⟨text, htext⟩ := (Datum.exists_shown_iff asked).mpr (hwords hq)
        exact ⟨_, by rw [htext]; rfl⟩

/-! ### Configurations -/

def ratioOf (t : Table) : String := (wordsOr standardRatio (t.getOrNull "aspectRatio")).toString

/-- Document-wide metadata that makes a configuration: its texts have words, and so has the width,
unless it is usable as it is. -/
structure ReadableConfig (t : Table) : Prop where
  width : usableWidth? (t.getOrNull "canvasWidth").value = none →
    (t.getOrNull "canvasWidth").HasWords
  theme : (t.getOrNull "theme").HasWords
  aspectRatio : (t.getOrNull "aspectRatio").HasWords

private theorem readableConfig_of_ofTable {settings : Settings} {t : Table} {config : DeckConfig}
    {warnings : List Warning} (h : DeckConfig.ofTable settings t = .ok (config, warnings)) :
    ReadableConfig t ∧ config.canvasWidth = widthOf settings (t.getOrNull "canvasWidth") ∧
      config.aspectRatio.toString = ratioOf t := by
  have hmade := DeckConfig.ofTable_spec h
  obtain ⟨hw, hwidth⟩ := exists_widthOrDefault_iff.mp ⟨_, hmade.width⟩
  obtain ⟨ht, _⟩ := textOr_eq_ok_iff.mp hmade.theme
  obtain ⟨hr, hratio⟩ := textOr_eq_ok_iff.mp hmade.aspectRatio
  exact ⟨⟨hw, ht, hr⟩, hwidth, by rw [hratio, ratioOf]⟩

theorem ReadableConfig.exists_ofTable {t : Table} (h : ReadableConfig t) (settings : Settings) :
    ∃ config warnings, DeckConfig.ofTable settings t = .ok (config, warnings) := by
  obtain ⟨warnings, hwidth⟩ := exists_widthOrDefault_iff.mpr ⟨h.width, @rfl _ (widthOf settings _)⟩
  have htheme := textOr_eq_ok_iff.mpr ⟨h.theme, @rfl _ (wordsOr "default" _)⟩
  have hratio := textOr_eq_ok_iff.mpr ⟨h.aspectRatio, @rfl _ (wordsOr standardRatio _)⟩
  exact ⟨_, warnings, by
    simp only [DeckConfig.ofTable, bind, Except.bind, hwidth, htheme, hratio]
    rfl⟩

/-! ### Slides -/

def slideTable (s : RawSlide) : Table :=
  match (slideMetadata s.lines).1 with
  | some lines => tableOf lines
  | none => .empty

/-- A slide that is read on a canvas of some width and ratio: its metadata is not refused, its
layout has words, and the canvas suits the layout. -/
structure ReadableSlide (settings : Settings) (width : Quantity) (ratio : String) (s : RawSlide) :
    Prop where
  metadata : ∀ lines ∈ (slideMetadata s.lines).1, Block.isRefused (blockText lines) = false
  layout : ((slideTable s).getOrNull "layout").HasWords
  canvas : Suits settings width ratio
    (wordsOr "default" ((slideTable s).getOrNull "layout")).toString

theorem readSlideMetadata_eq_ok_iff {s : RawSlide} {t : Table} :
    (readSlideMetadata s).outcome = .ok t ↔
      (∀ lines ∈ (slideMetadata s.lines).1, Block.isRefused (blockText lines) = false) ∧
        t = slideTable s := by
  rw [readSlideMetadata, slideTable]
  cases (slideMetadata s.lines).1 with
  | none =>
    exact ⟨fun h => ⟨fun _ hl => absurd hl (Option.not_mem_none _), (Except.ok.inj h).symm⟩,
      fun h => h.2 ▸ rfl⟩
  | some lines => simp only [readBlock_eq_ok_iff, Option.mem_def, Option.some.injEq, forall_eq']

private theorem exists_readSlide_iff {settings : Settings} {config : DeckConfig} {index : Nat}
    {s : RawSlide} :
    (∃ slide, (readSlide settings config index s).outcome = .ok slide) ↔
      ReadableSlide settings config.canvasWidth config.aspectRatio.toString s := by
  simp only [readSlide, Findings.outcome_bind, Findings.outcome_ofOutcome, Findings.outcome_warn,
    Findings.outcome_pure]
  constructor
  · rintro ⟨slide, h⟩
    obtain ⟨t, ht, h⟩ := Outcome.bind_eq_ok_iff.mp h
    obtain ⟨hmetadata, rfl⟩ := readSlideMetadata_eq_ok_iff.mp ht
    obtain ⟨layout, hlayout, h⟩ := Outcome.bind_eq_ok_iff.mp h
    obtain ⟨hwords, rfl⟩ := textOr_eq_ok_iff.mp hlayout
    obtain ⟨height, hheight, h⟩ := Outcome.bind_eq_ok_iff.mp h
    obtain ⟨area, harea, _⟩ := Outcome.bind_eq_ok_iff.mp h
    exact ⟨hmetadata, hwords, exists_slot_iff.mp ⟨height, hheight, area, harea⟩⟩
  · rintro ⟨hmetadata, hwords, hcanvas⟩
    obtain ⟨height, hheight, area, harea⟩ := exists_slot_iff.mpr hcanvas
    rw [readSlideMetadata_eq_ok_iff.mpr ⟨hmetadata, rfl⟩]
    simp only [Except.bind, textOr_eq_ok_iff.mpr ⟨hwords, rfl⟩, hheight, harea]
    exact ⟨_, rfl⟩

theorem exists_readSlides_iff {settings : Settings} {config : DeckConfig} {index : Nat}
    {ss : List RawSlide} :
    (∃ slides, (readSlides settings config index ss).outcome = .ok slides) ↔
      ∀ s ∈ ss, ReadableSlide settings config.canvasWidth config.aspectRatio.toString s := by
  induction ss generalizing index with
  | nil => exact ⟨fun _ s hs => absurd hs List.not_mem_nil, fun _ => ⟨[], rfl⟩⟩
  | cons s ss ih =>
    rw [List.forall_mem_cons, ← @exists_readSlide_iff _ _ index, ← @ih (index + 1), readSlides]
    simp only [Findings.outcome_bind, Findings.outcome_pure]
    constructor
    · rintro ⟨slides, h⟩
      obtain ⟨slide, hslide, h⟩ := Outcome.bind_eq_ok_iff.mp h
      obtain ⟨rest, hrest, _⟩ := Outcome.bind_eq_ok_iff.mp h
      exact ⟨⟨slide, hslide⟩, rest, hrest⟩
    · rintro ⟨⟨slide, hslide⟩, rest, hrest⟩
      exact ⟨slide :: rest, by rw [hslide]; simp only [Except.bind, hrest]⟩

/-! ### Documents -/

def documentTable (keys : MetadataKeys) (lines : List Line) : Table :=
  tableOf (cut keys lines).documentBlock

/-- The documents that are read: no metadata block is refused, and the values in use have words and
give a canvas that suits every slide. -/
structure Readable (settings : Settings) (keys : MetadataKeys) (lines : List Line) : Prop where
  documentBlock : Block.isRefused (blockText (cut keys lines).documentBlock) = false
  config : ReadableConfig (documentTable keys lines)
  slides : ∀ s ∈ (cut keys lines).slides,
    ReadableSlide settings
      (widthOf settings ((documentTable keys lines).getOrNull "canvasWidth"))
      (ratioOf (documentTable keys lines)) s

private theorem splitSlides_eq_ok_iff {keys : MetadataKeys} {lines : List Line}
    {slides : List RawSlide} {t : Table} :
    (splitSlides keys lines).outcome = .ok (slides, t) ↔
      Block.isRefused (blockText (cut keys lines).documentBlock) = false ∧
        slides = (cut keys lines).slides ∧ t = documentTable keys lines := by
  rw [← Block.exists_read_iff, splitSlides_outcome, documentTable, tableOf, Outcome.map_eq_ok_iff]
  constructor
  · rintro ⟨block, hb, heq⟩
    cases heq
    exact ⟨⟨block, hb⟩, rfl, by rw [hb]⟩
  · rintro ⟨⟨block, hb⟩, rfl, rfl⟩
    exact ⟨block, hb, by rw [hb]⟩

private theorem exists_readLines_iff {settings : Settings} {keys : MetadataKeys}
    {lines : List Line} :
    (∃ found, (readLines settings keys lines).outcome = .ok found) ↔
      Readable settings keys lines := by
  simp only [readLines, Findings.outcome_bind, Findings.outcome_ofOutcome, Findings.outcome_warn,
    Findings.outcome_pure]
  constructor
  · rintro ⟨found, h⟩
    obtain ⟨⟨raw, t⟩, hsplit, h⟩ := Outcome.bind_eq_ok_iff.mp h
    obtain ⟨hblock, rfl, rfl⟩ := splitSlides_eq_ok_iff.mp hsplit
    obtain ⟨⟨config, warnings⟩, hconfig, h⟩ := Outcome.bind_eq_ok_iff.mp h
    obtain ⟨hreadable, hwidth, hratio⟩ := readableConfig_of_ofTable hconfig
    obtain ⟨_, _, h⟩ := Outcome.bind_eq_ok_iff.mp h
    obtain ⟨slides, hslides, _⟩ := Outcome.bind_eq_ok_iff.mp h
    have hall := exists_readSlides_iff.mp ⟨slides, hslides⟩
    rw [hwidth, hratio] at hall
    exact ⟨hblock, hreadable, hall⟩
  · rintro ⟨hblock, hreadable, hall⟩
    obtain ⟨config, warnings, hconfig⟩ := hreadable.exists_ofTable settings
    obtain ⟨_, hwidth, hratio⟩ := readableConfig_of_ofTable hconfig
    rw [← hwidth, ← hratio] at hall
    obtain ⟨slides, hslides⟩ := (@exists_readSlides_iff _ _ 0 _).mpr hall
    rw [splitSlides_eq_ok_iff.mpr ⟨hblock, rfl, rfl⟩]
    simp only [Except.bind, hconfig, hslides]
    exact ⟨_, rfl⟩

private theorem exists_read_iff_readLines {settings : Settings} {keys : MetadataKeys}
    {source : List Char} :
    (∃ p, (Presentation.read settings keys source).1 = .ok p) ↔
      ∃ found, (readLines settings keys (sourceLines source)).outcome = .ok found := by
  simp only [Presentation.read]
  cases (readLines settings keys (sourceLines source)).outcome with
  | error e => constructor <;> rintro ⟨_, h⟩ <;> cases h
  | ok found => exact ⟨fun _ => ⟨found, rfl⟩, fun _ => ⟨_, rfl⟩⟩

/-- A presentation is read if and only if its document is readable. -/
theorem Presentation.read_iff_readable (settings : Settings) (keys : MetadataKeys)
    (source : List Char) :
    (∃ p, (Presentation.read settings keys source).1 = .ok p) ↔
      Readable settings keys (sourceLines source) :=
  exists_read_iff_readLines.trans exists_readLines_iff

example : ((Presentation.read {} {} "---\naspectRatio: 4/3\n---\n# A".toList).1.toOption.map
    (·.slides.length)) = some 1 := by decide +kernel

/-- A day that no calendar has stops the reading of the whole presentation. -/
theorem Presentation.not_read_impossible_day :
    ¬∃ p, (Presentation.read {} {}
      "---\ntheme: x\nwhen: 2024-13-45\n---\n# A".toList).1 = .ok p := by
  rw [exists_read_iff_readLines, exists_readLines_iff]
  intro h
  have hrefused : Block.isRefused (blockText (cut {} (sourceLines
      "---\ntheme: x\nwhen: 2024-13-45\n---\n# A".toList)).documentBlock) = true := by
    decide +kernel
  rw [h.documentBlock] at hrefused
  exact Bool.false_ne_true hrefused

/-! ### Defaults -/

/-- What a presentation makes of the metadata of its document. What is malformed or unusable gives
way to a default and is told of once; what is absent gives way to a default in silence. -/
structure Presentation.FillsIn (p : Presentation) (settings : Settings) (keys : MetadataKeys)
    (lines : List Line) : Prop where
  /-- The document-wide block and the width are told of in front of all slides. -/
  document : ∃ blockTold widthTold,
    BlockReading 1 (blockText (cut keys lines).documentBlock) p.config.raw blockTold ∧
      WidthReading settings (p.config.raw.getOrNull "canvasWidth") p.config.canvasWidth widthTold ∧
      p.warnings =
        blockTold ++ (cut keys lines).warnings ++ (widthTold ++ p.slides.flatMap Slide.told)
  theme : p.config.theme = wordsOr "default" (p.config.raw.getOrNull "theme")
  aspectRatio : p.config.aspectRatio = wordsOr standardRatio (p.config.raw.getOrNull "aspectRatio")
  /-- A text that is no ratio gives the height of the settings. -/
  height : readRatio? p.config.aspectRatio.toString = none → ∀ s ∈ p.slides,
    primarySlot s.layout.toString ⟨p.config.canvasWidth, .int settings.canvasHeight⟩ = .ok s.area
  slideBlock : ∀ s ∈ p.slides, ∀ block ∈ (slideMetadata s.lines).1,
    BlockReading s.first (blockText block) s.metadata (readSlideMetadata s.source).warnings
  noBlock : ∀ s ∈ p.slides, (slideMetadata s.lines).1 = none →
    s.metadata = .empty ∧ (readSlideMetadata s.source).warnings = []
  layout : ∀ s ∈ p.slides, s.layout = wordsOr "default" (s.metadata.getOrNull "layout")

/-- Metadata that does not stop the reading is filled in where it is of no use. -/
theorem Presentation.read_fillsIn {settings : Settings} {keys : MetadataKeys}
    {source : List Char} {p : Presentation}
    (h : (Presentation.read settings keys source).1 = .ok p) :
    p.FillsIn settings keys (sourceLines source) := by
  obtain ⟨hlines, hwarnings⟩ := readLines_of_read h
  obtain ⟨table, widthTold, hsplit, hconfig, hslides, hall⟩ := readLines_spec hlines
  obtain ⟨_, hblock, hcut⟩ := splitSlides_spec hsplit
  have hmade := DeckConfig.ofTable_spec hconfig
  obtain rfl := hmade.raw_eq
  have hread (s) (hs : s ∈ p.slides) := readSlide_spec ((readSlides_spec hslides).2.2.1 s hs)
  refine ⟨⟨_, widthTold, readBlock_reading hblock, widthOrDefault_reading hmade.width, ?_⟩,
    (textOr_eq_ok_iff.mp hmade.theme).2, (textOr_eq_ok_iff.mp hmade.aspectRatio).2,
    fun hratio s hs => ?_, fun s hs block hmem => ?_, fun s hs hnone => ?_,
    fun s hs => (textOr_eq_ok_iff.mp (hread s hs).layout).2⟩
  · rw [hwarnings, hall, hcut, (readSlides_told hslides).2]
  · obtain ⟨height, hheight, harea⟩ := (hread s hs).area
    rw [canvasHeight, hratio, ite_self] at hheight
    cases hheight
    exact harea
  · have hmetadata := (hread s hs).metadata
    rw [Slide.lines, Option.mem_def] at hmem
    rw [readSlideMetadata, hmem] at hmetadata ⊢
    exact readBlock_reading hmetadata
  · have hmetadata := (hread s hs).metadata
    rw [Slide.lines] at hnone
    rw [readSlideMetadata, hnone] at hmetadata ⊢
    exact ⟨(Except.ok.inj hmetadata).symm, rfl⟩

example :
    let source := "---\ncanvasWidth: wide\n---\n# A\n---\nlayout: [\n---\n# B".toList
    (Presentation.read {} {} source).1.toOption.map
      (fun p => (p.config.canvasWidth, p.warnings.map Warning.kind)) =
        some (.int 980, [.canvasWidth, .malformed]) := by
  decide +kernel

end SlideOverflow.Deck
