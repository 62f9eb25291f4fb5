import SlideOverflow.Deck.Block.Reader
import SlideOverflow.Deck.Split
import SlideOverflow.Geometry.Layout

/-! Presentations: a document cut into slides, each with its metadata, layout, nodes and metrics.
Trouble with the document becomes warnings; reading fails only where the canvas is unusable or a
metadata value lies outside its type. -/
namespace SlideOverflow.Deck

open Metadata Number SlideOverflow.Geometry Text

structure Metrics where
  characters : Nat
  words : Nat
  headings : Nat
  lists : Nat
  codeBlocks : Nat
  images : Nat
  tables : Nat
deriving DecidableEq, Repr

def Metrics.ofNodes (nodes : List ContentNode) : Metrics where
  characters := (nodes.map fun n => n.charCount.getD 0).foldl (· + ·) 0
  words := (nodes.map fun n => (n.text.map fun t => (Text.words t.toList).length).getD 0).foldl
    (· + ·) 0
  headings := nodes.countP fun n => n.level?.isSome
  lists := nodes.countP ContentNode.isList
  codeBlocks := nodes.countP ContentNode.isCode
  images := nodes.countP ContentNode.isImage
  tables := nodes.countP ContentNode.isTable

structure Slide where
  /-- Position among the slides, from zero. -/
  index : Nat
  source : RawSlide
  metadata : Table
  layout : Codes
  nodes : List ContentNode
  /-- The primary slot of the layout. -/
  area : Area
  metrics : Metrics
deriving Repr

namespace Slide

def first (s : Slide) : Nat := s.source.first

def last (s : Slide) : Nat := s.source.last

def lines (s : Slide) : List Line := s.source.lines

def content (s : Slide) : String := s.source.content

end Slide

structure DeckConfig where
  theme : Codes
  canvasWidth : Quantity
  aspectRatio : Codes
  fonts : Option Table
  checker : Option Table
  raw : Table
deriving Repr

structure Presentation where
  config : DeckConfig
  slides : List Slide
  warnings : List Warning
  totalLines : Nat
deriving Repr

def textOr (default : String) (d : Datum) : Outcome Codes :=
  if d.isTruthy then d.asText else .ok default

def usableWidth? : Value → Option Quantity
  | .number q => if (0 : Quantity).less q then some q else none
  | _ => none

def widthOrDefault (settings : Settings) (asked : Datum) : Outcome (Quantity × List Warning) :=
  match usableWidth? asked.value with
  | some q => .ok (q, [])
  | none =>
    if asked.value = .null then .ok (.int settings.canvasWidth, [])
    else do
      let warning := .unusableCanvasWidth (← asked.shown) settings.canvasWidth
      return (.int settings.canvasWidth, [warning])

/-- The document-wide configuration. Values that are missing or unusable give way to defaults. -/
def DeckConfig.ofTable (settings : Settings) (t : Table) : Outcome (DeckConfig × List Warning) := do
  let (width, warnings) ← widthOrDefault settings (t.getOrNull "canvasWidth")
  let theme ← textOr "default" (t.getOrNull "theme")
  let aspectRatio ← textOr standardRatio (t.getOrNull "aspectRatio")
  return ({
    theme
    canvasWidth := width
    aspectRatio
    fonts := (t.getOrNull "fonts").table?
    checker := (t.getOrNull "overflowChecker").table?
    raw := t }, warnings)

/-- What a table is made into, with these warnings, if that succeeds. -/
structure DeckConfig.IsMadeOf (config : DeckConfig) (settings : Settings) (t : Table)
    (warnings : List Warning) : Prop where
  width : widthOrDefault settings (t.getOrNull "canvasWidth") = .ok (config.canvasWidth, warnings)
  theme : textOr "default" (t.getOrNull "theme") = .ok config.theme
  aspectRatio : textOr standardRatio (t.getOrNull "aspectRatio") = .ok config.aspectRatio
  raw_eq : config.raw = t

theorem DeckConfig.ofTable_spec {settings : Settings} {t : Table} {config : DeckConfig}
    {warnings : List Warning} (h : DeckConfig.ofTable settings t = .ok (config, warnings)) :
    config.IsMadeOf settings t warnings := by
  obtain ⟨⟨width, told⟩, hwidth, h⟩ := Outcome.bind_eq_ok_iff.mp h
  obtain ⟨theme, htheme, h⟩ := Outcome.bind_eq_ok_iff.mp h
  obtain ⟨ratio, hratio, h⟩ := Outcome.bind_eq_ok_iff.mp h
  cases h
  exact ⟨hwidth, htheme, hratio, rfl⟩

/-- The metadata lines of a slide, unless it has none or they are not closed, and the index of the
first line of its body. -/
def slideMetadata (lines : List Line) : Option (List Line) × Nat :=
  match lines with
  | [] => (none, 0)
  | l :: ls =>
    if l.isSeparator then
      let block := ls.takeWhile (!·.isSeparator)
      if block.length < ls.length then (some block, block.length + 2) else (none, 1)
    else (none, 0)

/-- Behind a closed block, the body begins in the line after the closing separator. -/
theorem slideMetadata_closed {opening closing : Line} {block body : List Line}
    (ho : opening.isSeparator = true) (hb : ∀ l ∈ block, l.isSeparator = false)
    (hc : closing.isSeparator = true) :
    slideMetadata (opening :: (block ++ closing :: body)) = (some block, block.length + 2) := by
  have ht : (block ++ closing :: body).takeWhile (!·.isSeparator) = block := by
    rw [List.takeWhile_append_of_pos (by simpa using hb)]
    simp [hc]
  simp only [slideMetadata, ho, ht, List.length_append, List.length_cons, if_true]
  rw [if_pos (by omega)]

/-- A block that is not closed is no metadata, and the body begins behind its first line. -/
theorem slideMetadata_unclosed {opening : Line} {block : List Line}
    (ho : opening.isSeparator = true) (hb : ∀ l ∈ block, l.isSeparator = false) :
    slideMetadata (opening :: block) = (none, 1) := by
  have ht : block.takeWhile (!·.isSeparator) = block := by
    have h : (block ++ []).takeWhile (!·.isSeparator) = block ++ [] :=
      List.takeWhile_append_of_pos (by simpa using hb)
    rwa [List.append_nil] at h
  simp only [slideMetadata, ho, ht, Nat.lt_irrefl, if_true, if_false]

/-- Without a separator in the first line, the whole slide is body. -/
theorem slideMetadata_plain {lines : List Line} (h : ∀ l ∈ lines, l.isSeparator = false) :
    slideMetadata lines = (none, 0) := by
  cases lines with
  | nil => rfl
  | cons l ls => simp only [slideMetadata, h l List.mem_cons_self, Bool.false_eq_true, if_false]

theorem slideMetadata_le (lines : List Line) : (slideMetadata lines).2 ≤ lines.length := by
  cases lines with
  | nil => exact Nat.le_refl 0
  | cons l ls =>
    rw [slideMetadata]
    split
    · dsimp only
      split
      · rw [List.length_cons]
        omega
      · exact Nat.le_add_left _ _
    · exact Nat.zero_le _

def blockText (lines : List Line) : List Char := (joinLines lines).toList

/-- A result that may be missing for a cause, and the warnings that came before the cause. -/
structure Findings (α : Type) where
  outcome : Outcome α
  warnings : List Warning

namespace Findings

def pure {α : Type} (a : α) : Findings α := ⟨.ok a, []⟩

def bind {α β : Type} (x : Findings α) (f : α → Findings β) : Findings β :=
  match x.outcome with
  | .ok a =>
    let y := f a
    ⟨y.outcome, x.warnings ++ y.warnings⟩
  | .error e => ⟨.error e, x.warnings⟩

instance : Monad Findings where
  pure := pure
  bind := bind

def ofOutcome {α : Type} (o : Outcome α) : Findings α := ⟨o, []⟩

def warn (ws : List Warning) : Findings Unit := ⟨.ok (), ws⟩

variable {α β : Type}

@[simp] theorem outcome_pure (a : α) : (Pure.pure a : Findings α).outcome = .ok a := rfl

@[simp] theorem outcome_ofOutcome (o : Outcome α) : (ofOutcome o).outcome = o := rfl

@[simp] theorem outcome_warn (ws : List Warning) : (warn ws).outcome = .ok () := rfl

/-- Warnings do not decide whether there is a result. -/
@[simp] theorem outcome_bind (x : Findings α) (f : α → Findings β) :
    (x >>= f).outcome = x.outcome.bind fun a => (f a).outcome := by
  obtain ⟨o, ws⟩ := x
  cases o <;> rfl

@[simp] theorem warnings_pure (a : α) : (Pure.pure a : Findings α).warnings = [] := rfl

@[simp] theorem warnings_ofOutcome (o : Outcome α) : (ofOutcome o).warnings = [] := rfl

@[simp] theorem warnings_warn (ws : List Warning) : (warn ws).warnings = ws := rfl

/-- The warnings of what goes on follow those of what came before. -/
theorem warnings_bind_ok {x : Findings α} {a : α} (h : x.outcome = .ok a) (f : α → Findings β) :
    (x >>= f).warnings = x.warnings ++ (f a).warnings := by
  obtain ⟨o, ws⟩ := x
  cases h
  rfl

theorem warnings_bind_error {x : Findings α} {e : Failure} (h : x.outcome = .error e)
    (f : α → Findings β) : (x >>= f).warnings = x.warnings := by
  obtain ⟨o, ws⟩ := x
  cases h
  rfl

/-- What holds of all warnings of two parts holds of those of the whole. -/
theorem forall_warnings_bind {P : Warning → Prop} {x : Findings α} {f : α → Findings β}
    (hx : ∀ w ∈ x.warnings, P w) (hf : ∀ a, ∀ w ∈ (f a).warnings, P w) :
    ∀ w ∈ (x >>= f).warnings, P w := by
  intro w hw
  cases h : x.outcome with
  | error e =>
    rw [warnings_bind_error h] at hw
    exact hx w hw
  | ok a =>
    rw [warnings_bind_ok h] at hw
    exact (List.mem_append.mp hw).elim (hx w) (hf a w)

end Findings

def readBlock (line : Nat) (lines : List Line) : Findings Table := do
  let block ← Findings.ofOutcome (Block.read (blockText lines))
  Findings.warn (Warning.ofBlock line block)
  return block.content

/-- A block is told of as what it turns out to be. -/
theorem readBlock_spec {line : Nat} {lines : List Line} {t : Table}
    (h : (readBlock line lines).outcome = .ok t) :
    ∃ block, Block.read (blockText lines) = .ok block ∧ t = block.content ∧
      (readBlock line lines).warnings = Warning.ofBlock line block := by
  simp only [readBlock, Findings.outcome_bind, Findings.outcome_ofOutcome] at h
  obtain ⟨block, hblock, h⟩ := Outcome.bind_eq_ok_iff.mp h
  cases h
  refine ⟨block, hblock, rfl, ?_⟩
  rw [readBlock, Findings.warnings_bind_ok hblock,
    Findings.warnings_bind_ok (Findings.outcome_warn _)]
  simp

def readSlideMetadata (s : RawSlide) : Findings Table :=
  match (slideMetadata s.lines).1 with
  | some lines => readBlock s.first lines
  | none => Findings.pure .empty

def RawSlide.body (s : RawSlide) (index : Nat) : List ContentNode × List Warning :=
  let start := (slideMetadata s.lines).2
  readBody index 0 (s.first + start) (s.lines.drop start)

def readSlide (settings : Settings) (config : DeckConfig) (index : Nat) (s : RawSlide) :
    Findings Slide := do
  let metadata ← readSlideMetadata s
  let layout ← Findings.ofOutcome (textOr "default" (metadata.getOrNull "layout"))
  let height ← Findings.ofOutcome
    (canvasHeight settings config.canvasWidth config.aspectRatio.toString)
  let area ← Findings.ofOutcome (primarySlot layout.toString ⟨config.canvasWidth, height⟩)
  let (nodes, warnings) := s.body index
  Findings.warn warnings
  return ⟨index, s, metadata, layout, nodes, area, Metrics.ofNodes nodes⟩

/-- What the reading of a slide gives, with these warnings, if it succeeds. -/
structure Slide.IsReadOf (s : Slide) (settings : Settings) (config : DeckConfig) (index : Nat)
    (r : RawSlide) (warnings : List Warning) : Prop where
  source_eq : s.source = r
  index_eq : s.index = index
  metadata : (readSlideMetadata r).outcome = .ok s.metadata
  layout : textOr "default" (s.metadata.getOrNull "layout") = .ok s.layout
  nodes_eq : s.nodes = (r.body index).1
  area : ∃ height,
    canvasHeight settings config.canvasWidth config.aspectRatio.toString = .ok height ∧
      primarySlot s.layout.toString ⟨config.canvasWidth, height⟩ = .ok s.area
  metrics_eq : s.metrics = Metrics.ofNodes s.nodes
  warnings_eq : warnings = (readSlideMetadata r).warnings ++ (r.body index).2

theorem readSlide_spec {settings : Settings} {config : DeckConfig} {index : Nat} {r : RawSlide}
    {s : Slide} (h : (readSlide settings config index r).outcome = .ok s) :
    s.IsReadOf settings config index r (readSlide settings config index r).warnings := by
  simp only [readSlide, Findings.outcome_bind, Findings.outcome_ofOutcome, Findings.outcome_warn,
    Findings.outcome_pure] at h
  obtain ⟨metadata, hmetadata, h⟩ := Outcome.bind_eq_ok_iff.mp h
  obtain ⟨layout, hlayout, h⟩ := Outcome.bind_eq_ok_iff.mp h
  obtain ⟨height, hheight, h⟩ := Outcome.bind_eq_ok_iff.mp h
  obtain ⟨area, harea, h⟩ := Outcome.bind_eq_ok_iff.mp h
  cases h
  refine ⟨rfl, rfl, hmetadata, hlayout, rfl, ⟨height, hheight, harea⟩, rfl, ?_⟩
  rw [readSlide, Findings.warnings_bind_ok hmetadata, Findings.warnings_bind_ok hlayout,
    Findings.warnings_bind_ok hheight, Findings.warnings_bind_ok harea]
  simp only [Findings.warnings_ofOutcome, List.nil_append]
  rw [Findings.warnings_bind_ok (Findings.outcome_warn _)]
  simp

def readSlides (settings : Settings) (config : DeckConfig) :
    Nat → List RawSlide → Findings (List Slide)
  | _, [] => Findings.pure []
  | index, s :: ss => do
    let slide ← readSlide settings config index s
    let slides ← readSlides settings config (index + 1) ss
    return slide :: slides

/-- Slides are read one by one, and their warnings follow one another. -/
theorem readSlides_spec {settings : Settings} {config : DeckConfig} {index : Nat}
    {rs : List RawSlide} {ss : List Slide}
    (h : (readSlides settings config index rs).outcome = .ok ss) :
    ss.map (·.source) = rs ∧ ss.map (·.index) = List.range' index rs.length ∧
      (∀ s ∈ ss, (readSlide settings config s.index s.source).outcome = .ok s) ∧
      (readSlides settings config index rs).warnings =
        ss.flatMap fun s => (readSlide settings config s.index s.source).warnings := by
  induction rs generalizing index ss with
  | nil =>
    cases h
    exact ⟨rfl, rfl, fun s hs => absurd hs List.not_mem_nil, rfl⟩
  | cons r rs ih =>
    simp only [readSlides, Findings.outcome_bind, Findings.outcome_pure] at h
    obtain ⟨s, hs, h⟩ := Outcome.bind_eq_ok_iff.mp h
    obtain ⟨rest, hrest, h⟩ := Outcome.bind_eq_ok_iff.mp h
    cases h
    have hread := readSlide_spec hs
    obtain ⟨hsources, hindices, hall, hwarnings⟩ := ih hrest
    refine ⟨?_, ?_, fun t ht => ?_, ?_⟩
    · rw [List.map_cons, hread.source_eq, hsources]
    · rw [List.map_cons, hread.index_eq, hindices, List.length_cons, List.range'_succ]
    · rcases List.mem_cons.mp ht with rfl | ht
      · rw [hread.source_eq, hread.index_eq]
        exact hs
      · exact hall t ht
    · rw [readSlides, Findings.warnings_bind_ok hs, Findings.warnings_bind_ok hrest, hwarnings,
        List.flatMap_cons, hread.source_eq, hread.index_eq]
      simp

def Cut.warnings (c : Cut) : List Warning :=
  (if c.documentUnclosed then [.unclosedDocumentBlock] else []) ++
    c.slideUnclosed.toList.map .unclosedSlideBlock

/-- The lines of a source; a carriage return in front of a line feed is no part of the line. -/
def sourceLines (source : List Char) : List Line :=
  splitLines (dropReturns source)
where
  dropReturns : List Char → List Char
    | '\r' :: '\n' :: cs => '\n' :: dropReturns cs
    | c :: cs => c :: dropReturns cs
    | [] => []

/-- Without carriage returns, there is nothing to drop. -/
theorem sourceLines_of_no_return {source : List Char} (h : '\r' ∉ source) :
    sourceLines source = splitLines source := by
  rw [sourceLines]
  congr 1
  induction source using sourceLines.dropReturns.induct with
  | case1 cs ih => exact absurd List.mem_cons_self h
  | case2 c cs hpair ih =>
    rw [sourceLines.dropReturns, ih fun hc => h (.tail c hc)]
    exact hpair
  | case3 => rfl

/-- Cuts a document into slides and reads its document-wide metadata, which may fail. -/
def splitSlides (keys : MetadataKeys) (lines : List Line) : Findings (List RawSlide × Table) := do
  let parts := cut keys lines
  let table ← readBlock 1 parts.documentBlock
  Findings.warn parts.warnings
  return (parts.slides, table)

/-- Only what becomes of the document-wide block decides whether there are slides. -/
theorem splitSlides_outcome (keys : MetadataKeys) (lines : List Line) :
    (splitSlides keys lines).outcome =
      (Block.read (blockText (cut keys lines).documentBlock)).map fun block =>
        ((cut keys lines).slides, block.content) := by
  simp only [splitSlides, readBlock, Findings.outcome_bind, Findings.outcome_ofOutcome,
    Findings.outcome_warn, Findings.outcome_pure]
  cases Block.read (blockText (cut keys lines).documentBlock) <;> rfl

/-- What is told of the document-wide block comes before what is told of the cut. -/
theorem splitSlides_spec {keys : MetadataKeys} {lines : List Line} {slides : List RawSlide}
    {table : Table} (h : (splitSlides keys lines).outcome = .ok (slides, table)) :
    slides = (cut keys lines).slides ∧
      (readBlock 1 (cut keys lines).documentBlock).outcome = .ok table ∧
      (splitSlides keys lines).warnings =
        (readBlock 1 (cut keys lines).documentBlock).warnings ++ (cut keys lines).warnings := by
  simp only [splitSlides, Findings.outcome_bind] at h
  obtain ⟨t, ht, h⟩ := Outcome.bind_eq_ok_iff.mp h
  cases h
  refine ⟨rfl, ht, ?_⟩
  rw [splitSlides, Findings.warnings_bind_ok ht,
    Findings.warnings_bind_ok (Findings.outcome_warn _)]
  simp

def readLines (settings : Settings) (keys : MetadataKeys) (lines : List Line) :
    Findings (DeckConfig × List Slide) := do
  let (raw, table) ← splitSlides keys lines
  let (config, warnings) ← Findings.ofOutcome (DeckConfig.ofTable settings table)
  Findings.warn warnings
  let slides ← readSlides settings config 0 raw
  return (config, slides)

/-- Reads a presentation. The second part is what reading tells on the side, whether it succeeds or
not. -/
def Presentation.read (settings : Settings) (keys : MetadataKeys) (source : List Char) :
    Outcome Presentation × List LogEntry :=
  let lines := sourceLines source
  let found := readLines settings keys lines
  let told := found.warnings.filterMap Warning.logEntry?
  match found.outcome with
  | .error e => (.error e, told)
  | .ok (config, slides) =>
    let summary := "Parsed " ++ decimal slides.length ++ " slides from " ++
      decimal lines.length ++ " lines"
    (.ok ⟨config, slides, found.warnings, lines.length⟩, told ++ [.note 2 summary])
where
  decimal (n : Nat) : String := String.ofList (numeral n)

/-- Warnings come in the order of the stages: cutting, the configuration, the slides. -/
theorem readLines_spec {settings : Settings} {keys : MetadataKeys} {lines : List Line}
    {config : DeckConfig} {slides : List Slide}
    (h : (readLines settings keys lines).outcome = .ok (config, slides)) :
    ∃ table warnings,
      (splitSlides keys lines).outcome = .ok ((cut keys lines).slides, table) ∧
        DeckConfig.ofTable settings table = .ok (config, warnings) ∧
        (readSlides settings config 0 (cut keys lines).slides).outcome = .ok slides ∧
        (readLines settings keys lines).warnings = (splitSlides keys lines).warnings ++
          (warnings ++ (readSlides settings config 0 (cut keys lines).slides).warnings) := by
  simp only [readLines, Findings.outcome_bind, Findings.outcome_ofOutcome, Findings.outcome_warn,
    Findings.outcome_pure] at h
  obtain ⟨⟨raw, table⟩, hsplit, h⟩ := Outcome.bind_eq_ok_iff.mp h
  obtain ⟨⟨found, warnings⟩, hconfig, h⟩ := Outcome.bind_eq_ok_iff.mp h
  obtain ⟨_, _, h⟩ := Outcome.bind_eq_ok_iff.mp h
  obtain ⟨_, hslides, h⟩ := Outcome.bind_eq_ok_iff.mp h
  cases h
  obtain rfl := (splitSlides_spec hsplit).1
  refine ⟨table, warnings, hsplit, hconfig, hslides, ?_⟩
  rw [readLines, Findings.warnings_bind_ok hsplit, Findings.warnings_bind_ok hconfig,
    Findings.warnings_bind_ok (Findings.outcome_warn _), Findings.warnings_bind_ok hslides]
  simp

theorem Presentation.readLines_of_read {settings : Settings} {keys : MetadataKeys}
    {source : List Char} {p : Presentation}
    (h : (Presentation.read settings keys source).1 = .ok p) :
    (readLines settings keys (sourceLines source)).outcome = .ok (p.config, p.slides) ∧
      p.warnings = (readLines settings keys (sourceLines source)).warnings := by
  simp only [Presentation.read] at h
  split at h
  · cases h
  · next hfound =>
    cases h
    exact ⟨hfound, rfl⟩

/-- The slides of a presentation are read from those that its document is cut into. -/
theorem Presentation.readSlides_of_read {settings : Settings} {keys : MetadataKeys}
    {source : List Char} {p : Presentation}
    (h : (Presentation.read settings keys source).1 = .ok p) :
    (readSlides settings p.config 0 (cut keys (sourceLines source)).slides).outcome =
      .ok p.slides := by
  obtain ⟨_, _, _, _, hslides, _⟩ := readLines_spec (readLines_of_read h).1
  exact hslides

/-- The slides of a presentation are those that its document is cut into, and their nodes are read
from them. -/
theorem Presentation.read_spec {settings : Settings} {keys : MetadataKeys} {source : List Char}
    {p : Presentation} (h : (Presentation.read settings keys source).1 = .ok p) :
    p.slides.map (·.source) = (cut keys (sourceLines source)).slides ∧
      ∀ s ∈ p.slides, s.nodes = (s.source.body s.index).1 := by
  obtain ⟨hsources, _, hall, _⟩ := readSlides_spec (readSlides_of_read h)
  exact ⟨hsources, fun s hs => (readSlide_spec (hall s hs)).nodes_eq⟩

def RawSlide.ofSource (keys : MetadataKeys) (source : List Char) :
    Outcome (List RawSlide) × List LogEntry :=
  let found := splitSlides keys (sourceLines source)
  (found.outcome.map (·.1), found.warnings.filterMap Warning.logEntry?)

end SlideOverflow.Deck
