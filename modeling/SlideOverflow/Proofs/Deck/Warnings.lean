import Mathlib.Data.List.Infix
import SlideOverflow.Proofs.Deck.NodeTree
import SlideOverflow.Proofs.Deck.Unclosed

/-! What reading a document tells. The text of a warning shows its kind by how it begins, and each
stage of reading has kinds of its own: cutting the document, reading a metadata block, the
configuration, and the bodies of the slides. -/
namespace SlideOverflow.Deck

open Metadata Number Text

/-! ### Kinds of warnings -/

inductive WarningKind where
  | documentBlock
  | slideBlock
  | malformed
  | notTable
  | canvasWidth
  | code
  | comment
deriving DecidableEq, Repr

namespace WarningKind

def opening : WarningKind → String
  | documentBlock => "Unclosed global metadata block at line 1, using defaults"
  | slideBlock => "Unclosed slide metadata block at line "
  | malformed => "Failed to parse metadata block at line "
  | notTable => "Metadata block at line "
  | canvasWidth => "Ignoring invalid canvasWidth "
  | code => "Unclosed code block at line "
  | comment => "Unclosed HTML comment at line "

def among (kinds : List WarningKind) (text : String) : Bool :=
  kinds.any fun kind => kind.opening.toList.isPrefixOf text.toList

/-- The tenth character of the texts of a kind, in which the kinds differ. -/
def tenth : WarningKind → Char
  | documentBlock => 'g'
  | slideBlock => 's'
  | malformed => ' '
  | notTable => 'b'
  | canvasWidth => 'i'
  | code => 'c'
  | comment => 'H'

theorem opening_tenth (kind : WarningKind) : kind.opening.toList[9]? = some kind.tenth := by
  cases kind <;> decide +kernel

theorem eq_of_isPrefix {kind other : WarningKind}
    (h : kind.opening.toList <+: other.opening.toList) : kind = other := by
  obtain ⟨rest, hrest⟩ := h
  have hlength := (List.getElem?_eq_some_iff.mp kind.opening_tenth).1
  have htenth := other.opening_tenth
  rw [← hrest, List.getElem?_append_left hlength, kind.opening_tenth] at htenth
  revert htenth
  cases kind <;> cases other <;> decide

end WarningKind

namespace Warning

def kind : Warning → WarningKind
  | .unclosedDocumentBlock => .documentBlock
  | .unclosedSlideBlock _ => .slideBlock
  | .malformedMetadata _ _ _ => .malformed
  | .metadataNotTable _ => .notTable
  | .unusableCanvasWidth _ _ => .canvasWidth
  | .unclosedCode _ => .code
  | .unclosedComment _ => .comment

private theorem message_eq (w : Warning) : ∃ rest, w.message = w.kind.opening ++ rest := by
  unfold message
  cases w with
  | unclosedDocumentBlock => exact ⟨"", String.append_empty.symm⟩
  | malformedMetadata line fault text =>
    simp only [String.append_assoc]
    exact ⟨_, rfl⟩
  | metadataNotTable line =>
    simp only [String.append_assoc]
    exact ⟨_, rfl⟩
  | unusableCanvasWidth shown used =>
    simp only [String.append_assoc]
    exact ⟨_, rfl⟩
  | _ => exact ⟨_, rfl⟩

private theorem opening_isPrefix (w : Warning) : w.kind.opening.toList <+: w.message.toList := by
  obtain ⟨rest, hrest⟩ := w.message_eq
  rw [hrest, String.toList_append]
  exact List.prefix_append _ _

/-- The text of a warning is of its kind and of no other. -/
private theorem among_message (kinds : List WarningKind) (w : Warning) :
    WarningKind.among kinds w.message = decide (w.kind ∈ kinds) := by
  rw [Bool.eq_iff_iff, WarningKind.among, List.any_eq_true, decide_eq_true_iff]
  constructor
  · rintro ⟨kind, hkind, hopens⟩
    have hprefix := List.isPrefixOf_iff_prefix.mp hopens
    rcases List.prefix_or_prefix_of_prefix hprefix w.opening_isPrefix with h | h
    · rwa [← WarningKind.eq_of_isPrefix h]
    · rwa [WarningKind.eq_of_isPrefix h]
  · intro h
    exact ⟨w.kind, h, List.isPrefixOf_iff_prefix.mpr w.opening_isPrefix⟩

theorem kind_eq_of_message_eq {v w : Warning} (h : v.message = w.message) : v.kind = w.kind := by
  have hv := among_message [w.kind] v
  rw [h, among_message, decide_eq_decide] at hv
  exact List.mem_singleton.mp (hv.mp List.mem_cons_self)

section Filter

variable {kinds others : List WarningKind} {ws : List Warning}

private theorem filter_among (kinds : List WarningKind) (ws : List Warning) :
    (ws.map message).filter (WarningKind.among kinds) =
      (ws.filter fun w => w.kind ∈ kinds).map message := by
  rw [List.filter_map]
  congr 1
  exact List.filter_congr fun w _ => among_message kinds w

private theorem filter_of_kind (h : ∀ w ∈ ws, w.kind ∈ kinds) :
    ws.filter (fun w => w.kind ∈ kinds) = ws :=
  List.filter_eq_self.mpr fun w hw => decide_eq_true (h w hw)

private theorem filter_of_other (h : ∀ w ∈ ws, w.kind ∈ others) (hkinds : ∀ k ∈ others, k ∉ kinds) :
    ws.filter (fun w => w.kind ∈ kinds) = [] := by
  refine List.filter_eq_nil_iff.mpr fun w hw => ?_
  rw [decide_eq_true_iff]
  exact hkinds _ (h w hw)

end Filter

end Warning

/-! ### What gives way to defaults -/

/-- What a metadata block with some text gives, and what is told of it: a text at fault and a value
that is no table give an empty table and one warning. A blank text counts as no metadata, whatever
it describes. -/
structure BlockReading (line : Nat) (text : List Char) (t : Table) (told : List Warning) :
    Prop where
  malformed : ∀ fault, text.all isBlank = false → Datum.ofText? text = .error (.fault fault) →
    t = .empty ∧ told = [.malformedMetadata line fault text]
  notTable : ∀ d, text.all isBlank = false → Datum.ofText? text = .ok d → d.value ≠ .null →
    d.table? = none → t = .empty ∧ told = [.metadataNotTable line]
  blank : text.all isBlank = true → t = .empty ∧ told = []
  null : ∀ d, Datum.ofText? text = .ok d → d.value = .null → t = .empty ∧ told = []
  table : ∀ d u, text.all isBlank = false → Datum.ofText? text = .ok d → d.table? = some u →
    t = u ∧ told = []

theorem readBlock_reading {line : Nat} {lines : List Line} {t : Table}
    (h : (readBlock line lines).outcome = .ok t) :
    BlockReading line (blockText lines) t (readBlock line lines).warnings := by
  obtain ⟨block, hblock, rfl, hwarnings⟩ := readBlock_spec h
  rw [hwarnings]
  rw [Block.read] at hblock
  refine ⟨fun fault hblank hfault => ?_, fun d hblank hd hnull ht => ?_, fun hblank => ?_,
    fun d hd hnull => ?_, fun d u hblank hd hu => ?_⟩
  · rw [hblank, hfault] at hblock
    cases hblock
    exact ⟨rfl, rfl⟩
  · rw [hblank, hd] at hblock
    dsimp only at hblock
    rw [if_neg hnull, ht] at hblock
    cases hblock
    exact ⟨rfl, rfl⟩
  · rw [if_pos hblank] at hblock
    cases hblock
    exact ⟨rfl, rfl⟩
  · rw [hd] at hblock
    dsimp only at hblock
    rw [if_pos hnull, ite_self] at hblock
    cases hblock
    exact ⟨rfl, rfl⟩
  · have hnull : d.value ≠ .null := by
      intro hnull
      rw [Datum.table?, Datum.collection?, hnull] at hu
      cases hu
    rw [hblank, hd] at hblock
    dsimp only at hblock
    rw [if_neg hnull, hu] at hblock
    cases hblock
    exact ⟨rfl, rfl⟩

/-- What becomes of the width that is asked for, and what is told of it: a value that is neither
usable nor absent gives the width of the settings and one warning. -/
structure WidthReading (settings : Settings) (asked : Datum) (width : Quantity)
    (told : List Warning) : Prop where
  usable : ∀ q, usableWidth? asked.value = some q → width = q ∧ told = []
  absent : asked.value = .null → width = .int settings.canvasWidth ∧ told = []
  unusable : usableWidth? asked.value = none → asked.value ≠ .null →
    width = .int settings.canvasWidth ∧ ∃ shown, asked.shown = .ok shown ∧
      told = [.unusableCanvasWidth shown settings.canvasWidth]

theorem widthOrDefault_reading {settings : Settings} {asked : Datum} {width : Quantity}
    {told : List Warning} (h : widthOrDefault settings asked = .ok (width, told)) :
    WidthReading settings asked width told := by
  rw [widthOrDefault] at h
  refine ⟨fun q hq => ?_, fun hnull => ?_, fun hq hnull => ?_⟩
  · rw [hq] at h
    cases h
    exact ⟨rfl, rfl⟩
  · rw [hnull] at h
    cases h
    exact ⟨rfl, rfl⟩
  · rw [hq] at h
    dsimp only at h
    rw [if_neg hnull] at h
    obtain ⟨shown, hshown, h⟩ := Outcome.bind_eq_ok_iff.mp h
    cases h
    exact ⟨rfl, shown, hshown, rfl⟩

theorem WidthReading.told_cases {settings : Settings} {asked : Datum} {width : Quantity}
    {told : List Warning} (h : WidthReading settings asked width told) :
    told = [] ∨ ∃ shown, told = [.unusableCanvasWidth shown settings.canvasWidth] := by
  cases hq : usableWidth? asked.value with
  | some q => exact .inl (h.usable q hq).2
  | none =>
    by_cases hnull : asked.value = .null
    · exact .inl (h.absent hnull).2
    · obtain ⟨_, shown, _, htold⟩ := h.unusable hq hnull
      exact .inr ⟨shown, htold⟩

/-! ### What each stage tells -/

section Stages

variable {settings : Settings} {config : DeckConfig} {index : Nat}

theorem kind_readBlock {line : Nat} {lines : List Line} :
    ∀ w ∈ (readBlock line lines).warnings, w.kind ∈ [.malformed, .notTable] := by
  refine Findings.forall_warnings_bind (fun w hw => absurd hw List.not_mem_nil) fun block => ?_
  refine Findings.forall_warnings_bind ?_ fun _ w hw => absurd hw List.not_mem_nil
  cases block <;> simp [Warning.ofBlock, Warning.kind]

private theorem kind_readSlideMetadata {s : RawSlide} :
    ∀ w ∈ (readSlideMetadata s).warnings, w.kind ∈ [.malformed, .notTable] := by
  rw [readSlideMetadata]
  split
  · exact kind_readBlock
  · exact fun w hw => absurd hw List.not_mem_nil

private theorem kind_cut {c : Cut} : ∀ w ∈ c.warnings, w.kind ∈ [.documentBlock, .slideBlock] := by
  simp only [Cut.warnings]
  cases c.documentUnclosed <;> cases c.slideUnclosed <;> simp [Warning.kind]

private theorem kind_splitSlides {keys : MetadataKeys} {lines : List Line} :
    ∀ w ∈ (splitSlides keys lines).warnings,
      w.kind ∈ [.malformed, .notTable, .documentBlock, .slideBlock] := by
  refine Findings.forall_warnings_bind (fun w hw => ?_) fun _ => ?_
  · exact List.mem_append_left [.documentBlock, .slideBlock] (kind_readBlock w hw)
  · refine Findings.forall_warnings_bind (fun w hw => ?_) fun _ w hw => absurd hw List.not_mem_nil
    exact List.mem_append_right [.malformed, .notTable] (kind_cut w hw)

private theorem exists_block_of_readBlock {line : Nat} {lines : List Line} {w : Warning}
    (hw : w ∈ (readBlock line lines).warnings) :
    lines ≠ [] ∧ ∃ block, w ∈ Warning.ofBlock line block := by
  cases hread : Block.read (blockText lines) with
  | error e =>
    rw [readBlock, Findings.warnings_bind_error hread] at hw
    exact absurd hw List.not_mem_nil
  | ok block =>
    have hcontent : (readBlock line lines).outcome = .ok block.content := by
      simp only [readBlock, Findings.outcome_bind, Findings.outcome_ofOutcome, hread]
      rfl
    obtain ⟨b, hb, _, hwarnings⟩ := readBlock_spec hcontent
    rw [hwarnings] at hw
    refine ⟨fun hlines => ?_, b, hw⟩
    rw [hlines, Block.read, if_pos (by rfl)] at hb
    cases hb
    exact absurd hw List.not_mem_nil

/-- Cutting tells of metadata only if there is a document-wide block, in front of all slides. -/
private theorem exists_block_of_splitSlides {keys : MetadataKeys} {lines : List Line} :
    ∀ w ∈ (splitSlides keys lines).warnings, w.kind ∈ [.malformed, .notTable] →
      (∃ block, w ∈ Warning.ofBlock 1 block) ∧ ∀ s ∈ (cut keys lines).slides, 1 < s.first := by
  refine Findings.forall_warnings_bind (fun w hw _ => ?_) fun _ => ?_
  · obtain ⟨hlines, hblock⟩ := exists_block_of_readBlock hw
    exact ⟨hblock, fun s => one_lt_first hlines⟩
  · refine Findings.forall_warnings_bind (fun w hw hkind => ?_) fun _ w hw =>
      absurd hw List.not_mem_nil
    have hother : ∀ k ∈ [.documentBlock, .slideBlock], k ∉ [WarningKind.malformed, .notTable] := by
      decide
    exact absurd hkind (hother _ (kind_cut w hw))

theorem kind_ofTable {t : Table} {warnings : List Warning}
    (h : DeckConfig.ofTable settings t = .ok (config, warnings)) :
    ∀ w ∈ warnings, w.kind ∈ [.canvasWidth] := by
  have hwidth := widthOrDefault_reading (DeckConfig.ofTable_spec h).width
  intro w hw
  obtain rfl | ⟨shown, rfl⟩ := hwidth.told_cases
  · exact absurd hw List.not_mem_nil
  · rw [List.mem_singleton.mp hw]
    exact List.mem_cons_self

private theorem BodyEnd.kind {stop : Nat} {found : List ContentNode × List Warning}
    (h : BodyEnd stop found) : ∀ w ∈ found.2, w.kind ∈ [.code, .comment] := by
  cases h <;> simp [Warning.kind]

def Slide.told (s : Slide) : List Warning :=
  (readSlideMetadata s.source).warnings ++ (s.source.body s.index).2

theorem Slide.kind_told {s : Slide} :
    ∀ w ∈ s.told, w.kind ∈ [.malformed, .notTable, .code, .comment] := by
  intro w hw
  rcases List.mem_append.mp hw with hw | hw
  · exact List.mem_append_left [.code, .comment] (kind_readSlideMetadata w hw)
  · exact List.mem_append_right [.malformed, .notTable] ((s.source.body_ends s.index).kind w hw)

theorem readSlides_told {rs : List RawSlide} {ss : List Slide}
    (h : (readSlides settings config index rs).outcome = .ok ss) :
    (∀ s ∈ ss, (readSlideMetadata s.source).outcome = .ok s.metadata) ∧
      (readSlides settings config index rs).warnings = ss.flatMap Slide.told := by
  obtain ⟨_, _, hall, hwarnings⟩ := readSlides_spec h
  refine ⟨fun s hs => (readSlide_spec (hall s hs)).metadata, ?_⟩
  rw [hwarnings]
  exact List.flatMap_congr fun s hs => (readSlide_spec (hall s hs)).warnings_eq

/-- The warnings of a presentation, in the order of the stages. -/
theorem Presentation.warnings_eq {keys : MetadataKeys} {source : List Char} {p : Presentation}
    (h : (Presentation.read settings keys source).1 = .ok p) :
    ∃ ws, (∀ w ∈ ws, w.kind ∈ [.canvasWidth]) ∧
      p.warnings = (splitSlides keys (sourceLines source)).warnings ++
        (ws ++ p.slides.flatMap Slide.told) := by
  obtain ⟨hlines, hwarnings⟩ := readLines_of_read h
  obtain ⟨table, ws, _, hconfig, hslides, hall⟩ := readLines_spec hlines
  refine ⟨ws, kind_ofTable hconfig, ?_⟩
  rw [hwarnings, hall, (readSlides_told hslides).2]

end Stages

/-! ### What the warnings of a presentation tell -/

def unclosedCodeText (line : Nat) : String :=
  "Unclosed code block at line " ++ String.ofList (numeral line)

namespace Slide

def metadataTexts (s : Slide) : List String :=
  (s.told.map Warning.message).filter (WarningKind.among [.malformed, .notTable])

def bodyTexts (s : Slide) : List String :=
  (s.told.map Warning.message).filter (WarningKind.among [.code, .comment])

private theorem metadataTexts_eq (s : Slide) :
    s.metadataTexts = (readSlideMetadata s.source).warnings.map Warning.message := by
  rw [metadataTexts, Warning.filter_among, told, List.filter_append,
    Warning.filter_of_kind kind_readSlideMetadata,
    Warning.filter_of_other (s.source.body_ends s.index).kind (by decide), List.append_nil]

private theorem bodyTexts_eq (s : Slide) :
    s.bodyTexts = (s.source.body s.index).2.map Warning.message := by
  rw [bodyTexts, Warning.filter_among, told, List.filter_append,
    Warning.filter_of_other kind_readSlideMetadata (by decide),
    Warning.filter_of_kind (s.source.body_ends s.index).kind, List.nil_append]

/-- What reading the slide tells of its metadata, the text of which is `text`. A blank text counts
as no metadata, whatever it describes. -/
structure MetadataTold (s : Slide) (text : List Char) : Prop where
  malformed : ∀ fault, text.all isBlank = false → Datum.ofText? text = .error (.fault fault) →
    s.metadata = .empty ∧
      s.metadataTexts = [(Warning.malformedMetadata s.first fault text).message]
  notTable : ∀ d, text.all isBlank = false → Datum.ofText? text = .ok d → d.value ≠ .null →
    d.table? = none →
    s.metadata = .empty ∧ s.metadataTexts = [(Warning.metadataNotTable s.first).message]
  blank : text.all isBlank = true → s.metadataTexts = []
  null : ∀ d, Datum.ofText? text = .ok d → d.value = .null → s.metadataTexts = []
  table : ∀ d, Datum.ofText? text = .ok d → d.table?.isSome = true → s.metadataTexts = []

private theorem readSlideMetadata_closed {s : Slide} {opening closing : Line}
    {block body : List Line}
    (hlines : s.lines = opening :: (block ++ closing :: body)) (ho : opening.isSeparator = true)
    (hb : ∀ l ∈ block, l.isSeparator = false) (hc : closing.isSeparator = true) :
    readSlideMetadata s.source = readBlock s.first block := by
  rw [lines] at hlines
  rw [readSlideMetadata, hlines, slideMetadata_closed ho hb hc]
  rfl

private theorem metadataTold {s : Slide} {block : List Line}
    (hblock : readSlideMetadata s.source = readBlock s.first block)
    (hread : (readSlideMetadata s.source).outcome = .ok s.metadata) :
    s.MetadataTold (blockText block) := by
  have hreading := readBlock_reading (hblock ▸ hread)
  have htexts := s.metadataTexts_eq
  rw [hblock] at htexts
  refine ⟨fun fault hblank hfault => ?_, fun d hblank hd hnull ht => ?_, fun hblank => ?_,
    fun d hd hnull => ?_, fun d hd ht => ?_⟩
  · obtain ⟨htable, htold⟩ := hreading.malformed fault hblank hfault
    exact ⟨htable, by rw [htexts, htold]; rfl⟩
  · obtain ⟨htable, htold⟩ := hreading.notTable d hblank hd hnull ht
    exact ⟨htable, by rw [htexts, htold]; rfl⟩
  · rw [htexts, (hreading.blank hblank).2]
    rfl
  · rw [htexts, (hreading.null d hd hnull).2]
    rfl
  · obtain ⟨t, ht⟩ := Option.isSome_iff_exists.mp ht
    rw [htexts]
    cases hblank : (blockText block).all isBlank with
    | true => rw [(hreading.blank hblank).2]; rfl
    | false => rw [(hreading.table d t hblank hd ht).2]; rfl

end Slide

private theorem BodyEnd.code_told {stop : Nat} {found : List ContentNode × List Warning}
    (h : BodyEnd stop found) :
    found.2.filter (fun w => w.kind ∈ [.code]) =
      (found.1.filter (·.isUnclosed)).map fun n => .unclosedCode n.first := by
  have hnone {nodes : List ContentNode} (hnodes : ∀ n ∈ nodes, n.isUnclosed = false) :
      nodes.filter (·.isUnclosed) = [] := by
    refine List.filter_eq_nil_iff.mpr fun n hn => ?_
    rw [hnodes n hn]
    exact Bool.false_ne_true
  cases h with
  | closed hnodes => simp [hnone hnodes]
  | code hnodes hlast _ => simp [hnone hnodes, hlast, Warning.kind]
  | comment hnodes => simp [hnone hnodes, Warning.kind]

/-- Warnings that concern the document as a whole: none about a block in a body, and none about
metadata other than that in line 1, and then no slide begins there. -/
structure Presentation.IsPreface (p : Presentation) (front : List Warning) : Prop where
  body : (front.map Warning.message).filter (WarningKind.among [.code, .comment]) = []
  metadata : ∀ w ∈ front, w.kind ∈ [.malformed, .notTable] →
    (∃ block, w ∈ Warning.ofBlock 1 block) ∧ ∀ s ∈ p.slides, 1 < s.first

/-- What it means that the warnings of a presentation name what is amiss in its slides. -/
structure Presentation.Reports (p : Presentation) : Prop where
  /-- What concerns the document as a whole comes first, and then what each slide gives rise to. -/
  order : ∃ front, p.IsPreface front ∧ p.warnings = front ++ p.slides.flatMap Slide.told
  /-- The texts about code are those of the blocks that are not closed, one for each in order. -/
  code : (p.warnings.map Warning.message).filter (WarningKind.among [.code]) =
    (p.slides.flatMap fun s => s.nodes.filter (·.isUnclosed)).map fun n => unclosedCodeText n.first
  /-- No node within a node is a block of code. -/
  topLevel : ∀ s ∈ p.slides, ∀ n ∈ s.nodes, ∀ c ∈ n.children,
    c.Everywhere fun m => m.isCode = false
  last : ∀ s ∈ p.slides, ∀ n ∈ s.nodes, n.isUnclosed = true →
    s.nodes.getLast? = some n ∧ n.last = s.last
  single : ∀ s ∈ p.slides, s.bodyTexts.length ≤ 1
  metadata : ∀ s ∈ p.slides, ∀ {opening closing : Line} {block body : List Line},
    s.lines = opening :: (block ++ closing :: body) → opening.isSeparator = true →
    (∀ l ∈ block, l.isSeparator = false) → closing.isSeparator = true →
    s.MetadataTold (blockText block)

/-- The warnings of a presentation name exactly the blocks of code that are not closed, at most one
block in each slide, and the slides whose metadata is no table. -/
theorem Presentation.read_reports {settings : Settings} {keys : MetadataKeys}
    {source : List Char} {p : Presentation}
    (h : (Presentation.read settings keys source).1 = .ok p) : p.Reports := by
  obtain ⟨ws, hws, hwarnings⟩ := warnings_eq h
  have hmetadata := (readSlides_told (readSlides_of_read h)).1
  have hends : ∀ s ∈ p.slides, BodyEnd (s.first + s.lines.length) (s.source.body s.index) :=
    fun s _ => s.source.body_ends s.index
  have hnodes := (read_spec h).2
  rw [← List.append_assoc] at hwarnings
  refine ⟨⟨_, ⟨?_, fun w hw hkind => ?_⟩, hwarnings⟩, ?_, fun s hs n hn => ?_,
    fun s hs n hn hunclosed => ?_, fun s hs => ?_,
    fun s hs opening closing block body hlines ho hb hc => ?_⟩
  · rw [Warning.filter_among, List.filter_append,
      Warning.filter_of_other kind_splitSlides (by decide), Warning.filter_of_other hws (by decide)]
    rfl
  · rcases List.mem_append.mp hw with hw | hw
    · obtain ⟨hblock, hslides⟩ := exists_block_of_splitSlides w hw hkind
      exact ⟨hblock, fun s hs => hslides _ (mem_cut_of_read h hs).1⟩
    · have hother : ∀ k ∈ [.canvasWidth], k ∉ [WarningKind.malformed, .notTable] := by decide
      exact absurd hkind (hother _ (hws w hw))
  · rw [Warning.filter_among, hwarnings, List.filter_append, List.filter_append,
      Warning.filter_of_other kind_splitSlides (by decide), Warning.filter_of_other hws (by decide),
      List.nil_append, List.nil_append, List.filter_flatMap, List.map_flatMap, List.map_flatMap]
    refine List.flatMap_congr fun s hs => ?_
    rw [Slide.told, List.filter_append, Warning.filter_of_other kind_readSlideMetadata (by decide),
      List.nil_append, (hends s hs).code_told, hnodes s hs, List.map_map]
    rfl
  · rw [hnodes s hs] at hn
    exact fun c hc => (RawSlide.body_within hn c hc).imp fun m => ContentNode.not_isCode_of_nested
  · rw [hnodes s hs] at hn ⊢
    obtain ⟨hlast, hstop⟩ := (hends s hs).unclosed n hn hunclosed
    have hslide := (cut_slide (mem_cut_of_read h hs).1).2.2.1
    exact ⟨hlast, by rw [Slide.last]; rw [Slide.first, Slide.lines] at hstop; omega⟩
  · rw [Slide.bodyTexts_eq, List.length_map]
    exact (hends s hs).length_le
  · exact Slide.metadataTold (Slide.readSlideMetadata_closed hlines ho hb hc) (hmetadata s hs)

/-- A slide whose metadata is malformed, one with an open block of code and one with an open
comment. -/
theorem Presentation.read_reports_of_open_blocks :
    let source := "---\nlayout: [\n---\n# A\n---\n\n```\nx\n---\n\n<!-- b".toList
    ∃ p, (Presentation.read {} {} source).1 = .ok p ∧
      p.warnings.map Warning.kind = [.malformed, .code, .comment] ∧ p.Reports := by
  intro source
  obtain ⟨p, hp, hkinds⟩ : ∃ p, (Presentation.read {} {} source).1 = .ok p ∧
      p.warnings.map Warning.kind = [.malformed, .code, .comment] := by
    decide +kernel
  exact ⟨p, hp, hkinds, Presentation.read_reports hp⟩

end SlideOverflow.Deck
