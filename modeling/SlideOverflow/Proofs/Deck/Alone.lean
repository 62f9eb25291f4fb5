import SlideOverflow.Proofs.Deck.NodeTree
import SlideOverflow.Proofs.Deck.Readable
import SlideOverflow.Proofs.Deck.Renumbered
import SlideOverflow.Proofs.Deck.Separators

/-! Slides on their own. The content of a slide, read as a document of its own, gives the slide
again: the cutter finds the same metadata in front of it, and its nodes only have other line
numbers. -/
namespace SlideOverflow.Deck
open Metadata SlideOverflow.Geometry

/-! ### The lines of a slide -/

def ReturnsPaired (source : List Char) : Prop :=
  ∀ i : Nat, source[i]? = some '\r' → source[i + 1]? = some '\n'

private theorem ReturnsPaired.not_mem {source : List Char} (h : ReturnsPaired source) :
    '\r' ∉ sourceLines.dropReturns source := by
  induction source using sourceLines.dropReturns.induct with
  | case1 cs ih =>
    rw [sourceLines.dropReturns, List.mem_cons, not_or]
    exact ⟨by decide, ih fun i hi => h (i + 2) hi⟩
  | case2 c cs hpair ih =>
    rw [sourceLines.dropReturns, List.mem_cons, not_or]
    · refine ⟨?_, ih fun i hi => h (i + 1) hi⟩
      -- a carriage return at this place would be followed by a line feed
      rintro rfl
      have hnext := h 0 rfl
      cases cs with
      | nil => cases hnext
      | cons d ds => exact hpair ds rfl (by rw [Option.some.inj hnext])
    · exact hpair
  | case3 => exact List.not_mem_nil

private theorem mem_joinLines {lines : List Line} {c : Char} (h : c ∈ (joinLines lines).toList) :
    c = '\n' ∨ ∃ l ∈ lines, c ∈ l.toList := by
  rw [joinLines, String.toList_intercalate] at h
  induction lines with
  | nil => exact absurd h List.not_mem_nil
  | cons l ls ih =>
    have hl : c ∈ l.toList → c = '\n' ∨ ∃ k ∈ l :: ls, c ∈ k.toList :=
      fun hc => .inr ⟨l, List.mem_cons_self, hc⟩
    cases ls with
    | nil =>
      rw [List.map_singleton, List.intercalate_singleton] at h
      exact hl h
    | cons m ls =>
      rw [List.map_cons, List.map_cons, List.intercalate_cons_cons] at h
      rcases List.mem_append.mp h with h | h
      · rcases List.mem_append.mp h with h | h
        · exact hl h
        · exact .inl (List.mem_singleton.mp h)
      · rcases ih h with h | ⟨k, hk, hc⟩
        · exact .inl h
        · exact .inr ⟨k, .tail l hk, hc⟩

/-- A slide of a document without stray carriage returns has the same lines on its own. -/
private theorem sourceLines_content {keys : MetadataKeys} {source : List Char} {s : RawSlide}
    (hpaired : ReturnsPaired source) (hs : s ∈ (cut keys (sourceLines source)).slides) :
    sourceLines s.content.toList = s.lines := by
  obtain ⟨_, hle, hlast, hlines⟩ := cut_slide hs
  have hne : s.lines ≠ [] := by
    rw [← List.length_pos_iff]
    omega
  have hmem : ∀ l ∈ s.lines, '\n' ∉ l.toList ∧ '\r' ∉ l.toList := by
    intro l hl
    rw [hlines] at hl
    obtain ⟨hfeed, hchars⟩ := mem_splitLines (List.mem_of_mem_drop (List.mem_of_mem_take hl))
    exact ⟨hfeed, fun hc => hpaired.not_mem (hchars _ hc)⟩
  have hreturn : '\r' ∉ s.content.toList := by
    intro hc
    rcases mem_joinLines hc with hc | ⟨l, hl, hc⟩
    · exact absurd hc (by decide)
    · exact (hmem l hl).2 hc
  rw [sourceLines_of_no_return hreturn]
  exact splitLines_joinLines hne fun l hl => (hmem l hl).1

/-! ### Cutting a slide -/

/-- The lines of the metadata that a slide begins with: those in front of the next separator, or
all lines where there is none. -/
def metadataLines : List Line → List Line
  | [] => []
  | l :: ls => if l.isSeparator then ls.takeWhile (!·.isSeparator) else []

private theorem keepFilled_singleton {s : RawSlide} (h : s.lines.all Line.isEmpty = false) :
    keepFilled [s] = [s] := by
  rw [keepFilled, List.filter_cons_of_pos (by rw [h]; rfl), List.filter_nil]

/-- A document with the lines of a slide is cut into that slide, unless metadata of the slide passes
for metadata of the document. -/
private theorem cut_alone {keys : MetadataKeys} {lines : List Line}
    (hform : Settled lines ∨ Pending lines) (hfilled : lines.all Line.isEmpty = false)
    (hkeys : ∀ l ∈ metadataLines lines, l.setsKey keys.document = false) :
    ∃ unclosed, cut keys lines = ⟨[], false, [⟨1, lines.length, lines⟩], unclosed⟩ := by
  have hkeep := @keepFilled_singleton ⟨1, lines.length, lines⟩ hfilled
  -- a separator in the first line does not open metadata of the document
  have hopens (l : Line) (ls : List Line) (heq : lines = l :: ls) (hl : l.isSeparator = true) :
      opensDocumentBlock keys.document ls = false := by
    rw [heq, metadataLines, if_pos hl] at hkeys
    rw [opensDocumentBlock_eq, List.any_eq_false]
    intro k hk
    rw [hkeys k hk]
    exact Bool.false_ne_true
  rcases hform with hform | hform
  · cases hform with
    | plain hbody =>
      cases lines with
      | nil => exact nomatch hfilled
      | cons l ls =>
        have hcut := @cutFrom_lines keys.slide none 1 1 [] (l :: ls) [] hbody
        rw [List.append_nil, List.append_nil, cutFrom_nil, Nat.add_sub_cancel_left,
          collected_reverse (List.cons_ne_nil l ls)] at hcut
        rw [cut_text (hbody l List.mem_cons_self) hfilled, hcut, hkeep]
        exact ⟨none, rfl⟩
    | @closed opening closing block body ho hblock hc hbody =>
      have hcut :=
        @cutFrom_enclosed keys.slide 1 2 [opening] 1 closing block body [] hblock hc hbody
      rw [List.append_nil, cutFrom_nil, ← List.reverse_cons,
        collected_reverse (List.cons_ne_nil _ _)] at hcut
      rw [cut_metadata ho (hopens _ _ rfl ho), hcut]
      rw [show 2 + (block ++ closing :: body).length - 1 =
        (opening :: (block ++ closing :: body)).length by rw [List.length_cons]; omega, hkeep]
      exact ⟨none, rfl⟩
  · obtain @⟨opening, block, ho, hblock⟩ := hform
    have hcut := @cutFrom_lines keys.slide (some 1) 1 2 [opening] block [] hblock
    rw [List.append_nil, cutFrom_nil, ← List.reverse_cons,
      collected_reverse (List.cons_ne_nil _ _)] at hcut
    rw [cut_metadata ho (hopens _ _ rfl ho), hcut]
    rw [show 2 + block.length - 1 = (opening :: block).length by rw [List.length_cons]; omega,
      hkeep]
    exact ⟨some 1, rfl⟩

/-! ### Reading a slide -/

structure Slide.FromSource (s : Slide) : Prop where
  metadata : s.metadata = slideTable s.source
  layout : s.layout = wordsOr "default" ((slideTable s.source).getOrNull "layout")
  nodes : s.nodes = (s.source.body s.index).1
  metrics : s.metrics = Metrics.ofNodes s.nodes

private theorem readSlide_fromSource {settings : Settings} {config : DeckConfig} {index : Nat}
    {r : RawSlide} {s : Slide} (h : (readSlide settings config index r).outcome = .ok s) :
    s.source = r ∧ s.index = index ∧ s.FromSource := by
  have hread := readSlide_spec h
  obtain ⟨_, hmetadata⟩ := readSlideMetadata_eq_ok_iff.mp hread.metadata
  obtain ⟨_, hlayout⟩ := textOr_eq_ok_iff.mp hread.layout
  obtain rfl := hread.source_eq
  obtain rfl := hread.index_eq
  rw [hmetadata] at hlayout
  exact ⟨rfl, rfl, hmetadata, hlayout, hread.nodes_eq, hread.metrics_eq⟩

private theorem readSlides_fromSource {settings : Settings} {config : DeckConfig} {index : Nat}
    {rs : List RawSlide} {ss : List Slide}
    (h : (readSlides settings config index rs).outcome = .ok ss) :
    ss.map (·.index) = List.range' index rs.length ∧ ∀ s ∈ ss, s.FromSource := by
  obtain ⟨_, hindices, hall, _⟩ := readSlides_spec h
  exact ⟨hindices, fun s hs => (readSlide_fromSource (hall s hs)).2.2⟩

/-- Settings whose canvas, with the ratio that is assumed without metadata, has a place for text in
every layout. -/
def SuitsEveryLayout (settings : Settings) : Prop :=
  ∀ layout, Suits settings (.int settings.canvasWidth) standardRatio layout

private theorem suitsEveryLayout_default : SuitsEveryLayout {} := by
  intro layout
  refine ⟨by decide, 552, .configured (by decide), by decide, ?_⟩
  intro hshape
  rw [hshape]
  exact ⟨by decide +kernel, by decide +kernel⟩

private theorem metrics_renumbered (f : Nat → Nat) (slide : Nat) (nodes : List ContentNode) :
    Metrics.ofNodes (nodes.map (·.renumbered f slide)) = Metrics.ofNodes nodes := by
  simp only [Metrics.ofNodes, List.map_map, List.countP_map, Function.comp_def,
    ContentNode.renumbered_charCount, ContentNode.renumbered_text, ContentNode.level?,
    ContentNode.isList, ContentNode.isCode, ContentNode.isImage, ContentNode.isTable,
    ContentNode.renumbered_form]
  rfl

/-- What it means that `t` is the slide `s`, read on its own: all that differs are its position, the
line numbers of its nodes and the slide that they belong to, at every depth. -/
structure Slide.ReadAlone (s t : Slide) : Prop where
  index : t.index = 0
  metadata : t.metadata = s.metadata
  layout : t.layout = s.layout
  metrics : t.metrics = s.metrics
  nodes : t.nodes = s.nodes.map (·.renumbered (· - (s.first - 1)) 0)
  /-- No number is cut off at zero. -/
  back : s.nodes = t.nodes.map (·.renumbered (· + (s.first - 1)) s.index)

private theorem Slide.FromSource.readAlone {s t : Slide} (hs : s.FromSource) (ht : t.FromSource)
    (hlines : t.lines = s.lines) (hfirst : t.first = 1) (hpos : 1 ≤ s.first)
    (hindex : t.index = 0) : s.ReadAlone t := by
  have htable : slideTable t.source = slideTable s.source := by
    rw [slideTable, slideTable]
    rw [Slide.lines, Slide.lines] at hlines
    rw [hlines]
  have hback : s.nodes = t.nodes.map (·.renumbered (· + (s.first - 1)) s.index) := by
    have hnumber : s.first + (slideMetadata s.lines).2 =
        t.first + (slideMetadata s.lines).2 + (s.first - 1) := by omega
    have hbody : s.source.body s.index = readBody s.index 0
        (s.first + (slideMetadata s.lines).2) (s.lines.drop (slideMetadata s.lines).2) := rfl
    have hbody' : t.source.body t.index = readBody t.index 0
        (t.first + (slideMetadata t.lines).2) (t.lines.drop (slideMetadata t.lines).2) := rfl
    rw [hs.nodes, ht.nodes, hbody, hbody', hlines, hnumber]
    exact readBody_raised _ _ _ _ _ _
  have hslide : ∀ n ∈ t.nodes, n.Everywhere (·.slide = 0) := by
    rw [ht.nodes, hindex]
    exact readBody_slide _ _ _ _
  refine ⟨hindex, ?_, ?_, ?_, ?_, hback⟩
  · rw [hs.metadata, ht.metadata, htable]
  · rw [hs.layout, ht.layout, htable]
  · rw [hs.metrics, ht.metrics, hback, metrics_renumbered]
  · rw [hback, List.map_map]
    conv_lhs => rw [← List.map_id t.nodes]
    apply List.map_congr_left
    intro n hn
    rw [Function.comp_apply, ContentNode.renumbered_renumbered]
    exact (ContentNode.renumbered_self (fun k => Nat.add_sub_cancel k _) (hslide n hn)).symm

/-- A document that is cut into one slide and has no metadata of its own is read if the slide is and
the canvas suits it. -/
private theorem readable_of_single {settings : Settings} {keys : MetadataKeys} {lines : List Line}
    {s : RawSlide} {unclosed : Option Nat}
    (hcut : cut keys lines = ⟨[], false, [s], unclosed⟩)
    (hs : ReadableSlide settings (.int settings.canvasWidth) standardRatio s) :
    Readable settings keys lines := by
  have htable : documentTable keys lines = .empty := by
    rw [documentTable, hcut]
    rfl
  have hwords (key : String) : (Table.empty.getOrNull key).HasWords :=
    Datum.hasWords_of_absent rfl
  refine ⟨by rw [hcut]; rfl, ?_, ?_⟩
  · rw [htable]
    exact ⟨fun _ => hwords _, hwords _, hwords _⟩
  · rw [htable, hcut]
    intro r hr
    rw [List.mem_singleton.mp hr]
    exact hs

/-- Every slide of a presentation, read on its own, is the same slide, provided that no line of its
metadata sets a document key. -/
theorem Presentation.read_alone {settings : Settings} {keys : MetadataKeys} {source : List Char}
    {p : Presentation} (h : (Presentation.read settings keys source).1 = .ok p)
    (hpaired : ReturnsPaired source) {s : Slide} (hs : s ∈ p.slides)
    (hkeys : ∀ l ∈ metadataLines s.lines, l.setsKey keys.document = false) :
    SuitsEveryLayout {} ∧ ∀ alone : Settings, SuitsEveryLayout alone →
      ∃ q t, (Presentation.read alone keys s.content.toList).1 = .ok q ∧ q.slides = [t] ∧
        s.ReadAlone t := by
  refine ⟨suitsEveryLayout_default, fun alone hsuits => ?_⟩
  have hslides := Presentation.readSlides_of_read h
  have hmem := (Presentation.mem_cut_of_read h hs).1
  have hlines : sourceLines s.content.toList = s.lines := sourceLines_content hpaired hmem
  obtain ⟨unclosed, hcut⟩ :
      ∃ unclosed, cut keys s.lines = ⟨[], false, [⟨1, s.lines.length, s.lines⟩], unclosed⟩ :=
    cut_alone ((cut_ended keys _).forms s.source hmem) (cut_filled hmem) hkeys
  obtain ⟨hmetadata, hlayout, _⟩ := exists_readSlides_iff.mp ⟨_, hslides⟩ s.source hmem
  obtain ⟨q, hq⟩ : ∃ q, (Presentation.read alone keys s.content.toList).1 = .ok q := by
    rw [Presentation.read_iff_readable, hlines]
    exact readable_of_single hcut ⟨hmetadata, hlayout, hsuits _⟩
  have hqslides := Presentation.readSlides_of_read hq
  rw [hlines, hcut] at hqslides
  obtain ⟨hsources, _⟩ := readSlides_spec hqslides
  obtain ⟨hindices, hfrom⟩ := readSlides_fromSource hqslides
  obtain ⟨t, ht, htsource⟩ := List.map_eq_singleton_iff.mp hsources
  rw [ht] at hindices hfrom
  have hindex : t.index = 0 := List.head_eq_of_cons_eq hindices
  have htlines : t.lines = s.lines := by rw [Slide.lines, htsource]
  have htfirst : t.first = 1 := by rw [Slide.first, htsource]
  refine ⟨q, t, hq, ht, ?_⟩
  exact ((readSlides_fromSource hslides).2 s hs).readAlone (hfrom t List.mem_cons_self) htlines
    htfirst (cut_slide hmem).1 hindex

/-- A slide with metadata, with a list in a list, in a document with carriage returns. -/
theorem Presentation.read_alone_of_nested_list :
    let source := "# A\r\n---\nlayout: center\n---\n- one\r\n  - two".toList
    ∃ p, (Presentation.read {} {} source).1 = .ok p ∧ ReturnsPaired source ∧
      ∃ s ∈ p.slides, metadataLines s.lines = ["layout: center"] ∧
        ∃ q t, (Presentation.read {} {} s.content.toList).1 = .ok q ∧ q.slides = [t] ∧
          s.ReadAlone t := by
  intro source
  have hread : (Presentation.read {} {} source).1.toOption.map (fun p =>
      p.slides.map fun s => metadataLines s.lines) = some [[], ["layout: center"]] := by
    decide +kernel
  have hpaired : ReturnsPaired source := by
    have hall : ∀ i : Fin source.length,
        source[i.val]? = some '\r' → source[i.val + 1]? = some '\n' := by decide +kernel
    intro i hi
    exact hall ⟨i, (List.getElem?_eq_some_iff.mp hi).1⟩ hi
  cases h : (Presentation.read {} {} source).1 with
  | error e =>
    rw [h] at hread
    exact nomatch hread
  | ok p =>
    rw [h] at hread
    have hmetadata : p.slides.map (fun s => metadataLines s.lines) = [[], ["layout: center"]] :=
      Option.some.inj hread
    have hsecond : ["layout: center"] ∈ p.slides.map fun s => metadataLines s.lines := by
      rw [hmetadata]
      exact List.mem_cons_of_mem _ List.mem_cons_self
    obtain ⟨s, hs, hlines⟩ := List.mem_map.mp hsecond
    have hkeys : ∀ l ∈ metadataLines s.lines, l.setsKey ({} : MetadataKeys).document = false := by
      rw [hlines]
      decide
    obtain ⟨hdefault, halone⟩ := Presentation.read_alone h hpaired hs hkeys
    exact ⟨p, rfl, hpaired, s, hs, hlines, halone {} hdefault⟩

end SlideOverflow.Deck
