import SlideOverflow.Attribution.Source
import SlideOverflow.Proofs.Attribution.Strategies

/-! Attribution of issues to the lines of a source. An element that a page describes in texts is
always located, whatever the strategies: by one that quotes lines of the slide, or else by the whole
slide, of which a preview is shown. -/
namespace SlideOverflow.Attribution

open Deck

/-- An element that a page describes in texts; its text and its address may be missing. -/
structure Described (e : Element) : Prop where
  tag : ∃ name, e.tag = .text name
  text : e.text = .null ∨ ∃ text, e.text = .text text
  source : e.source = .null ∨ ∃ address, e.source = .text address

private theorem exists_textOf (defect : Defect) {j : Json}
    (h : j = .null ∨ ∃ text, j = .text text) :
    ∃ text, textOf? defect j = .ok text := by
  rcases h with rfl | ⟨text, rfl⟩
  · exact ⟨none, rfl⟩
  · exact ⟨_, rfl⟩

namespace Strategy

variable {lines : List Line} {s : Slide} {e : Element}

/-- A strategy does not fail on an element that is described in texts. -/
private theorem exists_find (h : s.ReadFrom lines) (he : Described e) (tagClass : TagClass)
    (strategy : Strategy) : ∃ found, strategy.find s tagClass e = .ok found := by
  cases strategy with
  | elementSpecific =>
    obtain ⟨text, htext⟩ := exists_textOf .wrongKind he.text
    cases tagClass with
    | listItem =>
      simp only [find, htext]
      cases text with
      | none => exact ⟨none, rfl⟩
      | some text => exact (h.exists_findItem text).imp fun _ hfound => hfound.1
    | paragraph =>
      simp only [find, htext]
      exact ⟨_, rfl⟩
    | _ => exact ⟨none, rfl⟩
  | inlineText =>
    obtain ⟨text, htext⟩ := exists_textOf .noFields he.text
    simp only [find, htext]
    split <;> exact ⟨_, rfl⟩
  | blockConstruct =>
    obtain ⟨text, htext⟩ := exists_textOf .wrongKind he.text
    simp only [find, htext]
    split
    · split <;> exact ⟨_, rfl⟩
    · exact ⟨none, rfl⟩
  | imageSource =>
    obtain ⟨address, haddress⟩ := exists_textOf .noFields he.source
    simp only [find, haddress]
    split
    · simp only [bind, Except.bind]
      split <;> exact ⟨_, rfl⟩
    · exact ⟨none, rfl⟩
  | textSubstring =>
    obtain ⟨text, htext⟩ := exists_textOf .noFields he.text
    simp only [find, htext]
    exact ⟨_, rfl⟩
  | wholeSlide => exact ⟨_, rfl⟩

/-- No strategy in front of the first whole slide finds the element. -/
def FallsBack (s : Slide) (tagClass : TagClass) (e : Element) (cascade : List Strategy) : Prop :=
  ∀ strategy ∈ cascade.takeWhile (· ≠ .wholeSlide), strategy.find s tagClass e = .ok none

/-- A cascade never fails. What it finds are lines of the slide, unless it falls back to the whole
slide or to nothing. -/
private theorem exists_firstFinding (h : s.ReadFrom lines) (he : Described e) (tagClass : TagClass)
    (cascade : List Strategy) :
    ∃ found, firstFinding s tagClass e cascade = .ok found ∧
      (FallsBack s tagClass e cascade → ∀ strategy r, found = some (strategy, r) →
        r = s.wholeRange) ∧
      (¬FallsBack s tagClass e cascade → ∃ strategy r, found = some (strategy, r) ∧
        r.Quotes lines s) := by
  -- Induction on the cascade. A whole slide ends it, and `takeWhile` with it.
  induction cascade with
  | nil =>
    refine ⟨none, rfl, fun _ _ _ hr => (nomatch hr), fun hnot => absurd ?_ hnot⟩
    exact fun strategy hs => absurd hs List.not_mem_nil
  | cons strategy cascade ih =>
    by_cases hwhole : strategy = .wholeSlide
    · subst hwhole
      refine ⟨some (.wholeSlide, s.wholeRange), rfl, fun _ _ r hr => ?_, fun hnot => absurd ?_ hnot⟩
      · cases hr
        rfl
      · exact fun strategy hs => absurd hs List.not_mem_nil
    · have htake : (strategy :: cascade).takeWhile (· ≠ .wholeSlide) =
          strategy :: cascade.takeWhile (· ≠ .wholeSlide) :=
        List.takeWhile_cons_of_pos (by simpa using hwhole)
      obtain ⟨found, hfind⟩ := exists_find h he tagClass strategy
      rw [firstFinding, hfind]
      cases found with
      | some r =>
        refine ⟨some (strategy, r), rfl, fun hfalls => ?_, fun _ => ?_⟩
        · have hmiss := hfalls strategy (by rw [htake]; exact List.mem_cons_self)
          rw [hfind] at hmiss
          cases hmiss
        · exact ⟨strategy, r, rfl, find_quotes h hwhole hfind⟩
      | none =>
        have hsame :
            FallsBack s tagClass e (strategy :: cascade) ↔ FallsBack s tagClass e cascade := by
          rw [FallsBack, htake, List.forall_mem_cons, hfind]
          exact and_iff_right rfl
        rw [hsame]
        exact ih

end Strategy

/-- Lines of a slide as an issue gains them: quoted from the document, or the whole slide with a
preview where attribution falls back to it. -/
structure Located (lines : List Line) (slide : Slide) (fallsBack : Prop) (range : LineRange) :
    Prop where
  first_le : slide.first ≤ range.first
  ordered : range.first ≤ range.last
  le_last : range.last ≤ slide.last
  quoted : ¬fallsBack → range.content = joinLines (linesBetween 1 lines range.first range.last)
  whole : fallsBack → range.first = slide.first ∧ range.last = slide.last ∧
    range.content = joinLines ((linesBetween 1 lines slide.first slide.last).take 3) ++ "..."

/-- What attribution makes of an issue on the slide of a number. `lines` are those of the document.
-/
structure Source.Attributes (s : Source) (lines : List Line) (number : Int) (before after : Issue) :
    Prop where
  /-- Without a slide of the number the issue stays as it is. -/
  outside : number < 1 ∨ s.presentation.slides.length < number → after = before
  /-- Otherwise it gains lines of the slide, and nothing else of it changes. -/
  inside : ∀ (index : Nat) (slide : Slide) (tag : String),
    s.presentation.slides[index]? = some slide → number = index + 1 →
    before.element.tag = .text tag →
    ∃ range, Located lines slide
        (Strategy.FallsBack slide (.ofTag tag) before.element s.cascade) range ∧
      after = { before with source := some ⟨s.file, range.first, range.last, range.content⟩ }

namespace Source

variable {s : Source} {lines : List Line}

private theorem slide_none {number : Int}
    (h : number < 1 ∨ s.presentation.slides.length < number) : s.slide? number = none := by
  rw [slide?]
  split
  · rw [List.getElem?_eq_none_iff]
    omega
  · rfl

private theorem slide_some (index : Nat) :
    s.slide? (index + 1) = s.presentation.slides[index]? := by
  rw [slide?, if_pos (by omega)]
  congr 1

/-- An element that is described in texts is located on every slide. -/
private theorem exists_locate {slide : Slide} (h : slide.ReadFrom lines) {e : Element}
    (he : Described e) {tag : String} (htag : e.tag = .text tag) :
    ∃ range told, s.locate slide e = .ok (range, told) ∧
      Located lines slide (Strategy.FallsBack slide (.ofTag tag) e s.cascade) range := by
  have hclass : TagClass.ofJson e.tag = .ok (.ofTag tag) := by
    rw [htag]
    rfl
  have hwhole : Strategy.FallsBack slide (.ofTag tag) e s.cascade →
      Located lines slide (Strategy.FallsBack slide (.ofTag tag) e s.cascade) slide.wholeRange := by
    intro hfalls
    refine ⟨Nat.le_refl _, h.ordered, Nat.le_refl _, fun hnot => absurd hfalls hnot, fun _ => ?_⟩
    rw [← h.lines_eq]
    exact ⟨rfl, rfl, rfl⟩
  obtain ⟨found, hfound, hback, hfront⟩ :=
    Strategy.exists_firstFinding h he (.ofTag tag) s.cascade
  rw [locate, hclass]
  simp only [bind, Except.bind, hfound]
  cases found with
  | none =>
    -- Nothing was found, so no strategy in front of a whole slide has found anything.
    refine ⟨slide.wholeRange, [], rfl, hwhole ?_⟩
    by_contra hnot
    obtain ⟨_, _, hsome, _⟩ := hfront hnot
    cases hsome
  | some pair =>
    obtain ⟨strategy, range⟩ := pair
    refine ⟨range, _, rfl, ?_⟩
    by_cases hfalls : Strategy.FallsBack slide (.ofTag tag) e s.cascade
    · rw [hback hfalls strategy range rfl]
      exact hwhole hfalls
    · obtain ⟨_, _, hsome, hquotes⟩ := hfront hfalls
      cases hsome
      exact ⟨hquotes.first_le, hquotes.ordered, hquotes.le_last, fun _ => hquotes.content_eq,
        fun hback => absurd hback hfalls⟩

private theorem read_spec {settings : Settings} {file : String} {text : List Char}
    {told : List LogEntry} (h : Source.read settings file text = (.ok s, told)) :
    s.file = file ∧ (Presentation.read settings {} text).1 = .ok s.presentation := by
  obtain ⟨p, hp, rfl⟩ := Outcome.map_eq_ok_iff.mp (congrArg Prod.fst h)
  exact ⟨rfl, hp⟩

private theorem mem_of_slide {number : Int} {slide : Slide} (h : s.slide? number = some slide) :
    slide ∈ s.presentation.slides := by
  rw [slide?] at h
  split at h
  · exact List.mem_of_getElem? h
  · cases h

/-- Issues on elements that are described in texts are attributed to a presentation that was read,
all of them. -/
theorem exists_enrichAll {settings : Settings} {text : List Char}
    (hread : (Presentation.read settings {} text).1 = .ok s.presentation) (number : Int)
    {issues : List Issue} (h : ∀ i ∈ issues, Described i.element) :
    ∃ after, (s.enrichAll number issues).1 = .ok after := by
  induction issues with
  | nil => exact ⟨[], rfl⟩
  | cons issue issues ih =>
    obtain ⟨after, hafter⟩ := ih fun i hi => h i (.tail issue hi)
    have henrich : ∃ i notes, s.enrich number issue = .ok (i, notes) := by
      rw [enrich]
      cases hslide : s.slide? number with
      | none => exact ⟨issue, [], rfl⟩
      | some slide =>
        have hissue := h issue List.mem_cons_self
        obtain ⟨tag, htag⟩ := hissue.tag
        obtain ⟨range, notes, hlocate, _⟩ :=
          exists_locate (s := s) (Presentation.readFrom hread (mem_of_slide hslide)) hissue htag
        simp only [hlocate]
        exact ⟨_, notes, rfl⟩
    obtain ⟨i, notes, hi⟩ := henrich
    rw [enrichAll, hi]
    simp only [hafter]
    exact ⟨_, rfl⟩

/-- Attribution never fails on an issue whose element is described in texts, whatever the strategies
and their order, and it is faithful to the source. -/
theorem enrich_attributes {settings : Settings} {file : String} {text : List Char}
    {told : List LogEntry} (hread : Source.read settings file text = (.ok s, told))
    (strategies : List Strategy) (number : Int) {issue : Issue} (hissue : Described issue.element) :
    (s.withCascade strategies).file = file ∧
      ∃ after notes, (s.withCascade strategies).enrich number issue = .ok (after, notes) ∧
        (s.withCascade strategies).Attributes (sourceLines text) number issue after := by
  obtain ⟨hfile, hpresentation⟩ := read_spec hread
  refine ⟨hfile, ?_⟩
  rw [enrich]
  cases hslide : (s.withCascade strategies).slide? number with
  | none =>
    refine ⟨issue, [], rfl, fun _ => rfl, fun index slide tag hindex hnumber _ => ?_⟩
    rw [hnumber, slide_some, hindex] at hslide
    cases hslide
  | some slide =>
    have hmem : slide ∈ s.presentation.slides := by
      rw [slide?] at hslide
      split at hslide
      · exact List.mem_of_getElem? hslide
      · cases hslide
    obtain ⟨tag, htag⟩ := hissue.tag
    obtain ⟨range, notes, hlocate, hlocated⟩ := @exists_locate (s.withCascade strategies) _ slide
      (Presentation.readFrom hpresentation hmem) _ hissue tag htag
    simp only [hlocate]
    refine ⟨_, notes, rfl, fun hout => ?_, fun index other tag' hindex hnumber htag' => ?_⟩
    · rw [slide_none hout] at hslide
      cases hslide
    · rw [hnumber, slide_some, hindex] at hslide
      cases hslide
      rw [htag] at htag'
      cases htag'
      exact ⟨range, hlocated, rfl⟩

/-- An item and the line that continues it, found by the second of two strategies. -/
theorem enrich_attributes_of_item :
    let text := "# A\n\n- one\n  more".toList
    let issue : Issue := ⟨{ tag := .text "LI", selector := .text "li", text := .text "one" },
      .scroll .both ⟨.null, .null⟩ ⟨.null, .null⟩ .null, none⟩
    ∃ s told, Source.read {} "slides.md" text = (.ok s, told) ∧
      ∃ after notes,
        (s.withCascade [.inlineText, .elementSpecific]).enrich 1 issue = .ok (after, notes) ∧
          after.source = some ⟨"slides.md", 3, 4, "- one\n  more"⟩ ∧
          (s.withCascade [.inlineText, .elementSpecific]).Attributes (sourceLines text) 1 issue
            after := by
  intro text issue
  have hsource : (Source.read {} "slides.md" text).1.toOption.map (fun s =>
      ((s.withCascade [.inlineText, .elementSpecific]).enrich 1 issue).toOption.bind (·.1.source)) =
        some (some ⟨"slides.md", 3, 4, "- one\n  more"⟩) := by
    decide +kernel
  obtain ⟨told, htold⟩ : ∃ told, (Source.read {} "slides.md" text).2 = told := ⟨_, rfl⟩
  cases h : (Source.read {} "slides.md" text).1 with
  | error e =>
    rw [h] at hsource
    exact nomatch hsource
  | ok s =>
    have hread : Source.read {} "slides.md" text = (.ok s, told) := Prod.ext h htold
    have hdescribed : Described issue.element := ⟨⟨"LI", rfl⟩, .inr ⟨"one", rfl⟩, .inl rfl⟩
    obtain ⟨_, after, notes, henrich, hattributes⟩ :=
      enrich_attributes hread [.inlineText, .elementSpecific] 1 hdescribed
    rw [h] at hsource
    refine ⟨s, told, hread, after, notes, henrich, ?_, hattributes⟩
    have hafter : ((s.withCascade [.inlineText, .elementSpecific]).enrich 1 issue).toOption.bind
        (·.1.source) = some ⟨"slides.md", 3, 4, "- one\n  more"⟩ := Option.some.inj hsource
    rwa [henrich] at hafter

end Source

end SlideOverflow.Attribution
