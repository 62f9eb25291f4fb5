import SlideOverflow.Proofs.Deck.Tiling
import SlideOverflow.Proofs.Deck.Warnings

/-! Where separators stand in a slide. The cutter and the reader of a slide look for its metadata on
their own: one with a state and a look ahead while the lines come in, the other in the lines of the
slide. Both find the same block, and only the last slide of a document can have one that is not
closed. -/
namespace SlideOverflow.Deck
open Metadata

/-! ### Forms of a slide -/

/-- Lines in which no metadata block is open: none has begun, or the one in front is closed. -/
inductive Settled : List Line → Prop where
  | plain {body : List Line} : (∀ l ∈ body, l.isSeparator = false) → Settled body
  | closed {opening closing : Line} {block body : List Line} : opening.isSeparator = true →
      (∀ l ∈ block, l.isSeparator = false) → closing.isSeparator = true →
      (∀ l ∈ body, l.isSeparator = false) → Settled (opening :: (block ++ closing :: body))

/-- Lines that begin with a metadata block and end within it. -/
inductive Pending : List Line → Prop where
  | mk {opening : Line} {block : List Line} : opening.isSeparator = true →
      (∀ l ∈ block, l.isSeparator = false) → Pending (opening :: block)

section Forms

variable {lines : List Line} {l : Line}

private theorem forall_mem_concat {p : Line → Prop} (h : ∀ k ∈ lines, p k) (hl : p l) :
    ∀ k ∈ lines ++ [l], p k := by
  intro k hk
  rcases List.mem_append.mp hk with hk | hk
  · exact h k hk
  · rwa [List.mem_singleton.mp hk]

theorem Settled.concat (h : Settled lines) (hl : l.isSeparator = false) :
    Settled (lines ++ [l]) := by
  cases h with
  | plain hbody => exact .plain (forall_mem_concat hbody hl)
  | closed ho hblock hc hbody =>
    rw [List.cons_append, List.append_assoc, List.cons_append]
    exact .closed ho hblock hc (forall_mem_concat hbody hl)

theorem Pending.concat (h : Pending lines) (hl : l.isSeparator = false) :
    Pending (lines ++ [l]) := by
  obtain ⟨ho, hblock⟩ := h
  rw [List.cons_append]
  exact .mk ho (forall_mem_concat hblock hl)

/-- The next separator closes the block. -/
theorem Pending.close (h : Pending lines) (hl : l.isSeparator = true) :
    Settled (lines ++ [l]) := by
  obtain ⟨ho, hblock⟩ := h
  rw [List.cons_append]
  exact .closed ho hblock hl fun k hk => absurd hk List.not_mem_nil

end Forms

/-! ### Cutting -/

/-- The lines collected so far, latest first: a block is open in them from their first line on if
the cutter says so, and none is otherwise. -/
private def Collects (opened : Option Nat) (first : Nat) (current : List Line) : Prop :=
  match opened with
  | none => Settled current.reverse
  | some k => k = first ∧ Pending current.reverse

/-- Slides of which at most the last one ends within its metadata block, and the line in which that
block begins. -/
inductive Ended : List RawSlide × Option Nat → Prop where
  | settled {slides : List RawSlide} : (∀ s ∈ slides, Settled s.lines) → Ended (slides, none)
  | pending {slides : List RawSlide} {s : RawSlide} : (∀ t ∈ slides, Settled t.lines) →
      Pending s.lines → Ended (slides ++ [s], some s.first)

namespace Collects

variable {opened : Option Nat} {first last number : Nat} {current : List Line} {l : Line}

private theorem line (h : Collects opened first current) (hl : l.isSeparator = false) :
    Collects opened first (l :: current) := by
  cases opened with
  | none =>
    rw [Collects, List.reverse_cons]
    exact Settled.concat h hl
  | some k =>
    rw [Collects, List.reverse_cons]
    exact ⟨h.1, h.2.concat hl⟩

private theorem closing {k : Nat} (h : Collects (some k) first current)
    (hl : l.isSeparator = true) :
    Collects none first (l :: current) := by
  rw [Collects, List.reverse_cons]
  exact h.2.close hl

private theorem opening (hl : l.isSeparator = true) : Collects (some number) number [l] :=
  ⟨rfl, .mk hl fun _ hk => absurd hk List.not_mem_nil⟩

private theorem empty : Collects none first [] :=
  Settled.plain fun _ hk => absurd hk List.not_mem_nil

private theorem settled (h : Collects none first current) :
    ∀ s ∈ collected first last current, Settled s.lines := by
  intro s hs
  rw [collected] at hs
  split at hs
  · exact absurd hs List.not_mem_nil
  · obtain rfl := List.mem_singleton.mp hs
    exact h

private theorem ended (h : Collects opened first current) :
    Ended (collected first last current, opened) := by
  cases opened with
  | none => exact .settled h.settled
  | some k =>
    obtain ⟨rfl, hpending⟩ := h
    have hne : current ≠ [] := by
      intro hnil
      rw [hnil] at hpending
      cases hpending
    rw [collected, if_neg (by simpa using hne)]
    exact @Ended.pending [] ⟨k, last, current.reverse⟩ (fun t ht => absurd ht List.not_mem_nil)
      hpending

end Collects

namespace Ended

variable {slides : List RawSlide} {unclosed : Option Nat}

private theorem append {front : List RawSlide} (hfront : ∀ s ∈ front, Settled s.lines)
    (h : Ended (slides, unclosed)) : Ended (front ++ slides, unclosed) := by
  cases h with
  | settled hslides =>
    exact .settled fun s hs => (List.mem_append.mp hs).elim (hfront s) (hslides s)
  | pending hslides hs =>
    rw [← List.append_assoc]
    exact .pending (fun t ht => (List.mem_append.mp ht).elim (hfront t) (hslides t)) hs

/-- A slide whose block is open is not blank and stays. -/
private theorem keepFilled (h : Ended (slides, unclosed)) :
    Ended (keepFilled slides, unclosed) := by
  cases h with
  | settled hslides => exact .settled fun s hs => hslides s (List.mem_filter.mp hs).1
  | @pending slides s hslides hs =>
    have hkeep : Deck.keepFilled [s] = [s] := by
      obtain ⟨first, last, lines⟩ := s
      obtain ⟨ho, _⟩ := hs
      rw [Deck.keepFilled, List.filter_cons_of_pos (by simp [Line.isEmpty_of_isSeparator ho]),
        List.filter_nil]
    rw [Deck.keepFilled, List.filter_append, ← Deck.keepFilled, ← Deck.keepFilled, hkeep]
    exact .pending (fun t ht => hslides t (List.mem_filter.mp ht).1) hs

end Ended

/-- A block is open in the lines collected so far if and only if the cutter says so, from the first
of them on; so a separator that belongs to a slide opens its block or closes it. -/
private theorem cutFrom_ended (keys : List String) {opened : Option Nat} {first : Nat}
    {current : List Line} (number : Nat) (ls : List Line) (h : Collects opened first current) :
    Ended (cutFrom keys opened first current number ls) := by
  induction ls generalizing opened first current number with
  | nil => exact h.ended
  | cons l ls ih =>
    by_cases hl : l.isSeparator = true
    · cases opened with
      | some k =>
        rw [cutFrom_closing hl]
        exact ih _ (h.closing hl)
      | none =>
        by_cases hm : opensSlideBlock keys ls = true
        · rw [cutFrom_metadata hl hm]
          exact (ih (number + 1) (.opening hl)).append h.settled
        · rw [cutFrom_boundary hl (by simpa using hm)]
          exact (ih (number + 1) .empty).append h.settled
    · have hl : l.isSeparator = false := by simpa using hl
      rw [cutFrom_line hl]
      exact ih _ (h.line hl)

theorem cut_ended (keys : MetadataKeys) (lines : List Line) :
    Ended ((cut keys lines).slides, (cut keys lines).slideUnclosed) := by
  have hnone : Ended ([], none) := .settled fun s hs => absurd hs List.not_mem_nil
  by_cases hblank : lines.all Line.isEmpty = true
  · rw [cut_blank hblank]
    exact hnone
  · rw [cut.eq_def, if_neg hblank]
    cases lines with
    | nil => exact hnone
    | cons l ls =>
      dsimp only
      split
      · split
        · exact hnone
        · exact (cutFrom_ended _ _ _ .empty).keepFilled
      · by_cases hl : l.isSeparator = true
        · rw [if_pos hl]
          exact (cutFrom_ended _ _ _ (.opening hl)).keepFilled
        · rw [if_neg hl]
          exact (cutFrom_ended _ _ _ .empty).keepFilled

/-! ### Counting separators -/

def RawSlide.separators (s : RawSlide) : Nat := s.lines.countP Line.isSeparator

section Counts

variable {lines : List Line}

private theorem countP_separators (h : ∀ l ∈ lines, l.isSeparator = false) :
    lines.countP Line.isSeparator = 0 := by
  rw [List.countP_eq_zero]
  intro l hl
  rw [h l hl]
  exact Bool.false_ne_true

theorem Settled.countP (h : Settled lines) :
    lines.countP Line.isSeparator = 0 ∨ lines.countP Line.isSeparator = 2 := by
  cases h with
  | plain hbody => exact .inl (countP_separators hbody)
  | closed ho hblock hc hbody =>
    right
    rw [List.countP_cons_of_pos ho, List.countP_append, List.countP_cons_of_pos hc,
      countP_separators hblock, countP_separators hbody]

theorem Pending.countP (h : Pending lines) : lines.countP Line.isSeparator = 1 := by
  obtain ⟨ho, hblock⟩ := h
  rw [List.countP_cons_of_pos ho, countP_separators hblock]

end Counts

/-- What the separators of a slide say about where its body begins, as the reader of its metadata
sees it. -/
structure RawSlide.Delimited (s : RawSlide) : Prop where
  atMostTwo : s.separators ≤ 2
  inFront : 0 < s.separators → ∃ l ∈ s.lines.head?, l.isSeparator = true
  none : s.separators = 0 → (slideMetadata s.lines).2 = 0
  /-- Metadata that is not closed counts for nothing. -/
  one : s.separators = 1 → (slideMetadata s.lines).2 = 1 ∧ readSlideMetadata s = pure .empty
  /-- The body begins behind the second separator: the one that is not in the first line. -/
  two : s.separators = 2 → ∃ k l, (slideMetadata s.lines).2 = k + 1 ∧ 0 < k ∧
    s.lines[k]? = some l ∧ l.isSeparator = true
  body : ∀ l ∈ s.lines.drop (slideMetadata s.lines).2, l.isSeparator = false

theorem Settled.delimited {s : RawSlide} (h : Settled s.lines) : s.Delimited := by
  obtain ⟨first, last, lines⟩ := s
  cases h with
  | plain hbody =>
    have hcount : RawSlide.separators ⟨first, last, lines⟩ = 0 := countP_separators hbody
    refine ⟨by omega, by omega, fun _ => ?_, by omega, by omega, ?_⟩
    · rw [slideMetadata_plain hbody]
    · rwa [slideMetadata_plain hbody]
  | @closed opening closing block body ho hblock hc hbody =>
    have hstart := @slideMetadata_closed _ _ _ body ho hblock hc
    have hcount : RawSlide.separators ⟨first, last, opening :: (block ++ closing :: body)⟩ = 2 := by
      rw [RawSlide.separators, List.countP_cons_of_pos ho, List.countP_append,
        List.countP_cons_of_pos hc, countP_separators hblock, countP_separators hbody]
    refine ⟨by omega, fun _ => ⟨opening, rfl, ho⟩, by omega, by omega, fun _ => ?_, ?_⟩
    · refine ⟨block.length + 1, closing, ?_, Nat.succ_pos _, ?_, hc⟩
      · rw [hstart]
      · rw [List.getElem?_cons_succ, List.getElem?_append_right (Nat.le_refl _), Nat.sub_self]
        rfl
    · have hdrop : (opening :: (block ++ closing :: body)).drop (block.length + 2) = body := by
        simp
      rw [hstart]
      dsimp only
      rwa [hdrop]

theorem Pending.delimited {s : RawSlide} (h : Pending s.lines) : s.Delimited := by
  obtain ⟨first, last, lines⟩ := s
  have hcount : RawSlide.separators ⟨first, last, lines⟩ = 1 := h.countP
  obtain ⟨ho, hblock⟩ := h
  have hstart := slideMetadata_unclosed ho hblock
  refine ⟨by omega, fun _ => ⟨_, rfl, ho⟩, by omega, fun _ => ⟨by rw [hstart], ?_⟩, by omega, ?_⟩
  · rw [readSlideMetadata, hstart]
    rfl
  · rwa [hstart]

theorem Ended.forms {slides : List RawSlide} {unclosed : Option Nat}
    (h : Ended (slides, unclosed)) :
    ∀ s ∈ slides, Settled s.lines ∨ Pending s.lines := by
  cases h with
  | settled hslides => exact fun s hs => .inl (hslides s hs)
  | pending hslides hs =>
    intro t ht
    rcases List.mem_append.mp ht with ht | ht
    · exact .inl (hslides t ht)
    · rw [List.mem_singleton.mp ht]
      exact .inr hs

/-- A slide has a single separator if and only if it is the one whose block is open. -/
private theorem Ended.single {slides : List RawSlide} {unclosed : Option Nat}
    (h : Ended (slides, unclosed)) :
    (∀ s ∈ slides, s.separators = 1 → slides.getLast? = some s ∧ unclosed = some s.first) ∧
      ∀ n ∈ unclosed, ∃ s ∈ slides, s.first = n ∧ s.separators = 1 := by
  have hne (s : RawSlide) (h : Settled s.lines) : s.separators ≠ 1 := by
    have hcount : s.separators = 0 ∨ s.separators = 2 := h.countP
    omega
  cases h with
  | settled hslides =>
    exact ⟨fun s hs hone => absurd hone (hne s (hslides s hs)), fun n hn => nomatch hn⟩
  | @pending slides s hslides hs =>
    constructor
    · intro t ht hone
      rcases List.mem_append.mp ht with ht | ht
      · exact absurd hone (hne t (hslides t ht))
      · rw [List.mem_singleton.mp ht]
        exact ⟨List.getLast?_concat, rfl⟩
    · intro n hn
      exact ⟨s, List.mem_append_right _ (List.mem_singleton_self s), Option.some.inj hn, hs.countP⟩

/-! ### What warnings tell -/

def unclosedBlockText (line : Nat) : String :=
  "Unclosed slide metadata block at line " ++ String.ofList (Number.numeral line)

/-- No other warning has the same text. -/
private theorem Warning.message_eq_unclosedBlockText {w : Warning} {line : Nat}
    (h : w.message = unclosedBlockText line) : w = .unclosedSlideBlock line := by
  have hkind : w.kind = .slideBlock := @kind_eq_of_message_eq w (.unclosedSlideBlock line) h
  cases w with
  | unclosedSlideBlock k =>
    have hnumber := (String.append_right_inj _).mp h
    rw [Number.numeral_inj.mp (String.ofList_injective hnumber)]
  | _ => cases hkind

private theorem unclosedBlockText_mem_iff {ws : List Warning} {line : Nat} :
    unclosedBlockText line ∈ ws.map Warning.message ↔ .unclosedSlideBlock line ∈ ws := by
  rw [List.mem_map]
  constructor
  · rintro ⟨w, hw, htext⟩
    rwa [← Warning.message_eq_unclosedBlockText htext]
  · intro h
    exact ⟨_, h, rfl⟩

/-- Cutting tells of an open block of a slide if there is one. -/
private theorem mem_splitSlides_warnings {keys : MetadataKeys} {lines : List Line}
    {found : List RawSlide × Table} (h : (splitSlides keys lines).outcome = .ok found) (n : Nat) :
    .unclosedSlideBlock n ∈ (splitSlides keys lines).warnings ↔
      (cut keys lines).slideUnclosed = some n := by
  obtain ⟨slides, table⟩ := found
  obtain ⟨_, _, hwarnings⟩ := splitSlides_spec h
  rw [hwarnings, List.mem_append,
    or_iff_right fun hw => absurd (kind_readBlock _ hw) (by simp [Warning.kind]),
    Cut.warnings, List.mem_append]
  cases (cut keys lines).documentUnclosed <;> simp

/-- Reading the slides tells of no further one. -/
private theorem mem_readLines_warnings {settings : Settings} {keys : MetadataKeys}
    {lines : List Line}
    {found : DeckConfig × List Slide} (h : (readLines settings keys lines).outcome = .ok found)
    (n : Nat) :
    .unclosedSlideBlock n ∈ (readLines settings keys lines).warnings ↔
      (cut keys lines).slideUnclosed = some n := by
  obtain ⟨table, ws, hsplit, hconfig, hslides, hall⟩ := readLines_spec h
  rw [hall, (readSlides_told hslides).2, List.mem_append, mem_splitSlides_warnings hsplit,
    or_iff_left]
  intro hw
  rcases List.mem_append.mp hw with hw | hw
  · exact absurd (kind_ofTable hconfig _ hw) (by simp [Warning.kind])
  · obtain ⟨s, _, hw⟩ := List.mem_flatMap.mp hw
    exact absurd (s.kind_told _ hw) (by simp [Warning.kind])

/-- Slides of which at most the last one has a single separator, and texts that tell of a block
that is not closed exactly for that one. -/
structure Announced (slides : List RawSlide) (texts : List String) : Prop where
  last : ∀ s ∈ slides, s.separators = 1 → slides.getLast? = some s
  told : ∀ s ∈ slides, s.separators = 1 ↔ unclosedBlockText s.first ∈ texts
  named : ∀ line, unclosedBlockText line ∈ texts →
    ∃ s ∈ slides, s.first = line ∧ s.separators = 1

private theorem Ended.announced {slides : List RawSlide} {unclosed : Option Nat} {ws : List Warning}
    (h : Ended (slides, unclosed))
    (hinj : ∀ s ∈ slides, ∀ t ∈ slides, s.first = t.first → s = t)
    (hws : ∀ n, .unclosedSlideBlock n ∈ ws ↔ unclosed = some n) :
    Announced slides (ws.map Warning.message) := by
  obtain ⟨hsingle, hopen⟩ := h.single
  refine ⟨fun s hs hone => (hsingle s hs hone).1, fun s hs => ?_, fun line hline => ?_⟩
  · rw [unclosedBlockText_mem_iff, hws]
    constructor
    · intro hone
      exact (hsingle s hs hone).2
    · intro hline
      obtain ⟨t, ht, hfirst, hone⟩ := hopen s.first hline
      rwa [← hinj t ht s hs hfirst]
  · rw [unclosedBlockText_mem_iff, hws] at hline
    exact hopen line hline

/-- The cutter and the reader of a slide agree on the metadata of every slide, and what is not
closed is announced, whether the document is only cut or read as a presentation. -/
theorem splitSlides_delimited {keys : MetadataKeys} {source : List Char} {slides : List RawSlide}
    {table : Table}
    (h : (splitSlides keys (sourceLines source)).outcome = .ok (slides, table)) :
    (∀ s ∈ slides, s.Delimited) ∧
      Announced slides
        ((splitSlides keys (sourceLines source)).warnings.map Warning.message) ∧
      ∀ settings p, (Presentation.read settings keys source).1 = .ok p →
        p.slides.map (·.source) = slides ∧ Announced slides (p.warnings.map Warning.message) := by
  have hslides := (splitSlides_spec h).1
  have hended := cut_ended keys (sourceLines source)
  have htiles := cut_tiles keys (sourceLines source)
  rw [← hslides] at hended htiles
  have hannounced (ws : List Warning) := @Ended.announced slides _ ws hended htiles.first_injective
  have hdelimited : ∀ s ∈ slides, s.Delimited := fun s hs =>
    (hended.forms s hs).elim Settled.delimited Pending.delimited
  refine ⟨hdelimited, hannounced _ (mem_splitSlides_warnings h), fun settings p hp => ?_⟩
  refine ⟨by rw [(Presentation.read_spec hp).1, hslides], hannounced _ fun n => ?_⟩
  simp only [Presentation.read] at hp
  split at hp
  · cases hp
  · next hfound =>
    cases hp
    exact mem_readLines_warnings hfound n

theorem splitSlides_delimited_of_open : ∃ slides table,
    (splitSlides {} (sourceLines "# A\n---\nlayout: fact\ntext".toList)).outcome =
        .ok (slides, table) ∧
      (∃ s ∈ slides, s.separators = 1) ∧ (∀ s ∈ slides, s.Delimited) ∧
      Announced slides ((splitSlides {} (sourceLines
        "# A\n---\nlayout: fact\ntext".toList)).warnings.map Warning.message) := by
  have h : (splitSlides {} (sourceLines "# A\n---\nlayout: fact\ntext".toList)).outcome =
      .ok ([⟨1, 1, ["# A"]⟩, ⟨2, 4, ["---", "layout: fact", "text"]⟩], .empty) := by
    have hc : cut {} (sourceLines "# A\n---\nlayout: fact\ntext".toList) = ⟨[], false,
        [⟨1, 1, ["# A"]⟩, ⟨2, 4, ["---", "layout: fact", "text"]⟩], some 2⟩ := by
      decide +kernel
    rw [splitSlides_outcome, hc]
    rfl
  obtain ⟨hdelimited, hannounced, _⟩ := splitSlides_delimited h
  exact ⟨_, _, h, by decide +kernel, hdelimited, hannounced⟩

end SlideOverflow.Deck
