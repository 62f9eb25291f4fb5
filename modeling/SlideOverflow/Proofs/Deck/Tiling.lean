import Mathlib.Data.List.TakeWhile
import SlideOverflow.Deck.Presentation

/-! The slides of a document tile it: they follow one another, each holds its lines unchanged, and
what lies between them are separators and blank lines. -/
namespace SlideOverflow.Deck
open Metadata

/-- From line `n` on, the lines fall apart into the slides and, between them, separators and blank
lines. -/
inductive Tiles : Nat → List Line → List RawSlide → Prop where
  | nil (n : Nat) : Tiles n [] []
  | gap {n : Nat} {l : Line} {ls : List Line} {slides : List RawSlide} :
      l.isSeparator = true ∨ l.isEmpty = true → Tiles (n + 1) ls slides → Tiles n (l :: ls) slides
  | slide {n : Nat} {own rest : List Line} {slides : List RawSlide} :
      own ≠ [] → Tiles (n + own.length) rest slides →
      Tiles n (own ++ rest) (⟨n, n + own.length - 1, own⟩ :: slides)

namespace Tiles

variable {n : Nat} {lines rest : List Line} {slides : List RawSlide}

theorem blank_append (hb : ∀ l ∈ lines, l.isEmpty = true)
    (h : Tiles (n + lines.length) rest slides) : Tiles n (lines ++ rest) slides := by
  induction lines generalizing n with
  | nil => exact h
  | cons l ls ih =>
    refine .gap (.inr (hb l List.mem_cons_self)) (ih (fun k hk => hb k (.tail l hk)) ?_)
    rwa [List.length_cons, Nat.add_comm ls.length, ← Nat.add_assoc] at h

/-- A slide that holds blanks only may as well be a gap. -/
theorem keepFilled (h : Tiles n lines slides) : Tiles n lines (keepFilled slides) := by
  induction h with
  | nil n => exact .nil n
  | gap hl _ ih => exact .gap hl ih
  | @slide n own rest slides hne _ ih =>
    by_cases hb : own.all Line.isEmpty = true
    · rw [Deck.keepFilled, List.filter_cons_of_neg (by simpa using hb)]
      exact blank_append (List.all_eq_true.mp hb) ih
    · rw [Deck.keepFilled, List.filter_cons_of_pos (by simpa using hb)]
      exact .slide hne ih

theorem bounds (h : Tiles n lines slides) :
    ∀ s ∈ slides, n ≤ s.first ∧ s.first ≤ s.last ∧ s.last < n + lines.length := by
  induction h with
  | nil n => simp
  | gap _ _ ih =>
    intro s hs
    obtain ⟨hlo, hle, hhi⟩ := ih s hs
    exact ⟨by omega, hle, by rw [List.length_cons]; omega⟩
  | @slide n own rest slides hne _ ih =>
    have hpos := List.length_pos_iff.mpr hne
    intro s hs
    rw [List.length_append]
    rcases List.mem_cons.mp hs with rfl | hs
    · exact ⟨Nat.le_refl n, by dsimp only; omega, by dsimp only; omega⟩
    · obtain ⟨hlo, hle, hhi⟩ := ih s hs
      exact ⟨by omega, hle, by omega⟩

theorem ascending (h : Tiles n lines slides) :
    slides.Pairwise fun s t => s.last < t.first := by
  induction h with
  | nil n => exact .nil
  | gap _ _ ih => exact ih
  | @slide n own rest slides hne ht ih =>
    have hpos := List.length_pos_iff.mpr hne
    refine .cons (fun t hmem => ?_) ih
    have := (ht.bounds t hmem).1
    dsimp only
    omega

/-- No two slides begin in the same line. -/
theorem first_injective (h : Tiles n lines slides) :
    ∀ s ∈ slides, ∀ t ∈ slides, s.first = t.first → s = t := by
  induction h with
  | nil n => exact fun s hs => absurd hs List.not_mem_nil
  | gap _ _ ih => exact ih
  | @slide n own rest slides hne htiles ih =>
    have hpos := List.length_pos_iff.mpr hne
    have hbehind (t : RawSlide) (ht : t ∈ slides) : n < t.first := by
      have := (htiles.bounds t ht).1
      omega
    intro s hs t ht heq
    rcases List.mem_cons.mp hs with rfl | hs <;> rcases List.mem_cons.mp ht with rfl | ht
    · rfl
    · exact absurd heq (Nat.ne_of_lt (hbehind t ht))
    · exact absurd heq.symm (Nat.ne_of_lt (hbehind s hs))
    · exact ih s hs t ht heq

theorem last_eq (h : Tiles n lines slides) :
    ∀ s ∈ slides, s.last + 1 = s.first + s.lines.length := by
  induction h with
  | nil n => simp
  | gap _ _ ih => exact ih
  | @slide n own rest slides hne _ ih =>
    have hpos := List.length_pos_iff.mpr hne
    intro s hs
    rcases List.mem_cons.mp hs with rfl | hs
    · dsimp only
      omega
    · exact ih s hs

/-- Every slide holds the lines of its range, unchanged and in order. -/
theorem lines_eq (h : Tiles n lines slides) :
    ∀ s ∈ slides, s.lines = linesBetween n lines s.first s.last := by
  induction h with
  | nil n => simp
  | @gap n l ls slides _ ht ih =>
    intro s hs
    have hlo := (ht.bounds s hs).1
    rw [ih s hs, ← linesBetween_drop (l :: ls) hlo, List.drop_one, List.tail_cons]
  | @slide n own rest slides hne ht ih =>
    have hpos := List.length_pos_iff.mpr hne
    intro s hs
    rcases List.mem_cons.mp hs with rfl | hs
    · rw [linesBetween, Nat.sub_self, List.drop_zero,
        show n + own.length - 1 + 1 - n = own.length by omega, List.take_left]
    · have hlo := (ht.bounds s hs).1
      rw [ih s hs, ← linesBetween_drop (own ++ rest) hlo, List.drop_left]

/-- A line in no slide is one of a gap. -/
theorem uncovered (h : Tiles n lines slides) :
    ∀ k l, lines[k]? = some l → (∀ s ∈ slides, ¬ (s.first ≤ n + k ∧ n + k ≤ s.last)) →
      l.isSeparator = true ∨ l.isEmpty = true := by
  induction h with
  | nil n => simp
  | @gap n l ls slides hl _ ih =>
    intro k m hk hout
    cases k with
    | zero =>
      obtain rfl : l = m := by simpa using hk
      exact hl
    | succ k =>
      refine ih k m (by simpa using hk) fun s hs => ?_
      have := hout s hs
      omega
  | @slide n own rest slides hne _ ih =>
    have hpos := List.length_pos_iff.mpr hne
    intro k m hk hout
    have hown := hout _ List.mem_cons_self
    have hge : own.length ≤ k := by dsimp only at hown; omega
    rw [List.getElem?_append_right hge] at hk
    refine ih (k - own.length) m hk fun s hs => ?_
    have := hout s (.tail _ hs)
    omega

end Tiles

/-! ### Cutting -/

private theorem collected_tiles {first last : Nat} {current rest : List Line}
    {slides : List RawSlide} (hlast : last = first + current.length - 1)
    (h : Tiles (first + current.length) rest slides) :
    Tiles first (current.reverse ++ rest) (collected first last current ++ slides) := by
  cases current with
  | nil => exact h
  | cons l ls =>
    subst hlast
    have hne : (l :: ls).reverse ≠ [] := by simp
    have := Tiles.slide hne (by rwa [List.length_reverse])
    rwa [List.length_reverse] at this

/-- The lines collected so far always reach from the slide's first line to the line that is read,
whatever separators and metadata blocks came before. -/
private theorem cutFrom_tiles (keys : List String) (opened : Option Nat) (first : Nat)
    (current : List Line) (number : Nat) (ls : List Line) (h : first + current.length = number) :
    Tiles first (current.reverse ++ ls) (cutFrom keys opened first current number ls).1 := by
  induction ls generalizing opened first current number with
  | nil =>
    have := collected_tiles (by rw [h]) (.nil (first + current.length))
    simpa only [cutFrom_nil, List.append_nil] using this
  | cons l ls ih =>
    have next (o : Option Nat) :
        Tiles first (current.reverse ++ l :: ls)
          (cutFrom keys o first (l :: current) (number + 1) ls).1 := by
      have := ih o first (l :: current) (number + 1) (by rw [List.length_cons]; omega)
      rwa [List.reverse_cons, List.append_assoc, List.singleton_append] at this
    cases hl : l.isSeparator with
    | false => rw [cutFrom_line hl]; exact next opened
    | true =>
      cases opened with
      | some k => rw [cutFrom_closing hl]; exact next none
      | none =>
        cases hm : opensSlideBlock keys ls with
        | true =>
          rw [cutFrom_metadata hl hm]
          refine collected_tiles (by rw [h]) ?_
          rw [h]
          exact ih (some number) number [l] (number + 1) rfl
        | false =>
          rw [cutFrom_boundary hl hm]
          refine collected_tiles (by rw [h]) ?_
          rw [h]
          exact .gap (.inl hl) (ih none (number + 1) [] (number + 1) rfl)

/-- How many lines the document-wide block takes, its separators included: none where the first
line is no separator or no document key is set before the next one, and all of them where no
separator follows. -/
def documentBlockSize (keys : MetadataKeys) : List Line → Nat
  | [] => 0
  | l :: ls =>
    let block := ls.takeWhile (!·.isSeparator)
    if l.isSeparator && block.any (·.setsKey keys.document) then
      min (block.length + 2) (ls.length + 1)
    else 0

private theorem documentBlockSize_le (keys : MetadataKeys) (lines : List Line) :
    documentBlockSize keys lines ≤ lines.length := by
  cases lines with
  | nil => exact Nat.le_refl 0
  | cons l ls =>
    rw [documentBlockSize]
    split
    · exact Nat.min_le_right _ _
    · exact Nat.zero_le _

private theorem tiles_of_blank {n : Nat} {ls : List Line} (h : ls.all Line.isEmpty = true) :
    Tiles n ls [] := by
  have := Tiles.blank_append (List.all_eq_true.mp h) (.nil (n + ls.length))
  rwa [List.append_nil] at this

/-- Behind the document-wide block, the slides tile the document. -/
theorem cut_tiles (keys : MetadataKeys) (lines : List Line) :
    Tiles (documentBlockSize keys lines + 1) (lines.drop (documentBlockSize keys lines))
      (cut keys lines).slides := by
  cases lines with
  | nil => exact .nil 1
  | cons l ls =>
    cases hl : l.isSeparator with
    | false =>
      have hsize : documentBlockSize keys (l :: ls) = 0 := by simp [documentBlockSize, hl]
      rw [hsize]
      cases hb : (l :: ls).all Line.isEmpty with
      | true => rw [cut_blank hb]; exact tiles_of_blank hb
      | false =>
        rw [cut_text hl hb]
        exact (cutFrom_tiles keys.slide none 1 [] 1 (l :: ls) rfl).keepFilled
    | true =>
      cases ho : (ls.takeWhile (!·.isSeparator)).any (·.setsKey keys.document) with
      | false =>
        have hsize : documentBlockSize keys (l :: ls) = 0 := by simp [documentBlockSize, ho]
        rw [hsize, cut_metadata hl (by rw [opensDocumentBlock_eq, ho])]
        exact (cutFrom_tiles keys.slide (some 1) 1 [l] 2 ls rfl).keepFilled
      | true =>
        have hblock : ∀ k ∈ ls.takeWhile (!·.isSeparator), k.isSeparator = false := by
          intro k hk
          simpa using List.mem_takeWhile_imp hk
        have hsize : documentBlockSize keys (l :: ls) =
            min ((ls.takeWhile (!·.isSeparator)).length + 2) (ls.length + 1) := by
          simp [documentBlockSize, hl, ho]
        rw [hsize]
        have hsplit := @List.takeWhile_append_dropWhile _ (!·.isSeparator) ls
        generalize ls.takeWhile (!·.isSeparator) = block at *
        cases hrest : ls.dropWhile (!·.isSeparator) with
        | nil =>
          obtain rfl : block = ls := by simpa [hrest] using hsplit
          rw [cut_unclosed hl hblock ho, Nat.min_eq_right (by omega), ← @List.length_cons _ l,
            List.drop_length]
          exact .nil _
        | cons s rest =>
          have hs : s.isSeparator = true := by
            simpa [hrest] using List.head?_dropWhile_not (!·.isSeparator) ls
          obtain rfl : ls = block ++ s :: rest := by rw [← hrest, hsplit]
          have hmin : min (block.length + 2) ((block ++ s :: rest).length + 1) =
              block.length + 2 := by
            rw [List.length_append, List.length_cons]
            omega
          have hdrop : (l :: (block ++ s :: rest)).drop (block.length + 2) = rest := by
            simp
          rw [hmin, hdrop, cut_document hl hblock ho hs]
          exact (cutFrom_tiles keys.slide none _ [] _ rest rfl).keepFilled

/-- A slide of a document holds the lines of its range. -/
theorem cut_slide {keys : MetadataKeys} {lines : List Line} {s : RawSlide}
    (h : s ∈ (cut keys lines).slides) :
    1 ≤ s.first ∧ s.first ≤ s.last ∧ s.last + 1 = s.first + s.lines.length ∧
      s.lines = linesBetween 1 lines s.first s.last := by
  have ht := cut_tiles keys lines
  have hbounds := ht.bounds s h
  refine ⟨by omega, hbounds.2.1, ht.last_eq s h, ?_⟩
  rw [ht.lines_eq s h, Nat.add_comm, linesBetween_drop lines (by omega)]

/-- Where there is a document-wide block, no slide begins in the first line. -/
theorem one_lt_first {keys : MetadataKeys} {lines : List Line} {s : RawSlide}
    (hblock : (cut keys lines).documentBlock ≠ []) (h : s ∈ (cut keys lines).slides) :
    1 < s.first := by
  have hsize : 0 < documentBlockSize keys lines := by
    cases lines with
    | nil => exact absurd rfl hblock
    | cons l ls =>
      rw [cut.eq_def] at hblock
      split at hblock
      · exact absurd rfl hblock
      · dsimp only at hblock
        split at hblock
        · next hopens =>
          rw [opensDocumentBlock_eq] at hopens
          rw [documentBlockSize, if_pos hopens]
          omega
        · exact absurd rfl hblock
  have hfirst := ((cut_tiles keys lines).bounds s h).1
  omega

/-- What it means that slides tile a document, whose lines are counted from one. -/
structure Tiling (keys : MetadataKeys) (lines : List Line) (slides : List RawSlide) : Prop where
  /-- Ranges are not empty and lie between the document-wide block and the end. -/
  bounds : ∀ s ∈ slides,
    documentBlockSize keys lines < s.first ∧ s.first ≤ s.last ∧ s.last ≤ lines.length
  ascending : slides.Pairwise fun s t => s.last < t.first
  content : ∀ s ∈ slides, s.content = joinLines (linesBetween 1 lines s.first s.last)
  /-- A line that no slide has is one of the document-wide block, a separator or blank. -/
  uncovered : ∀ k l, lines[k]? = some l →
    (∀ s ∈ slides, ¬ (s.first ≤ k + 1 ∧ k + 1 ≤ s.last)) →
    k + 1 ≤ documentBlockSize keys lines ∨ l.isSeparator = true ∨ l.isEmpty = true

/-- Every list of lines is tiled by the slides that it is cut into: no line with content is lost or
given to two slides. -/
theorem splitSlides_tiling {keys : MetadataKeys} {lines : List Line} {slides : List RawSlide}
    {table : Table} (h : (splitSlides keys lines).outcome = .ok (slides, table)) :
    Tiling keys lines slides := by
  obtain rfl := (splitSlides_spec h).1
  have ht := cut_tiles keys lines
  have hsize := documentBlockSize_le keys lines
  refine ⟨fun s hs => ?_, ht.ascending, fun s hs => ?_, fun k l hk hout => ?_⟩
  · obtain ⟨hlo, hle, hhi⟩ := ht.bounds s hs
    rw [List.length_drop] at hhi
    exact ⟨hlo, hle, by omega⟩
  · rw [RawSlide.content, (cut_slide hs).2.2.2]
  · rcases Nat.lt_or_ge k (documentBlockSize keys lines) with hin | hge
    · exact .inl hin
    · refine .inr (ht.uncovered (k - documentBlockSize keys lines) l ?_ fun s hs => ?_)
      · rwa [List.getElem?_drop, Nat.add_sub_cancel' hge]
      · have := hout s hs
        omega

theorem splitSlides_tiling_of_two : ∃ table,
    (splitSlides {} ["# A", "---", "layout: fact", "---", "text"]).outcome =
        .ok ([⟨1, 1, ["# A"]⟩, ⟨2, 5, ["---", "layout: fact", "---", "text"]⟩], table) ∧
      Tiling {} ["# A", "---", "layout: fact", "---", "text"]
        [⟨1, 1, ["# A"]⟩, ⟨2, 5, ["---", "layout: fact", "---", "text"]⟩] := by
  have h : (splitSlides {} ["# A", "---", "layout: fact", "---", "text"]).outcome =
      .ok ([⟨1, 1, ["# A"]⟩, ⟨2, 5, ["---", "layout: fact", "---", "text"]⟩], .empty) := by
    have hc : cut {} ["# A", "---", "layout: fact", "---", "text"] = ⟨[], false,
        [⟨1, 1, ["# A"]⟩, ⟨2, 5, ["---", "layout: fact", "---", "text"]⟩], none⟩ := by
      decide +kernel
    rw [splitSlides_outcome, hc]
    rfl
  exact ⟨.empty, h, splitSlides_tiling h⟩

end SlideOverflow.Deck
