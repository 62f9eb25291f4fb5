import SlideOverflow.Deck.Line

/-! Cutting a document into slides. A separator ends a slide; what follows it may be metadata of the
next slide, in which case the separator belongs to that slide. A separator in the first line opens
metadata of the whole document if it sets a document key, and metadata of the first slide
otherwise. -/
namespace SlideOverflow.Deck

/-- The lines of a slide as they stand in the document, and the numbers of the first and the last
one. -/
structure RawSlide where
  first : Nat
  last : Nat
  lines : List Line
deriving DecidableEq, Repr

def RawSlide.content (s : RawSlide) : String := joinLines s.lines

structure MetadataKeys where
  document : List String := ["theme", "highlighter", "colorSchema", "favicon", "fonts",
    "canvasWidth", "aspectRatio"]
  slide : List String := ["layout", "class", "clicks", "transition", "background",
    "backgroundSize", "dragPos", "preload", "routeAlias", "hide"]
deriving DecidableEq, Repr

/-- Whether a document key is set before the next separator. -/
def opensDocumentBlock (keys : List String) : List Line → Bool
  | [] => false
  | l :: ls => !l.isSeparator && (l.setsKey keys || opensDocumentBlock keys ls)

theorem opensDocumentBlock_eq (keys : List String) (ls : List Line) :
    opensDocumentBlock keys ls = (ls.takeWhile (!·.isSeparator)).any (·.setsKey keys) := by
  induction ls with
  | nil => rfl
  | cons l ls ih =>
    rw [opensDocumentBlock, ih]
    cases hl : l.isSeparator <;> simp [hl]

/-- Whether the lines behind a separator are metadata of a slide: a slide key or the closing
separator comes before any blank line or heading. -/
def opensSlideBlock (keys : List String) : List Line → Bool
  | [] => false
  | l :: ls =>
    l.isSeparator ||
      (!l.isEmpty && !l.beginsWith ['#'] && (l.setsKey keys || opensSlideBlock keys ls))

def collected (first last : Nat) (lines : List Line) : List RawSlide :=
  if lines.isEmpty then [] else [⟨first, last, lines.reverse⟩]

/-- Cuts the lines from number `number` on. `opened` is the line of a metadata block that is still
open, `first` and `current` are the slide being collected, latest line first; it ends in front of
the line that is read. Gives the slides, and the line of a block that stays open. -/
def cutFrom (keys : List String) (opened : Option Nat) (first : Nat) (current : List Line)
    (number : Nat) : List Line → List RawSlide × Option Nat
  | [] => (collected first (number - 1) current, opened)
  | l :: ls =>
    if l.isSeparator then
      match opened with
      | some _ => cutFrom keys none first (l :: current) (number + 1) ls
      | none =>
        let (slides, unclosed) :=
          if opensSlideBlock keys ls then cutFrom keys (some number) number [l] (number + 1) ls
          else cutFrom keys none (number + 1) [] (number + 1) ls
        (collected first (number - 1) current ++ slides, unclosed)
    else cutFrom keys opened first (l :: current) (number + 1) ls

section Steps

variable {keys : List String} {opened : Option Nat} {first number : Nat} {current : List Line}
  {l : Line} {ls : List Line}

theorem cutFrom_nil :
    cutFrom keys opened first current number [] = (collected first (number - 1) current, opened) :=
  rfl

theorem cutFrom_line (h : l.isSeparator = false) :
    cutFrom keys opened first current number (l :: ls) =
      cutFrom keys opened first (l :: current) (number + 1) ls := by
  rw [cutFrom.eq_def]
  simp only [h, Bool.false_eq_true, if_false]

theorem cutFrom_closing (h : l.isSeparator = true) (k : Nat) :
    cutFrom keys (some k) first current number (l :: ls) =
      cutFrom keys none first (l :: current) (number + 1) ls := by
  rw [cutFrom, if_pos h]

/-- In front of metadata, a separator begins the next slide. -/
theorem cutFrom_metadata (h : l.isSeparator = true) (hm : opensSlideBlock keys ls = true) :
    cutFrom keys none first current number (l :: ls) =
      (collected first (number - 1) current ++
          (cutFrom keys (some number) number [l] (number + 1) ls).1,
        (cutFrom keys (some number) number [l] (number + 1) ls).2) := by
  rw [cutFrom, if_pos h, if_pos hm]

/-- A plain separator belongs to no slide. -/
theorem cutFrom_boundary (h : l.isSeparator = true) (hm : opensSlideBlock keys ls = false) :
    cutFrom keys none first current number (l :: ls) =
      (collected first (number - 1) current ++
          (cutFrom keys none (number + 1) [] (number + 1) ls).1,
        (cutFrom keys none (number + 1) [] (number + 1) ls).2) := by
  rw [cutFrom, if_pos h, if_neg (by rw [hm]; exact Bool.false_ne_true)]

/-- Lines without a separator are collected as they come. -/
theorem cutFrom_lines {own rest : List Line} (h : ∀ l ∈ own, l.isSeparator = false) :
    cutFrom keys opened first current number (own ++ rest) =
      cutFrom keys opened first (own.reverse ++ current) (number + own.length) rest := by
  induction own generalizing current number with
  | nil => rfl
  | cons l own ih =>
    rw [List.cons_append, cutFrom_line (h l List.mem_cons_self),
      ih fun k hk => h k (List.mem_cons_of_mem l hk), List.reverse_cons, List.append_assoc,
      List.length_cons, Nat.add_right_comm, Nat.add_assoc]
    rfl

/-- The lines of an open block, the separator that closes it and the lines of a body are collected
as they come. -/
theorem cutFrom_enclosed {k : Nat} {closing : Line} {block body rest : List Line}
    (hblock : ∀ l ∈ block, l.isSeparator = false) (hc : closing.isSeparator = true)
    (hbody : ∀ l ∈ body, l.isSeparator = false) :
    cutFrom keys (some k) first current number (block ++ closing :: body ++ rest) =
      cutFrom keys none first ((block ++ closing :: body).reverse ++ current)
        (number + (block ++ closing :: body).length) rest := by
  rw [List.append_assoc, cutFrom_lines hblock, List.cons_append, cutFrom_closing hc,
    cutFrom_lines hbody]
  simp only [List.reverse_append, List.reverse_cons, List.append_assoc, List.length_append,
    List.length_cons, List.cons_append, List.nil_append, Nat.add_assoc, Nat.add_comm 1]

end Steps

theorem collected_reverse {own : List Line} (h : own ≠ []) (first last : Nat) :
    collected first last own.reverse = [⟨first, last, own⟩] := by
  cases own with
  | nil => exact absurd rfl h
  | cons l ls => rw [collected, if_neg (by simp), List.reverse_reverse]

structure Cut where
  /-- The lines of the document-wide block, unless it stays open. -/
  documentBlock : List Line
  /-- The document-wide block is never closed and takes the whole document. -/
  documentUnclosed : Bool
  slides : List RawSlide
  /-- The line where a slide's metadata block begins that is never closed. -/
  slideUnclosed : Option Nat
deriving DecidableEq, Repr

def keepFilled (slides : List RawSlide) : List RawSlide :=
  slides.filter fun s => !s.lines.all Line.isEmpty

def cut (keys : MetadataKeys) (lines : List Line) : Cut :=
  if lines.all Line.isEmpty then ⟨[], false, [], none⟩
  else match lines with
    | [] => ⟨[], false, [], none⟩
    | l :: ls =>
      if l.isSeparator && opensDocumentBlock keys.document ls then
        let block := ls.takeWhile (!·.isSeparator)
        match ls.drop block.length with
        | [] => ⟨[], true, [], none⟩
        | _ :: rest =>
          let start := block.length + 3
          let (slides, unclosed) := cutFrom keys.slide none start [] start rest
          ⟨block, false, keepFilled slides, unclosed⟩
      else
        let (slides, unclosed) :=
          if l.isSeparator then cutFrom keys.slide (some 1) 1 [l] 2 ls
          else cutFrom keys.slide none 1 [] 1 (l :: ls)
        ⟨[], false, keepFilled slides, unclosed⟩

section Forms

variable {keys : MetadataKeys} {l s : Line} {ls block rest : List Line}

theorem cut_blank (h : ls.all Line.isEmpty = true) : cut keys ls = ⟨[], false, [], none⟩ := by
  rw [cut.eq_def, if_pos h]

/-- A document that begins with text has no document-wide block. -/
theorem cut_text (hl : l.isSeparator = false) (hf : (l :: ls).all Line.isEmpty = false) :
    cut keys (l :: ls) =
      ⟨[], false, keepFilled (cutFrom keys.slide none 1 [] 1 (l :: ls)).1,
        (cutFrom keys.slide none 1 [] 1 (l :: ls)).2⟩ := by
  simp only [cut, hf, hl, Bool.false_and, Bool.false_eq_true, if_false]

private theorem all_isEmpty_separator (hl : l.isSeparator = true) (ls : List Line) :
    (l :: ls).all Line.isEmpty = false := by
  rw [List.all_cons, Line.isEmpty_of_isSeparator hl, Bool.false_and]

/-- A separator in the first line begins the first slide where no document key is set. -/
theorem cut_metadata (hl : l.isSeparator = true)
    (ho : opensDocumentBlock keys.document ls = false) :
    cut keys (l :: ls) =
      ⟨[], false, keepFilled (cutFrom keys.slide (some 1) 1 [l] 2 ls).1,
        (cutFrom keys.slide (some 1) 1 [l] 2 ls).2⟩ := by
  simp only [cut, all_isEmpty_separator hl, hl, ho, Bool.and_false, Bool.false_eq_true, if_false,
    if_true]

private theorem opens_of_any (hb : ∀ k ∈ block, k.isSeparator = false)
    (ho : block.any (·.setsKey keys.document) = true)
    (hr : ∀ s ∈ rest.head?, s.isSeparator = true) :
    (block ++ rest).takeWhile (!·.isSeparator) = block ∧
      opensDocumentBlock keys.document (block ++ rest) = true := by
  have ht : (block ++ rest).takeWhile (!·.isSeparator) = block := by
    rw [List.takeWhile_append_of_pos (by simpa using hb)]
    cases rest with
    | nil => simp
    | cons s rest => simp [hr s (by simp)]
  rw [opensDocumentBlock_eq, ht]
  exact ⟨rfl, ho⟩

/-- A document-wide block that is closed belongs to no slide. -/
theorem cut_document (hl : l.isSeparator = true) (hb : ∀ k ∈ block, k.isSeparator = false)
    (ho : block.any (·.setsKey keys.document) = true) (hs : s.isSeparator = true) :
    cut keys (l :: (block ++ s :: rest)) =
      ⟨block, false,
        keepFilled (cutFrom keys.slide none (block.length + 3) [] (block.length + 3) rest).1,
        (cutFrom keys.slide none (block.length + 3) [] (block.length + 3) rest).2⟩ := by
  obtain ⟨ht, hopens⟩ := @opens_of_any keys block (s :: rest) hb ho (by simpa using hs)
  simp only [cut, all_isEmpty_separator hl, hl, hopens, ht, List.drop_left, Bool.and_self,
    Bool.false_eq_true, if_false, if_true]

/-- A document-wide block that is never closed takes the whole document. -/
theorem cut_unclosed (hl : l.isSeparator = true) (hb : ∀ k ∈ block, k.isSeparator = false)
    (ho : block.any (·.setsKey keys.document) = true) :
    cut keys (l :: block) = ⟨[], true, [], none⟩ := by
  obtain ⟨ht, hopens⟩ := @opens_of_any keys block [] hb ho (by simp)
  rw [List.append_nil] at ht hopens
  simp only [cut, all_isEmpty_separator hl, hl, hopens, ht, List.drop_length, Bool.and_self,
    Bool.false_eq_true, if_false, if_true]

/-- A slide that holds blanks only is no slide of the document. -/
theorem cut_filled {ls : List Line} {s : RawSlide} (h : s ∈ (cut keys ls).slides) :
    s.lines.all Line.isEmpty = false := by
  have hkeep (slides : List RawSlide) (h : s ∈ keepFilled slides) :
      s.lines.all Line.isEmpty = false := by
    simpa using (List.mem_filter.mp h).2
  by_cases hblank : ls.all Line.isEmpty = true
  · rw [cut_blank hblank] at h
    exact absurd h List.not_mem_nil
  · rw [cut.eq_def, if_neg hblank] at h
    cases ls with
    | nil => exact absurd h List.not_mem_nil
    | cons l ls =>
      dsimp only at h
      split at h
      · split at h
        · exact absurd h List.not_mem_nil
        · exact hkeep _ h
      · exact hkeep _ h

end Forms

end SlideOverflow.Deck
