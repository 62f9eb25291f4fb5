import Mathlib.Data.List.Chain
import Mathlib.Data.List.TakeWhile
import SlideOverflow.Deck.PlainText

/-! Words joined by single spaces. Joining neither makes nor changes words, so a text whose words
are joined stays as it is from then on. -/
namespace SlideOverflow.Deck

open Text

def IsWord (word : List Char) : Prop := word ≠ [] ∧ ∀ c ∈ word, isBlank c = false

private theorem isWord_of_mem_words {cs word : List Char} (h : word ∈ words cs) : IsWord word := by
  obtain ⟨hpiece, hfilled⟩ := List.mem_filter.mp h
  exact ⟨by simpa using hfilled, fun c hc => (mem_splitOnP hpiece c hc).2⟩

private theorem flatten_words (cs : List Char) : (words cs).flatten = cs.filter (!isBlank ·) := by
  rw [words, List.flatten_filter_not_isEmpty, flatten_splitOnP]

private theorem trim_eq_nil_iff {cs : List Char} : trim cs = [] ↔ ∀ c ∈ cs, isBlank c = true := by
  rw [← List.dropWhile_eq_nil_iff, ← trimStart, trim]
  cases hstart : trimStart cs with
  | nil => exact iff_of_true rfl rfl
  | cons c rest =>
    rw [trimEnd_cons (isBlank_of_trimStart hstart)]
    exact iff_of_false (List.cons_ne_nil _ _) (List.cons_ne_nil _ _)

/-- Only a blank text has no words. -/
theorem words_eq_nil_iff {cs : List Char} : words cs = [] ↔ trim cs = [] := by
  have hflatten : words cs = [] ↔ (words cs).flatten = [] := by
    refine ⟨fun h => by rw [h]; rfl, fun h => List.eq_nil_iff_forall_not_mem.mpr fun w hw => ?_⟩
    exact (isWord_of_mem_words hw).1 (List.flatten_eq_nil_iff.mp h w hw)
  rw [hflatten, flatten_words, trim_eq_nil_iff]
  simp

/-- What it means that the only blanks of a text are single spaces between other characters. -/
structure IsSingleSpaced (cs : List Char) : Prop where
  blank_eq : ∀ c ∈ cs, isBlank c = true → c = ' '
  apart : cs.IsChain fun a b => ¬(isBlank a = true ∧ isBlank b = true)
  head : ∀ c ∈ cs.head?, isBlank c = false
  last : ∀ c ∈ cs.getLast?, isBlank c = false

private theorem IsWord.isSingleSpaced {word : List Char} (h : IsWord word) :
    IsSingleSpaced word where
  blank_eq c hc hblank := by
    rw [h.2 c hc] at hblank
    cases hblank
  apart := by
    refine List.Pairwise.isChain (List.Pairwise.imp_of_mem (fun {a b} ha _ _ hboth => ?_)
      (List.pairwise_of_forall (R := fun _ _ => True) fun _ _ => trivial))
    rw [h.2 a ha] at hboth
    exact Bool.false_ne_true hboth.1
  head c hc := h.2 c (List.mem_of_mem_head? hc)
  last c hc := h.2 c (List.mem_of_mem_getLast? hc)

theorem IsSingleSpaced.append {word rest : List Char} (hword : IsWord word)
    (h : IsSingleSpaced rest) (hne : rest ≠ []) : IsSingleSpaced (word ++ ' ' :: rest) where
  blank_eq c hc hblank := by
    rcases List.mem_append.mp hc with hc | hc
    · exact hword.isSingleSpaced.blank_eq c hc hblank
    · rcases List.mem_cons.mp hc with rfl | hc
      · rfl
      · exact h.blank_eq c hc hblank
  apart := by
    refine List.isChain_append.mpr ⟨hword.isSingleSpaced.apart, ?_, fun a ha b _ hboth => ?_⟩
    · refine List.isChain_cons.mpr ⟨fun b hb hboth => ?_, h.apart⟩
      rw [h.head b hb] at hboth
      exact Bool.false_ne_true hboth.2
    · rw [hword.isSingleSpaced.last a ha] at hboth
      exact Bool.false_ne_true hboth.1
  head c hc := by
    rw [List.head?_append_of_ne_nil _ hword.1] at hc
    exact hword.isSingleSpaced.head c hc
  last c hc := by
    rw [List.getLast?_append_of_ne_nil _ (List.cons_ne_nil _ _),
      List.getLast?_cons_of_ne_nil hne] at hc
    exact h.last c hc

section Joined

variable {ws : List (List Char)}

private theorem isSingleSpaced_intercalate (h : ∀ w ∈ ws, IsWord w) :
    IsSingleSpaced ([' '].intercalate ws) := by
  induction ws with
  | nil => exact ⟨by simp, .nil, by simp, by simp⟩
  | cons w ws ih =>
    obtain ⟨hw, hws⟩ := List.forall_mem_cons.mp h
    cases ws with
    | nil =>
      rw [List.intercalate_singleton]
      exact hw.isSingleSpaced
    | cons v ws =>
      have hne : [' '].intercalate (v :: ws) ≠ [] := by
        have hv := (hws v List.mem_cons_self).1
        cases ws <;> simp [List.intercalate_cons_cons, hv]
      rw [List.intercalate_cons_cons, List.append_assoc]
      exact .append hw (ih hws) hne

/-- The words of a text do not change when they are joined by single spaces. -/
private theorem words_intercalate (h : ∀ w ∈ ws, IsWord w) : words ([' '].intercalate ws) = ws := by
  have hblank : ∀ c ∈ [' '].intercalate ws, isBlank c = (c == ' ') := by
    intro c hc
    rw [Bool.eq_iff_iff, beq_iff_eq]
    refine ⟨(isSingleSpaced_intercalate h).blank_eq c hc, ?_⟩
    rintro rfl
    decide
  have hfilled : ws.filter (!·.isEmpty) = ws :=
    List.filter_eq_self.mpr fun w hw => by simpa using (h w hw).1
  by_cases hne : ws = []
  · rw [hne]
    rfl
  · have hclean : ∀ w ∈ ws, ' ' ∉ w := fun w hw hspace =>
      absurd ((h w hw).2 ' ' hspace) (by decide)
    rw [words, splitOnP_congr hblank, ← List.splitOn_eq_splitOnP,
      (splitOn_eq_iff hne).mpr ⟨hclean, rfl⟩, hfilled]

private theorem length_intercalate_le (ws : List (List Char)) :
    ([' '].intercalate ws).length ≤ ws.flatten.length + (ws.length - 1) := by
  induction ws with
  | nil => exact Nat.zero_le _
  | cons w ws ih =>
    cases ws with
    | nil => simp
    | cons v ws =>
      rw [List.intercalate_cons_cons, List.flatten_cons]
      simp only [List.length_append, List.length_cons, List.length_nil] at ih ⊢
      omega

end Joined

theorem isSingleSpaced (cs : List Char) : IsSingleSpaced (singleSpaced cs) :=
  isSingleSpaced_intercalate fun _ => isWord_of_mem_words

private theorem words_singleSpaced (cs : List Char) : words (singleSpaced cs) = words cs :=
  words_intercalate fun _ => isWord_of_mem_words

theorem singleSpaced_singleSpaced (cs : List Char) :
    singleSpaced (singleSpaced cs) = singleSpaced cs := by
  rw [singleSpaced, words_singleSpaced, ← singleSpaced]

/-- Only blanks come and go. -/
theorem filter_singleSpaced (cs : List Char) :
    (singleSpaced cs).filter (!isBlank ·) = cs.filter (!isBlank ·) := by
  rw [← flatten_words, words_singleSpaced, flatten_words]

theorem length_singleSpaced_le (cs : List Char) : (singleSpaced cs).length ≤ cs.length := by
  have hjoined := length_intercalate_le (words cs)
  have hpieces := (List.filter_sublist (p := (!·.isEmpty)) (l := cs.splitOnP isBlank)).length_le
  have hall := @List.length_eq_length_filter_add _ cs isBlank
  rw [flatten_words] at hjoined
  rw [← words, length_splitOnP, List.countP_eq_length_filter] at hpieces
  rw [singleSpaced]
  omega

end SlideOverflow.Deck
