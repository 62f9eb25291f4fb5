/-! Blank characters, and the cutting and trimming of text that depends on them alone. A text is
handled as its list of characters. -/
namespace SlideOverflow.Text

/-- The characters that separate words: those with the Unicode property White_Space, and the four
information separators. -/
def isBlank (c : Char) : Bool :=
  let n := c.toNat
  (9 ≤ n && n ≤ 13) || (28 ≤ n && n ≤ 32) || n == 0x85 || n == 0xA0 || n == 0x1680 ||
    (0x2000 ≤ n && n ≤ 0x200A) || n == 0x2028 || n == 0x2029 || n == 0x202F || n == 0x205F ||
    n == 0x3000

def trimStart (cs : List Char) : List Char :=
  cs.dropWhile isBlank

/-- `List.dropWhile` from behind. -/
def dropEndWhile {α : Type} (p : α → Bool) (l : List α) : List α :=
  (l.reverse.dropWhile p).reverse

theorem dropEndWhile_isPrefix {α : Type} (p : α → Bool) (l : List α) : dropEndWhile p l <+: l := by
  rw [← List.reverse_suffix, dropEndWhile, List.reverse_reverse]
  exact List.dropWhile_suffix p

/-- Behind the last element that does not satisfy `p`, nothing is left. -/
theorem dropEndWhile_append {α : Type} {p : α → Bool} {a : α} {rest : List α} (front : List α)
    (ha : p a = false) (hrest : ∀ b ∈ rest, p b = true) :
    dropEndWhile p (front ++ a :: rest) = front ++ [a] := by
  have hback : ∀ b ∈ rest.reverse, p b = true := fun b hb => hrest b (List.mem_reverse.mp hb)
  rw [dropEndWhile, List.reverse_append, List.reverse_cons, List.append_assoc,
    List.dropWhile_append_of_pos hback, List.singleton_append,
    List.dropWhile_cons_of_neg (by rw [ha]; decide), List.reverse_cons, List.reverse_reverse]

def trimEnd (cs : List Char) : List Char :=
  dropEndWhile isBlank cs

def trim (cs : List Char) : List Char :=
  trimEnd (trimStart cs)

/-- A text that is trimmed begins with a character that is not blank. -/
theorem isBlank_of_trimStart {cs rest : List Char} {c : Char} (h : trimStart cs = c :: rest) :
    isBlank c = false := by
  have := List.head?_dropWhile_not isBlank cs
  rw [← trimStart, h] at this
  simpa using this

theorem trimEnd_cons {c : Char} (hc : isBlank c = false) (cs : List Char) :
    trimEnd (c :: cs) = c :: trimEnd cs := by
  rw [trimEnd, trimEnd, dropEndWhile, dropEndWhile, List.reverse_cons, List.dropWhile_append]
  split
  · next hnone =>
    rw [List.isEmpty_iff.mp hnone, List.dropWhile_cons_of_neg (by rw [hc]; decide)]
    rfl
  · rw [List.reverse_append]
    rfl

/-! ### Pieces -/

section Pieces

variable {α : Type} {p : α → Bool} {l piece : List α}

theorem flatten_splitOnP (p : α → Bool) (l : List α) :
    (l.splitOnP p).flatten = l.filter (!p ·) := by
  induction l with
  | nil => rfl
  | cons a l ih =>
    rw [List.splitOnP_cons_eq_if_modifyHead]
    cases ha : p a with
    | true =>
      rw [if_pos rfl, List.filter_cons_of_neg (by simp [ha])]
      exact ih
    | false =>
      rw [if_neg Bool.false_ne_true, List.filter_cons_of_pos (by simp [ha]), ← ih]
      cases hl : l.splitOnP p with
      | nil => exact absurd hl (List.splitOnP_ne_nil p l)
      | cons piece pieces => rfl

theorem length_splitOnP (p : α → Bool) (l : List α) :
    (l.splitOnP p).length = l.countP p + 1 := by
  induction l with
  | nil => rfl
  | cons a l ih =>
    rw [List.splitOnP_cons_eq_if_modifyHead]
    cases ha : p a with
    | true => rw [if_pos rfl, List.length_cons, ih, List.countP_cons_of_pos ha]
    | false =>
      rw [if_neg Bool.false_ne_true, List.length_modifyHead, ih,
        List.countP_cons_of_neg (by simp [ha])]

theorem splitOnP_congr {q : α → Bool} (h : ∀ a ∈ l, p a = q a) : l.splitOnP p = l.splitOnP q := by
  induction l with
  | nil => rfl
  | cons a l ih =>
    rw [List.splitOnP_cons_eq_if_modifyHead, List.splitOnP_cons_eq_if_modifyHead,
      h a List.mem_cons_self, ih fun b hb => h b (.tail a hb)]

theorem mem_splitOnP (h : piece ∈ l.splitOnP p) : ∀ b ∈ piece, b ∈ l ∧ p b = false := by
  intro b hb
  have hflat := List.mem_flatten_of_mem h hb
  rw [flatten_splitOnP, List.mem_filter, Bool.not_eq_true'] at hflat
  exact hflat

/-- A list comes apart at an element in one way: its pieces do not hold the element, and the list is
what they are with the element between them. -/
theorem splitOn_eq_iff [BEq α] [LawfulBEq α] {x : α} {pieces : List (List α)} (hne : pieces ≠ []) :
    l.splitOn x = pieces ↔ (∀ piece ∈ pieces, x ∉ piece) ∧ l = [x].intercalate pieces := by
  constructor
  · rintro rfl
    refine ⟨fun piece hpiece hx => ?_, (List.intercalate_splitOn x).symm⟩
    exact absurd (mem_splitOnP hpiece x hx).2 (by simp)
  · rintro ⟨hpieces, rfl⟩
    exact List.splitOn_intercalate x hpieces hne

end Pieces

def words (cs : List Char) : List (List Char) :=
  (cs.splitOnP isBlank).filter (!·.isEmpty)

def occursIn (pattern : List Char) : List Char → Bool
  | [] => pattern.isEmpty
  | c :: cs => pattern.isPrefixOf (c :: cs) || occursIn pattern cs

theorem occursIn_iff (pattern cs : List Char) : occursIn pattern cs = true ↔ pattern <:+: cs := by
  induction cs with
  | nil => rw [occursIn, List.isEmpty_iff, List.infix_nil]
  | cons c cs ih =>
    rw [occursIn, Bool.or_eq_true, ih, List.isPrefixOf_iff_prefix, List.infix_cons_iff]

def after? (pattern : List Char) (cs : List Char) : Option (List Char) :=
  if pattern.isPrefixOf cs then some (cs.drop pattern.length) else none

end SlideOverflow.Text
