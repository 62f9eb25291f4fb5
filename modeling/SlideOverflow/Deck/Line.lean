import SlideOverflow.Text.Blank
import SlideOverflow.Text.Classes

/-! What a single line of a deck can be. A line is a text without line breaks; most of its forms may
be indented. -/
namespace SlideOverflow.Deck

open Text

abbrev Line := String

def splitLines (text : List Char) : List Line :=
  (text.splitOn '\n').map String.ofList

def joinLines (lines : List Line) : String :=
  "\n".intercalate lines

/-- Lines that are joined come apart again. -/
theorem splitLines_joinLines {lines : List Line} (hne : lines ≠ [])
    (h : ∀ l ∈ lines, '\n' ∉ l.toList) : splitLines (joinLines lines).toList = lines := by
  have hclean : ∀ piece ∈ lines.map String.toList, '\n' ∉ piece := by
    intro piece hpiece
    obtain ⟨l, hl, rfl⟩ := List.mem_map.mp hpiece
    exact h l hl
  have hpieces := (splitOn_eq_iff (by simpa using hne)).mpr ⟨hclean, rfl⟩
  have hsep : "\n".toList = ['\n'] := rfl
  rw [joinLines, String.toList_intercalate, hsep, splitLines, hpieces, List.map_map]
  simp

theorem mem_splitLines {text : List Char} {l : Line} (h : l ∈ splitLines text) :
    '\n' ∉ l.toList ∧ ∀ c ∈ l.toList, c ∈ text := by
  obtain ⟨piece, hpiece, rfl⟩ := List.mem_map.mp h
  have hmem := mem_splitOnP hpiece
  rw [String.toList_ofList]
  exact ⟨fun hc => absurd (hmem _ hc).2 (by decide), fun c hc => (hmem c hc).1⟩

namespace Line

def stripped (l : Line) : List Char := trim l.toList

def isEmpty (l : Line) : Bool := l.toList.all isBlank

def isSeparator (l : Line) : Bool := l.stripped == ['-', '-', '-']

theorem stripped_of_isEmpty {l : Line} (h : l.isEmpty = true) : l.stripped = [] := by
  have hd : (l.toList ++ []).dropWhile isBlank = [] :=
    List.dropWhile_append_of_pos (List.all_eq_true.mp h)
  rw [List.append_nil] at hd
  rw [stripped, trim, trimStart, hd]
  rfl

theorem isEmpty_of_isSeparator {l : Line} (h : l.isSeparator = true) : l.isEmpty = false := by
  rw [Bool.eq_false_iff]
  intro he
  rw [isSeparator, stripped_of_isEmpty he] at h
  exact Bool.false_ne_true h

def beginsWith (l : Line) (pattern : List Char) : Bool := pattern.isPrefixOf l.stripped

theorem prefix_of_beginsWith {l : Line} {pattern : List Char} (h : l.beginsWith pattern = true) :
    pattern <+: trimStart l.toList :=
  (List.isPrefixOf_iff_prefix.mp h).trans (dropEndWhile_isPrefix _ _)

/-- A line that begins with a text is blanks, the text and what is behind it. -/
theorem exists_of_beginsWith {l : Line} {pattern : List Char} (h : l.beginsWith pattern = true) :
    ∃ blanks behind, l.toList = blanks ++ (pattern ++ behind) ∧ ∀ c ∈ blanks, isBlank c = true := by
  obtain ⟨behind, hbehind⟩ := prefix_of_beginsWith h
  refine ⟨l.toList.takeWhile isBlank, behind, ?_, List.all_eq_true.mp List.all_takeWhile⟩
  rw [hbehind, trimStart, List.takeWhile_append_dropWhile]

theorem isEmpty_of_beginsWith {l : Line} {pattern : List Char} (hne : pattern ≠ [])
    (h : l.beginsWith pattern = true) : l.isEmpty = false := by
  rw [Bool.eq_false_iff]
  intro he
  rw [beginsWith, stripped_of_isEmpty he, List.isPrefixOf_iff_prefix] at h
  exact hne (List.prefix_nil.mp h)

theorem beginsWith_of_trimStart {l : Line} {c : Char} {cs : List Char}
    (h : trimStart l.toList = c :: cs) : l.beginsWith [c] = true := by
  rw [beginsWith, stripped, trim, h, trimEnd_cons (isBlank_of_trimStart h)]
  simp

def setsKey (l : Line) (keys : List String) : Bool :=
  keys.any fun key => l.beginsWith (key.toList ++ [':'])

theorem isEmpty_of_setsKey {l : Line} {keys : List String} (h : l.setsKey keys = true) :
    l.isEmpty = false := by
  obtain ⟨key, _, hk⟩ := List.any_eq_true.mp h
  exact isEmpty_of_beginsWith (by simp) hk

def indent (l : Line) : Nat := (l.toList.takeWhile isBlank).length

/-- Nesting depth in a list: two columns to a level. -/
def depth (l : Line) : Nat := l.indent / 2

def isIndented (l : Line) : Bool := (l.toList.head?.map isBlank).getD false

end Line

/-! ### Headings -/

/-- The level of a heading and the text behind its signs, of at least two characters the first of
which is a blank. -/
def heading? (l : Line) : Option (Nat × List Char) :=
  let level := (l.toList.takeWhile (· == '#')).length
  match l.toList.drop level with
  | b :: c :: rest =>
    if 1 ≤ level && level ≤ 6 && isBlank b then some (level, trim (c :: rest)) else none
  | _ => none

/-- A heading is not indented. -/
theorem trimStart_of_heading {l : Line} (h : (heading? l).isSome = true) :
    ∃ cs, trimStart l.toList = '#' :: cs := by
  cases hl : l.toList with
  | nil =>
    rw [heading?, hl] at h
    cases h
  | cons c cs =>
    by_cases hc : c = '#'
    · subst hc
      exact ⟨cs, List.dropWhile_cons_of_neg (by decide)⟩
    · rw [heading?, hl, List.takeWhile_cons_of_neg (by simpa using hc)] at h
      simp at h
      split at h <;> simp at h

/-! ### List items -/

inductive ListKind where
  | unordered
  | ordered
deriving DecidableEq, Repr

def afterBlanks? : List Char → Option (List Char)
  | b :: cs => if isBlank b then some (trimStart cs) else none
  | [] => none

def ListKind.itemText? (kind : ListKind) (l : Line) : Option (List Char) :=
  let cs := trimStart l.toList
  match kind with
  | .unordered =>
    match cs with
    | m :: rest => if m == '-' || m == '*' || m == '+' then afterBlanks? rest else none
    | [] => none
  | .ordered =>
    match cs.takeWhile isDigit, cs.dropWhile isDigit with
    | _ :: _, '.' :: rest => afterBlanks? rest
    | _, _ => none

def ListKind.isItem (kind : ListKind) (l : Line) : Bool := (kind.itemText? l).isSome

/-- An item begins with a sign or a digit. -/
theorem ListKind.trimStart_of_itemText {kind : ListKind} {l : Line}
    (h : (kind.itemText? l).isSome = true) :
    ∃ c cs, trimStart l.toList = c :: cs ∧ (c ∈ ['-', '*', '+'] ∨ isDigit c = true) := by
  simp only [itemText?] at h
  cases hl : trimStart l.toList with
  | nil =>
    rw [hl] at h
    cases kind <;> cases h
  | cons c cs =>
    refine ⟨c, cs, rfl, ?_⟩
    rw [hl] at h
    cases kind with
    | unordered =>
      dsimp only at h
      split at h
      · next hc => exact .inl (by simpa [or_assoc] using hc)
      · cases h
    | ordered =>
      by_cases hc : isDigit c = true
      · exact .inr hc
      · rw [List.takeWhile_cons_of_neg hc] at h
        cases h

def ListKind.opens (kind : ListKind) (l : Line) : Bool :=
  match kind.itemText? l with
  | some text => !text.isEmpty
  | none => false

namespace Line

def itemText? (l : Line) : Option (List Char) :=
  match ListKind.unordered.itemText? l with
  | some text => some text
  | none => ListKind.ordered.itemText? l

def isItem (l : Line) : Bool := l.itemText?.isSome

theorem isItem_iff {l : Line} : l.isItem = true ↔ ∃ kind : ListKind, kind.isItem l = true := by
  rw [isItem, itemText?]
  constructor
  · intro h
    cases hu : ListKind.unordered.itemText? l with
    | some text => exact ⟨.unordered, by rw [ListKind.isItem, hu]; rfl⟩
    | none =>
      rw [hu] at h
      exact ⟨.ordered, h⟩
  · rintro ⟨kind, h⟩
    cases hu : ListKind.unordered.itemText? l with
    | some text => rfl
    | none =>
      cases kind with
      | unordered =>
        rw [ListKind.isItem, hu] at h
        cases h
      | ordered => exact h

theorem isItem_of_opens {kind : ListKind} {l : Line} (h : kind.opens l = true) :
    l.isItem = true := by
  refine isItem_iff.mpr ⟨kind, ?_⟩
  rw [ListKind.isItem]
  rw [ListKind.opens] at h
  cases ht : kind.itemText? l with
  | some text => rfl
  | none =>
    rw [ht] at h
    cases h

def withoutMarker (l : Line) : List Char := l.itemText?.getD l.toList

/-! ### Quotes and tables -/

end Line

/-- Counts the quote markers at the start of a text, blanks between them allowed, and gives what
follows them and their blanks. -/
def quoteMarkers : List Char → Nat × List Char
  | [] => (0, [])
  | c :: cs =>
    if c == '>' then
      let (n, rest) := quoteMarkers cs
      (n + 1, rest)
    else if isBlank c then quoteMarkers cs
    else (0, c :: cs)

namespace Line

def quoteDepth (l : Line) : Nat :=
  (quoteMarkers l.toList).1

def withoutQuoteMarkers (l : Line) : List Char :=
  let (n, rest) := quoteMarkers l.toList
  if n == 0 then l.toList else rest

/-- A row that sets the header of a table apart: bars, hyphens, colons and spaces only. -/
def isTableSeparator (l : Line) : Bool :=
  l.beginsWith ['|'] && l.stripped.contains '-' &&
    l.stripped.all fun c => c == '|' || c == '-' || c == ':' || c == ' ' || c == '\t'

def cells (l : Line) : List (List Char) :=
  ((l.toList.splitOn '|').map trim).filter (!·.isEmpty)

/-! ### Single-line constructs -/

def fenceLanguage (l : Line) : List Char :=
  let behind := trimStart ((trimStart l.toList).drop 3)
  behind.takeWhile fun c => isWord c || c == '+' || c == '#' || c == '.' || c == '-'

def isFence (l : Line) : Bool := l.beginsWith "```".toList

def closesFence (l : Line) : Bool := l.stripped == "```".toList

end Line

/-- The label and the target of a link at the start of a text, the target up to the first closing
bracket, and what follows. -/
def bracketPair? : List Char → Option (List Char × List Char × List Char)
  | '[' :: cs =>
    match cs.dropWhile (· != ']') with
    | ']' :: '(' :: rest =>
      match rest.dropWhile (· != ')') with
      | ')' :: tail => some (cs.takeWhile (· != ']'), rest.takeWhile (· != ')'), tail)
      | _ => none
    | _ => none
  | _ => none

def image? : List Char → Option (List Char × List Char)
  | [] => none
  | c :: cs =>
    let here :=
      if c == '!' then
        match bracketPair? cs with
        | some (label, target, _) => if target.isEmpty then none else some (label, target)
        | none => none
      else none
    match here with
    | some found => some found
    | none => image? cs

/-- The components that reveal content click by click, the longer name first. -/
def componentNames : List String := ["v-clicks", "v-click"]

def componentOpening? (cs : List Char) : Option String :=
  componentNames.find? fun name =>
    match after? ('<' :: name.toList) cs with
    | some ('>' :: _) => true
    | some (b :: rest) => isBlank b && rest.contains '>'
    | _ => false

def componentClosing? (cs : List Char) : Option String :=
  componentNames.find? fun name =>
    ("</".toList ++ name.toList ++ ['>']).isPrefixOf cs

def firstOfTails {α : Type} (find : List Char → Option α) : List Char → Option α
  | [] => none
  | c :: cs =>
    match find (c :: cs) with
    | some a => some a
    | none => firstOfTails find cs

/-- Where nothing is found at the ends that begin in a part of a text, what follows it decides. -/
theorem firstOfTails_append {α : Type} {find : List Char → Option α} {front : List Char}
    (rest : List Char) (h : ∀ c ∈ front, ∀ cs, find (c :: cs) = none) :
    firstOfTails find (front ++ rest) = firstOfTails find rest := by
  induction front with
  | nil => rfl
  | cons c front ih =>
    rw [List.cons_append, firstOfTails, h c List.mem_cons_self]
    exact ih fun d hd => h d (.tail c hd)

namespace Line

/-- A component tag in the line: its name and whether it closes. Opening tags come first. -/
def component? (l : Line) : Option (String × Bool) :=
  match firstOfTails componentOpening? l.toList with
  | some name => some (name, false)
  | none => (firstOfTails componentClosing? l.toList).map (·, true)

/-- The slot that the following content goes to: a word between pairs of colons. -/
def slot? (l : Line) : Option String :=
  match after? [':', ':'] l.stripped with
  | none => none
  | some cs =>
    let name := cs.takeWhile isWord
    if !name.isEmpty && cs.dropWhile isWord == [':', ':'] then some (String.ofList name)
    else none

theorem beginsWith_of_slot {l : Line} (h : l.slot?.isSome = true) :
    l.beginsWith [':', ':'] = true := by
  rw [beginsWith]
  by_cases hb : [':', ':'].isPrefixOf l.stripped = true
  · exact hb
  · rw [slot?, after?, if_neg hb] at h
    cases h

def commentOpening : List Char := "<!--".toList

def commentClosing : List Char := "-->".toList

def closesOwnComment (l : Line) : Bool :=
  match firstOfTails (after? commentOpening) l.toList with
  | some rest => occursIn commentClosing rest
  | none => false

/-- Nothing in front of what opens the comment opens one. -/
theorem firstOfTails_commentOpening {l : Line} {blanks behind : List Char}
    (hl : l.toList = blanks ++ (commentOpening ++ behind))
    (hblanks : ∀ c ∈ blanks, isBlank c = true) :
    firstOfTails (after? commentOpening) l.toList = some behind := by
  have hnone : ∀ c ∈ blanks, ∀ cs, after? commentOpening (c :: cs) = none := by
    intro c hc cs
    have hsign : c ≠ '<' := by
      rintro rfl
      exact absurd (hblanks _ hc) (by decide)
    exact if_neg fun h => hsign (List.cons_prefix_cons.mp (List.isPrefixOf_iff_prefix.mp h)).1.symm
  rw [hl, firstOfTails_append _ hnone]
  rfl

/-- What closes the comment stands behind what opens it. -/
theorem closesOwnComment_iff {l : Line} {blanks behind : List Char}
    (hl : l.toList = blanks ++ (commentOpening ++ behind))
    (hblanks : ∀ c ∈ blanks, isBlank c = true) :
    l.closesOwnComment = true ↔ commentClosing <:+: behind := by
  rw [closesOwnComment, firstOfTails_commentOpening hl hblanks]
  exact occursIn_iff _ _

def closesComment (l : Line) : Bool := occursIn commentClosing l.toList

def breaksParagraph (l : Line) : Bool :=
  l.isEmpty || l.isItem ||
    ["#", "```", ">", "|", "<", "::"].any fun opening => l.beginsWith opening.toList

end Line

end SlideOverflow.Deck
