import SlideOverflow.Deck.PlainText

/-! Markup, and the passes that drop it. A pass leaves a text as it is if and only if the text holds
no markup of the kind of the pass; otherwise the text becomes shorter. -/
namespace SlideOverflow.Deck

open Text

/-! ### Markup -/

inductive IsLink : List Char → Prop where
  | mk {label target : List Char} : ']' ∉ label → ')' ∉ target →
      IsLink ('[' :: (label ++ ']' :: '(' :: (target ++ [')'])))

inductive IsTag : List Char → Prop where
  | mk {inside : List Char} : inside ≠ [] → '>' ∉ inside → IsTag ('<' :: (inside ++ ['>']))

def emphasisSigns : List Char := ['*', '_', '\x60']

/-- A sign of emphasis. Strokes take a pair of tildes, all other signs are single. -/
inductive IsEmphasis : List Char → Prop where
  | stroke : IsEmphasis ['~', '~']
  | sign {c : Char} : c ∈ emphasisSigns → IsEmphasis [c]

def IsMarkup (piece : List Char) : Prop := IsLink piece ∨ IsTag piece ∨ IsEmphasis piece

/-! ### Dropping links and tags -/

def replaceFound (find : List Char → Option (List Char × Nat)) : Nat → List Char → List Char
  | _, [] => []
  | skip + 1, _ :: cs => replaceFound find skip cs
  | 0, c :: cs =>
    match find (c :: cs) with
    | some (label, size) => label ++ replaceFound find (size - 1) cs
    | none => c :: replaceFound find 0 cs

theorem dropLinks_eq (skip : Nat) (cs : List Char) :
    dropLinks skip cs = replaceFound linkAt? skip cs := by
  induction cs generalizing skip with
  | nil => rfl
  | cons c cs ih =>
    cases skip with
    | succ skip => exact ih skip
    | zero =>
      rw [dropLinks, replaceFound]
      cases linkAt? (c :: cs) with
      | none => exact congrArg (c :: ·) (ih 0)
      | some found => exact congrArg (found.1 ++ ·) (ih _)

theorem dropTags_eq (skip : Nat) (cs : List Char) :
    dropTags skip cs = replaceFound (fun cs => (tagAt? cs).map ([], ·)) skip cs := by
  induction cs generalizing skip with
  | nil => rfl
  | cons c cs ih =>
    cases skip with
    | succ skip => exact ih skip
    | zero =>
      rw [dropTags, replaceFound]
      cases tagAt? (c :: cs) with
      | none => exact congrArg (c :: ·) (ih 0)
      | some size => exact ih _

/-- What it means that the pieces of a kind are found and that fewer characters of them are left. -/
structure Finds (find : List Char → Option (List Char × Nat)) (IsPiece : List Char → Prop) :
    Prop where
  ne_nil {piece : List Char} : IsPiece piece → piece ≠ []
  found {cs label : List Char} {size : Nat} : find cs = some (label, size) →
    ∃ whole rest, cs = whole ++ rest ∧ whole.length = size ∧ label.Sublist whole ∧
      label.length < size ∧ ∃ piece, IsPiece piece ∧ piece <:+: whole
  finds {piece cs : List Char} : IsPiece piece → piece <+: cs → find cs ≠ none

namespace Finds

variable {find : List Char → Option (List Char × Nat)} {IsPiece : List Char → Prop}

theorem sublist (h : Finds find IsPiece) (skip : Nat) (cs : List Char) :
    (replaceFound find skip cs).Sublist (cs.drop skip) := by
  induction cs generalizing skip with
  | nil => simp [replaceFound]
  | cons c cs ih =>
    cases skip with
    | succ skip => exact ih skip
    | zero =>
      rw [replaceFound, List.drop_zero]
      cases hfind : find (c :: cs) with
      | none => exact (ih 0).cons_cons c
      | some found =>
        obtain ⟨label, size⟩ := found
        obtain ⟨whole, rest, hcs, hsize, hlabel, hlt, _⟩ := h.found hfind
        have hrest : cs.drop (size - 1) = rest := by
          have hdrop : (c :: cs).drop size = rest := by rw [hcs, ← hsize, List.drop_left]
          rwa [show size = size - 1 + 1 by omega, List.drop_succ_cons] at hdrop
        rw [hcs]
        exact hlabel.append (hrest ▸ ih (size - 1))

/-- Whatever is found makes a text shorter. -/
private theorem length_lt (h : Finds find IsPiece) {c : Char} {cs label : List Char} {size : Nat}
    (hfind : find (c :: cs) = some (label, size)) :
    (replaceFound find 0 (c :: cs)).length < (c :: cs).length := by
  obtain ⟨whole, rest, hcs, hsize, _, hlt, _⟩ := h.found hfind
  have hlength := congrArg List.length hcs
  have hrest := (h.sublist (size - 1) cs).length_le
  rw [List.length_append, List.length_cons] at hlength
  rw [List.length_drop] at hrest
  rw [replaceFound, hfind, List.length_append, List.length_cons]
  omega

/-- Texts without a piece of the kind, and no others, stay as they are. -/
theorem eq_self_iff (h : Finds find IsPiece) (cs : List Char) :
    replaceFound find 0 cs = cs ↔ ∀ piece, piece <:+: cs → ¬IsPiece piece := by
  induction cs with
  | nil =>
    refine iff_of_true rfl fun piece hpiece hkind => h.ne_nil hkind (List.infix_nil.mp hpiece)
  | cons c cs ih =>
    cases hfind : find (c :: cs) with
    | some found =>
      have hshorter := h.length_lt hfind
      obtain ⟨whole, rest, hcs, _, _, _, piece, hkind, hpiece⟩ := h.found hfind
      refine iff_of_false (fun heq => ?_) fun hnone => ?_
      · rw [heq] at hshorter
        exact Nat.lt_irrefl _ hshorter
      · exact hnone piece (hpiece.trans (hcs ▸ (List.prefix_append whole rest).isInfix)) hkind
    | none =>
      rw [replaceFound, hfind, List.cons_inj_right, ih]
      constructor
      · intro hnone piece hpiece hkind
        rcases List.infix_cons_iff.mp hpiece with hprefix | hinfix
        · exact h.finds hkind hprefix hfind
        · exact hnone piece hinfix hkind
      · intro hnone piece hpiece
        exact hnone piece (hpiece.trans (List.infix_cons (List.infix_refl cs)))

end Finds

/-- The part of a text in front of the first of a character, and the character with what follows. -/
private theorem span_eq_iff {x : Char} {cs front rest : List Char} :
    cs.takeWhile (· != x) = front ∧ cs.dropWhile (· != x) = x :: rest ↔
      x ∉ front ∧ cs = front ++ x :: rest := by
  constructor
  · rintro ⟨rfl, hdrop⟩
    refine ⟨fun hx => ?_, ?_⟩
    · simpa using List.all_eq_true.mp (List.all_takeWhile (p := (· != x))) x hx
    · rw [← hdrop, List.takeWhile_append_dropWhile]
  · rintro ⟨hx, rfl⟩
    have hfront : ∀ c ∈ front, (c != x) = true := fun c hc => by
      simpa using fun heq : c = x => hx (heq ▸ hc)
    rw [List.takeWhile_append_of_pos hfront, List.dropWhile_append_of_pos hfront]
    simp

private theorem bracketPair?_eq_some_iff {cs label target rest : List Char} :
    bracketPair? cs = some (label, target, rest) ↔ ']' ∉ label ∧ ')' ∉ target ∧
      cs = '[' :: (label ++ ']' :: '(' :: (target ++ ')' :: rest)) := by
  constructor
  · intro h
    unfold bracketPair? at h
    split at h
    · next cs =>
      split at h
      · next behind hlabel =>
        split at h
        · next tail htarget =>
          cases h
          obtain ⟨hclean, hcs⟩ := span_eq_iff.mp ⟨rfl, hlabel⟩
          obtain ⟨hclean', hbehind⟩ := span_eq_iff.mp ⟨rfl, htarget⟩
          exact ⟨hclean, hclean', by rw [← hbehind, ← hcs]⟩
        · cases h
      · cases h
    · cases h
  · rintro ⟨hlabel, htarget, rfl⟩
    obtain ⟨htake, hdrop⟩ := span_eq_iff.mpr
      ⟨hlabel, @rfl _ (label ++ ']' :: '(' :: (target ++ ')' :: rest))⟩
    obtain ⟨htake', hdrop'⟩ := span_eq_iff.mpr ⟨htarget, @rfl _ (target ++ ')' :: rest)⟩
    simp only [bracketPair?, hdrop, hdrop', htake, htake']

/-- The sign of an image belongs to what is found. -/
private theorem linkAt?_eq (cs : List Char) : ∃ sign body : List Char, cs = sign ++ body ∧
    linkAt? cs = (bracketPair? body).map fun found =>
      (found.1, sign.length + found.1.length + found.2.1.length + 4) := by
  cases cs with
  | nil => exact ⟨[], [], rfl, rfl⟩
  | cons c cs =>
    by_cases hc : c = '!'
    · subst hc
      exact ⟨['!'], cs, rfl, rfl⟩
    · refine ⟨[], c :: cs, rfl, ?_⟩
      rw [linkAt?]
      · rfl
      · rintro rest ⟨rfl, _⟩
        exact hc rfl

theorem links_found : Finds linkAt? IsLink where
  ne_nil := by
    rintro _ ⟨_, _⟩
    exact List.cons_ne_nil _ _
  found := by
    intro cs label size h
    obtain ⟨sign, body, hcs, heq⟩ := linkAt?_eq cs
    rw [heq] at h
    obtain ⟨⟨label', target, rest⟩, hpair, hfound⟩ := Option.map_eq_some_iff.mp h
    obtain ⟨rfl, rfl⟩ := Prod.mk.inj hfound
    obtain ⟨hlabel, htarget, rfl⟩ := bracketPair?_eq_some_iff.mp hpair
    refine ⟨sign ++ '[' :: (label' ++ ']' :: '(' :: (target ++ [')'])), rest, ?_, ?_, ?_, ?_, _,
      IsLink.mk hlabel htarget, (List.suffix_append sign _).isInfix⟩
    · rw [hcs]
      simp
    · simp only [List.length_append, List.length_cons, List.length_nil]
      omega
    · exact ((List.sublist_append_left label' _).cons '[').trans (List.sublist_append_right sign _)
    · dsimp only
      omega
  finds := by
    rintro _ cs ⟨hlabel, htarget⟩ ⟨rest, rfl⟩ hnone
    next label target =>
    have hpair := bracketPair?_eq_some_iff.mpr
      ⟨hlabel, htarget, @rfl _ ('[' :: (label ++ ']' :: '(' :: (target ++ ')' :: rest)))⟩
    have hcs : '[' :: (label ++ ']' :: '(' :: (target ++ [')'])) ++ rest =
        '[' :: (label ++ ']' :: '(' :: (target ++ ')' :: rest)) := by simp
    rw [hcs] at hnone
    have hmap : linkAt? ('[' :: (label ++ ']' :: '(' :: (target ++ ')' :: rest))) =
      (bracketPair? ('[' :: (label ++ ']' :: '(' :: (target ++ ')' :: rest)))).map fun found =>
        (found.1, 0 + found.1.length + found.2.1.length + 4) := rfl
    rw [hmap, hpair] at hnone
    cases hnone

theorem tagAt?_eq_some_iff {cs : List Char} {size : Nat} :
    tagAt? cs = some size ↔ ∃ inside rest, inside ≠ [] ∧ '>' ∉ inside ∧
      cs = '<' :: (inside ++ '>' :: rest) ∧ size = inside.length + 2 := by
  constructor
  · intro h
    unfold tagAt? at h
    split at h
    · next cs =>
      dsimp only at h
      split at h
      · next hinside =>
        cases h
        rw [Bool.and_eq_true, decide_eq_true_eq, decide_eq_true_eq] at hinside
        have hwhole := @List.takeWhile_append_dropWhile _ (· != '>') cs
        cases hdrop : cs.dropWhile (· != '>') with
        | nil =>
          rw [hdrop, List.append_nil] at hwhole
          rw [hwhole] at hinside
          omega
        | cons x rest =>
          have hx := List.head?_dropWhile_not (· != '>') cs
          obtain rfl : x = '>' := by simpa [hdrop] using hx
          obtain ⟨hclean, hcs⟩ := span_eq_iff.mp ⟨rfl, hdrop⟩
          exact ⟨_, rest, List.length_pos_iff.mp hinside.1, hclean, congrArg _ hcs, rfl⟩
      · cases h
    · cases h
  · rintro ⟨inside, rest, hne, hclean, rfl, rfl⟩
    have htake := (span_eq_iff.mpr ⟨hclean, @rfl _ (inside ++ '>' :: rest)⟩).1
    have hpos := List.length_pos_iff.mpr hne
    simp only [tagAt?, htake]
    rw [if_pos]
    simpa using hpos

theorem tags_found : Finds (fun cs => (tagAt? cs).map ([], ·)) IsTag where
  ne_nil := by
    rintro _ ⟨_, _⟩
    exact List.cons_ne_nil _ _
  found := by
    intro cs label size h
    obtain ⟨size, htag, heq⟩ := Option.map_eq_some_iff.mp h
    cases heq
    obtain ⟨inside, rest, hne, hclean, rfl, rfl⟩ := tagAt?_eq_some_iff.mp htag
    refine ⟨'<' :: (inside ++ ['>']), rest, by simp, by simp, List.nil_sublist _, ?_, _,
      IsTag.mk hne hclean, List.infix_refl _⟩
    rw [List.length_nil]
    omega
  finds := by
    rintro _ cs ⟨hne, hclean⟩ ⟨rest, rfl⟩ hnone
    next inside =>
    have htag := tagAt?_eq_some_iff.mpr ⟨inside, rest, hne, hclean, rfl, rfl⟩
    have hcs : '<' :: (inside ++ ['>']) ++ rest = '<' :: (inside ++ '>' :: rest) := by simp
    rw [hcs, htag] at hnone
    cases hnone

/-! ### Dropping emphasis -/

/-- Outside a stroke, each character is judged on its own. -/
theorem dropEmphasis_cons {c : Char} {cs : List Char}
    (h : ∀ rest, c = '~' → cs = '~' :: rest → False) :
    dropEmphasis (c :: cs) =
      if c ∈ emphasisSigns then dropEmphasis cs else c :: dropEmphasis cs := by
  rw [dropEmphasis.eq_2 c cs h]
  simp [emphasisSigns, or_assoc]

/-- A text without signs of emphasis may begin with one tilde. -/
@[elab_as_elim]
theorem emphasis_induction {motive : List Char → Prop} (cs : List Char)
    (nil : motive []) (stroke : ∀ cs, motive cs → motive ('~' :: '~' :: cs))
    (cons : ∀ c cs, (∀ rest, c = '~' → cs = '~' :: rest → False) → motive cs →
      motive (c :: cs)) : motive cs := by
  induction cs using dropEmphasis.induct with
  | case1 cs ih => exact stroke cs ih
  | case2 c cs h _ ih => exact cons c cs h ih
  | case3 c cs h _ ih => exact cons c cs h ih
  | case4 => exact nil

theorem dropEmphasis_sublist (cs : List Char) : (dropEmphasis cs).Sublist cs := by
  induction cs using emphasis_induction with
  | nil => exact List.Sublist.refl []
  | stroke cs ih => exact (ih.cons '~').cons '~'
  | cons c cs h ih =>
    rw [dropEmphasis_cons h]
    split
    · exact ih.cons c
    · exact ih.cons_cons c

/-- No single sign is left. -/
theorem not_mem_dropEmphasis {sign : Char} (hsign : sign ∈ emphasisSigns) (cs : List Char) :
    sign ∉ dropEmphasis cs := by
  induction cs using emphasis_induction with
  | nil => exact List.not_mem_nil
  | stroke cs ih => exact ih
  | cons c cs h ih =>
    rw [dropEmphasis_cons h]
    split
    · exact ih
    · next hc =>
      rw [List.mem_cons, not_or]
      exact ⟨fun heq => hc (heq ▸ hsign), ih⟩

theorem dropEmphasis_eq_self_iff (cs : List Char) :
    dropEmphasis cs = cs ↔ ∀ piece, piece <:+: cs → ¬IsEmphasis piece := by
  -- A text from which something is dropped is longer than what is left of it.
  have hshorter {dropped : List Char} (cs : List Char) (hne : dropped ≠ []) :
      dropEmphasis cs ≠ dropped ++ cs := by
    intro heq
    have hlength := (dropEmphasis_sublist cs).length_le
    have hpos := List.length_pos_iff.mpr hne
    rw [heq, List.length_append] at hlength
    omega
  induction cs using emphasis_induction with
  | nil =>
    refine iff_of_true rfl fun piece hpiece hkind => ?_
    rw [List.infix_nil.mp hpiece] at hkind
    cases hkind
  | stroke cs _ =>
    refine iff_of_false (hshorter cs (List.cons_ne_nil '~' ['~'])) fun hnone => ?_
    exact hnone ['~', '~'] (List.prefix_append ['~', '~'] cs).isInfix .stroke
  | cons c cs h ih =>
    rw [dropEmphasis_cons h]
    split
    · next hc =>
      refine iff_of_false (hshorter cs (List.cons_ne_nil c [])) fun hnone => ?_
      exact hnone [c] (List.prefix_append [c] cs).isInfix (.sign hc)
    · next hc =>
      refine (List.cons_inj_right c).trans (Iff.trans ih ?_)
      constructor
      · intro hnone piece hpiece hkind
        rcases List.infix_cons_iff.mp hpiece with hprefix | hinfix
        · cases hkind with
          | stroke =>
            obtain ⟨heq, rest, hrest⟩ := List.cons_prefix_cons.mp hprefix
            exact h rest heq.symm hrest.symm
          | sign hmem => exact hc ((List.cons_prefix_cons.mp hprefix).1 ▸ hmem)
        · exact hnone piece hinfix hkind
      · exact fun hnone piece hpiece =>
          hnone piece (hpiece.trans (List.infix_cons (List.infix_refl cs)))

end SlideOverflow.Deck
