import SlideOverflow.Deck.Locate
import SlideOverflow.Proofs.Deck.Markup
import SlideOverflow.Proofs.Deck.Spacing

/-! Text that is made plain twice. Each kind of markup is dropped in a pass of its own, and nothing
is looked at again, so what is left over may come together to new markup: a link around an image
leaves the address of the link behind the label of the image. No tag comes about in this way, but
links and strokes do, and a plain text stays as it is if and only if it holds none of them. -/
namespace SlideOverflow.Deck

open Text

/-! ### Tags -/

/-- In a text without tags, what closes one stands right behind what opens one, or not at all. -/
private def TagFree (cs : List Char) : Prop :=
  ∀ rest, '<' :: rest <:+ cs → '>' ∈ rest → rest.head? = some '>'

private theorem TagFree.not_isTag {cs piece : List Char} (h : TagFree cs) (hpiece : piece <:+: cs) :
    ¬IsTag piece := by
  rintro ⟨hne, hinside⟩
  next inside =>
  obtain ⟨front, behind, rfl⟩ := hpiece
  have hsuffix : '<' :: (inside ++ '>' :: behind) <:+
      front ++ '<' :: (inside ++ ['>']) ++ behind := ⟨front, by simp⟩
  have hhead := h _ hsuffix (by simp)
  rw [List.head?_append_of_ne_nil _ hne] at hhead
  exact hinside (List.mem_of_mem_head? hhead)

/-- Where no tag is found behind what opens one, none follows. -/
private theorem head?_of_tagAt? {cs : List Char} (h : tagAt? ('<' :: cs) = none) (hmem : '>' ∈ cs) :
    ∃ rest, cs = '>' :: rest := by
  obtain ⟨inside, rest, rfl, hinside⟩ := List.eq_append_cons_of_mem hmem
  cases inside with
  | nil => exact ⟨rest, rfl⟩
  | cons c inside =>
    have htag := tagAt?_eq_some_iff.mpr ⟨_, rest, List.cons_ne_nil c inside, hinside, rfl, rfl⟩
    rw [h] at htag
    cases htag

private theorem dropTags_tagFree (skip : Nat) (cs : List Char) : TagFree (dropTags skip cs) := by
  induction cs generalizing skip with
  | nil => exact fun rest hrest => absurd (List.suffix_nil.mp hrest) (List.cons_ne_nil _ _)
  | cons c cs ih =>
    cases skip with
    | succ skip => exact ih skip
    | zero =>
      rw [dropTags]
      cases htag : tagAt? (c :: cs) with
      | some size => exact ih (size - 1)
      | none =>
        intro rest hrest hmem
        rcases List.suffix_cons_iff.mp hrest with heq | hrest
        · obtain ⟨rfl, rfl⟩ := List.cons.inj heq
          have hsub : (dropTags 0 cs).Sublist cs := dropTags_eq 0 cs ▸ tags_found.sublist 0 cs
          obtain ⟨behind, rfl⟩ := head?_of_tagAt? htag (hsub.subset hmem)
          rfl
        · exact ih 0 rest hrest hmem

/-- A text from which characters are dropped and in which blanks become spaces. What closes a tag is
kept. -/
inductive Thinned : List Char → List Char → Prop where
  | nil : Thinned [] []
  | keep {c : Char} {cs ds : List Char} : Thinned cs ds → Thinned (c :: cs) (c :: ds)
  | drop {c : Char} {cs ds : List Char} : c ≠ '>' → Thinned cs ds → Thinned (c :: cs) ds
  | space {c : Char} {cs ds : List Char} : isBlank c = true → Thinned cs ds →
      Thinned (c :: cs) (' ' :: ds)

namespace Thinned

variable {cs ds rest : List Char}

private theorem mem (h : Thinned cs ds) (hmem : '>' ∈ ds) : '>' ∈ cs := by
  induction h with
  | nil => exact hmem
  | keep _ ih => exact List.mem_cons.mpr ((List.mem_cons.mp hmem).imp_right ih)
  | drop _ _ ih => exact .tail _ (ih hmem)
  | space _ _ ih => exact .tail _ (ih ((List.mem_cons.mp hmem).resolve_left (by decide)))

private theorem head (h : Thinned cs ds) (hhead : cs.head? = some '>') : ds.head? = some '>' := by
  cases h with
  | nil => cases hhead
  | keep _ => exact hhead
  | drop hc _ => exact absurd (Option.some.inj hhead) hc
  | space hc _ =>
    cases hhead
    exact absurd hc (by decide)

/-- What is left behind an opening sign is left of what stands behind it in the whole text. -/
private theorem exists_suffix (h : Thinned cs ds) (hrest : '<' :: rest <:+ ds) :
    ∃ behind, '<' :: behind <:+ cs ∧ Thinned behind rest := by
  induction h with
  | nil => exact absurd (List.suffix_nil.mp hrest) (List.cons_ne_nil _ _)
  | @keep c cs ds h ih =>
    rcases List.suffix_cons_iff.mp hrest with heq | hrest
    · obtain ⟨rfl, rfl⟩ := List.cons.inj heq
      exact ⟨cs, List.suffix_rfl, h⟩
    · exact (ih hrest).imp fun _ hbehind => hbehind.imp_left (·.trans (List.suffix_cons c cs))
  | @drop c cs _ _ _ ih =>
    exact (ih hrest).imp fun _ hbehind => hbehind.imp_left (·.trans (List.suffix_cons c cs))
  | @space c cs _ _ _ ih =>
    have hrest := (List.suffix_cons_iff.mp hrest).resolve_left
      fun heq => absurd (List.cons.inj heq).1 (by decide)
    exact (ih hrest).imp fun _ hbehind => hbehind.imp_left (·.trans (List.suffix_cons c cs))

private theorem tagFree (h : Thinned cs ds) (hfree : TagFree cs) : TagFree ds := by
  intro rest hrest hmem
  obtain ⟨behind, hbehind, hthinned⟩ := h.exists_suffix hrest
  exact hthinned.head (hfree behind hbehind (hthinned.mem hmem))

end Thinned

private theorem dropEmphasis_thinned (cs : List Char) : Thinned cs (dropEmphasis cs) := by
  induction cs using emphasis_induction with
  | nil => exact .nil
  | stroke cs ih => exact .drop (by decide) (.drop (by decide) ih)
  | cons c cs h ih =>
    rw [dropEmphasis_cons h]
    split
    · next hc =>
      refine .drop ?_ ih
      rintro rfl
      exact absurd hc (by decide)
    · exact .keep ih

private theorem intercalate_cons_eq_flatMap (w : List Char) (ws : List (List Char)) :
    [' '].intercalate (w :: ws) = w ++ ws.flatMap (' ' :: ·) := by
  induction ws generalizing w with
  | nil => rw [List.intercalate_singleton, List.flatMap_nil, List.append_nil]
  | cons v ws ih =>
    rw [List.intercalate_cons_cons, ih v, List.flatMap_cons, List.append_assoc]
    rfl

/-- A text becomes thinner when its words are joined by spaces. So it does when the first piece is
kept even if it is empty, which is how the text reads on behind another character. -/
private theorem pieces_thinned (cs : List Char) :
    ∃ piece pieces, cs.splitOnP isBlank = piece :: pieces ∧
      Thinned cs ([' '].intercalate ((piece :: pieces).filter (!·.isEmpty))) ∧
      Thinned cs (piece ++ (pieces.filter (!·.isEmpty)).flatMap (' ' :: ·)) := by
  induction cs with
  | nil => exact ⟨[], [], rfl, .nil, .nil⟩
  | cons c cs ih =>
    obtain ⟨piece, pieces, hsplit, hjoined, hbehind⟩ := ih
    rw [List.splitOnP_cons_eq_if_modifyHead, hsplit]
    cases hc : isBlank c with
    | true =>
      have hne : c ≠ '>' := by
        rintro rfl
        exact absurd hc (by decide)
      refine ⟨[], piece :: pieces, rfl, .drop hne hjoined, ?_⟩
      rw [List.nil_append]
      cases hws : (piece :: pieces).filter (!·.isEmpty) with
      | nil =>
        rw [hws] at hjoined
        exact .drop hne hjoined
      | cons w ws =>
        rw [hws, intercalate_cons_eq_flatMap] at hjoined
        exact .space hc hjoined
    | false =>
      refine ⟨c :: piece, pieces, rfl, ?_, .keep hbehind⟩
      rw [List.filter_cons_of_pos (by simp), intercalate_cons_eq_flatMap]
      exact .keep hbehind

private theorem singleSpaced_thinned (cs : List Char) : Thinned cs (singleSpaced cs) := by
  obtain ⟨piece, pieces, hsplit, hjoined, _⟩ := pieces_thinned cs
  rwa [singleSpaced, words, hsplit]

/-- No tag is left, and none comes about where something else is dropped. -/
private theorem not_isTag_of_plainText {cs piece : List Char} (h : piece <:+: plainText cs) :
    ¬IsTag piece := by
  refine TagFree.not_isTag ?_ h
  exact (singleSpaced_thinned _).tagFree
    ((dropEmphasis_thinned _).tagFree (dropTags_tagFree 0 (dropLinks 0 cs)))

/-! ### Making text plain again -/

private theorem plainText_eq_self_iff {cs : List Char} (h : singleSpaced cs = cs) :
    plainText cs = cs ↔ ∀ piece, piece <:+: cs → ¬IsMarkup piece := by
  have hlinks := links_found.eq_self_iff cs
  have htags := tags_found.eq_self_iff cs
  rw [← dropLinks_eq] at hlinks
  rw [← dropTags_eq] at htags
  constructor
  · intro hplain
    have hlink : (dropLinks 0 cs).Sublist cs := dropLinks_eq 0 cs ▸ links_found.sublist 0 cs
    have htag : (dropTags 0 (dropLinks 0 cs)).Sublist (dropLinks 0 cs) :=
      dropTags_eq 0 (dropLinks 0 cs) ▸ tags_found.sublist 0 (dropLinks 0 cs)
    have hemphasis := dropEmphasis_sublist (dropTags 0 (dropLinks 0 cs))
    have hspaced := length_singleSpaced_le (dropEmphasis (dropTags 0 (dropLinks 0 cs)))
    rw [← plainText, hplain] at hspaced
    -- No step makes a text longer, so none of them has dropped anything.
    have hlinkLe := hlink.length_le
    have htagLe := htag.length_le
    have hemphasisLe := hemphasis.length_le
    have hlinkEq : dropLinks 0 cs = cs := hlink.eq_of_length_le (by omega)
    rw [hlinkEq] at htag hemphasis hspaced htagLe hemphasisLe
    have htagEq : dropTags 0 cs = cs := htag.eq_of_length_le (by omega)
    rw [htagEq] at hemphasis hspaced
    have hemphasisEq : dropEmphasis cs = cs := hemphasis.eq_of_length_le hspaced
    rintro piece hpiece (hkind | hkind | hkind)
    · exact hlinks.mp hlinkEq piece hpiece hkind
    · exact htags.mp htagEq piece hpiece hkind
    · exact (dropEmphasis_eq_self_iff cs).mp hemphasisEq piece hpiece hkind
  · intro hnone
    have hlink := hlinks.mpr fun piece hpiece hkind => hnone piece hpiece (.inl hkind)
    have htag := htags.mpr fun piece hpiece hkind => hnone piece hpiece (.inr (.inl hkind))
    have hemphasis := (dropEmphasis_eq_self_iff cs).mpr fun piece hpiece hkind =>
      hnone piece hpiece (.inr (.inr hkind))
    rw [plainText, hlink, htag, hemphasis, h]

private theorem plainText_eq_singleSpaced (cs : List Char) :
    plainText cs = singleSpaced (dropEmphasis (dropTags 0 (dropLinks 0 cs))) := rfl

/-- Apart from blanks, a plain text consists of characters of the text, in their order. -/
private theorem filter_plainText_sublist (cs : List Char) :
    ((plainText cs).filter (!isBlank ·)).Sublist cs := by
  rw [plainText_eq_singleSpaced, filter_singleSpaced]
  have hlink : (dropLinks 0 cs).Sublist cs := dropLinks_eq 0 cs ▸ links_found.sublist 0 cs
  have htag : (dropTags 0 (dropLinks 0 cs)).Sublist (dropLinks 0 cs) :=
    dropTags_eq 0 (dropLinks 0 cs) ▸ tags_found.sublist 0 (dropLinks 0 cs)
  exact List.filter_sublist.trans ((dropEmphasis_sublist _).trans (htag.trans hlink))

private theorem not_mem_plainText {sign : Char} (hsign : sign ∈ emphasisSigns) (cs : List Char) :
    sign ∉ plainText cs := by
  intro hmem
  have hblank : emphasisSigns.all (!isBlank ·) = true := by decide
  have hfilled : sign ∈ (plainText cs).filter (!isBlank ·) :=
    List.mem_filter.mpr ⟨hmem, List.all_eq_true.mp hblank sign hsign⟩
  rw [plainText_eq_singleSpaced, filter_singleSpaced] at hfilled
  exact not_mem_dropEmphasis hsign _ (List.mem_filter.mp hfilled).1

/-- Markup that comes about where other markup is dropped: a link or a stroke. -/
def IsLeftover (piece : List Char) : Prop := IsLink piece ∨ piece = ['~', '~']

/-- Of all markup a plain text can only hold links and strokes. -/
private theorem isMarkup_iff_of_plainText {cs piece : List Char} (h : piece <:+: plainText cs) :
    IsMarkup piece ↔ IsLeftover piece := by
  constructor
  · rintro (hlink | htag | hemphasis)
    · exact .inl hlink
    · exact absurd htag (not_isTag_of_plainText h)
    · cases hemphasis with
      | stroke => exact .inr rfl
      | sign hsign =>
        exact absurd (h.subset (List.mem_singleton_self _)) (not_mem_plainText hsign cs)
  · rintro (hlink | rfl)
    · exact .inl hlink
    · exact .inr (.inr .stroke)

def leftoverSigns : List (List Char) := ["[]()".toList, "~~".toList]

/-- What is left over takes signs that stand in the same order in the text itself. -/
private theorem IsLeftover.signs_sublist {piece cs : List Char} (h : IsLeftover piece)
    (hpiece : piece <:+: plainText cs) : ∃ signs ∈ leftoverSigns, signs.Sublist cs := by
  have hsigns : ∃ signs ∈ leftoverSigns, signs.Sublist piece := by
    rcases h with ⟨hlabel, htarget⟩ | rfl
    · next label target =>
      refine ⟨"[]()".toList, by decide, ?_⟩
      have htail : [')'].Sublist (target ++ [')']) := List.sublist_append_right target [')']
      have hclosed := (htail.cons_cons '(').cons_cons ']'
      exact (hclosed.trans (List.sublist_append_right label _)).cons_cons '['
    · exact ⟨"~~".toList, by decide, List.Sublist.refl _⟩
  obtain ⟨signs, hmem, hsub⟩ := hsigns
  have hfilled : ∀ signs ∈ leftoverSigns, signs.filter (!isBlank ·) = signs := by decide
  have hwhole := (hsub.trans hpiece.sublist).filter (!isBlank ·)
  rw [hfilled signs hmem] at hwhole
  exact ⟨signs, hmem, hwhole.trans (filter_plainText_sublist cs)⟩

/-- A plain text stays as it is when it is made plain again if and only if no link and no stroke has
come about in it, as is the case where the text itself lacks their signs. It has single spaces, no
single sign of emphasis and no tag in any case. -/
theorem plainText_stable (cs : List Char) :
    (plainText (plainText cs) = plainText cs ↔
        ∀ piece, piece <:+: plainText cs → ¬IsLeftover piece) ∧
      ((∀ signs ∈ leftoverSigns, ¬signs.Sublist cs) → plainText (plainText cs) = plainText cs) ∧
      IsSingleSpaced (plainText cs) ∧ (∀ sign ∈ emphasisSigns, sign ∉ plainText cs) ∧
      ∀ piece, piece <:+: plainText cs → ¬IsTag piece := by
  have hstable : plainText (plainText cs) = plainText cs ↔
      ∀ piece, piece <:+: plainText cs → ¬IsLeftover piece := by
    refine (plainText_eq_self_iff (singleSpaced_singleSpaced _)).trans ?_
    exact forall₂_congr fun piece hpiece => not_congr (isMarkup_iff_of_plainText hpiece)
  refine ⟨hstable, fun hsigns => hstable.mpr fun piece hpiece hleftover => ?_, isSingleSpaced _,
    fun sign hsign => not_mem_plainText hsign cs, fun piece => not_isTag_of_plainText⟩
  obtain ⟨signs, hmem, hsub⟩ := hleftover.signs_sublist hpiece
  exact hsigns signs hmem hsub

/-- Emphasis, a tag and a reference in brackets. -/
theorem plainText_stable_of_reference :
    let text := "Use  **bold** if a<b>c</b> (see [1])".toList
    (∀ signs ∈ leftoverSigns, ¬signs.Sublist text) ∧
      plainText text = "Use bold if ac (see [1])".toList ∧
      plainText (plainText text) = plainText text := by
  intro text
  have hsigns : ∀ signs ∈ leftoverSigns, ¬signs.Sublist text := by decide +kernel
  exact ⟨hsigns, by decide +kernel, (plainText_stable text).2.1 hsigns⟩

/-- An image within a link, in a list: of the link only the bracket in front is dropped, with the
address of the image. What is left is an image with the address of the link. So the item is not
found by its own plain text. -/
theorem Presentation.read_linked_image :
    let text := "[![CI](a.svg)](b) passing".toList
    plainText text = "![CI](b) passing".toList ∧ plainText (plainText text) = "CI passing".toList ∧
      ∃ p, (Presentation.read {} {} ("- ".toList ++ text)).1 = .ok p ∧
        ∃ s ∈ p.slides, (s.findItem "![CI](b) passing").toOption = some none := by
  decide +kernel

end SlideOverflow.Deck
