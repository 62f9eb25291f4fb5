import SlideOverflow.Proofs.Deck.Reading

/-! Which construct begins in a line. Images and the tags of components are looked for anywhere in a
line, while slots, comments and what ends a paragraph are known by how the line begins. So a line
that goes on with a paragraph, and a line that opens a comment, may still hold an image or a tag,
and then it is that which begins there. -/
namespace SlideOverflow.Deck

open Text

def Line.IsPlain (l : Line) : Prop := image? l.toList = none ∧ l.component? = none

instance (l : Line) : Decidable l.IsPlain := inferInstanceAs (Decidable (_ ∧ _))

section Openings

variable {slide number : Nat} {l : Line} {ls : List Line}

/-- Where no block and no slot is known by how the line begins, a plain line begins a comment or a
paragraph. -/
theorem Construct.ofLine_of_isPlain (h : l.OpensNoBlock) (hslot : l.slot? = none)
    (hplain : l.IsPlain) :
    ofLine l = if l.beginsWith Line.commentOpening then .comment else .paragraph := by
  have hlist := h.list
  simp [ofLine, h.heading, h.fence, hlist, hplain.1, h.table, h.quote, hplain.2, hslot]

/-- Any other line begins an image or a component. -/
theorem Construct.ofLine_of_not_isPlain (h : l.OpensNoBlock) (hmarked : ¬l.IsPlain) :
    (∃ label target, ofLine l = .image label target) ∨
      ∃ name closing, ofLine l = .component name closing := by
  have hlist := h.list
  cases himage : image? l.toList with
  | some found =>
    refine .inl ⟨found.1, found.2, ?_⟩
    simp [ofLine, h.heading, h.fence, hlist, himage]
  | none =>
    cases hcomponent : l.component? with
    | some found =>
      refine .inr ⟨found.1, found.2, ?_⟩
      simp [ofLine, h.heading, h.fence, hlist, himage, h.table, h.quote, hcomponent]
    | none => exact absurd ⟨himage, hcomponent⟩ hmarked

/-- An image or the tag of a component is a node that takes its line alone. -/
theorem readPiece_of_not_isPlain (h : l.OpensNoBlock) (hmarked : ¬l.IsPlain) :
    ∃ form, (readPiece slide number l ls).node = some (lineNode slide number l form none) := by
  rcases Construct.ofLine_of_not_isPlain h hmarked with ⟨label, target, hl⟩ | ⟨name, closing, hl⟩
  · rw [readPiece, hl]
    exact ⟨_, rfl⟩
  · rw [readPiece, hl]
    exact ⟨_, rfl⟩

end Openings

namespace Line

variable {l : Line}

/-- A line that opens a comment opens no block and no slot. -/
theorem opensNoBlock_of_comment (h : l.beginsWith commentOpening = true) :
    l.OpensNoBlock ∧ l.slot? = none := by
  obtain ⟨behind, hl⟩ := prefix_of_beginsWith h
  have hfirst {c : Char} {cs : List Char} (hcs : trimStart l.toList = c :: cs) : c = '<' :=
    (List.cons.inj (hcs.symm.trans hl.symm)).1
  have hother {c : Char} (pattern : List Char) (hc : c ≠ '<') :
      l.beginsWith (c :: pattern) = false := by
    rw [Bool.eq_false_iff]
    intro hb
    obtain ⟨rest, hrest⟩ := prefix_of_beginsWith hb
    exact hc (hfirst hrest.symm)
  refine ⟨⟨?_, hother _ (by decide), fun kind => ?_, hother _ (by decide), hother _ (by decide)⟩,
    ?_⟩
  · rw [← Option.not_isSome_iff_eq_none]
    intro hheading
    obtain ⟨cs, hcs⟩ := trimStart_of_heading hheading
    exact absurd (hfirst hcs) (by decide)
  · rw [Bool.eq_false_iff]
    intro hopens
    obtain ⟨kind, hitem⟩ := isItem_iff.mp (isItem_of_opens hopens)
    obtain ⟨c, cs, hcs, hc⟩ := ListKind.trimStart_of_itemText hitem
    rw [hfirst hcs] at hc
    exact absurd hc (by decide)
  · rw [← Option.not_isSome_iff_eq_none]
    intro hslot
    exact Bool.eq_false_iff.mp (hother _ (by decide)) (beginsWith_of_slot hslot)

/-- A line that does not end a paragraph opens no block, no slot and no comment. -/
theorem opensNoBlock_of_goesOn (h : l.breaksParagraph = false) :
    l.OpensNoBlock ∧ l.slot? = none ∧ l.beginsWith commentOpening = false := by
  simp only [breaksParagraph, Bool.or_eq_false_iff, List.any_eq_false, List.mem_cons,
    List.not_mem_nil, or_false, forall_eq_or_imp, forall_eq, Bool.not_eq_true] at h
  obtain ⟨⟨_, hitem⟩, hsign, hfence, hquote, hbar, htag, hcolons⟩ := h
  refine ⟨⟨?_, hfence, fun kind => ?_, hbar, hquote⟩, ?_, ?_⟩
  · rw [← Option.not_isSome_iff_eq_none]
    intro hheading
    obtain ⟨cs, hcs⟩ := trimStart_of_heading hheading
    exact Bool.eq_false_iff.mp hsign (beginsWith_of_trimStart hcs)
  · rw [Bool.eq_false_iff]
    intro hopens
    exact Bool.eq_false_iff.mp hitem (isItem_of_opens hopens)
  · rw [← Option.not_isSome_iff_eq_none]
    intro hslot
    exact Bool.eq_false_iff.mp hcolons (beginsWith_of_slot hslot)
  · rw [Bool.eq_false_iff]
    intro hcomment
    obtain ⟨behind, hl⟩ := prefix_of_beginsWith hcomment
    have hcs : trimStart l.toList = '<' :: ("!--".toList ++ behind) := hl.symm
    exact Bool.eq_false_iff.mp htag (beginsWith_of_trimStart hcs)

end Line

end SlideOverflow.Deck
