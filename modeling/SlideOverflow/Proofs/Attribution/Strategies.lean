import SlideOverflow.Attribution.Strategy
import SlideOverflow.Proofs.Deck.Lookup

/-! What strategies find. A strategy looks for a node of the slide, for an item of a list or for a
piece of text in its lines; the lines that it finds are quoted from the document. -/
namespace SlideOverflow.Attribution

open Text Deck

private theorem textOf_eq_some {defect : Defect} {j : Json} {text : String}
    (h : textOf? defect j = .ok (some text)) : j = .text text := by
  cases j with
  | text s =>
    rw [textOf?] at h
    split at h
    · cases h
    · cases h
      rfl
  | _ =>
    rw [textOf?] at h
    · split at h <;> cases h
    · nofun

namespace Strategy

/-- The text of which a strategy looks for a piece in the lines of a slide. Other strategies look
for nodes. -/
inductive LooksFor (e : Element) : Strategy → String → Prop where
  | inlineText {text : String} : e.text = .text text → LooksFor e .inlineText text
  | textSubstring {text : String} : e.text = .text text → LooksFor e .textSubstring text
  | imageSource {address : String} : e.source = .text address →
      LooksFor e .imageSource (String.ofList (lastSegment address.toList))

variable {lines : List Line} {s : Slide} {r : LineRange} {e : Element} {tagClass : TagClass}

theorem LooksFor.unique {strategy : Strategy} {text other : String} (h : strategy.LooksFor e text)
    (hother : strategy.LooksFor e other) : other = text := by
  cases h with
  | inlineText htext =>
    cases hother with
    | inlineText hother => exact Json.text.inj (hother.symm.trans htext)
  | textSubstring htext =>
    cases hother with
    | textSubstring hother => exact Json.text.inj (hother.symm.trans htext)
  | imageSource haddress =>
    cases hother with
    | imageSource hother => rw [Json.text.inj (hother.symm.trans haddress)]

/-- What a strategy finds is a node, an item, or a line that holds a piece of the text it looks for.
-/
theorem find_cases {strategy : Strategy} (hpart : strategy ≠ .wholeSlide)
    (hfind : strategy.find s tagClass e = .ok (some r)) :
    ((∀ text, ¬strategy.LooksFor e text) ∧
        ((∃ n ∈ s.nodes, n.range = r) ∨ ∃ text, s.findItem text = .ok (some r))) ∨
      ∃ text, strategy.LooksFor e text ∧ s.findText text = some r := by
  -- A text that is bound to a look-up is there where the look-up finds something.
  have hbound {defect : Defect} {j : Json} {search : String → Option LineRange}
      (h : (do return (← textOf? defect j).bind search) = Except.ok (ε := Failure) (some r)) :
      ∃ text, j = .text text ∧ search text = some r := by
    obtain ⟨found, htext, hsearch⟩ := Outcome.bind_eq_ok_iff.mp h
    obtain ⟨text, rfl, hr⟩ := Option.bind_eq_some_iff.mp (Except.ok.inj hsearch)
    exact ⟨text, textOf_eq_some htext, hr⟩
  cases strategy with
  | elementSpecific =>
    refine .inl ⟨nofun, ?_⟩
    cases tagClass with
    | listItem =>
      obtain ⟨found, _, hfind⟩ := Outcome.bind_eq_ok_iff.mp hfind
      cases found with
      | none => cases hfind
      | some text => exact .inr ⟨text, hfind⟩
    | paragraph =>
      obtain ⟨text, _, hr⟩ := hbound hfind
      exact .inl (Slide.mem_of_findParagraph hr)
    | _ => cases hfind
  | inlineText =>
    rw [find] at hfind
    split at hfind
    · obtain ⟨text, htext, hr⟩ := hbound hfind
      exact .inr ⟨text, .inlineText htext, hr⟩
    · cases hfind
  | blockConstruct =>
    refine .inl ⟨nofun, .inl ?_⟩
    rw [find] at hfind
    split at hfind
    · split at hfind
      · obtain ⟨text, _, hfind⟩ := Outcome.bind_eq_ok_iff.mp hfind
        exact Slide.mem_of_findConstruct (Except.ok.inj hfind)
      · cases hfind
    · cases hfind
  | imageSource =>
    rw [find] at hfind
    split at hfind
    · obtain ⟨found, hfound, hfind⟩ := Outcome.bind_eq_ok_iff.mp hfind
      cases found with
      | none => cases hfind
      | some address =>
        have haddress := textOf_eq_some hfound
        rw [Option.getD_some] at hfind
        split at hfind
        · cases hfind
        · exact .inr ⟨_, .imageSource haddress, Except.ok.inj hfind⟩
    · cases hfind
  | textSubstring =>
    obtain ⟨text, htext, hr⟩ := hbound hfind
    exact .inr ⟨text, .textSubstring htext, hr⟩
  | wholeSlide => exact absurd rfl hpart

theorem firstFinding_eq_some {cascade : List Strategy} {strategy : Strategy}
    (h : firstFinding s tagClass e cascade = .ok (some (strategy, r))) :
    strategy.find s tagClass e = .ok (some r) := by
  induction cascade with
  | nil => cases h
  | cons next cascade ih =>
    obtain ⟨found, hfound, h⟩ := Outcome.bind_eq_ok_iff.mp h
    cases found with
    | none => exact ih h
    | some range =>
      cases h
      exact hfound

/-- Lines that are found are quoted from the document, unless the whole slide is taken. -/
theorem find_quotes (h : s.ReadFrom lines) {strategy : Strategy} (hpart : strategy ≠ .wholeSlide)
    (hfind : strategy.find s tagClass e = .ok (some r)) : r.Quotes lines s := by
  rcases find_cases hpart hfind with ⟨_, ⟨n, hn, rfl⟩ | ⟨text, hr⟩⟩ | ⟨text, _, hr⟩
  · exact h.quotes_node hn
  · exact h.findItem_quotes hr
  · exact h.findText_quotes hr

end Strategy

end SlideOverflow.Attribution
