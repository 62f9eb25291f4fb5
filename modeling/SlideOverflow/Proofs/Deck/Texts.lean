import SlideOverflow.Proofs.Deck.Reading
import SlideOverflow.Proofs.Deck.Tiling

/-! The texts that a width is estimated for. The text of a heading stands in a line of the document,
and a block of code consists of such lines, so neither has lines that are longer than the source. -/
namespace SlideOverflow.Deck

open Text

/-! ### Lines -/

private theorem length_le_of_mem_splitOnP {α : Type} {p : α → Bool} {l piece : List α}
    (h : piece ∈ l.splitOnP p) : piece.length ≤ l.length := by
  calc
    piece.length ≤ (l.splitOnP p).flatten.length := (List.sublist_flatten_of_mem h).length_le
    _ = (l.filter (!p ·)).length := by rw [flatten_splitOnP]
    _ ≤ l.length := List.length_filter_le _ _

private theorem length_dropReturns_le (source : List Char) :
    (sourceLines.dropReturns source).length ≤ source.length := by
  induction source using sourceLines.dropReturns.induct with
  | case1 cs ih =>
    rw [sourceLines.dropReturns, List.length_cons, List.length_cons, List.length_cons]
    omega
  | case2 c cs hpair ih =>
    rw [sourceLines.dropReturns]
    · rw [List.length_cons, List.length_cons]
      omega
    · exact hpair
  | case3 => exact Nat.le_refl 0

theorem mem_sourceLines {source : List Char} {l : Line} (h : l ∈ sourceLines source) :
    '\n' ∉ l.toList ∧ l.length ≤ source.length := by
  obtain ⟨piece, hpiece, rfl⟩ := List.mem_map.mp h
  refine ⟨(mem_splitLines h).1, ?_⟩
  rw [String.length_ofList]
  exact Nat.le_trans (length_le_of_mem_splitOnP hpiece) (length_dropReturns_le source)

private theorem length_trim_le (cs : List Char) : (trim cs).length ≤ cs.length :=
  Nat.le_trans (dropEndWhile_isPrefix _ _).length_le (List.dropWhile_sublist _).length_le

private theorem length_heading_le {l : Line} {level : Nat} {text : List Char}
    (h : heading? l = some (level, text)) : text.length ≤ l.length := by
  simp only [heading?] at h
  split at h
  · next b c rest hbehind =>
    split at h
    · cases h
      have hdrop : (b :: c :: rest).length ≤ l.toList.length := by
        rw [← hbehind]
        exact (List.drop_sublist _ _).length_le
      have htrim := length_trim_le (c :: rest)
      rw [List.length_cons, String.length_toList] at hdrop
      omega
    · cases h
  · cases h

private theorem Construct.heading_of_ofLine {l : Line} {level : Nat} {text : List Char}
    (h : ofLine l = .heading level text) : heading? l = some (level, text) := by
  simp only [ofLine] at h
  split at h
  · next hheading =>
    cases h
    exact hheading
  · repeat' split at h
    all_goals cases h

/-! ### Nodes -/

/-- What a width is estimated for in a node: the text of a heading, which stands in one of the
lines, or lines of code. -/
inductive ContentNode.Measured (lines : List Line) (n : ContentNode) : Prop where
  | heading {level : Nat} {l : Line} {text : String} : n.form = .heading level → l ∈ lines →
      n.text = some text → text.length ≤ l.length → Measured lines n
  | code {language : String} {closed : Bool} {code : List Line} :
      n.form = .codeBlock language code.length closed → (∀ l ∈ code, l ∈ lines) →
      n.text = some (joinLines code) → Measured lines n
  | other : n.level? = none → n.isCode = false → Measured lines n

theorem ContentNode.Measured.mono {lines lines' : List Line} {n : ContentNode}
    (h : n.Measured lines) (hlines : ∀ l ∈ lines, l ∈ lines') : n.Measured lines' := by
  cases h with
  | heading hform hl htext hle => exact .heading hform (hlines _ hl) htext hle
  | code hform hcode htext => exact .code hform (fun l hl => hlines l (hcode l hl)) htext
  | other hlevel hcode => exact .other hlevel hcode

private theorem readPiece_measured {slide number : Nat} {l : Line} {ls : List Line}
    {n : ContentNode}
    (hn : (readPiece slide number l ls).node = some n) : n.Measured (l :: ls) := by
  rw [readPiece] at hn
  cases hconstruct : Construct.ofLine l with
  | heading level text =>
    rw [hconstruct] at hn
    cases hn
    refine .heading rfl List.mem_cons_self rfl ?_
    rw [String.length_ofList]
    exact length_heading_le (Construct.heading_of_ofLine hconstruct)
  | code =>
    rw [hconstruct] at hn
    cases hn
    exact .code rfl (fun m hm => .tail l (List.takeWhile_subset _ hm)) rfl
  | comment =>
    rw [hconstruct] at hn
    dsimp only at hn
    rw [(commentPiece_spec (Construct.beginsWith_of_comment hconstruct)).1] at hn
    cases hn
  | paragraph =>
    rw [hconstruct] at hn
    dsimp only [paragraphPiece] at hn
    split at hn
    · cases hn
    · cases hn
      exact .other rfl rfl
  | _ =>
    rw [hconstruct] at hn
    cases hn
    exact .other rfl rfl

private theorem RawSlide.body_measured {s : RawSlide} {index : Nat} {n : ContentNode}
    (hn : n ∈ (s.body index).1) : n.Measured s.lines := by
  rw [s.body_eq] at hn
  obtain ⟨l, ls, harrives, -, hnode⟩ := exists_origin hn
  refine (readPiece_measured hnode).mono fun m hm => ?_
  have hrest := harrives.rest_eq
  rw [RawSlide.bodyStart] at hrest
  dsimp only at hrest
  rw [hrest] at hm
  exact List.mem_of_mem_drop (List.mem_of_mem_drop hm)

/-- Nodes of a presentation are measured on lines of its source. -/
theorem Presentation.nodes_measured {settings : Settings} {keys : MetadataKeys}
    {source : List Char} {p : Presentation}
    (h : (Presentation.read settings keys source).1 = .ok p) {s : Slide} (hs : s ∈ p.slides)
    {n : ContentNode} (hn : n ∈ s.nodes) : n.Measured (sourceLines source) := by
  obtain ⟨hsources, hnodes⟩ := Presentation.read_spec h
  rw [hnodes s hs] at hn
  refine (RawSlide.body_measured hn).mono fun l hl => ?_
  have hcut : s.source ∈ (cut keys (sourceLines source)).slides := by
    rw [← hsources]
    exact List.mem_map_of_mem hs
  rw [(cut_slide hcut).2.2.2] at hl
  exact List.mem_of_mem_drop (List.mem_of_mem_take hl)

end SlideOverflow.Deck
