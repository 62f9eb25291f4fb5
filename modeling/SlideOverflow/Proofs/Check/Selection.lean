import SlideOverflow.Check.Pages

/-! What a page range selects. Its text is read part by part. A part that names no numbers refuses
the whole range, wherever it stands; otherwise exactly those slides are selected that the
presentation has and some part names. -/
namespace SlideOverflow.Check

open Number Text

/-- What a part of a page range says, blanks around it left out: a number, or the numbers from one
to another, with the only hyphen between the two. -/
inductive Names (part : List Char) : Int → Int → Prop where
  | number {n : Int} : '-' ∉ part → readInt? 10 part = some n → Names part n n
  | range {a b : List Char} {first last : Int} : part = a ++ '-' :: b → '-' ∉ a → '-' ∉ b →
      readInt? 10 (trim a) = some first → readInt? 10 (trim b) = some last → Names part first last

def IsReadable (part : List Char) : Prop := ∃ first last, Names (trim part) first last

def refusal (part : List Char) : Failure :=
  if '-' ∈ part then .badPageRange (String.ofList part) else .badPageNumber (String.ofList part)

/-! ### Parts -/

private theorem hyphen_pieces {part : List Char} {pieces : List (List Char)}
    (h : part.splitOn '-' = pieces) :
    (∀ piece ∈ pieces, '-' ∉ piece) ∧ part = ['-'].intercalate pieces := by
  have hne : pieces ≠ [] := by
    rw [← h]
    exact List.splitOn_ne_nil '-' part
  exact (splitOn_eq_iff hne).mp h

private theorem PagePart.read_eq_ok_iff {text : List Char} {p : PagePart} :
    PagePart.read text = .ok p ↔ Names (trim text) p.first p.last := by
  constructor
  · intro h
    simp only [read] at h
    split at h
    · next piece hsplit =>
      obtain ⟨hclean, hpart⟩ := hyphen_pieces hsplit
      rw [List.intercalate_singleton] at hpart
      split at h
      · next n hn =>
        cases h
        exact .number (hpart ▸ hclean piece List.mem_cons_self) hn
      · cases h
    · next a b hsplit =>
      obtain ⟨hclean, hpart⟩ := hyphen_pieces hsplit
      split at h
      · next first last hfirst hlast =>
        cases h
        exact .range (by simpa using hpart) (hclean a List.mem_cons_self)
          (hclean b (by simp)) hfirst hlast
      · cases h
    · cases h
  · obtain ⟨first, last⟩ := p
    intro h
    simp only [read]
    cases h with
    | number hclean hn =>
      have hsplit : (trim text).splitOn '-' = [trim text] :=
        (splitOn_eq_iff (by simp)).mpr ⟨by simpa using hclean, by simp⟩
      rw [hsplit, hn]
    | @range a b _ _ hpart ha hb hfirst hlast =>
      have hsplit : (trim text).splitOn '-' = [a, b] :=
        (splitOn_eq_iff (by simp)).mpr ⟨by simp [ha, hb], by simp [hpart]⟩
      rw [hsplit]
      dsimp only
      rw [hfirst, hlast]

/-- A part that is refused is named in the refusal. -/
private theorem PagePart.eq_refusal_of_read {text : List Char} {e : Failure}
    (h : PagePart.read text = .error e) : e = refusal (trim text) := by
  simp only [read] at h
  split at h
  · next piece hsplit =>
    obtain ⟨hclean, hpart⟩ := hyphen_pieces hsplit
    rw [List.intercalate_singleton] at hpart
    have hno : '-' ∉ trim text := hpart ▸ hclean piece List.mem_cons_self
    split at h
    · cases h
    · cases h
      rw [refusal, if_neg hno]
  · next a b hsplit =>
    have hyes : '-' ∈ trim text := by
      rw [(hyphen_pieces hsplit).2]
      simp
    split at h
    · cases h
    · cases h
      rw [refusal, if_pos hyes]
  · next hone htwo =>
    -- Neither one piece nor two: there are more, and so there are hyphens.
    have hyes : '-' ∈ trim text := by
      cases hsplit : (trim text).splitOn '-' with
      | nil => exact absurd hsplit (List.splitOn_ne_nil _ _)
      | cons a pieces =>
        cases pieces with
        | nil => exact absurd hsplit (hone a)
        | cons b pieces =>
          rw [(hyphen_pieces hsplit).2]
          simp
    cases h
    rw [refusal, if_pos hyes]

private theorem PagePart.exists_read_iff (text : List Char) :
    (∃ p, PagePart.read text = .ok p) ↔ IsReadable text := by
  constructor
  · rintro ⟨p, hp⟩
    exact ⟨p.first, p.last, PagePart.read_eq_ok_iff.mp hp⟩
  · rintro ⟨first, last, h⟩
    exact ⟨⟨first, last⟩, PagePart.read_eq_ok_iff.mpr h⟩

/-! ### Ranges -/

structure Selection (parts : List (List Char)) (total : Int) (o : Outcome (List Int)) : Prop where
  refused : (∃ e, o = .error e) ↔ ∃ part ∈ parts, ¬ IsReadable part
  /-- The first part that names no numbers is the one that is refused. -/
  blamed : ∀ e, o = .error e → ∃ front part rest, parts = front ++ part :: rest ∧
    (∀ p ∈ front, IsReadable p) ∧ ¬ IsReadable part ∧ e = refusal (trim part)
  ascending : ∀ range, o = .ok range → range.Pairwise (· < ·)
  /-- Exactly the slides of the presentation are selected that some part names. -/
  selected : ∀ range, o = .ok range → ∀ n, n ∈ range ↔ (1 ≤ n ∧ n ≤ total) ∧
    ∃ part ∈ parts, ∃ first last, Names (trim part) first last ∧ first ≤ n ∧ n ≤ last

private theorem selection_mapM (parts : List (List Char)) (total : Int) :
    Selection parts total ((parts.mapM PagePart.read).map fun ps =>
      ascending (ps.flatMap (·.slides total))) := by
  cases hread : parts.mapM PagePart.read with
  | error e =>
    obtain ⟨front, part, rest, rfl, hpart, hfront⟩ := Outcome.exists_first_error hread
    have hbad : ¬ IsReadable part := by
      rw [← PagePart.exists_read_iff, hpart]
      rintro ⟨p, hp⟩
      cases hp
    refine ⟨⟨fun _ => ⟨part, by simp, hbad⟩, fun _ => ⟨e, rfl⟩⟩, fun e' he => ?_,
      fun range h => (nomatch h), fun range h => (nomatch h)⟩
    cases he
    exact ⟨front, part, rest, rfl, fun p hp => (PagePart.exists_read_iff p).mp (hfront p hp), hbad,
      PagePart.eq_refusal_of_read hpart⟩
  | ok ps =>
    have hall := Outcome.exists_mapM_eq_ok_iff.mp ⟨ps, hread⟩
    refine ⟨⟨fun ⟨e, he⟩ => (nomatch he), fun ⟨part, hpart, hbad⟩ => ?_⟩, fun e he => (nomatch he),
      fun range h => ?_, fun range h n => ?_⟩
    · exact absurd ((PagePart.exists_read_iff part).mp (hall part hpart)) hbad
    · cases h
      exact ascending_pairwise _
    · cases h
      rw [mem_ascending, List.mem_flatMap]
      constructor
      · rintro ⟨p, hp, hn⟩
        obtain ⟨part, hpart, hread⟩ := (Outcome.mem_of_mapM_eq_ok hread).mp hp
        have hbounds := mem_interval.mp hn
        exact ⟨by omega, part, hpart, p.first, p.last, PagePart.read_eq_ok_iff.mp hread, by omega⟩
      · rintro ⟨hin, part, hpart, first, last, hnames, hn⟩
        refine ⟨⟨first, last⟩, (Outcome.mem_of_mapM_eq_ok hread).mpr
          ⟨part, hpart, PagePart.read_eq_ok_iff.mpr hnames⟩, mem_interval.mpr ?_⟩
        dsimp only
        omega

def IsUnset (pages : Option String) : Prop := ∀ text ∈ pages, ∀ c ∈ text.toList, isBlank c = true

/-- An unset page range selects all slides in order, and any other one what its parts name, unless
one of them cannot be read. -/
theorem pageRange_selection (pages : Option String) (total : Int) :
    (IsUnset pages →
      pageRange pages total = .ok ((List.range' 1 total.toNat).map fun n : Nat => (n : Int))) ∧
    (¬ IsUnset pages → ∃ text, pages = some text ∧
      Selection (text.toList.splitOn ',') total (pageRange pages total)) := by
  have hunset : IsUnset pages ↔ (pages.getD "").toList.all isBlank = true := by
    cases pages <;> simp [IsUnset]
  refine ⟨fun h => ?_, fun h => ?_⟩
  · rw [pageRange, if_pos (hunset.mp h), interval, List.range'_eq_map_range, List.map_map,
      Int.add_sub_cancel]
    rfl
  · cases pages with
    | none => exact absurd (hunset.mpr rfl) h
    | some text =>
      refine ⟨text, rfl, ?_⟩
      have hread := selection_mapM (text.toList.splitOn ',') total
      rw [hunset] at h
      rw [pageRange, if_neg h, Option.getD_some]
      exact hread

/-- Ranges that overlap and reach past the last slide. -/
theorem pageRange_selection_of_overlap :
    ¬ IsUnset (some "3-9, 2,3") ∧ pageRange (some "3-9, 2,3") 4 = .ok [2, 3, 4] ∧
      Selection ["3-9".toList, " 2".toList, "3".toList] 4 (.ok [2, 3, 4]) := by
  have hset : ¬ IsUnset (some "3-9, 2,3") := by
    intro h
    exact absurd (h _ rfl '3' (by decide)) (by decide)
  have hparts : "3-9, 2,3".toList.splitOn ',' = ["3-9".toList, " 2".toList, "3".toList] := by
    decide
  have hread : ["3-9".toList, " 2".toList, "3".toList].mapM PagePart.read =
      .ok [⟨3, 9⟩, ⟨2, 2⟩, ⟨3, 3⟩] := rfl
  have hrange : pageRange (some "3-9, 2,3") 4 = .ok [2, 3, 4] := by
    have hascending : ascending [3, 4, 2, 3] = [2, 3, 4] := by
      simp [ascending, List.mergeSort, dropRepeats]
    rw [pageRange, if_neg (by decide), Option.getD_some]
    change (("3-9, 2,3".toList.splitOn ',').mapM PagePart.read >>= _) = _
    rw [hparts, hread]
    exact congrArg Except.ok hascending
  obtain ⟨text, htext, hselection⟩ := (pageRange_selection (some "3-9, 2,3") 4).2 hset
  obtain rfl := Option.some.inj htext
  rw [hrange, hparts] at hselection
  exact ⟨hset, hrange, hselection⟩

end SlideOverflow.Check
