import SlideOverflow.Proofs.Deck.Openings

/-! Comments. Reading steps over a comment as a whole, whatever stands in it behind its first line.
In the first line, an image or the tag of a component is found before the comment is. -/
namespace SlideOverflow.Deck

open Text

/-- The lines of a comment behind its first one, in front of `rest`. `behind` is what follows the
opening marker in the first line. If what closes the comment stands there, there are none; otherwise
they run through the first line in which it stands, or to the end where it stands in none. -/
inductive CommentTail (behind : List Char) : List Line → List Line → Prop where
  | own {rest : List Line} : Line.commentClosing <:+: behind → CommentTail behind [] rest
  | later {inside rest : List Line} {closing : Line} : ¬Line.commentClosing <:+: behind →
      (∀ i ∈ inside, ¬Line.commentClosing <:+: i.toList) →
      Line.commentClosing <:+: closing.toList → CommentTail behind (inside ++ [closing]) rest
  | never {inside : List Line} : ¬Line.commentClosing <:+: behind →
      (∀ i ∈ inside, ¬Line.commentClosing <:+: i.toList) → CommentTail behind inside []

private theorem CommentLines.commentTail {l : Line} {taken rest : List Line}
    {blanks behind : List Char} (h : CommentLines rest (l :: taken))
    (hl : l.toList = blanks ++ (Line.commentOpening ++ behind))
    (hblanks : ∀ c ∈ blanks, isBlank c = true) : CommentTail behind taken rest := by
  have hown := Line.closesOwnComment_iff hl hblanks
  have hopen {i : Line} (hi : i.closesComment = false) : ¬Line.commentClosing <:+: i.toList := by
    rw [← occursIn_iff]
    exact Bool.eq_false_iff.mp hi
  cases h with
  | alone _ hcloses => exact .own (hown.mp hcloses)
  | closed _ hcloses hinside hclosing =>
    rw [← Bool.not_eq_true, hown] at hcloses
    exact .later hcloses (fun i hi => hopen (hinside i hi)) ((occursIn_iff _ _).mp hclosing)
  | unclosed _ hcloses hinside hrest =>
    rw [← Bool.not_eq_true, hown] at hcloses
    subst hrest
    exact .never hcloses fun i hi => hopen (hinside i hi)

/-- The lines `own` of a slide, from line `number` on and in front of `rest`, give no node at any
depth, and reading goes on behind them. -/
structure RawSlide.Skips (s : RawSlide) (index number : Nat) (own rest : List Line) : Prop where
  nodes : ∀ n ∈ (s.body index).1,
    n.Everywhere fun m => m.last < number ∨ number + own.length ≤ m.first
  resumes : Arrives index s.bodyStart ⟨number + own.length, rest⟩

section Skipping

variable {s : RawSlide} {index number : Nat} {l : Line} {ls : List Line}

/-- Where what begins in a line makes no node, its lines are skipped. -/
private theorem RawSlide.skips {own rest : List Line}
    (h : Arrives index s.bodyStart ⟨number, l :: ls⟩)
    (hl : l.isEmpty = false) (hnode : (readPiece index number l ls).node = none)
    (hsize : (readPiece index number l ls).size = own.length) (hsplit : l :: ls = own ++ rest) :
    s.Skips index number own rest := by
  have hbehind : Position.behind index number l ls = ⟨number + own.length, rest⟩ := by
    rw [Position.behind, hsize, hsplit, List.drop_left]
  refine ⟨fun n hn => ?_, ?_⟩
  · obtain ⟨m, ms, _, hm, horigin⟩ := exists_origin (s.body_eq index ▸ hn)
    have hinside := readPiece_inside hm horigin
    obtain ⟨front, warnings, hread, hends⟩ := h.read_eq
    rw [s.body_eq, hread, Position.read_filled hl, hnode, hbehind] at hn
    rcases List.mem_append.mp hn with hn | hn
    · have := hends n hn
      exact hinside.imp fun m hm => .inl (Nat.lt_of_le_of_lt hm.2 this)
    · have := (Position.bounds hn).1
      exact hinside.imp fun m hm => .inr (Nat.le_trans this hm.1)
  · rw [← hbehind]
    exact h.tail (.piece hl)

/-- A node that begins in a line is among those of the slide. -/
private theorem RawSlide.mem_body {n : ContentNode}
    (h : Arrives index s.bodyStart ⟨number, l :: ls⟩)
    (hl : l.isEmpty = false) (hnode : (readPiece index number l ls).node = some n) :
    n ∈ (s.body index).1 := by
  obtain ⟨front, warnings, hread, _⟩ := h.read_eq
  rw [s.body_eq, hread, Position.read_filled hl, hnode]
  exact List.mem_append_right _ (List.mem_append_left _ List.mem_cons_self)

/-- Where reading arrives at a line that opens a comment, the lines of the comment are skipped, if
and only if no image and no tag of a component stands in that line. -/
theorem RawSlide.body_comment (h : Arrives index s.bodyStart ⟨number, l :: ls⟩)
    (hl : l.beginsWith Line.commentOpening = true) :
    ∃ blanks behind taken rest, l.toList = blanks ++ (Line.commentOpening ++ behind) ∧
      (∀ c ∈ blanks, isBlank c = true) ∧ ls = taken ++ rest ∧ CommentTail behind taken rest ∧
      (s.Skips index number (l :: taken) rest ↔ l.IsPlain) := by
  have hfilled := Line.isEmpty_of_beginsWith (by decide) hl
  obtain ⟨blanks, behind, hbehind, hblanks⟩ := Line.exists_of_beginsWith hl
  obtain ⟨hnone, own, rest, hsplit, hsize, hlines⟩ := @commentPiece_spec number l ls hl
  obtain ⟨taken, rfl⟩ : ∃ taken, own = l :: taken := by
    cases own with
    | nil => exact absurd rfl hlines.ne_nil
    | cons m taken => exact ⟨taken, by rw [(List.cons.inj hsplit).1]⟩
  refine ⟨blanks, behind, taken, rest, hbehind, hblanks, (List.cons.inj hsplit).2,
    hlines.commentTail hbehind hblanks, ?_⟩
  obtain ⟨hblock, hslot⟩ := Line.opensNoBlock_of_comment hl
  by_cases hplain : l.IsPlain
  · have hpiece : readPiece index number l ls = commentPiece number l ls := by
      rw [readPiece, Construct.ofLine_of_isPlain hblock hslot hplain, if_pos hl]
    rw [← hpiece] at hnone hsize
    exact iff_of_true (RawSlide.skips h hfilled hnone hsize hsplit) hplain
  · refine iff_of_false (fun hskips => ?_) hplain
    obtain ⟨form, hnode⟩ := @readPiece_of_not_isPlain index number l ls hblock hplain
    have hout := (hskips.nodes _ (RawSlide.mem_body h hfilled hnode)).own
    rw [List.length_cons] at hout
    dsimp only [lineNode] at hout
    omega

end Skipping

theorem RawSlide.body_comment_of_two_lines :
    let s : RawSlide := ⟨1, 4, ["", "<!-- a", "# b -->", "End"]⟩
    Arrives 0 s.bodyStart ⟨2, ["<!-- a", "# b -->", "End"]⟩ ∧
      Line.beginsWith "<!-- a" Line.commentOpening = true ∧
      ∃ taken rest, ["# b -->", "End"] = taken ++ rest ∧
        s.Skips 0 2 ("<!-- a" :: taken) rest := by
  intro s
  have hstart : s.bodyStart = ⟨1, ["", "<!-- a", "# b -->", "End"]⟩ := by decide +kernel
  have harrives : Arrives 0 s.bodyStart ⟨2, ["<!-- a", "# b -->", "End"]⟩ := by
    rw [hstart]
    exact .single (.blank rfl)
  have hopens : Line.beginsWith "<!-- a" Line.commentOpening = true := by decide
  have hplain : Line.IsPlain "<!-- a" := by decide +kernel
  obtain ⟨_, _, taken, rest, _, _, hsplit, _, hskips⟩ := RawSlide.body_comment harrives hopens
  exact ⟨harrives, hopens, taken, rest, hsplit, hskips.mpr hplain⟩

/-- A comment of three lines with an image in its first one, at which reading begins. The image
makes a node, and so does the rest of the comment. -/
theorem Presentation.read_comment_with_image :
    ∃ p, (Presentation.read {} {} "<!-- ![a](b.png)\nhidden\n-->\nVisible".toList).1 = .ok p ∧
      ∃ s ∈ p.slides,
        s.source.bodyStart = ⟨1, ["<!-- ![a](b.png)", "hidden", "-->", "Visible"]⟩ ∧
        (∃ n ∈ s.nodes, n.isImage = true ∧ n.first = 1 ∧ n.last = 1) ∧
        ∃ n ∈ s.nodes, n.isParagraph = true ∧ n.first = 2 ∧ n.last = 4 := by
  decide +kernel

end SlideOverflow.Deck
