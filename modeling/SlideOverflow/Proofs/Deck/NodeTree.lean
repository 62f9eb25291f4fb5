import SlideOverflow.Proofs.Deck.Coverage
import SlideOverflow.Proofs.Deck.Tiling

/-! The node trees of a presentation. Every node of every slide, at any depth, stands for the lines
of the document that its range names. -/
namespace SlideOverflow.Deck

/-- What it means that the nodes of a slide stand for lines of the document. -/
structure Slide.NodesFaithful (lines : List Line) (s : Slide) : Prop where
  /-- A node lies within the slide and holds the lines of its range; the nodes within it follow one
  another behind its first line. -/
  everywhere : ∀ n ∈ s.nodes,
    n.Everywhere (ContentNode.Faithful s.index 1 lines s.first s.last)
  ascending : s.nodes.Pairwise fun m n => m.last < n.first
  inBody : ∀ n ∈ s.nodes, s.first + (slideMetadata s.lines).2 ≤ n.first
  /-- Nodes begin behind the separator that closes the metadata of the slide. -/
  behindMetadata : ∀ {opening closing : Line} {block body : List Line},
    s.lines = opening :: (block ++ closing :: body) → opening.isSeparator = true →
    (∀ l ∈ block, l.isSeparator = false) → closing.isSeparator = true →
    ∀ n ∈ s.nodes, s.first + (block.length + 2) ≤ n.first

/-- The nodes that are read from a slide of a document stand for lines of the document. -/
theorem Slide.nodesFaithful_of_mem_cut {keys : MetadataKeys} {lines : List Line} {s : Slide}
    (hsource : s.source ∈ (cut keys lines).slides)
    (hnodes : s.nodes = (s.source.body s.index).1) : s.NodesFaithful lines := by
  obtain ⟨hone, hle, hlast, hlines⟩ := cut_slide hsource
  obtain ⟨parts, hparts, hread⟩ := readBody_accounts s.index 0
    (s.first + (slideMetadata s.lines).2) (s.lines.drop (slideMetadata s.lines).2)
  rw [Nat.add_zero, List.drop_zero] at hparts
  have hread : s.nodes = parts.filterMap Part.node? := hnodes.trans hread.symm
  have hpart : ∀ n ∈ s.nodes, Part.node n ∈ parts := by
    intro n hn
    rw [hread] at hn
    obtain ⟨p, hp, hnode⟩ := List.mem_filterMap.mp hn
    cases p with
    | node m =>
      cases hnode
      exact hp
    | comment a b => cases hnode
    | dropped k => cases hnode
  have hbody : ∀ n ∈ s.nodes, s.first + (slideMetadata s.lines).2 ≤ n.first :=
    fun n hn => (hparts.bounds _ (hpart n hn)).1
  refine ⟨fun n hn => ?_, ?_, hbody, ?_⟩
  · have hstands := (hparts.stands _ (hpart n hn)).takes.faithful
    obtain ⟨hlo, hordered, hhi⟩ := hparts.bounds _ (hpart n hn)
    have hfirst : s.first ≤ n.first := Nat.le_trans (Nat.le_add_right _ _) hlo
    have hnlast : n.last ≤ s.last := by
      rw [List.length_drop] at hhi
      simp only [Part.first, Part.last] at hlo hordered hhi
      simp only [Slide.first, Slide.last, Slide.lines] at *
      omega
    -- The lines of the node, as lines of the body, of the slide and of the document.
    rw [linesBetween_drop s.lines hlo] at hstands
    have hdocument : linesBetween s.first s.lines n.first n.last =
        linesBetween 1 lines n.first n.last := by
      rw [Slide.lines, hlines]
      exact linesBetween_within lines hone hfirst hnlast
    change n.Everywhere (ContentNode.Faithful s.index n.first
      (linesBetween s.first s.lines n.first n.last) n.first n.last) at hstands
    rw [hdocument] at hstands
    exact hstands.imp fun m hm => hm.widen (Nat.le_trans hone hfirst) hfirst hnlast
  · rw [hread]
    refine List.pairwise_filterMap.mpr (hparts.ascending.imp ?_)
    intro p q hlt m hm n hn
    cases p <;> cases hm
    cases q <;> cases hn
    exact hlt
  · intro opening closing block body heq ho hb hc n hn
    have := hbody n hn
    rwa [heq, slideMetadata_closed ho hb hc] at this

theorem Presentation.mem_cut_of_read {settings : Settings} {keys : MetadataKeys}
    {source : List Char} {p : Presentation}
    (h : (Presentation.read settings keys source).1 = .ok p) {s : Slide} (hs : s ∈ p.slides) :
    s.source ∈ (cut keys (sourceLines source)).slides ∧ s.nodes = (s.source.body s.index).1 := by
  obtain ⟨hsources, hnodes⟩ := Presentation.read_spec h
  rw [← hsources]
  exact ⟨List.mem_map.mpr ⟨s, hs, rfl⟩, hnodes s hs⟩

/-- Every node of a presentation, at any depth, stands for the lines of the document that its range
names, and the nodes of a slide follow one another behind its metadata. -/
theorem Presentation.read_nodesFaithful {settings : Settings} {keys : MetadataKeys}
    {source : List Char} {p : Presentation}
    (h : (Presentation.read settings keys source).1 = .ok p) :
    ∀ s ∈ p.slides, s.NodesFaithful (sourceLines source) := by
  intro s hs
  obtain ⟨hsource, hnodes⟩ := Presentation.mem_cut_of_read h hs
  exact Slide.nodesFaithful_of_mem_cut hsource hnodes

/-- A slide whose metadata is closed, with a list in a list. -/
theorem Presentation.read_nodesFaithful_of_nested_list :
    let source := "# A\n---\nlayout: center\n---\n- one\n  - two".toList
    ∃ p, (Presentation.read {} {} source).1 = .ok p ∧
      p.slides.map (fun s => s.nodes.map fun n => (n.first, n.children.map (·.first))) =
        [[(1, [])], [(5, [6])]] ∧
      ∀ s ∈ p.slides, s.NodesFaithful (sourceLines source) := by
  intro source
  have hnodes : (Presentation.read {} {} source).1.toOption.map (fun p =>
      p.slides.map fun s => s.nodes.map fun n => (n.first, n.children.map (·.first))) =
        some [[(1, [])], [(5, [6])]] := by
    decide +kernel
  cases h : (Presentation.read {} {} source).1 with
  | error e =>
    rw [h] at hnodes
    exact nomatch hnodes
  | ok p =>
    rw [h] at hnodes
    exact ⟨p, rfl, Option.some.inj hnodes, Presentation.read_nodesFaithful h⟩

end SlideOverflow.Deck
