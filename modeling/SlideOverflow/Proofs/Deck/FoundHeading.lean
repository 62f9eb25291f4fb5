import SlideOverflow.Proofs.Deck.FoundItem

/-! The heading that a rendered text came from. Headings are looked for in one pass, not in two as
items and paragraphs are, so a heading in front of the one with the very text is taken in its place
as soon as one of the two texts begins with the other. -/
namespace SlideOverflow.Deck

namespace Slide

variable {s : Slide} {level : Nat} {IsMatch : List Char → Prop} {m n : ContentNode}

structure IsFirstHeading (s : Slide) (level : Nat) (IsMatch : List Char → Prop) (n : ContentNode) :
    Prop where
  isHeading : n.isHeading level = true
  isMatch : IsMatch n.plain
  first_le : ∀ m ∈ s.nodes, m.isHeading level = true → IsMatch m.plain → n.first ≤ m.first

instance [DecidablePred IsMatch] : Decidable (s.IsFirstHeading level IsMatch n) :=
  decidable_of_iff
    (n.isHeading level = true ∧ IsMatch n.plain ∧
      ∀ m ∈ s.nodes, m.isHeading level = true → IsMatch m.plain → n.first ≤ m.first)
    ⟨fun ⟨hlevel, hmatch, hle⟩ => ⟨hlevel, hmatch, hle⟩,
      fun ⟨hlevel, hmatch, hle⟩ => ⟨hlevel, hmatch, hle⟩⟩

/-- The nodes of a slide begin one behind another. -/
private theorem ReadFrom.nodes_pairwise {lines : List Line} (h : s.ReadFrom lines) :
    s.nodes.Pairwise fun m n => m.first < n.first :=
  h.nodes.ascending.imp_of_mem fun hm _ hlt => Nat.lt_of_le_of_lt (h.quotes_node hm).ordered hlt

private theorem ReadFrom.nodes_inj {lines : List Line} (h : s.ReadFrom lines) (hm : m ∈ s.nodes)
    (hn : n ∈ s.nodes) (heq : m.first = n.first) : m = n := by
  have hnodup : (s.nodes.map (·.first)).Nodup :=
    List.pairwise_map.mpr (h.nodes_pairwise.imp Nat.ne_of_lt)
  exact List.inj_on_of_nodup_map hnodup hm hn heq

/-- A heading that agrees with the text is found, or an earlier one is. -/
theorem ReadFrom.findConstruct_heading {lines : List Line} (h : s.ReadFrom lines) {text : String}
    (hn : n ∈ s.nodes) (hlevel : n.isHeading level = true)
    (hagree : Agree n.plain (plainText text.toList)) :
    ∃ m ∈ s.nodes, s.IsFirstHeading level (Agree · (plainText text.toList)) m ∧
      s.findConstruct (.heading level) (some text) = some m.range := by
  have hcandidate (m : ContentNode) : m ∈ s.nodes.filter (Target.heading level).isMet ↔
      m ∈ s.nodes ∧ m.isHeading level = true := List.mem_filter
  cases hfind : (s.nodes.filter (Target.heading level).isMet).find?
      fun m => agrees m.plain (plainText text.toList) with
  | none =>
    have hmiss := List.find?_eq_none.mp hfind n ((hcandidate n).mpr ⟨hn, hlevel⟩)
    exact absurd (agrees_iff.mpr hagree) hmiss
  | some m =>
    obtain ⟨hm, hmlevel⟩ := (hcandidate m).mp (List.mem_of_find?_eq_some hfind)
    have hmagree : agrees m.plain (plainText text.toList) = true := by
      simpa using List.find?_some hfind
    have hleast := le_of_find?_eq_some (h.nodes_pairwise.filter (Target.heading level).isMet) hfind
    refine ⟨m, hm, ⟨hmlevel, agrees_iff.mp hmagree, fun k hk hklevel hkagree => ?_⟩, ?_⟩
    · exact hleast k ((hcandidate k).mpr ⟨hk, hklevel⟩) (agrees_iff.mpr hkagree)
    · rw [findConstruct, Option.getD_some, hfind]
      rfl

/-- The first heading with the very text is found if and only if no heading of the level in front of
it agrees with the text. In any case the first heading that agrees is found, and it does not stand
behind the one with the very text. -/
theorem findConstruct_equal_heading {settings : Settings} {keys : MetadataKeys}
    {source : List Char} {p : Presentation}
    (hread : (Presentation.read settings keys source).1 = .ok p) (hs : s ∈ p.slides)
    {text : String} (hne : plainText text.toList ≠ []) (hn : n ∈ s.nodes)
    (hfirst : s.IsFirstHeading level (· = plainText text.toList) n) :
    (s.findConstruct (.heading level) (some text) = some n.range ↔
        ∀ m ∈ s.nodes, m.isHeading level = true → m.first < n.first →
          ¬Agree m.plain (plainText text.toList)) ∧
      ∃ m ∈ s.nodes, s.IsFirstHeading level (Agree · (plainText text.toList)) m ∧
        m.first ≤ n.first ∧ s.findConstruct (.heading level) (some text) = some m.range := by
  have h := Presentation.readFrom hread hs
  have hagree : Agree n.plain (plainText text.toList) :=
    hfirst.isMatch ▸ .refl (hfirst.isMatch ▸ hne)
  obtain ⟨m, hm, hmfirst, hfind⟩ := h.findConstruct_heading hn hfirst.isHeading hagree
  have hle := hmfirst.first_le n hn hfirst.isHeading hagree
  refine ⟨?_, m, hm, hmfirst, hle, hfind⟩
  rw [hfind]
  constructor
  · intro heq k hk hlevel hlt hkagree
    have hsame : m.first = n.first := congrArg LineRange.first (Option.some.inj heq)
    have := hmfirst.first_le k hk hlevel hkagree
    omega
  · intro hnone
    have hge : n.first ≤ m.first :=
      Nat.le_of_not_lt fun hlt => hnone m hm hmfirst.isHeading hlt hmfirst.isMatch
    rw [h.nodes_inj hm hn (Nat.le_antisymm hle hge)]

/-- A heading with the very text, in front of one that begins with it and behind one of another
level. -/
theorem findConstruct_equal_heading_of_longer_behind :
    let source := "## Introduction\n# **Intro**\n# Introduction".toList
    ∃ p, (Presentation.read {} {} source).1 = .ok p ∧ ∃ s ∈ p.slides, ∃ n ∈ s.nodes,
      plainText "Intro".toList ≠ [] ∧ s.IsFirstHeading 1 (· = plainText "Intro".toList) n ∧
        n.range = ⟨2, 2, "# **Intro**"⟩ ∧
          s.findConstruct (.heading 1) (some "Intro") = some n.range := by
  intro source
  have hheading : ∃ p, (Presentation.read {} {} source).1 = .ok p ∧ ∃ s ∈ p.slides, ∃ n ∈ s.nodes,
      plainText "Intro".toList ≠ [] ∧ s.IsFirstHeading 1 (· = plainText "Intro".toList) n ∧
        n.range = ⟨2, 2, "# **Intro**"⟩ ∧ ∀ m ∈ s.nodes, m.isHeading 1 = true →
          m.first < n.first → ¬Agree m.plain (plainText "Intro".toList) := by
    decide +kernel
  obtain ⟨p, hread, s, hs, n, hn, hne, hfirst, hrange, hnone⟩ := hheading
  exact ⟨p, hread, s, hs, n, hn, hne, hfirst, hrange,
    (findConstruct_equal_heading hread hs hne hn hfirst).1.mpr hnone⟩

/-- A heading with the very text, behind one that the text begins with: that one is found. Of two
items it is the one with the very text. -/
theorem findConstruct_of_shorter_in_front :
    let source := "# Intro\n# Introduction\n\n- Intro\n- Introduction".toList
    ∃ p, (Presentation.read {} {} source).1 = .ok p ∧ ∃ s ∈ p.slides, ∃ n ∈ s.nodes,
      plainText "Introduction".toList ≠ [] ∧
        s.IsFirstHeading 1 (· = plainText "Introduction".toList) n ∧
          n.range = ⟨2, 2, "# Introduction"⟩ ∧
            s.findConstruct (.heading 1) (some "Introduction") = some ⟨1, 1, "# Intro"⟩ ∧
              (s.findItem "Introduction").toOption = some (some ⟨5, 5, "- Introduction"⟩) := by
  decide +kernel

end Slide

end SlideOverflow.Deck
