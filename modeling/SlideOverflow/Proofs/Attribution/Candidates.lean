import SlideOverflow.Attribution.Project
import SlideOverflow.Proofs.Text.Utf8

/-! Which candidate a project is read from: the first one that is a file with text in it. What comes
before it is no file or holds no text, and what comes behind it does not matter. A name that is too
long to be looked up is not passed over, though; it ends the search. -/
namespace SlideOverflow.Attribution

open Text Deck

/-! ### Line ends -/

/-- The text with a line feed for each carriage return, and with one for the two of them
together. -/
def withLineFeeds (text : List Char) : List Char :=
  (sourceLines.dropReturns text).map fun c => if c = '\r' then '\n' else c

private theorem unifyLineEnds_eq (text : List Char) : unifyLineEnds text = withLineFeeds text := by
  induction text using unifyLineEnds.induct with
  | case1 cs ih =>
    rw [unifyLineEnds, ih]
    rfl
  | case2 cs hpair ih =>
    rw [unifyLineEnds.eq_2 cs hpair, ih, withLineFeeds, withLineFeeds,
      sourceLines.dropReturns.eq_2 '\r' cs fun tail _ htail => hpair tail htail]
    rfl
  | case3 c cs hpair hlone ih =>
    rw [unifyLineEnds.eq_3 c cs hpair hlone, ih, withLineFeeds, withLineFeeds,
      sourceLines.dropReturns.eq_2 c cs hpair, List.map_cons, if_neg hlone]
  | case4 => rfl

namespace Project

variable {p : Project} {name : String} {text : List Char} {e : Failure}

/-! ### What a candidate leads to -/

def Holds (p : Project) (name : String) (text : List Char) : Prop :=
  p.find? name = .ok (some (.file (Utf8.encode text)))

theorem Holds.octets_eq {octets : List Nat} (h : p.Holds name text)
    (hfind : p.find? name = .ok (some (.file octets))) : octets = Utf8.encode text :=
  Entry.file.inj (Option.some.inj (Except.ok.inj (hfind.symm.trans h)))

theorem Holds.unique {other : List Char} (h : p.Holds name text) (hother : p.Holds name other) :
    text = other :=
  Utf8.encode_injective (hother.octets_eq h)

inductive Lacks (p : Project) (name : String) : Prop where
  | missing : p.find? name = .ok none → Lacks p name
  | directory : p.find? name = .ok (some .directory) → Lacks p name
  | illegible {octets : List Nat} : p.find? name = .ok (some (.file octets)) →
      (∀ text, octets ≠ Utf8.encode text) → Lacks p name

def IsLong (name : String) : Prop :=
  longestPath < (String.ofList (['/'].intercalate (stepsOf name))).utf8ByteSize ∨
    ∃ step ∈ stepsOf name, longestStep < (String.ofList step).utf8ByteSize

private theorem follow_error {place steps : Steps} (h : p.follow place steps = .error e) :
    e = .defect .longPath ∧ ∃ step ∈ steps, longestStep < (String.ofList step).utf8ByteSize := by
  induction steps generalizing place with
  | nil => cases h
  | cons step steps ih =>
    rw [follow] at h
    split at h
    · cases h
    · split at h
      · split at h
        · cases h
        · obtain ⟨rfl, long, hmem, hlong⟩ := ih h
          exact ⟨rfl, long, .tail _ hmem, hlong⟩
      · split at h
        · next hlong =>
          cases h
          exact ⟨rfl, step, List.mem_cons_self, hlong⟩
        · obtain ⟨rfl, long, hmem, hlong⟩ := ih h
          exact ⟨rfl, long, .tail _ hmem, hlong⟩

theorem find?_error (h : p.find? name = .error e) : e = .defect .longPath ∧ IsLong name := by
  rw [find?] at h
  split at h
  · cases h
  · split at h
    · next hlong =>
      cases h
      exact ⟨rfl, .inl hlong⟩
    · obtain ⟨rfl, hlong⟩ := follow_error h
      exact ⟨rfl, .inr hlong⟩

private theorem find?_cases (p : Project) (name : String) :
    (∃ text, p.Holds name text) ∨ p.Lacks name ∨
      p.find? name = .error (.defect .longPath) ∧ IsLong name := by
  cases h : p.find? name with
  | error e =>
    obtain ⟨rfl, hlong⟩ := find?_error h
    exact .inr (.inr ⟨rfl, hlong⟩)
  | ok found =>
    cases found with
    | none => exact .inr (.inl (.missing h))
    | some entry =>
      cases entry with
      | directory => exact .inr (.inl (.directory h))
      | file octets =>
        by_cases htext : ∃ text, octets = Utf8.encode text
        · obtain ⟨text, rfl⟩ := htext
          exact .inl ⟨text, h⟩
        · exact .inr (.inl (.illegible h fun text heq => htext ⟨text, heq⟩))

theorem Lacks.not_holds (h : p.Lacks name) : ¬ p.Holds name text := by
  intro hholds
  rw [Holds] at hholds
  cases h with
  | missing hfind => cases hfind.symm.trans hholds
  | directory hfind => cases hfind.symm.trans hholds
  | illegible hfind hnone =>
    cases hfind.symm.trans hholds
    exact hnone text rfl

theorem lacks_iff (hshort : ¬ IsLong name) : p.Lacks name ↔ ∀ text, ¬ p.Holds name text := by
  refine ⟨fun h text => h.not_holds, fun hnone => ?_⟩
  obtain ⟨text, hholds⟩ | hlacks | ⟨-, hlong⟩ := p.find?_cases name
  · exact absurd hholds (hnone text)
  · exact hlacks
  · exact absurd hlong hshort

/-! ### Trying the candidates -/

section Trying

variable {settings : Settings} {candidates names : List String}

def HoldsPresentations (p : Project) (settings : Settings) (candidates : List String) : Prop :=
  ∀ name ∈ candidates, ∀ text, p.Holds name text →
    ∃ presentation, (Presentation.read settings {} (withLineFeeds text)).1 = .ok presentation

/-- What becomes of the candidates, if every text that one of them holds is a presentation. -/
inductive Loads (p : Project) (settings : Settings) (candidates : List String) :
    Outcome Source → Prop where
  | found {front rest : List String} {name : String} {text : List Char}
      {presentation : Presentation} :
      candidates = front ++ name :: rest → (∀ c ∈ front, p.Lacks c) → p.Holds name text →
      (Presentation.read settings {} (withLineFeeds text)).1 = .ok presentation →
      Loads p settings candidates (.ok { file := name, presentation := presentation })
  | none : (∀ c ∈ candidates, p.Lacks c) →
      Loads p settings candidates (.error (.noSource p.path candidates))
  | tooLong {front rest : List String} {name : String} :
      candidates = front ++ name :: rest → (∀ c ∈ front, p.Lacks c) → IsLong name →
      p.find? name = .error (.defect .longPath) →
      Loads p settings candidates (.error (.defect .longPath))

private theorem go_of_holds (h : p.Holds name text) :
    (load.go p settings candidates (name :: names)).1 =
      (Presentation.read settings {} (withLineFeeds text)).1.map fun presentation =>
        { file := name, presentation := presentation } := by
  rw [Holds] at h
  rw [load.go, h]
  dsimp only
  rw [Utf8.decode_eq_ok_iff.mpr rfl, ← unifyLineEnds_eq]
  rfl

/-- A candidate without a text is passed over, and at most a note is left of it. -/
private theorem go_of_lacks (settings : Settings) (candidates names : List String)
    (h : p.Lacks name) :
    ∃ told : List LogEntry, (∀ entry ∈ told, entry.level ≠ .warning) ∧
      load.go p settings candidates (name :: names) =
        ((load.go p settings candidates names).1,
          told ++ (load.go p settings candidates names).2) := by
  cases h with
  | missing hfind =>
    refine ⟨[], fun _ hentry => absurd hentry List.not_mem_nil, ?_⟩
    rw [load.go, hfind]
    rfl
  | directory hfind =>
    refine ⟨[], fun _ hentry => absurd hentry List.not_mem_nil, ?_⟩
    rw [load.go, hfind]
    rfl
  | @illegible octets hfind hnone =>
    cases hdecode : Utf8.decode octets with
    | ok text => exact absurd (Utf8.decode_eq_ok_iff.mp hdecode) (hnone text)
    | error fault =>
      refine ⟨[.note 2 ("Could not read " ++ p.pathOf name ++ ": " ++ fault.message)], ?_, ?_⟩
      · intro entry hentry
        rw [List.mem_singleton.mp hentry]
        exact fun hlevel => nomatch hlevel
      · rw [load.go, hfind]
        dsimp only
        rw [hdecode]
        rfl

theorem go_of_long (h : p.find? name = .error e) :
    load.go p settings candidates (name :: names) = (.error e, []) := by
  rw [load.go, h]

/-- By induction on the candidates that are left, where those before them hold no text. -/
private theorem go_loads (hread : p.HoldsPresentations settings candidates) {front : List String}
    (hsplit : candidates = front ++ names) (hfront : ∀ c ∈ front, p.Lacks c) :
    p.Loads settings candidates (load.go p settings candidates names).1 := by
  induction names generalizing front with
  | nil =>
    rw [List.append_nil] at hsplit
    exact .none (hsplit ▸ hfront)
  | cons name names ih =>
    obtain ⟨text, hholds⟩ | hlacks | ⟨hfind, hlong⟩ := p.find?_cases name
    · obtain ⟨presentation, hok⟩ := hread name (by rw [hsplit]; simp) text hholds
      rw [go_of_holds hholds, hok]
      exact .found hsplit hfront hholds hok
    · obtain ⟨told, -, heq⟩ := go_of_lacks settings candidates names hlacks
      rw [heq]
      refine @ih (front ++ [name]) (by rw [hsplit, List.append_assoc]; rfl) ?_
      intro c hc
      rcases List.mem_append.mp hc with hc | hc
      · exact hfront c hc
      · rwa [List.mem_singleton.mp hc]
    · rw [go_of_long hfind]
      exact .tooLong hsplit hfront hlong hfind

theorem load_loads (hread : p.HoldsPresentations settings candidates) :
    p.Loads settings candidates (p.load settings candidates).1 :=
  @go_loads _ _ _ _ hread [] rfl fun _ hc => absurd hc List.not_mem_nil

/-- Where no candidate holds a text, all that is left of them are notes. -/
private theorem go_of_all_lack (h : ∀ c ∈ names, p.Lacks c) :
    ∃ told : List LogEntry, (∀ entry ∈ told, entry.level ≠ .warning) ∧
      load.go p settings candidates names = (.error (.noSource p.path candidates), told) := by
  induction names with
  | nil => exact ⟨[], fun _ hentry => absurd hentry List.not_mem_nil, rfl⟩
  | cons name names ih =>
    obtain ⟨first, hfirst, heq⟩ := go_of_lacks settings candidates names (h name List.mem_cons_self)
    obtain ⟨rest, hrest, hall⟩ := ih fun c hc => h c (.tail name hc)
    refine ⟨first ++ rest, fun entry hentry => ?_, by rw [heq, hall]⟩
    rcases List.mem_append.mp hentry with hentry | hentry
    · exact hfirst entry hentry
    · exact hrest entry hentry

theorem load_of_all_lack (settings : Settings) (h : ∀ c ∈ candidates, p.Lacks c) :
    ∃ told : List LogEntry, (∀ entry ∈ told, entry.level ≠ .warning) ∧
      p.load settings candidates = (.error (.noSource p.path candidates), told) :=
  go_of_all_lack h

/-- There is no source exactly where no candidate holds a text. -/
theorem load_noSource_iff (hread : p.HoldsPresentations settings candidates) :
    (∃ directory tried, (p.load settings candidates).1 = .error (.noSource directory tried)) ↔
      ∀ c ∈ candidates, p.Lacks c := by
  constructor
  · rintro ⟨directory, tried, hload⟩
    have hloads := p.load_loads hread
    rw [hload] at hloads
    cases hloads with
    | none hall => exact hall
  · intro hall
    obtain ⟨told, -, hload⟩ := load_of_all_lack settings hall
    exact ⟨p.path, candidates, by rw [hload]⟩

end Trying

end Project

end SlideOverflow.Attribution
