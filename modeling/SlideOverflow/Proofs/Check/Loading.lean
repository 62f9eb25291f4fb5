import SlideOverflow.Check.Run
import SlideOverflow.Proofs.Attribution.Candidates

/-! How a check comes to its source. The first candidate that is a file with text in it is read; a
check without such a candidate goes on without a source, and warns once. -/
namespace SlideOverflow.Check

open Attribution Deck Text Project

variable {p : Project} {settings : Settings} {state : CheckState} {host : Host} {h : History}

def missingSource (p : Project) (candidates : List String) : LogEntry :=
  .warning ("Could not load project markdown: " ++
    (Failure.noSource p.path candidates).message)

private theorem loadSource_found {source : Source} (hproject : state.project = some p)
    (hnone : state.source = none)
    (hload : (p.load settings settings.sourceCandidates).1 = .ok source) :
    ∃ told, (loadSource settings state).run host h =
      (.ok { state with source := some source }, { h with log := h.log ++ told }) := by
  simp only [loadSource, hproject, hnone, hload]
  rw [Work.run_bind_ok (Work.run_tellAll host h _), Work.run_bind_ok (Work.run_tellAll host _ _),
    Work.run_pure, List.append_assoc, ← hproject]
  exact ⟨_, rfl⟩

private theorem loadSource_missing (hproject : state.project = some p) (hnone : state.source = none)
    (hall : ∀ c ∈ settings.sourceCandidates, p.Lacks c) :
    ∃ told, (loadSource settings state).run host h = (.ok state, { h with log := h.log ++ told }) ∧
      told.filter (·.level == .warning) = [missingSource p settings.sourceCandidates] := by
  obtain ⟨notes, hnotes, hload⟩ := load_of_all_lack settings hall
  refine ⟨notes ++ [missingSource p settings.sourceCandidates], ?_, ?_⟩
  · simp only [loadSource, hproject, hnone, hload]
    rw [Work.run_bind_ok (Work.run_tellAll host h _),
      Work.run_bind_ok (Work.run_tellAll host _ _), Work.run_pure, List.append_assoc]
    rfl
  · have hquiet : notes.filter (·.level == .warning) = [] := by
      rw [List.filter_eq_nil_iff]
      intro entry hentry hwarning
      exact hnotes entry hentry (eq_of_beq hwarning)
    rw [List.filter_append, hquiet]
    rfl

/-- The first candidate with a text is the source, whatever comes behind it, and there is none
exactly where no candidate holds a text. A candidate that is too long to be looked up ends the
search; without such candidates, whatever holds no text is passed over. -/
theorem loadSource_first {candidates : List String}
    (hread : p.HoldsPresentations settings candidates) :
    p.Loads settings candidates (p.load settings candidates).1 ∧
      ((∃ directory tried, (p.load settings candidates).1 = .error (.noSource directory tried)) ↔
        ∀ c ∈ candidates, p.Lacks c) ∧
      ((∀ c ∈ candidates, ¬ IsLong c) →
        ((∃ directory tried, (p.load settings candidates).1 = .error (.noSource directory tried)) ↔
          ∀ c ∈ candidates, ∀ text, ¬ p.Holds c text)) ∧
      (settings.sourceCandidates = candidates → ∀ state : CheckState, state.project = some p →
        state.source = none → ∀ host h,
          (∀ source, (p.load settings candidates).1 = .ok source →
            ∃ told, (loadSource settings state).run host h =
              (.ok { state with source := some source }, { h with log := h.log ++ told })) ∧
          ((∀ c ∈ candidates, p.Lacks c) →
            ∃ told, (loadSource settings state).run host h =
                (.ok state, { h with log := h.log ++ told }) ∧
              told.filter (·.level == .warning) = [missingSource p candidates])) := by
  refine ⟨p.load_loads hread, load_noSource_iff hread, fun hshort => ?_, ?_⟩
  · rw [load_noSource_iff hread]
    exact forall₂_congr fun c hc => lacks_iff (hshort c hc)
  · rintro rfl state hproject hnone host h
    exact ⟨fun source hload => loadSource_found hproject hnone hload,
      fun hall => loadSource_missing hproject hnone hall⟩

/-- The first candidate holds no text, and the second one has line ends of both other kinds. -/
theorem loadSource_first_of_index :
    let text := "# A\r\nB\r".toList
    let settings : Settings := {}
    let p : Project := ⟨"deck", [("slides.md", .file [0xFF]),
      ("index.md", .file (Utf8.encode text)), ("README.md", .directory)]⟩
    p.HoldsPresentations settings settings.sourceCandidates ∧ p.Holds "index.md" text ∧
      p.Loads settings settings.sourceCandidates (p.load settings settings.sourceCandidates).1 ∧
      ¬∃ directory tried, (p.load settings settings.sourceCandidates).1 =
        .error (.noSource directory tried) := by
  intro text settings p
  have hslides : p.Lacks "slides.md" := by
    have hfind : p.find? "slides.md" = .ok (some (.file [0xFF])) :=
      Outcome.toOption_eq_some_iff.mp (by decide +kernel)
    refine .illegible hfind fun other hencode => ?_
    cases Utf8.decode_eq_ok_iff.mpr hencode
  have hindex : p.Holds "index.md" text := Outcome.toOption_eq_some_iff.mp (by decide +kernel)
  have hreadme : p.Lacks "README.md" :=
    .directory (Outcome.toOption_eq_some_iff.mp (by decide +kernel))
  have hread : p.HoldsPresentations settings settings.sourceCandidates := by
    intro name hname other hholds
    simp only [settings, List.mem_cons, List.not_mem_nil, or_false] at hname
    rcases hname with rfl | rfl | rfl
    · exact absurd hholds hslides.not_holds
    · rw [hholds.unique hindex]
      obtain ⟨presentation, hread, -⟩ : ∃ presentation,
          (Presentation.read settings {} (withLineFeeds text)).1 = .ok presentation ∧
            presentation.totalLines = 3 := by
        decide +kernel
      exact ⟨presentation, hread⟩
    · exact absurd hholds hreadme.not_holds
  obtain ⟨hloads, hmissing, -⟩ := loadSource_first hread
  refine ⟨hread, hindex, hloads, fun hnone => ?_⟩
  exact (hmissing.mp hnone "index.md" (by decide)).not_holds hindex

/-- Nothing in the project has the name of the first candidate, but it is not passed over: it is too
long to be looked up. -/
theorem load_long_name :
    let long := String.ofList (List.replicate 256 'a')
    let text := "# A".toList
    let p : Project := ⟨"deck", [("slides.md", .file (Utf8.encode text))]⟩
    long ∉ p.entries.map (·.1) ∧ p.Holds "slides.md" text ∧
      (∃ presentation, (Presentation.read {} {} (withLineFeeds text)).1 = .ok presentation) ∧
      (p.load {} [long, "slides.md"]).1 = .error (.defect .longPath) := by
  intro long text p
  have hsteps : stepsOf long = [List.replicate 256 'a'] := by
    rw [stepsOf, String.toList_ofList]
    decide +kernel
  have hfind : (p.find? long).toOption = none := by
    rw [find?, hsteps, String.toList_ofList]
    decide +kernel
  have hlong : p.find? long = .error (.defect .longPath) := by
    cases h : p.find? long with
    | ok found =>
      rw [h] at hfind
      cases hfind
    | error e => rw [(find?_error h).1]
  obtain ⟨presentation, hread, -⟩ : ∃ presentation,
      (Presentation.read {} {} (withLineFeeds text)).1 = .ok presentation ∧
        presentation.totalLines = 1 := by
    decide +kernel
  refine ⟨by decide +kernel, ?_, ⟨presentation, hread⟩, congrArg Prod.fst (go_of_long hlong)⟩
  exact Outcome.toOption_eq_some_iff.mp (by decide +kernel)

end SlideOverflow.Check
