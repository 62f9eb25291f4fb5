import SlideOverflow.Proofs.Check.Sessions

/-! What the stages of a check write. Each of them has fields of its own, leaves the others alone
and does not build on what its own ones held before, except for a source that is loaded already. So
a check that goes through its stages again, from the state in which they have ended, ends there
again. -/
namespace SlideOverflow.Check

open Session Attribution

variable {settings : Settings} {state : CheckState} {host host' : Host} {h h' k : History}

/-! ### The fields of a stage -/

/-- A stage writes what `put` puts into a state. It leaves the rest of the state alone, and comes to
the same whatever was put there before. -/
structure Writes {α : Type} (put : α → CheckState → CheckState) (stage : Stage) : Prop where
  kept : ∀ {state host h done h'}, (stage state).run host h = (.ok done, h') →
    ∃ a, done = put a state
  blind : ∀ a state, stage (put a state) = stage state

def putCount (count : Int × List Int) (state : CheckState) : CheckState :=
  { state with totalSlides := count.1, pageRange := count.2 }

def putPages (c : ChunkResult) (state : CheckState) : CheckState :=
  { state with results := c.results, skipped := c.skipped }

def putResult (result : Option CheckResult) (state : CheckState) : CheckState :=
  { state with result := result }

private theorem writes_countSlides (settings : Settings) :
    Writes putCount (countSlides settings) where
  kept hrun := by
    obtain ⟨total, range, rfl⟩ := countSlides_kept hrun
    exact ⟨(total, range), rfl⟩
  blind _ _ := rfl

private theorem checkPages_kept {done : CheckState}
    (hrun : (checkPages settings state).run host h = (.ok done, h')) :
    ∃ c, done = putPages c state := by
  obtain ⟨parts, told, -, hpages⟩ := run_checkPages settings state host h
  rw [hpages] at hrun
  obtain ⟨outcomes, h₁, -, hrun⟩ := Work.run_bind_eq_ok_iff.mp hrun
  obtain ⟨all, h₂, -, hrun⟩ := Work.run_bind_eq_ok_iff.mp hrun
  cases hrun
  exact ⟨ChunkResult.concat all, rfl⟩

private theorem writes_checkPages (settings : Settings) :
    Writes putPages (checkPages settings) where
  kept := checkPages_kept
  blind c state := by
    simp only [checkPages, putPages, checkChunk_unread]

private theorem writes_aggregate : Writes putResult aggregate where
  kept hrun := ⟨_, (aggregate_spec hrun).2⟩
  blind _ _ := rfl

/-- A source that is loaded already is kept. -/
private theorem loadSource_loaded {source : Source} (hsource : state.source = some source) :
    loadSource settings state = pure state := by
  rw [loadSource, hsource]
  cases state.project <;> rfl

/-- Where a check goes on without a source, there is none to be loaded. -/
private theorem loadSource_unloaded {loaded : CheckState}
    (hrun : (loadSource settings state).run host h = (.ok loaded, h'))
    (hnone : loaded.source = none) :
    state.source = none ∧ ∀ project, state.project = some project →
      ∃ directory candidates, (project.load settings settings.sourceCandidates).1 =
        .error (.noSource directory candidates) := by
  cases hsource : state.source with
  | some source =>
    rw [loadSource_loaded hsource] at hrun
    cases hrun
    cases hsource.symm.trans hnone
  | none =>
    refine ⟨rfl, ?_⟩
    intro project hproject
    simp only [loadSource, hproject, hsource] at hrun
    rw [Work.run_bind_ok (Work.run_tellAll host h _)] at hrun
    split at hrun
    · cases hrun
      cases hnone
    · next directory candidates hload => exact ⟨directory, candidates, hload⟩
    · cases hrun

/-- A second attempt to load the source, in a state that the first one has led to, changes nothing:
there is a source by now, or there is none to be loaded. -/
private theorem loadSource_settled {loaded final : CheckState}
    (hrun : (loadSource settings state).run host h = (.ok loaded, h'))
    (hproject : final.project = loaded.project) (hsource : final.source = loaded.source) :
    ((loadSource settings final).run host' k).1 = .ok final := by
  cases hloaded : loaded.source with
  | some source => rw [loadSource_loaded (hsource.trans hloaded), Work.run_pure]
  | none =>
    obtain ⟨-, hmissing⟩ := loadSource_unloaded hrun hloaded
    obtain ⟨source, rfl⟩ := (loadSource_spec hrun).2 loaded rfl
    rw [loadSource, hproject, hsource, hloaded]
    cases hgiven : state.project with
    | none => rfl
    | some project =>
      obtain ⟨directory, candidates, hload⟩ := hmissing project hgiven
      dsimp only
      rw [Work.run_bind_ok (Work.run_tellAll host' k _), hload]
      rfl

/-! ### Works that repeat each other -/

def AnswersAlike (host : Host) (h : History) (host' : Host) (k : History) : Prop :=
  ∀ i, host' (k.sessions.length + i) = host (h.sessions.length + i)

private theorem AnswersAlike.congr {h₁ k₁ : History} (halike : AnswersAlike host h host' k)
    (hh : h₁.sessions = h.sessions) (hk : k₁.sessions = k.sessions) :
    AnswersAlike host h₁ host' k₁ := by
  intro i
  rw [hh, hk]
  exact halike i

/-- Where the first work comes to something, the second one comes to something related on pages that
answer the same. -/
private def Repeats {α β : Type} (r : α → β → Prop) (x : Work α) (y : Work β) : Prop :=
  ∀ ⦃host h host' k a h'⦄, AnswersAlike host h host' k → x.run host h = (.ok a, h') →
    ∃ b k', y.run host' k = (.ok b, k') ∧ r a b ∧ AnswersAlike host h' host' k'

namespace Repeats

variable {α β γ δ : Type} {r : α → β → Prop} {x : Work α} {y : Work β}

private theorem pure {a : α} {b : β} (hr : r a b) : Repeats r (pure a) (pure b) := by
  intro host h host' k a h' halike hrun
  cases hrun
  exact ⟨b, k, rfl, hr, halike⟩

private theorem bind {s : γ → δ → Prop} {f : α → Work γ} {g : β → Work δ} (hx : Repeats r x y)
    (hf : ∀ a b, r a b → Repeats s (f a) (g b)) : Repeats s (x >>= f) (y >>= g) := by
  intro host h host' k c h' halike hrun
  obtain ⟨a, h₁, hfirst, hrest⟩ := Work.run_bind_eq_ok_iff.mp hrun
  obtain ⟨b, k₁, hagain, hr, halike₁⟩ := hx halike hfirst
  obtain ⟨d, k', hagain', hs, halike'⟩ := hf a b hr halike₁ hrest
  exact ⟨d, k', (Work.run_bind_ok hagain).trans hagain', hs, halike'⟩

private theorem tellAll (entries : List LogEntry) :
    Repeats (fun _ _ => True) (Work.tellAll entries) (Work.tellAll entries) := by
  intro host h host' k _ h' halike hrun
  cases hrun
  exact ⟨(), _, rfl, trivial, halike⟩

private theorem ofOutcome (o : Outcome α) :
    Repeats (· = ·) (Work.ofOutcome o) (Work.ofOutcome o) := by
  intro host h host' k a h' halike hrun
  rw [Work.run_ofOutcome] at hrun
  cases hrun
  exact ⟨a, k, rfl, rfl, halike⟩

private theorem throw (e : Failure) : Repeats r (throw e) (throw e) := by
  intro host h host' k a h' halike hrun
  cases hrun

/-- A session starts anew, so what it comes to is up to its page. -/
private theorem observeSession (x : Activity α) :
    Repeats (· = ·) (Work.observeSession x) (Work.observeSession x) := by
  intro host h host' k o h' halike hrun
  have hpage : host' k.sessions.length = host h.sessions.length := halike 0
  cases hrun
  refine ⟨_, _, Work.run_observeSession host' k x, by rw [hpage]; rfl, ?_⟩
  intro i
  simp only [List.length_append, List.length_singleton, Nat.add_assoc]
  exact halike (1 + i)

private theorem inSession (x : Activity α) :
    Repeats (· = ·) (Work.inSession x) (Work.inSession x) := by
  refine (observeSession x).bind ?_
  rintro o _ rfl
  exact ofOutcome o

private theorem mapM {f : γ → Work α} (hf : ∀ c, Repeats (· = ·) (f c) (f c)) (l : List γ) :
    Repeats (· = ·) (l.mapM f) (l.mapM f) := by
  induction l with
  | nil => exact pure rfl
  | cons c l ih =>
    rw [List.mapM_cons]
    refine (hf c).bind fun a b hab => ih.bind fun as bs habs => pure ?_
    rw [hab, habs]

end Repeats

/-! ### The stages once more -/

section Stages

variable (settings : Settings) (state : CheckState)

/-- Counting the slides carries along what later stages have written. -/
private theorem countSlides_repeats (c : ChunkResult) (result : Option CheckResult) :
    Repeats (fun done again => again = putResult result (putPages c done))
      (countSlides settings state)
      (countSlides settings (putResult result (putPages c state))) := by
  refine (Repeats.inSession _).bind ?_
  rintro total _ rfl
  split
  · exact Repeats.throw .noSlides
  · refine (Repeats.ofOutcome _).bind ?_
    rintro range _ rfl
    exact (Repeats.tellAll _).bind fun _ _ _ => Repeats.pure rfl

private theorem checkPages_repeats (result : Option CheckResult) :
    Repeats (fun done again => again = putResult result done)
      (checkPages settings state) (checkPages settings (putResult result state)) := by
  simp only [checkPages, putResult, checkChunk_unread]
  refine (Repeats.ofOutcome _).bind ?_
  rintro parts _ rfl
  have hrest : Repeats (fun done again => again = putResult result done) (do
      let outcomes ← parts.mapM fun part => Work.observeSession (checkChunk settings state part)
      let done ← outcomes.mapM Work.ofOutcome
      return putPages (ChunkResult.concat done) state) (do
      let outcomes ← parts.mapM fun part => Work.observeSession (checkChunk settings state part)
      let done ← outcomes.mapM Work.ofOutcome
      return putResult result (putPages (ChunkResult.concat done) state)) := by
    refine (Repeats.mapM (fun part => .observeSession _) parts).bind ?_
    rintro outcomes _ rfl
    refine (Repeats.mapM .ofOutcome outcomes).bind ?_
    rintro done _ rfl
    exact Repeats.pure rfl
  split
  · exact (Repeats.tellAll _).bind fun _ _ _ => hrest
  · exact hrest

private theorem aggregate_repeats : Repeats (· = ·) (aggregate state) (aggregate state) :=
  (Repeats.tellAll _).bind fun _ _ _ => Repeats.pure rfl

end Stages

/-- What the stages behind the first one have written when they end. -/
private theorem stages_written {loaded final : CheckState}
    (hrun : (countSlides settings loaded >>= fun counted =>
      checkPages settings counted >>= aggregate).run host h = (.ok final, h')) :
    ∃ n c result h₁ h₂,
      (countSlides settings loaded).run host h = (.ok (putCount n loaded), h₁) ∧
      (checkPages settings (putCount n loaded)).run host h₁ =
        (.ok (putPages c (putCount n loaded)), h₂) ∧
      (aggregate (putPages c (putCount n loaded))).run host h₂ = (.ok final, h') ∧
      final = putResult result (putPages c (putCount n loaded)) := by
  obtain ⟨counted, h₁, hcount, hrun⟩ := Work.run_bind_eq_ok_iff.mp hrun
  obtain ⟨checked, h₂, hcheck, haggregate⟩ := Work.run_bind_eq_ok_iff.mp hrun
  obtain ⟨n, rfl⟩ := (writes_countSlides settings).kept hcount
  obtain ⟨c, rfl⟩ := (writes_checkPages settings).kept hcheck
  obtain ⟨result, rfl⟩ := writes_aggregate.kept haggregate
  exact ⟨n, c, result, h₁, h₂, hcount, hcheck, haggregate, rfl⟩

/-- The stages behind the first one go through the state in which they have ended once more. -/
private theorem stages_again {loaded final : CheckState}
    (hrun : (countSlides settings loaded >>= fun counted =>
      checkPages settings counted >>= aggregate).run host h = (.ok final, h'))
    (halike : AnswersAlike host h host' k) :
    ∃ k', (countSlides settings final >>= fun counted =>
      checkPages settings counted >>= aggregate).run host' k = (.ok final, k') := by
  obtain ⟨n, c, result, h₁, h₂, hcount, hcheck, haggregate, rfl⟩ := stages_written hrun
  obtain ⟨_, k₁, hcount', rfl, halike₁⟩ :=
    countSlides_repeats settings loaded c result halike hcount
  obtain ⟨_, k₂, hcheck', rfl, halike₂⟩ :=
    checkPages_repeats settings (putCount n loaded) result halike₁ hcheck
  obtain ⟨_, k₃, haggregate', rfl, -⟩ := aggregate_repeats _ halike₂ haggregate
  -- Each stage starts from the final state, and what is there in its own fields does not matter.
  rw [← (writes_countSlides settings).blind n] at hcount'
  rw [← (writes_checkPages settings).blind c] at hcheck'
  rw [← writes_aggregate.blind result] at haggregate'
  exact ⟨k₃, (Work.run_bind_ok hcount').trans ((Work.run_bind_ok hcheck').trans haggregate')⟩

private theorem pipeline_again {final : CheckState}
    (hrun : (pipeline (stages settings) state).run host h = (.ok final, h'))
    (halike : AnswersAlike host h host' k) :
    ∃ k', (pipeline (stages settings) final).run host' k = (.ok final, k') := by
  rw [pipeline_stages] at hrun ⊢
  obtain ⟨loaded, h₁, hload, hrest⟩ := Work.run_bind_eq_ok_iff.mp hrun
  have hsettled : ((loadSource settings final).run host' k).1 = .ok final := by
    obtain ⟨n, c, result, h₂, h₃, -, -, -, rfl⟩ := stages_written hrest
    exact loadSource_settled hload rfl rfl
  have hload' : (loadSource settings final).run host' k =
      (.ok final, ((loadSource settings final).run host' k).2) := Prod.ext hsettled rfl
  have halike' := halike.congr (loadSource_sessions hload) (loadSource_sessions hload')
  obtain ⟨k', hagain⟩ := stages_again hrest halike'
  exact ⟨k', (Work.run_bind_ok hload').trans hagain⟩

/-- The stages of a check write their own fields, whatever these held before, and nothing else. A
check on pages that answer the same, from the state that its stages have ended in, comes to the same
result again, and to no more. -/
theorem stages_write_own (settings : Settings) :
    (∀ {state host h loaded h'}, (loadSource settings state).run host h = (.ok loaded, h') →
      (∃ source, loaded = { state with source := source }) ∧
        ∀ source, state.source = some source → loaded = state) ∧
    Writes putCount (countSlides settings) ∧
    Writes putPages (checkPages settings) ∧
    Writes putResult aggregate ∧
    ∀ {state host h result h'}, (check settings state).run host h = (.ok result, h') →
      ∃ final, (pipeline (stages settings) state).run host h = (.ok final, h') ∧
        ∀ {host' k}, AnswersAlike host h host' k →
          ∃ k', (pipeline (stages settings) final).run host' k = (.ok final, k') ∧
            (check settings final).run host' k = (.ok result, k') := by
  refine ⟨fun hrun => ⟨(loadSource_spec hrun).2 _ rfl, ?_⟩, writes_countSlides settings,
    writes_checkPages settings, writes_aggregate, ?_⟩
  · intro source hsource
    rw [loadSource_loaded hsource] at hrun
    cases hrun
    rfl
  · intro state host h result h' hrun
    obtain ⟨final, hpipeline, hresult⟩ := check_ok_iff.mp hrun
    refine ⟨final, hpipeline, fun {host' k} halike => ?_⟩
    obtain ⟨k', hagain⟩ := pipeline_again hpipeline halike
    exact ⟨k', hagain, check_ok_iff.mpr ⟨final, hagain, hresult⟩⟩

/-- Two workers find a scrollbar, and find it once again. -/
theorem stages_write_own_of_scrolling :
    let state : CheckState :=
      { CheckState.ofSettings {} "http://localhost:3030" with
        concurrency := 2
        detection := { text := false, element := false } }
    ∃ result h' final k', (check {} state).run (fun _ => scrolling) {} = (.ok result, h') ∧
      result.slidesWithIssues = [4] ∧
      (pipeline (stages {}) state).run (fun _ => scrolling) {} = (.ok final, h') ∧
      (check {} final).run (fun _ => scrolling) h' = (.ok result, k') := by
  intro state
  have hissues : ((check {} state).run (fun _ => scrolling) {}).1.toOption.map
      (·.slidesWithIssues) = some [4] := by
    decide +kernel
  rcases hrun : (check {} state).run (fun _ => scrolling) {} with ⟨outcome, h'⟩
  rw [hrun] at hissues
  cases outcome with
  | error e => cases hissues
  | ok result =>
    obtain ⟨-, -, -, -, hagain⟩ := stages_write_own {}
    obtain ⟨final, hfinal, hagain⟩ := hagain hrun
    have halike : AnswersAlike (fun _ => scrolling) {} (fun _ => scrolling) h' := fun _ => rfl
    obtain ⟨k', -, hcheck⟩ := hagain halike
    exact ⟨result, h', final, k', rfl, Option.some.inj hissues, hfinal, hcheck⟩

end SlideOverflow.Check
