import SlideOverflow.Proofs.Check.Conservation
import SlideOverflow.Proofs.Session.Browser

/-! The sessions of a check in browsers of their own. However a check ends, each session that it has
opened has gone in an orderly way, so every browser that was launched is closed; and what fails in a
check fails in one of its sessions, or is known before the first or behind the last of them. -/
namespace SlideOverflow.Check

open Session Attribution

variable {settings : Settings} {state : CheckState}

/-! ### What is done in a session -/

section Activities

variable {page : Page} {expected : List Call → Failure → Prop}

/-- Expectations that cover every way in which the check of a slide can end a session. -/
structure Foresees (page : Page) (state : CheckState) (expected : List Call → Failure → Prop) : Prop
    extends Covers page state.detection expected where
  attribution : ∀ calls request snapshot issues, page calls (.snapshot request) = .ok snapshot →
    snapshot ≠ .null → state.detection.issues snapshot = .ok issues →
    ∀ source, state.source = some source → ∀ n e, (source.enrichAll n issues).1 = .error e →
    ∀ calls', expected calls' e

private theorem conducts_attributeIssues {source : Option Source} {n : Int} {issues : List Issue}
    (h : ∀ s, source = some s → ∀ e, (s.enrichAll n issues).1 = .error e →
      ∀ calls, expected calls e) :
    Conducts page expected (attributeIssues source n issues) := by
  cases source with
  | none => exact .pure issues
  | some s =>
    have htold : Conducts page expected ((s.enrichAll n issues).2.forM Activity.tell) :=
      .forM fun entry _ => .tell entry
    apply htold.bind
    intro _ t
    apply Behaves.ofOutcome
    intro e he
    exact h s rfl e he _

private theorem conducts_checkSlide (h : Foresees page state expected) (n : Int) :
    Conducts page (OrSkips expected) (checkSlide settings state n) := by
  intro s
  apply (conducts_navigate h.toCovers _ n s).bind
  intro _ _
  have hdetect : Conducts page (OrSkips expected) (detect settings state.detection) := by
    apply (conducts_detect h.toCovers settings).imp
    rintro calls e (he | ⟨message, rfl⟩)
    · exact .inl he
    · exact .inr (.page message)
  apply (hdetect _).bind
  intro issues hissues
  obtain ⟨calls, request, snapshot, hanswer, hsome, hfound⟩ :=
    detect_answered (Prod.ext hissues rfl)
  have hattribute : Conducts page (OrSkips expected) (attributeIssues state.source n issues) := by
    apply conducts_attributeIssues
    intro source hsource e he calls'
    exact .inl (h.attribution _ _ _ _ hanswer hsome hfound source hsource n e he calls')
  exact (hattribute.bind fun _ => .pure _) _

private theorem conducts_checkOrSkip (h : Foresees page state expected) (n : Int) :
    Conducts page expected (checkOrSkip settings state n) := by
  apply (Conducts.tell _).bind
  intro _ s
  have hcheck := @conducts_checkSlide settings _ _ _ h n s
  apply hcheck.observe_bind
  have hskip (entry : LogEntry) (t : Journal) : Behaves page expected t (do
      Activity.tell entry
      return (none : Option SlideResult)) :=
    ((Conducts.tell entry).bind fun _ => .pure none) t
  cases ho : ((checkSlide settings state n).run page s).1 with
  | ok result =>
    dsimp only
    split
    · exact ((Conducts.tell _).bind fun _ => .pure (some result)) _
    · exact Conducts.pure (some result) _
  | error e =>
    have he := hcheck.failure e ho
    cases e with
    | page message => exact hskip _ _
    | unreachable m message => exact hskip _ _
    | _ =>
      apply Behaves.throw
      apply he.resolve_right
      intro hskips
      cases hskips

private theorem conducts_checkSlides (h : Foresees page state expected) (slides : List Int) :
    Conducts page expected (checkSlides settings state slides) := by
  induction slides with
  | nil => exact .pure _
  | cons n slides ih =>
    apply (conducts_checkOrSkip h n).bind
    intro result
    apply ih.bind
    intro rest
    cases result with
    | none => exact .pure _
    | some r => exact .pure _

/-- A chunk is checked in a session that goes as described. -/
private theorem goes_checkChunk (hopening : state.opening = .browser)
    (h : Foresees page state expected) {chunk : List Int} {o : Outcome ChunkResult} {s : Journal}
    (hrun : (checkChunk settings state chunk).run page {} = (o, s)) :
    Goes settings state.address page expected s.calls o := by
  rw [checkChunk, hopening] at hrun
  refine goes_within ?_ hrun
  apply (conducts_awaitReady h.toCovers _).bind
  intro _
  apply Conducts.bind
  · exact .modify _ fun _ => rfl
  · intro _
    exact conducts_checkSlides h chunk

end Activities

/-! ### Histories -/

variable {host : Host} {h h₁ h₂ : History} {n m : Nat} {address : String}
  {expected : Page → List Call → Failure → Prop} {e : Failure}

/-- Between two histories so many sessions were opened, each of which has gone in an orderly way. -/
structure Opened (settings : Settings) (host : Host) (n : Nat) (h h' : History) : Prop where
  kept : h.sessions <+: h'.sessions
  count : h'.sessions.length = h.sessions.length + n
  orderly : ∀ k calls, h.sessions.length ≤ k → h'.sessions[k]? = some calls →
    Orderly settings (host k) calls

def Blamed (settings : Settings) (address : String) (host : Host)
    (expected : Page → List Call → Failure → Prop) (h h' : History) (e : Failure) : Prop :=
  ∃ k calls, h.sessions.length ≤ k ∧ h'.sessions[k]? = some calls ∧
    Fails settings address (host k) (expected (host k)) calls e

theorem Opened.none (hsame : h₁.sessions = h.sessions) : Opened settings host 0 h h₁ := by
  refine ⟨hsame ▸ List.prefix_rfl, by rw [hsame, Nat.add_zero], ?_⟩
  intro k calls hk hcalls
  rw [hsame, List.getElem?_eq_none hk] at hcalls
  cases hcalls

/-- Only the sessions of a history count. -/
theorem Opened.congr {h' h₁' : History} (hopened : Opened settings host n h h₁)
    (hbefore : h'.sessions = h.sessions) (hafter : h₁'.sessions = h₁.sessions) :
    Opened settings host n h' h₁' := by
  obtain ⟨hkept, hcount, horderly⟩ := hopened
  constructor
  · rwa [hbefore, hafter]
  · rwa [hbefore, hafter]
  · rwa [hbefore, hafter]

theorem Opened.trans (hfirst : Opened settings host n h h₁)
    (hsecond : Opened settings host m h₁ h₂) : Opened settings host (n + m) h h₂ := by
  refine ⟨hfirst.kept.trans hsecond.kept, ?_, ?_⟩
  · rw [hsecond.count, hfirst.count, Nat.add_assoc]
  · intro k calls hk hcalls
    by_cases hlt : k < h₁.sessions.length
    · obtain ⟨later, hlater⟩ := hsecond.kept
      rw [← hlater, List.getElem?_append_left hlt] at hcalls
      exact hfirst.orderly k calls hk hcalls
    · exact hsecond.orderly k calls (by omega) hcalls

theorem Blamed.earlier (hearlier : h.sessions <+: h₁.sessions)
    (hblamed : Blamed settings address host expected h₁ h₂ e) :
    Blamed settings address host expected h h₂ e := by
  obtain ⟨k, calls, hk, hcalls, hfails⟩ := hblamed
  exact ⟨k, calls, Nat.le_trans hearlier.length_le hk, hcalls, hfails⟩

theorem Blamed.later (hlater : h₁.sessions <+: h₂.sessions)
    (hblamed : Blamed settings address host expected h h₁ e) :
    Blamed settings address host expected h h₂ e := by
  obtain ⟨k, calls, hk, hcalls, hfails⟩ := hblamed
  refine ⟨k, calls, hk, ?_, hfails⟩
  obtain ⟨later, hsessions⟩ := hlater
  have hlt : k < h₁.sessions.length := (List.getElem?_eq_some_iff.mp hcalls).1
  rw [← hsessions, List.getElem?_append_left hlt, hcalls]

/-! ### Stages -/

section Stages

variable {α β : Type}

/-- A new session goes as what is done in it does. -/
private theorem observeSession_opened {x : Activity α} {o : Outcome α} {s : Journal}
    (hx : x.run (host h.sessions.length) {} = (o, s))
    (hgoes : Goes settings address (host h.sessions.length) (expected (host h.sessions.length))
      s.calls o) :
    ∃ h', (Work.observeSession x).run host h = (.ok o, h') ∧ Opened settings host 1 h h' ∧
      ∀ e, o = .error e → Blamed settings address host expected h h' e := by
  refine ⟨_, by rw [Work.run_observeSession, hx], ⟨List.prefix_append _ _, by simp, ?_⟩, ?_⟩
  · intro k calls hk hcalls
    rw [List.getElem?_append_right hk, List.getElem?_singleton] at hcalls
    split at hcalls
    · next hzero =>
      cases hcalls
      have hlast : k = h.sessions.length := by omega
      exact hlast ▸ hgoes.orderly
    · cases hcalls
  · intro e he
    exact ⟨_, _, Nat.le_refl _, by simp, hgoes.failure e he⟩

/-- Every part is done in a session of its own, whatever the others come to. -/
private theorem observeSessions_opened {f : β → Activity α}
    (hf : ∀ k b o s, (f b).run (host k) {} = (o, s) →
      Goes settings address (host k) (expected (host k)) s.calls o) (parts : List β)
    (h : History) :
    ∃ outcomes h', (parts.mapM fun b => Work.observeSession (f b)).run host h = (.ok outcomes, h') ∧
      Opened settings host parts.length h h' ∧
      ∀ e, .error e ∈ outcomes → Blamed settings address host expected h h' e := by
  induction parts generalizing h with
  | nil => exact ⟨[], h, rfl, .none rfl, fun e he => absurd he List.not_mem_nil⟩
  | cons b parts ih =>
    rcases hrun : (f b).run (host h.sessions.length) {} with ⟨o, s⟩
    obtain ⟨h₁, hfirst, hopened₁, hblamed₁⟩ := observeSession_opened hrun (hf _ b o s hrun)
    obtain ⟨outcomes, h₂, hrest, hopened₂, hblamed₂⟩ := ih h₁
    refine ⟨o :: outcomes, h₂, ?_, ?_, ?_⟩
    · rw [List.mapM_cons, Work.run_bind, hfirst]
      simp only [Work.run_bind]
      rw [hrest]
      rfl
    · rw [List.length_cons, Nat.add_comm]
      exact hopened₁.trans hopened₂
    · intro e he
      rcases List.mem_cons.mp he with rfl | he
      · exact (hblamed₁ e rfl).later hopened₂.kept
      · exact (hblamed₂ e he).earlier hopened₁.kept

theorem countSlides_opened (hopening : state.opening = .browser)
    (hcovers : ∀ k, Covers (host k) state.detection (expected (host k))) {o : Outcome CheckState}
    (hrun : (countSlides settings state).run host h = (o, h₁)) :
    Opened settings host 1 h h₁ ∧ ∀ e, o = .error e →
      e = .noSlides ∨ (∃ total, pageRange state.pages total = .error e) ∨
        Blamed settings state.address host expected h h₁ e := by
  rcases hsession : (within settings state.opening state.address do
    awaitReady (state.pace settings)
    readTotal).run (host h.sessions.length) {} with ⟨counted, s⟩
  have hgoes : Goes settings state.address (host h.sessions.length)
      (expected (host h.sessions.length)) s.calls counted := by
    rw [hopening] at hsession
    refine goes_within ?_ hsession
    exact (conducts_awaitReady (hcovers _) _).bind fun _ => conducts_readTotal (hcovers _)
  obtain ⟨h', hobserved, hopened, hblamed⟩ := observeSession_opened hsession hgoes
  have hcounted : (Work.inSession (within settings state.opening state.address do
      awaitReady (state.pace settings)
      readTotal)).run host h = (counted, h') := by
    rw [Work.inSession, Work.run_bind_ok hobserved, Work.run_ofOutcome]
  -- What comes behind the session leaves the sessions as they are.
  have hfail {e : Failure} (he : e = .noSlides ∨ (∃ total, pageRange state.pages total = .error e) ∨
      Blamed settings state.address host expected h h' e) (e' : Failure)
      (heq : (.error e : Outcome CheckState) = .error e') :
      e' = .noSlides ∨ (∃ total, pageRange state.pages total = .error e') ∨
        Blamed settings state.address host expected h h' e' := by
    cases heq
    exact he
  rw [countSlides] at hrun
  cases counted with
  | error e =>
    rw [Work.run_bind_error hcounted] at hrun
    cases hrun
    exact ⟨hopened, hfail (.inr (.inr (hblamed e rfl)))⟩
  | ok total =>
    rw [Work.run_bind_ok hcounted] at hrun
    by_cases hzero : total = 0
    · rw [if_pos hzero] at hrun
      cases hrun
      exact ⟨hopened, hfail (.inl rfl)⟩
    · rw [if_neg hzero, Work.run_bind, Work.run_ofOutcome] at hrun
      cases hrange : pageRange state.pages total with
      | error e =>
        rw [hrange] at hrun
        cases hrun
        exact ⟨hopened, hfail (.inr (.inl ⟨total, hrange⟩))⟩
      | ok range =>
        rw [hrange] at hrun
        cases hrun
        refine ⟨hopened.congr rfl rfl, ?_⟩
        intro e he
        cases he

theorem checkPages_opened (hopening : state.opening = .browser)
    (hforesees : ∀ k, Foresees (host k) state (expected (host k))) {o : Outcome CheckState}
    (hrun : (checkPages settings state).run host h = (o, h₁)) :
    ∃ parts, chunks state.pageRange (max 1 (min state.concurrency state.pageRange.length)) =
        .ok parts ∧ Opened settings host parts.length h h₁ ∧
      ∀ e, o = .error e → Blamed settings state.address host expected h h₁ e := by
  obtain ⟨parts, told, hchunks, hpages⟩ := run_checkPages settings state host h
  refine ⟨parts, hchunks, ?_⟩
  rw [hpages, checkParts] at hrun
  obtain ⟨outcomes, h₂, hparts, hopened, hblamed⟩ :=
    observeSessions_opened (f := checkChunk settings state)
      (fun k part o s hpart => goes_checkChunk hopening (hforesees k) hpart) parts
      { h with log := h.log ++ told }
  rw [Work.run_bind_ok hparts] at hrun
  have hdone := run_ofOutcomes id outcomes host h₂
  rw [List.map_id] at hdone
  cases hall : outcomes.mapM id with
  | error e =>
    rw [hall] at hdone
    rw [Work.run_bind_error hdone] at hrun
    cases hrun
    refine ⟨hopened.congr rfl rfl, ?_⟩
    intro e' he
    cases he
    obtain ⟨front, o, rest, rfl, ho, _⟩ := Outcome.exists_first_error hall
    have hmem : .error e ∈ front ++ o :: rest := by
      rw [← ho]
      exact List.mem_append_right _ List.mem_cons_self
    exact hblamed e hmem
  | ok done =>
    rw [hall] at hdone
    rw [Work.run_bind_ok hdone] at hrun
    cases hrun
    refine ⟨hopened.congr rfl rfl, ?_⟩
    intro e he
    cases he

end Stages

/-! ### The whole check -/

private theorem loadSource_opening {loaded : CheckState}
    (hrun : (loadSource settings state).run host h = (.ok loaded, h₁)) :
    loaded.opening = state.opening := by
  obtain ⟨source, rfl⟩ := (loadSource_spec hrun).2 loaded rfl
  rfl

theorem countSlides_kept {counted : CheckState}
    (hrun : (countSlides settings state).run host h = (.ok counted, h₁)) :
    ∃ total range, counted = { state with totalSlides := total, pageRange := range } := by
  obtain ⟨total, h₂, _, hrun⟩ := Work.run_bind_eq_ok_iff.mp hrun
  split at hrun
  · cases hrun
  · obtain ⟨range, h₃, _, hrun⟩ := Work.run_bind_eq_ok_iff.mp hrun
    obtain ⟨_, h₄, _, hrun⟩ := Work.run_bind_eq_ok_iff.mp hrun
    cases hrun
    exact ⟨total, range, rfl⟩

inductive Ends (settings : Settings) (state : CheckState) (host : Host) (h : History) :
    Outcome CheckResult → History → Prop where
  | loading {e : Failure} {h₁ : History} :
      (loadSource settings state).run host h = (.error e, h₁) →
      Ends settings state host h (.error e) h₁
  | counting {loaded : CheckState} {e : Failure} {h₁ h₂ : History} :
      (loadSource settings state).run host h = (.ok loaded, h₁) →
      (countSlides settings loaded).run host h₁ = (.error e, h₂) →
      Ends settings state host h (.error e) h₂
  | checking {loaded counted : CheckState} {e : Failure} {h₁ h₂ h₃ : History} :
      (loadSource settings state).run host h = (.ok loaded, h₁) →
      (countSlides settings loaded).run host h₁ = (.ok counted, h₂) →
      (checkPages settings counted).run host h₂ = (.error e, h₃) →
      Ends settings state host h (.error e) h₃
  | done {loaded counted checked : CheckState} {result : CheckResult} {h₁ h₂ h₃ h₄ : History} :
      (loadSource settings state).run host h = (.ok loaded, h₁) →
      (countSlides settings loaded).run host h₁ = (.ok counted, h₂) →
      (checkPages settings counted).run host h₂ = (.ok checked, h₃) →
      h₄.sessions = h₃.sessions → Ends settings state host h (.ok result) h₄

theorem pipeline_stages (settings : Settings) (state : CheckState) :
    pipeline (stages settings) state = (do
      let loaded ← loadSource settings state
      let counted ← countSlides settings loaded
      let checked ← checkPages settings counted
      aggregate checked) := by
  simp only [pipeline, stages, List.foldlM_cons, List.foldlM_nil, bind_pure]

theorem check_ends (settings : Settings) (state : CheckState) (host : Host) (h : History) :
    Ends settings state host h ((check settings state).run host h).1
      ((check settings state).run host h).2 := by
  unfold check
  rw [pipeline_stages]
  simp only [bind_assoc]
  rcases hload : (loadSource settings state).run host h with ⟨e | loaded, h₁⟩
  · rw [Work.run_bind_error hload]
    exact .loading hload
  rw [Work.run_bind_ok hload]
  rcases hcount : (countSlides settings loaded).run host h₁ with ⟨e | counted, h₂⟩
  · rw [Work.run_bind_error hcount]
    exact .counting hload hcount
  rw [Work.run_bind_ok hcount]
  rcases hcheck : (checkPages settings counted).run host h₂ with ⟨e | checked, h₃⟩
  · rw [Work.run_bind_error hcheck]
    exact .checking hload hcount hcheck
  rw [Work.run_bind_ok hcheck]
  exact .done hload hcount hcheck rfl

private theorem pipeline_counted (settings : Settings) (state : CheckState) :
    pipeline [loadSource settings, countSlides settings] state =
      loadSource settings state >>= countSlides settings := by
  simp only [pipeline, List.foldlM_cons, List.foldlM_nil, bind_pure]

private theorem counted_unique {loaded counted : CheckState} {o : Outcome CheckState} {h₃ : History}
    (hload : (loadSource settings state).run host h = (.ok loaded, h₁))
    (hcount : (countSlides settings loaded).run host h₁ = (o, h₂))
    (hrun : (pipeline [loadSource settings, countSlides settings] state).run host h =
      (.ok counted, h₃)) :
    o = .ok counted := by
  rw [pipeline_counted, Work.run_bind_ok hload, hcount] at hrun
  exact congrArg Prod.fst hrun

private def Anything (_ : Page) (_ : List Call) (_ : Failure) : Prop := True

private theorem foresees_anything (page : Page) (state : CheckState) :
    Foresees page state (Anything page) where
  notLoaded _ _ := trivial
  notVisible _ _ := trivial
  slideVanished _ := trivial
  total _ _ _ _ _ := trivial
  census _ _ _ _ _ := trivial
  snapshot _ _ _ _ _ _ _ _ := trivial
  attribution _ _ _ _ _ _ _ _ _ _ _ _ _ := trivial

/-- The sessions of a check whose slides were counted: one for counting them, and one for each
chunk, whatever comes of the chunks. -/
private theorem checkPages_sessions (hopening : state.opening = .browser)
    {loaded counted : CheckState} {h₃ : History} {o : Outcome CheckState}
    (hload : (loadSource settings state).run host h = (.ok loaded, h₁))
    (hcount : (countSlides settings loaded).run host h₁ = (.ok counted, h₂))
    (hcheck : (checkPages settings counted).run host h₂ = (o, h₃)) :
    ∃ parts, chunks counted.pageRange (max 1 (min counted.concurrency counted.pageRange.length)) =
      .ok parts ∧ Opened settings host (1 + parts.length) h h₃ := by
  have hloaded : loaded.opening = .browser := (loadSource_opening hload).trans hopening
  obtain ⟨total, range, hcounted⟩ := countSlides_kept hcount
  have hopening' : counted.opening = .browser := by rwa [hcounted]
  obtain ⟨hfirst, _⟩ := countSlides_opened hloaded
    (fun k => (foresees_anything (host k) loaded).toCovers) hcount
  obtain ⟨parts, hparts, hrest, _⟩ := checkPages_opened hopening'
    (fun k => foresees_anything (host k) counted) hcheck
  exact ⟨parts, hparts, (hfirst.congr (loadSource_sessions hload).symm rfl).trans hrest⟩

/-- Every browser that a check has launched is closed, once and by the last call of its session,
however the check ends. Once the slides are counted, there is one session more than there are
chunks, whether all of them succeed or not. -/
theorem check_opened (hopening : state.opening = .browser) {o : Outcome CheckResult}
    {h' : History} (hrun : (check settings state).run host h = (o, h')) :
    ∃ opened, Opened settings host opened h h' ∧ ∀ counted h₂,
      (pipeline [loadSource settings, countSlides settings] state).run host h = (.ok counted, h₂) →
      ∃ parts, chunks counted.pageRange (max 1 (min counted.concurrency counted.pageRange.length)) =
        .ok parts ∧ opened = 1 + parts.length := by
  have hends := check_ends settings state host h
  rw [hrun] at hends
  cases hends with
  | loading hload =>
    refine ⟨0, .none (loadSource_sessions hload), ?_⟩
    intro counted h₂ hcounted
    rw [pipeline_counted, Work.run_bind_error hload] at hcounted
    cases hcounted
  | counting hload hcount =>
    have hloaded := (loadSource_opening hload).trans hopening
    obtain ⟨hopened, _⟩ := countSlides_opened hloaded
      (fun k => (foresees_anything (host k) _).toCovers) hcount
    refine ⟨1, hopened.congr (loadSource_sessions hload).symm rfl, ?_⟩
    intro counted h₂ hcounted
    cases counted_unique hload hcount hcounted
  | checking hload hcount hcheck =>
    obtain ⟨parts, hparts, hopened⟩ := checkPages_sessions hopening hload hcount hcheck
    refine ⟨_, hopened, ?_⟩
    intro counted h₂ hcounted
    cases counted_unique hload hcount hcounted
    exact ⟨parts, hparts, rfl⟩
  | done hload hcount hcheck hsame =>
    obtain ⟨parts, hparts, hopened⟩ := checkPages_sessions hopening hload hcount hcheck
    refine ⟨_, hopened.congr rfl hsame, ?_⟩
    intro counted h₂ hcounted
    cases counted_unique hload hcount hcounted
    exact ⟨parts, hparts, rfl⟩

/-- Four slides, of which the second one cannot be reached and the third one is blank: no slide is
found when it is shown. -/
def blank : Page := fun calls c =>
  match c with
  | .total => .ok (.ofInt 4)
  | .census => if shown calls = 3 then .ok (.record []) else patchy.page calls .census
  | c => patchy.page calls c

/-- The second of two workers fails. All three browsers are closed. -/
theorem check_opened_of_blank :
    let state : CheckState :=
      { CheckState.ofSettings {} "http://localhost:3030" with concurrency := 2 }
    ∃ h', (check {} state).run (fun _ => blank) {} = (.error (.noActiveSlide ""), h') ∧
      Opened {} (fun _ => blank) 3 {} h' := by
  intro state
  have hfailure : (match ((check {} state).run (fun _ => blank) {}).1 with
      | .error e => some e
      | .ok _ => none) = some (.noActiveSlide "") := by
    decide +kernel
  have hcount : ((check {} state).run (fun _ => blank) {}).2.sessions.length = 3 := by
    decide +kernel
  rcases hrun : (check {} state).run (fun _ => blank) {} with ⟨o, h'⟩
  rw [hrun] at hfailure hcount
  obtain ⟨opened, hopened, _⟩ := check_opened rfl hrun
  have hthree : opened = 3 := by
    rw [← hcount, hopened.count]
    exact (Nat.zero_add opened).symm
  cases o with
  | error e =>
    cases hfailure
    exact ⟨h', rfl, hthree ▸ hopened⟩
  | ok result => cases hfailure

end SlideOverflow.Check
