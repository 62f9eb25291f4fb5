import SlideOverflow.Proofs.Check.Sessions
import SlideOverflow.Proofs.Inspection.ActiveSlide
import SlideOverflow.Proofs.Inspection.Snapshot

/-! How a check fails. On pages whose answers are well-formed a check comes to a result or to one of
a few documented failures, unless the address of the presentation cannot be loaded, or the address
of a page holds a number that is too long to be read. -/
namespace SlideOverflow.Check

open Number Session Inspection Attribution Deck Outcome Json

variable {settings : Settings} {state : CheckState} {host : Host} {h h' : History} {page : Page}

/-- The failures that a check is documented to end with: the presentation is not ready, no slide is
active, or the page range cannot be read. -/
inductive Documented : Failure → Prop where
  | notLoaded (message : String) : Documented (.notLoaded message)
  | notVisible (message : String) : Documented (.notVisible message)
  | noSlides : Documented .noSlides
  | noActiveSlide (address : String) : Documented (.noActiveSlide address)
  | slideVanished : Documented .slideVanished
  | badPageNumber (part : String) : Documented (.badPageNumber part)
  | badPageRange (part : String) : Documented (.badPageRange part)

/-- A page that can be opened and closed, and whose answers are well-formed. Every other call may
fail, each time that it is made. -/
structure Responds (settings : Settings) (page : Page) : Prop where
  launch : ∃ answer, page [] (launchCall settings) = .ok answer
  newPage : ∃ answer, page [launchCall settings] (pageCall settings) = .ok answer
  close : ∀ calls, ∃ answer, page calls .close = .ok answer
  total : ∀ calls answer, page calls .total = .ok answer →
    answer = .null ∨ ∃ n, answer = .ofInt n
  census : ∀ calls answer, page calls .census = .ok answer → WellFormedCensus answer
  snapshot : ∀ calls request answer, page calls (.snapshot request) = .ok answer →
    WellFormedSnapshot answer

/-- The failures that are not documented, with the calls of the session that they come from. -/
inductive Escapes (settings : Settings) (address : String) (page : Page) :
    List Call → Failure → Prop where
  /-- The address is not loaded, and the message of the page comes through as it is. -/
  | notLoaded {message : String} :
      page [launchCall settings, pageCall settings] (gotoCall address) = .error message →
      Escapes settings address page
        [launchCall settings, pageCall settings, gotoCall address, .close] (.page message)
  /-- The address in a census holds too long a number. -/
  | longNumber {before after : List Call} {census : Json} :
      page before .census = .ok census → Overlong census →
      Escapes settings address page (before ++ .census :: after) (.defect .badValue)

private def Expected (page : Page) (calls : List Call) (e : Failure) : Prop :=
  Documented e ∨ e = .defect .badValue ∧ ∃ before after census,
    calls = before ++ .census :: after ∧ page before .census = .ok census ∧ Overlong census

/-- Settings of a detection under which well-formed snapshots can be judged. -/
structure Judges (state : CheckState) : Prop where
  threshold : ∃ q, state.detection.threshold = .number q
  /-- A source, if there is one, holds a presentation that was read. -/
  source : ∀ source, state.source = some source →
    ∃ settings text, (Presentation.read settings {} text).1 = .ok source.presentation

/-- Nothing is wrong with a well-formed snapshot of a slide. -/
private theorem not_unfit {detection : Detection} {q : Quantity}
    (hthreshold : detection.threshold = .number q) {snapshot : Json}
    (h : WellFormedSnapshot snapshot) (hsome : snapshot ≠ .null) (e : Failure) :
    ¬Unfit detection snapshot e := by
  cases h with
  | null => exact absurd rfl hsome
  | @record fields hframe helements hinvalid =>
    have hselectors : (do (← fieldOr (.list []) (.record fields) "invalidSelectors").items :
        Outcome (List Json)).Yields (fun js => ∀ j ∈ js, IsText j) (fun _ => False) :=
      (yields_fieldOr .nil hinvalid).bind fun _ => yields_items
    intro hunfit
    cases hunfit with
    | selectors he => exact hselectors.error he
    | selector hjs hj he =>
      cases hselectors.result hjs _ hj with
      | text s => cases he
    | issues he =>
      have hissues := @Detection.yields_issues (fun _ => False) _ _ hthreshold _ hframe helements
      exact hissues.error he
    | elements he =>
      have hsize : (do (← fieldOr (.list []) (.record fields) "elements").size :
          Outcome Nat).Yields (fun _ => True) (fun _ => False) := by
        apply (yields_fieldOr .nil helements).bind
        intro elements hlist
        cases hlist with
        | list _ => exact trivial
      exact hsize.error he

private theorem foresees_expected (hpage : Responds settings page) (hstate : Judges state) :
    Foresees page state (Expected page) := by
  obtain ⟨⟨q, hthreshold⟩, hsource⟩ := hstate
  constructor
  · constructor
    · exact fun _ message => .inl (.notLoaded message)
    · exact fun _ message => .inl (.notVisible message)
    · exact fun _ => .inl .slideVanished
    · intro calls answer e hanswer he
      rcases hpage.total calls answer hanswer with rfl | ⟨n, rfl⟩
      · cases he
      · rw [wholeOr] at he
        split at he <;> cases he
    · intro calls census e hcensus he
      have hactive : (activeSlide census).Yields (fun _ => True)
          (Expected page (calls ++ [.census])) := by
        apply yields_activeSlide (hpage.census calls census hcensus)
        · exact fun address => .inl (.noActiveSlide address)
        · exact fun hlong => .inr ⟨rfl, calls, [], census, rfl, hcensus, hlong⟩
      exact hactive.error he
    · intro calls request snapshot e hanswer hsome hunfit
      have hformed := hpage.snapshot calls request snapshot hanswer
      exact absurd hunfit (not_unfit hthreshold hformed hsome e)
  · intro calls request snapshot issues hanswer hsome hissues source heq n e he
    obtain ⟨_, text, hread⟩ := hsource source heq
    have hdescribed : ∀ i ∈ issues, Described i.element := by
      cases hpage.snapshot calls request snapshot hanswer with
      | null => exact absurd rfl hsome
      | record hframe helements _ =>
        have hyields := @Detection.yields_issues (fun _ => False) _ _ hthreshold _ hframe helements
        exact hyields.result hissues
    obtain ⟨after, hafter⟩ := Source.exists_enrichAll hread n hdescribed
    rw [hafter] at he
    cases he

private theorem Responds.fails (hpage : Responds settings page)
    (hengine : engines.contains settings.browser = true) {address : String} {calls : List Call}
    {e : Failure} (h : Fails settings address page (Expected page) calls e) :
    Documented e ∨ Escapes settings address page calls e := by
  cases h with
  | unsupported h =>
    rw [hengine] at h
    cases h
  | notLaunched h =>
    obtain ⟨answer, hlaunch⟩ := hpage.launch
    cases hlaunch.symm.trans h
  | @notClosed before message h =>
    obtain ⟨answer, hclose⟩ := hpage.close before
    cases hclose.symm.trans h
  | interrupted h =>
    cases h with
    | noPage h =>
      obtain ⟨answer, hnew⟩ := hpage.newPage
      cases hnew.symm.trans h
    | notLoaded h => exact .inr (.notLoaded h)
    | inside h =>
      rcases h with h | ⟨rfl, before, after, census, rfl, hcensus, hlong⟩
      · exact .inl h
      · rw [List.append_assoc, List.cons_append]
        exact .inr (.longNumber hcensus hlong)

/-- A failure of a check: a documented one, or one that a session between two histories has let
through. -/
def Told (settings : Settings) (address : String) (host : Host) (h h' : History) (e : Failure) :
    Prop :=
  Documented e ∨ ∃ k calls, h.sessions.length ≤ k ∧ h'.sessions[k]? = some calls ∧
    Escapes settings address (host k) calls e

private theorem Blamed.told (hhost : ∀ k, Responds settings (host k))
    (hengine : engines.contains settings.browser = true) {address : String} {e : Failure}
    (hblamed : Blamed settings address host Expected h h' e) :
    Told settings address host h h' e := by
  obtain ⟨k, calls, hk, hcalls, hfails⟩ := hblamed
  rcases (hhost k).fails hengine hfails with hdocumented | hescapes
  · exact .inl hdocumented
  · exact .inr ⟨k, calls, hk, hcalls, hescapes⟩

private theorem documented_pageRange {pages : Option String} {total : Int} {e : Failure}
    (hrange : pageRange pages total = .error e) : Documented e := by
  obtain ⟨part, rfl | rfl⟩ := pageRange_error hrange
  · exact .badPageNumber part
  · exact .badPageRange part

/-- Without a project a check in browsers of its own comes to a result, or fails as it is documented
to, or lets through what one of its sessions shows: an address that was not loaded, or one that
holds too long a number. A slide that cannot be reached, or a failed call behind the loading of the
address, never ends it as such. -/
theorem check_documented (hproject : state.project = none) (hopening : state.opening = .browser)
    (hengine : engines.contains settings.browser = true) (hstate : Judges state)
    (hhost : ∀ k, Responds settings (host k)) {o : Outcome CheckResult}
    (hrun : (check settings state).run host h = (o, h')) :
    (∃ result, o = .ok result) ∨
      ∃ e, o = .error e ∧ Told settings state.address host h h' e := by
  have hload : (loadSource settings state).run host h = (.ok state, h) := by
    unfold loadSource
    rw [hproject]
    rfl
  have hforesees (k : Nat) : Foresees (host k) state (Expected (host k)) :=
    foresees_expected (hhost k) hstate
  have hends := check_ends settings state host h
  rw [hrun] at hends
  cases hends with
  | loading hload' => cases hload.symm.trans hload'
  | @counting _ e _ _ hload' hcount =>
    cases hload.symm.trans hload'
    obtain ⟨_, hfailure⟩ := countSlides_opened hopening (fun k => (hforesees k).toCovers) hcount
    refine .inr ⟨e, rfl, ?_⟩
    rcases hfailure e rfl with rfl | ⟨total, hrange⟩ | hblamed
    · exact .inl .noSlides
    · exact .inl (documented_pageRange hrange)
    · exact hblamed.told hhost hengine
  | @checking _ counted e _ h₂ _ hload' hcount hcheck =>
    cases hload.symm.trans hload'
    obtain ⟨hopened, _⟩ := countSlides_opened hopening (fun k => (hforesees k).toCovers) hcount
    obtain ⟨total, range, hcounted⟩ := countSlides_kept hcount
    have hopening' : counted.opening = .browser := by rwa [hcounted]
    have hstate' : Judges counted := by
      rw [hcounted]
      exact ⟨hstate.threshold, hstate.source⟩
    obtain ⟨_, _, _, hfailure⟩ := checkPages_opened hopening'
      (fun k => foresees_expected (hhost k) hstate') hcheck
    have haddress : counted.address = state.address := by rw [hcounted]
    rw [haddress] at hfailure
    exact .inr ⟨e, rfl, ((hfailure e rfl).earlier hopened.kept).told hhost hengine⟩
  | @done _ _ _ result _ _ _ _ _ _ _ _ => exact .inl ⟨result, rfl⟩

/-- Three slides, of which the second one cannot be reached and the third one cannot be
inspected. -/
def flaky : Page := fun calls c =>
  match c with
  | .total => .ok (.ofInt 3)
  | .navigate n => if n = 2 then .error "No such route" else .ok .null
  | .census => .ok (.record [("slides", .list [.record [("index", .ofInt 0)]])])
  | .snapshot _ => if shown calls = 3 then .error "Target crashed" else .ok (.record [])
  | _ => .ok .null

private theorem responds_flaky : Responds {} flaky := by
  constructor
  · exact ⟨.null, rfl⟩
  · exact ⟨.null, rfl⟩
  · exact fun _ => ⟨.null, rfl⟩
  · intro calls answer hanswer
    cases hanswer
    exact .inr ⟨3, rfl⟩
  · intro calls census hcensus
    cases hcensus
    have hslide : ListedSlide (.record [("index", .ofInt 0)]) := by
      refine .record ⟨_, rfl, 0, rfl⟩ ?_ ?_
      · intro j hj
        cases hj
      · intro j hj
        cases hj
    refine .record ?_ ?_ ?_
    · intro j hj
      cases hj
      exact .list (List.forall_mem_singleton.mpr hslide)
    · intro j hj
      cases hj
    · intro j hj
      cases hj
  · intro calls request snapshot hsnapshot
    simp only [flaky] at hsnapshot
    split at hsnapshot
    · cases hsnapshot
    · cases hsnapshot
      exact .record (fun j hj => nomatch hj) (fun j hj => nomatch hj) fun j hj => nomatch hj

/-- Two of three slides are skipped, and the check comes to a result. -/
theorem check_documented_of_flaky :
    let state := CheckState.ofSettings {} "http://localhost:3030"
    ∃ o h', (check {} state).run (fun _ => flaky) {} = (o, h') ∧
      o.toOption.map (·.totalSlides) = some 3 ∧
      ((pipeline (stages {}) state).run (fun _ => flaky) {}).1.toOption.map (·.skipped) =
        some [2, 3] ∧
      ((∃ result, o = .ok result) ∨
        ∃ e, o = .error e ∧ Told {} state.address (fun _ => flaky) {} h' e) := by
  intro state
  have hjudges : Judges state := ⟨⟨_, rfl⟩, fun source hsource => nomatch hsource⟩
  have hcount : ((check {} state).run (fun _ => flaky) {}).1.toOption.map (·.totalSlides) =
      some 3 := by
    decide +kernel
  have hskipped : ((pipeline (stages {}) state).run (fun _ => flaky) {}).1.toOption.map
      (·.skipped) = some [2, 3] := by
    decide +kernel
  rcases hrun : (check {} state).run (fun _ => flaky) {} with ⟨o, h'⟩
  rw [hrun] at hcount
  exact ⟨o, h', rfl, hcount, hskipped,
    check_documented rfl rfl (by decide) hjudges (fun _ => responds_flaky) hrun⟩

/-- A presentation that is not there: browsers can be opened, but the address is never loaded. -/
def refused : Page := fun _ c =>
  match c with
  | .launch .. | .newPage .. | .close => .ok .null
  | _ => .error "net::ERR_CONNECTION_REFUSED"

private theorem responds_refused : Responds {} refused where
  launch := ⟨.null, rfl⟩
  newPage := ⟨.null, rfl⟩
  close _ := ⟨.null, rfl⟩
  total _ _ hanswer := nomatch hanswer
  census _ _ hanswer := nomatch hanswer
  snapshot _ _ _ hanswer := nomatch hanswer

/-- An address that is not loaded ends a check in a way that is not documented: the message of the
page comes through. -/
theorem not_documented_of_refused :
    let state := CheckState.ofSettings {} "http://x"
    state.project = none ∧ state.opening = .browser ∧
      engines.contains (({} : Settings).browser) = true ∧ Judges state ∧ Responds {} refused ∧
      ∃ h' e, (check {} state).run (fun _ => refused) {} = (.error e, h') ∧
        e = .page "net::ERR_CONNECTION_REFUSED" ∧ ¬Documented e := by
  intro state
  have hfailure : (match ((check {} state).run (fun _ => refused) {}).1 with
      | .error e => some e
      | .ok _ => none) = some (.page "net::ERR_CONNECTION_REFUSED") := by
    decide +kernel
  refine ⟨rfl, rfl, by decide, ⟨⟨_, rfl⟩, fun source hsource => nomatch hsource⟩,
    responds_refused, ?_⟩
  rcases hrun : (check {} state).run (fun _ => refused) {} with ⟨o, h'⟩
  rw [hrun] at hfailure
  cases o with
  | error e =>
    cases hfailure
    exact ⟨h', _, rfl, rfl, fun hdocumented => nomatch hdocumented⟩
  | ok result => cases hfailure

end SlideOverflow.Check
