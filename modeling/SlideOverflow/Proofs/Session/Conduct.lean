import SlideOverflow.Proofs.Session.Footprint

/-! How what is done in a session conducts itself: it neither opens nor closes the session, and each
way in which it fails is traced to what the page has answered. -/
namespace SlideOverflow.Session

open Number Activity

variable {α β : Type}

def Call.Inner : Call → Prop
  | .attach _ | .launch .. | .close => False
  | _ => True

/-- What an activity does on a page, from a journal on: it makes calls inside of the session, and if
it fails, then in a way that is expected behind its calls. -/
structure Behaves (page : Page) (expected : List Call → Failure → Prop) (s : Journal)
    (x : Activity α) : Prop where
  calls : ∃ made, (x.run page s).2.calls = s.calls ++ made ∧ ∀ c ∈ made, c.Inner
  failure : ∀ e, (x.run page s).1 = .error e → expected (x.run page s).2.calls e

def Conducts (page : Page) (expected : List Call → Failure → Prop) (x : Activity α) : Prop :=
  ∀ s, Behaves page expected s x

section Laws

variable {page : Page} {expected expected' : List Call → Failure → Prop} {s : Journal}

theorem Behaves.quiet {x : Activity α} {o : Outcome α}
    (h : (x.run page s).1 = o ∧ (x.run page s).2.calls = s.calls)
    (ho : ∀ e, o = .error e → expected s.calls e) : Behaves page expected s x := by
  obtain ⟨houtcome, hcalls⟩ := h
  refine ⟨⟨[], by rw [hcalls, List.append_nil], fun c hc => absurd hc List.not_mem_nil⟩, ?_⟩
  intro e he
  rw [hcalls]
  exact ho e (houtcome.symm.trans he)

theorem Behaves.ofOutcome {o : Outcome α} (ho : ∀ e, o = .error e → expected s.calls e) :
    Behaves page expected s (ofOutcome o) :=
  .quiet (by rw [run_ofOutcome]; exact ⟨rfl, rfl⟩) ho

theorem Behaves.throw {e : Failure} (h : expected s.calls e) :
    Behaves page expected s (throw e : Activity α) := by
  apply Behaves.quiet ⟨rfl, rfl⟩
  intro e' he
  cases he
  exact h

theorem Conducts.pure (a : α) : Conducts page expected (pure a) :=
  fun _ => .quiet ⟨rfl, rfl⟩ fun _ he => nomatch he

theorem Conducts.tell (e : LogEntry) : Conducts page expected (tell e) :=
  fun _ => .quiet ⟨rfl, rfl⟩ fun _ he => nomatch he

theorem Conducts.modify (f : Journal → Journal) (hf : ∀ j, (f j).calls = j.calls) :
    Conducts page expected (modifyThe Journal f) :=
  fun j => .quiet ⟨rfl, hf j⟩ fun _ he => nomatch he

/-- What runs as one activity does and comes to an outcome of its own. -/
theorem Behaves.stop {x : Activity α} {y : Activity β} {o : Outcome β}
    (hx : Behaves page expected' s x) (hy : y.run page s = (o, (x.run page s).2))
    (ho : ∀ e, o = .error e → expected (x.run page s).2.calls e) :
    Behaves page expected s y := by
  constructor
  · rw [hy]
    exact hx.calls
  · rwa [hy]

/-- What runs as one activity does and then as another one. -/
theorem Behaves.goOn {x : Activity α} {y z : Activity β} (hx : Behaves page expected' s x)
    (hz : Behaves page expected (x.run page s).2 z)
    (hy : y.run page s = z.run page (x.run page s).2) : Behaves page expected s y := by
  obtain ⟨made, hcalls, hmade⟩ := hx.calls
  obtain ⟨made', hcalls', hmade'⟩ := hz.calls
  constructor
  · refine ⟨made ++ made', by rw [hy, hcalls', hcalls, List.append_assoc], ?_⟩
    intro c hc
    rcases List.mem_append.mp hc with hc | hc
    · exact hmade c hc
    · exact hmade' c hc
  · rw [hy]
    exact hz.failure

/-- What follows an activity need only behave for the results that the activity can have. -/
theorem Behaves.bind {x : Activity α} {f : α → Activity β} (hx : Behaves page expected s x)
    (hf : ∀ a, (x.run page s).1 = .ok a → Behaves page expected (x.run page s).2 (f a)) :
    Behaves page expected s (x >>= f) := by
  cases ho : (x.run page s).1 with
  | error e =>
    apply hx.stop (run_bind_error ho)
    intro e' he
    cases he
    exact hx.failure e ho
  | ok a => exact hx.goOn (hf a ho) (run_bind_ok ho)

theorem Conducts.bind {x : Activity α} {f : α → Activity β} (hx : Conducts page expected x)
    (hf : ∀ a, Conducts page expected (f a)) : Conducts page expected (x >>= f) :=
  fun s => (hx s).bind fun a _ => hf a _

/-- Something is worked out, and what follows goes by it. -/
theorem Behaves.ofOutcome_bind {o : Outcome α} {f : α → Activity β}
    (ho : ∀ e, o = .error e → expected s.calls e)
    (hf : ∀ a, o = .ok a → Behaves page expected s (f a)) :
    Behaves page expected s (Activity.ofOutcome o >>= f) := by
  apply (Behaves.ofOutcome ho).bind
  rw [run_ofOutcome]
  exact hf

/-- A call is made, and what follows it goes by the answer. -/
theorem Behaves.call_bind {f : Json → Activity β} (c : Call) (hc : c.Inner)
    (hpage : ∀ message, page s.calls c = .error message →
      expected (s.calls ++ [c]) (.page message))
    (hf : ∀ answer, page s.calls c = .ok answer →
      Behaves page expected { s with calls := s.calls ++ [c] } (f answer)) :
    Behaves page expected s (call c >>= f) := by
  have hcall : Behaves page expected s (call c) := by
    constructor
    · refine ⟨[c], by rw [run_call], ?_⟩
      intro d hd
      rwa [List.mem_singleton.mp hd]
    · intro e he
      rw [run_call] at he ⊢
      cases hanswer : page s.calls c with
      | ok answer =>
        rw [hanswer] at he
        cases he
      | error message =>
        rw [hanswer] at he
        cases he
        exact hpage message hanswer
  apply hcall.bind
  intro answer hanswer
  rw [run_call] at hanswer ⊢
  apply hf
  cases h : page s.calls c with
  | ok a =>
    rw [h] at hanswer
    cases hanswer
    rfl
  | error message =>
    rw [h] at hanswer
    cases hanswer

/-- A call whose answer does not matter is made before something else. -/
theorem Behaves.perform_bind {f : Unit → Activity β} (c : Call) (hc : c.Inner)
    (hpage : ∀ message, page s.calls c = .error message →
      expected (s.calls ++ [c]) (.page message))
    (hf : Behaves page expected { s with calls := s.calls ++ [c] } (f ())) :
    Behaves page expected s (perform c >>= f) := by
  have hassoc : perform c >>= f = call c >>= fun _ => f () := by
    rw [perform, bind_assoc]
    simp only [pure_bind]
  rw [hassoc]
  exact .call_bind c hc hpage fun _ _ => hf

theorem Conducts.perform (c : Call) (hc : c.Inner)
    (hpage : ∀ calls message, expected calls (.page message)) :
    Conducts page expected (perform c) := by
  intro s
  apply Behaves.call_bind c hc fun message _ => hpage _ message
  intro _ _
  exact Conducts.pure () _

theorem Conducts.forM {f : α → Activity Unit} {l : List α}
    (hf : ∀ a ∈ l, Conducts page expected (f a)) : Conducts page expected (l.forM f) := by
  induction l with
  | nil => exact .pure ()
  | cons a l ih =>
    apply (hf a List.mem_cons_self).bind
    intro _
    exact ih fun b hb => hf b (.tail a hb)

theorem Conducts.imp {x : Activity α} (hx : Conducts page expected x)
    (h : ∀ calls e, expected calls e → expected' calls e) : Conducts page expected' x :=
  fun s => ⟨(hx s).calls, fun e he => h _ e ((hx s).failure e he)⟩

/-- What follows goes by the outcome, be it a failure or not. -/
theorem Behaves.observe_bind {x : Activity α} {f : Outcome α → Activity β}
    (hx : Behaves page expected' s x)
    (hf : Behaves page expected (x.run page s).2 (f (x.run page s).1)) :
    Behaves page expected s (observe x >>= f) :=
  hx.goOn hf (by rw [run_bind, run_observe])

/-- Failed calls are taken over; all other failures stay. -/
theorem Conducts.orElse {x : Activity α} {handle : String → Activity α}
    (hx : Conducts page (fun calls e => expected calls e ∨ ∃ message, e = .page message) x)
    (hh : ∀ message, Conducts page expected (handle message)) :
    Conducts page expected (orElse x handle) := by
  intro s
  have hx := hx s
  cases ho : (x.run page s).1 with
  | ok a => exact hx.stop (run_orElse_ok ho) fun e he => nomatch he
  | error e =>
    by_cases hpage : ∃ message, e = .page message
    · obtain ⟨message, rfl⟩ := hpage
      exact hx.goOn (hh message _) (run_orElse_page ho)
    · apply hx.stop (run_orElse_error ho fun message he => hpage ⟨message, he⟩)
      intro e' he
      cases he
      exact (hx.failure e ho).resolve_right hpage

end Laws

/-! ### What is expected -/

inductive Unfit (detection : Inspection.Detection) (snapshot : Json) : Failure → Prop where
  | selectors {e : Failure} :
      (do (← Json.fieldOr (.list []) snapshot "invalidSelectors").items) = .error e →
      Unfit detection snapshot e
  | selector {e : Failure} {js : List Json} {j : Json} :
      (do (← Json.fieldOr (.list []) snapshot "invalidSelectors").items) = .ok js → j ∈ js →
      selector j = .error e → Unfit detection snapshot e
  | issues {e : Failure} : detection.issues snapshot = .error e → Unfit detection snapshot e
  | elements {e : Failure} :
      (do (← Json.fieldOr (.list []) snapshot "elements").size) = .error e →
      Unfit detection snapshot e

/-- Expectations that cover every way in which what a page has answered can make a session fail,
failed calls aside. -/
structure Covers (page : Page) (detection : Inspection.Detection)
    (expected : List Call → Failure → Prop) : Prop where
  notLoaded : ∀ calls message, expected calls (.notLoaded message)
  notVisible : ∀ calls message, expected calls (.notVisible message)
  slideVanished : ∀ calls, expected calls .slideVanished
  total : ∀ calls answer e, page calls .total = .ok answer → answer.wholeOr 0 = .error e →
    expected (calls ++ [.total]) e
  census : ∀ calls answer e, page calls .census = .ok answer →
    Inspection.activeSlide answer = .error e → expected (calls ++ [.census]) e
  snapshot : ∀ calls request answer e, page calls (.snapshot request) = .ok answer →
    answer ≠ .null → Unfit detection answer e → ∀ calls', expected calls' e

section Activities

variable {page : Page} {detection : Inspection.Detection}
  {expected : List Call → Failure → Prop}

abbrev OrPage (expected : List Call → Failure → Prop) (calls : List Call) (e : Failure) : Prop :=
  expected calls e ∨ ∃ message, e = .page message

abbrev OrSkips (expected : List Call → Failure → Prop) (calls : List Call) (e : Failure) : Prop :=
  expected calls e ∨ Skips e

private theorem page_expected (calls : List Call) (message : String) :
    OrPage expected calls (.page message) := .inr ⟨message, rfl⟩

/-! ### Navigation -/

theorem conducts_readTotal (h : Covers page detection expected) :
    Conducts page expected readTotal := by
  apply Conducts.orElse
  · intro s
    apply Behaves.call_bind .total trivial fun message _ => page_expected _ message
    intro answer hanswer
    apply Behaves.ofOutcome_bind
    · intro e he
      exact .inl (h.total _ _ _ hanswer he)
    · intro total _
      exact .quiet ⟨rfl, rfl⟩ fun _ he => nomatch he
  · intro message
    apply (Conducts.tell _).bind
    intro _
    exact .pure 0

private theorem conducts_awaitLoad (h : Covers page detection expected) (pace : Pace) :
    Conducts page (OrPage expected) (awaitLoad pace) := by
  have hperform (c : Call) (hc : c.Inner) : Conducts page (OrPage expected) (perform c) :=
    .perform c hc page_expected
  have hknown : Conducts page (OrPage expected) knownTotal :=
    fun _ => .quiet ⟨rfl, rfl⟩ fun _ he => nomatch he
  have hrest : Conducts page (OrPage expected) (do
      perform (.sleep (Settings.settleWait (← knownTotal)))
      if 0 < pace.wait then perform (.sleep pace.wait)) := by
    apply hknown.bind
    intro total
    apply (hperform (.sleep _) trivial).bind
    intro _
    split
    · exact hperform (.sleep _) trivial
    · exact .pure ()
  apply (hperform (.awaitSlide _) trivial).bind
  intro _
  apply hknown.bind
  intro total
  by_cases hzero : total = 0
  · rw [if_pos (by simpa using hzero)]
    have htotal : Conducts page (OrPage expected) readTotal :=
      (conducts_readTotal h).imp fun _ _ he => .inl he
    exact htotal.bind fun _ => hrest
  · rw [if_neg (by simpa using hzero)]
    exact hrest

private theorem conducts_attempt (h : Covers page detection expected) (pace : Pace) (n : Int) :
    Conducts page (OrPage expected) (attempt pace n) := by
  apply (Conducts.tell _).bind
  intro _
  apply (Conducts.perform (.navigate n) trivial page_expected).bind
  intro _
  exact conducts_awaitLoad h pace

theorem conducts_navigate (h : Covers page detection expected) (pace : Pace) (n : Int) :
    Conducts page (OrSkips expected) (navigate pace n) := by
  have hattempt : Conducts page (OrPage (OrSkips expected)) (attempt pace n) :=
    (conducts_attempt h pace n).imp fun _ _ he => he.imp_left .inl
  apply Conducts.orElse hattempt
  intro message
  apply (Conducts.tell _).bind
  intro _
  apply (Conducts.perform (.sleep _) trivial fun _ message => .inr (.page message)).bind
  intro _
  apply Conducts.orElse hattempt
  intro message s
  exact .throw (.inr (.unreachable n message))

/-- A presentation that is not ready is told as such, whichever wait fails. -/
theorem conducts_awaitReady (h : Covers page detection expected) (pace : Pace) :
    Conducts page expected (awaitReady pace) := by
  have helement : Conducts page expected
      (orElse (perform (.awaitElement pageSelector pace.readyTimeout)) fun message =>
        throw (.notLoaded message)) := by
    apply Conducts.orElse (Conducts.perform (.awaitElement _ _) trivial page_expected)
    intro message s
    exact .throw (h.notLoaded _ message)
  have hnavigation : Conducts page expected
      (orElse (perform (.awaitNavigation navigationTimeout)) fun _ =>
        note 2 "Navigation API unavailable, counting slide pages instead") := by
    apply Conducts.orElse (Conducts.perform (.awaitNavigation _) trivial page_expected)
    intro message
    exact .tell _
  apply helement.bind
  intro _
  apply hnavigation.bind
  intro _
  apply Conducts.orElse (conducts_awaitLoad h pace)
  intro message s
  exact .throw (h.notVisible _ message)

/-! ### Detection -/

private theorem conducts_reportSelector {j : Json}
    (hj : ∀ e, selector j = .error e → ∀ calls, expected calls e) :
    Conducts page expected (reportSelector j) := by
  intro s
  apply Behaves.ofOutcome_bind
  · intro e he
    exact hj e he _
  · intro invalid _
    have hget (s : Journal) : (getThe Journal : Activity Journal).run page s = (.ok s, s) := rfl
    apply @Behaves.quiet _ _ _ _ _ (.ok ()) _ fun _ he => nomatch he
    simp only [run_bind, hget]
    split <;> exact ⟨rfl, rfl⟩

private theorem conducts_takeSnapshot (h : Covers page detection expected)
    (request : SnapshotRequest) :
    Conducts page (OrPage expected) (takeSnapshot request) := by
  intro s
  apply Behaves.call_bind (.snapshot request) trivial fun message _ => page_expected _ message
  intro snapshot hsnapshot
  by_cases hpresent : snapshot.isTruthy = true
  · rw [if_pos hpresent]
    have hsome : snapshot ≠ .null := by
      rintro rfl
      cases hpresent
    apply Behaves.ofOutcome_bind
    · intro e he
      exact .inl (h.snapshot _ _ _ _ hsnapshot hsome (.selectors he) _)
    · intro invalid hinvalid
      have hreport : Conducts page (OrPage expected) (invalid.forM reportSelector) := by
        apply Conducts.forM
        intro j hj
        apply conducts_reportSelector
        intro e he calls
        exact .inl (h.snapshot _ _ _ _ hsnapshot hsome (.selector hinvalid hj he) calls)
      exact (hreport.bind fun _ => .pure snapshot) _
  · rw [if_neg hpresent]
    exact Conducts.pure snapshot _

private theorem conducts_activeSnapshot (h : Covers page detection expected) (settings : Settings)
    (rounds : Nat) :
    Conducts page (OrPage expected) (activeSnapshot settings detection rounds) := by
  induction rounds with
  | zero => exact fun s => .throw (.inl (h.slideVanished _))
  | succ rounds ih =>
    intro s
    apply Behaves.call_bind .census trivial fun message _ => page_expected _ message
    intro census hcensus
    apply Behaves.ofOutcome_bind
    · intro e he
      exact .inl (h.census _ _ _ hcensus he)
    · intro active _
      obtain ⟨slide, found⟩ := active
      refine Conducts.bind (.tell found) (fun _ => ?_) _
      apply (conducts_takeSnapshot h _).bind
      intro snapshot
      split
      · exact (Conducts.tell _).bind fun _ => ih
      · exact .pure _

private theorem takeSnapshot_answered {request : SnapshotRequest} {s t : Journal} {snapshot : Json}
    (h : (takeSnapshot request).run page s = (.ok snapshot, t)) :
    page s.calls (.snapshot request) = .ok snapshot := by
  obtain ⟨answer, s₁, hcall, h⟩ := run_bind_eq_ok_iff.mp h
  have hanswer : page s.calls (.snapshot request) = .ok answer := by
    rw [run_call] at hcall
    have hfirst := congrArg Prod.fst hcall
    cases hp : page s.calls (.snapshot request) with
    | ok a =>
      rw [hp] at hfirst
      cases hfirst
      rfl
    | error message =>
      rw [hp] at hfirst
      cases hfirst
  have hsame : answer = snapshot := by
    by_cases hpresent : answer.isTruthy = true
    · rw [if_pos hpresent] at h
      obtain ⟨_, _, _, h⟩ := run_bind_eq_ok_iff.mp h
      obtain ⟨_, _, _, h⟩ := run_bind_eq_ok_iff.mp h
      cases h
      rfl
    · rw [if_neg hpresent] at h
      cases h
      rfl
  rwa [← hsame]

/-- The snapshot that is looked at is an answer of the page, and not null. -/
private theorem activeSnapshot_answered {settings : Settings} {rounds : Nat} {s t : Journal}
    {snapshot : Json}
    (h : (activeSnapshot settings detection rounds).run page s = (.ok snapshot, t)) :
    (∃ calls request, page calls (.snapshot request) = .ok snapshot) ∧ snapshot ≠ .null := by
  induction rounds generalizing s with
  | zero => cases h
  | succ rounds ih =>
    obtain ⟨census, s₁, _, h⟩ := run_bind_eq_ok_iff.mp h
    obtain ⟨⟨slide, found⟩, s₂, _, h⟩ := run_bind_eq_ok_iff.mp h
    obtain ⟨_, s₃, _, h⟩ := run_bind_eq_ok_iff.mp h
    obtain ⟨answer, s₄, htake, h⟩ := run_bind_eq_ok_iff.mp h
    split at h
    · obtain ⟨_, s₅, _, h⟩ := run_bind_eq_ok_iff.mp h
      exact ih h
    · next hsome =>
      cases h
      exact ⟨⟨_, _, takeSnapshot_answered htake⟩, hsome⟩

theorem conducts_detect (h : Covers page detection expected) (settings : Settings) :
    Conducts page (OrPage expected) (detect settings detection) := by
  intro s
  apply (conducts_activeSnapshot h settings rounds s).bind
  intro snapshot hsnapshot
  obtain ⟨⟨calls, request, hanswer⟩, hsome⟩ := activeSnapshot_answered (Prod.ext hsnapshot rfl)
  have hunfit {e : Failure} (he : Unfit detection snapshot e) (calls' : List Call) :
      OrPage expected calls' e := .inl (h.snapshot _ _ _ _ hanswer hsome he calls')
  apply Behaves.ofOutcome_bind
  · intro e he
    exact hunfit (.issues he) _
  · intro issues _
    apply Behaves.ofOutcome_bind
    · intro e he
      exact hunfit (.elements he) _
    · intro elements _
      exact ((Conducts.tell _).bind fun _ => .pure issues) _

/-- The issues that are found are those of a snapshot that the page has answered. -/
theorem detect_answered {settings : Settings} {s t : Journal} {issues : List Issue}
    (h : (detect settings detection).run page s = (.ok issues, t)) :
    ∃ calls request snapshot, page calls (.snapshot request) = .ok snapshot ∧ snapshot ≠ .null ∧
      detection.issues snapshot = .ok issues := by
  obtain ⟨snapshot, s₁, hsnapshot, h⟩ := run_bind_eq_ok_iff.mp h
  obtain ⟨found, s₂, hfound, h⟩ := run_bind_eq_ok_iff.mp h
  obtain ⟨_, s₃, _, h⟩ := run_bind_eq_ok_iff.mp h
  obtain ⟨_, s₄, _, h⟩ := run_bind_eq_ok_iff.mp h
  cases h
  rw [run_ofOutcome] at hfound
  obtain ⟨⟨calls, request, hanswer⟩, hsome⟩ := activeSnapshot_answered hsnapshot
  exact ⟨calls, request, snapshot, hanswer, hsome, congrArg Prod.fst hfound⟩

end Activities

end SlideOverflow.Session
