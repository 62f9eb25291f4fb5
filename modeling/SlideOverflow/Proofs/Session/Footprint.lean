import SlideOverflow.Proofs.Inspection.Failures
import SlideOverflow.Session.Detection
import SlideOverflow.Session.Laws
import SlideOverflow.Session.Navigation
import SlideOverflow.Session.Page

/-! What activities leave behind. Calls are only ever added to a journal, the slides that they go to
are known beforehand, and each activity fails in a few ways only. -/
namespace SlideOverflow.Session

open Number Activity

variable {α β : Type}

/-- What an activity comes to on a page, from a journal on: it has gone to some slides only, and has
failed in an expected way if it has failed. What is `known` of the number of slides stays true. -/
structure Leaves (known : Option Int → Prop) (places : Int → Prop) (expected : Failure → Prop)
    (page : Page) (s : Journal) (x : Activity α) : Prop where
  known : known (x.run page s).2.total
  calls : ∃ made, (x.run page s).2.calls = s.calls ++ made ∧ ∀ n, .navigate n ∈ made → places n
  failure : ∀ e, (x.run page s).1 = .error e → expected e

def Confined (known : Option Int → Prop) (places : Int → Prop) (expected : Failure → Prop)
    (x : Activity α) : Prop :=
  ∀ page s, known s.total → Leaves known places expected page s x

section Laws

variable {known : Option Int → Prop} {places : Int → Prop} {expected : Failure → Prop}

theorem Confined.quiet {x : Activity α} {o : Outcome α}
    (h : ∀ page s, (x.run page s).1 = o ∧ (x.run page s).2.calls = s.calls ∧
      (x.run page s).2.total = s.total) (ho : ∀ e, o = .error e → expected e) :
    Confined known places expected x := by
  intro page s hs
  obtain ⟨houtcome, hcalls, htotal⟩ := h page s
  refine ⟨by rwa [htotal], ⟨[], ?_, fun n hn => absurd hn List.not_mem_nil⟩, fun e he => ?_⟩
  · rw [hcalls, List.append_nil]
  · exact ho e (houtcome.symm.trans he)

theorem Confined.pure (a : α) : Confined known places expected (pure a) :=
  Confined.quiet (fun _ _ => ⟨rfl, rfl, rfl⟩) fun _ he => nomatch he

theorem Confined.throw {e : Failure} (h : expected e) :
    Confined known places expected (throw e : Activity α) := by
  refine Confined.quiet (fun _ _ => ⟨rfl, rfl, rfl⟩) fun e' he => ?_
  cases he
  exact h

theorem Confined.ofOutcome {o : Outcome α} (h : ∀ e, o = .error e → expected e) :
    Confined known places expected (ofOutcome o) :=
  Confined.quiet (fun _ _ => by rw [run_ofOutcome]; exact ⟨rfl, rfl, rfl⟩) h

theorem Confined.tell (e : LogEntry) : Confined known places expected (tell e) :=
  Confined.quiet (fun _ _ => ⟨rfl, rfl, rfl⟩) fun _ he => nomatch he

theorem Confined.call {c : Call} (hplaces : ∀ n, c = .navigate n → places n)
    (hpage : ∀ message, expected (.page message)) :
    Confined known places expected (call c) := by
  intro page s hs
  constructor
  · rwa [run_call]
  · refine ⟨[c], by rw [run_call], fun n hn => hplaces n (List.mem_singleton.mp hn).symm⟩
  · intro e he
    rw [run_call] at he
    cases hanswer : page s.calls c with
    | ok answer =>
      rw [hanswer] at he
      cases he
    | error message =>
      rw [hanswer] at he
      cases he
      exact hpage message

/-- What runs as one activity does and comes to an outcome of its own. -/
theorem Leaves.stop {expected' : Failure → Prop} {page : Page} {s : Journal} {x : Activity α}
    {y : Activity β} {o : Outcome β} (hx : Leaves known places expected' page s x)
    (hy : y.run page s = (o, (x.run page s).2)) (ho : ∀ e, o = .error e → expected e) :
    Leaves known places expected page s y := by
  obtain ⟨hknown, hcalls, _⟩ := hx
  constructor
  · rwa [hy]
  · rwa [hy]
  · rwa [hy]

/-- What runs as one activity does and then as another one. -/
theorem Leaves.goOn {expected' : Failure → Prop} {page : Page} {s : Journal} {x : Activity α}
    {y z : Activity β} (hx : Leaves known places expected' page s x)
    (hz : Confined known places expected z) (hy : y.run page s = z.run page (x.run page s).2) :
    Leaves known places expected page s y := by
  obtain ⟨hknown, ⟨made, hcalls, hmade⟩, _⟩ := hx
  obtain ⟨hknown', ⟨made', hcalls', hmade'⟩, hfailure⟩ := hz page _ hknown
  constructor
  · rwa [hy]
  · refine ⟨made ++ made', by rw [hy, hcalls', hcalls, List.append_assoc], fun n hn => ?_⟩
    rcases List.mem_append.mp hn with hn | hn
    · exact hmade n hn
    · exact hmade' n hn
  · rwa [hy]

theorem Leaves.bind {page : Page} {s : Journal} {x : Activity α} {f : α → Activity β}
    (hx : Leaves known places expected page s x)
    (hf : ∀ a, Confined known places expected (f a)) :
    Leaves known places expected page s (x >>= f) := by
  cases ho : (x.run page s).1 with
  | error e =>
    refine hx.stop (run_bind_error ho) fun e' he => ?_
    cases he
    exact hx.failure e ho
  | ok a => exact hx.goOn (hf a) (run_bind_ok ho)

theorem Confined.bind {x : Activity α} {f : α → Activity β}
    (hx : Confined known places expected x) (hf : ∀ a, Confined known places expected (f a)) :
    Confined known places expected (x >>= f) :=
  fun page s hs => (hx page s hs).bind hf

theorem Confined.perform {c : Call} (hplaces : ∀ n, c = .navigate n → places n)
    (hpage : ∀ message, expected (.page message)) :
    Confined known places expected (perform c) :=
  (Confined.call hplaces hpage).bind fun _ => Confined.pure ()

theorem Confined.forM {f : α → Activity Unit} (hf : ∀ a, Confined known places expected (f a))
    (l : List α) : Confined known places expected (l.forM f) := by
  induction l with
  | nil => exact Confined.pure ()
  | cons a l ih => exact (hf a).bind fun _ => ih

/-- Failed calls are taken over; all other failures stay. -/
theorem Confined.orElse {x : Activity α} {handle : String → Activity α}
    (hx : Confined known places (fun e => expected e ∨ ∃ message, e = .page message) x)
    (hh : ∀ message, Confined known places expected (handle message)) :
    Confined known places expected (orElse x handle) := by
  intro page s hs
  have hx := hx page s hs
  cases ho : (x.run page s).1 with
  | ok a => exact hx.stop (run_orElse_ok ho) fun e he => nomatch he
  | error e =>
    by_cases hpage : ∃ message, e = .page message
    · obtain ⟨message, rfl⟩ := hpage
      exact hx.goOn (hh message) (run_orElse_page ho)
    · refine hx.stop (run_orElse_error ho fun message he => hpage ⟨message, he⟩) fun e' he => ?_
      cases he
      exact (hx.failure e ho).resolve_right hpage

theorem Confined.imp {places' : Int → Prop} {expected' : Failure → Prop} {x : Activity α}
    (hx : Confined known places expected x) (hplaces : ∀ n, places n → places' n)
    (hexpected : ∀ e, expected e → expected' e) : Confined known places' expected' x := by
  intro page s hs
  obtain ⟨hknown, ⟨made, hcalls, hmade⟩, hfailure⟩ := hx page s hs
  exact ⟨hknown, ⟨made, hcalls, fun n hn => hplaces n (hmade n hn)⟩,
    fun e he => hexpected e (hfailure e he)⟩

theorem Confined.knownTotal_bind {f : Int → Activity α}
    (hf : ∀ o, known o → Confined known places expected (f (o.getD 0))) :
    Confined known places expected (knownTotal >>= f) := by
  intro page s hs
  have hsame : (knownTotal >>= f).run page s = (f (s.total.getD 0)).run page s := by
    have hk : knownTotal.run page s = (.ok (s.total.getD 0), s) := rfl
    rw [run_bind, hk]
  obtain ⟨hknown, hcalls, hfailure⟩ := hf s.total hs page s hs
  constructor
  · rwa [hsame]
  · rwa [hsame]
  · rwa [hsame]

end Laws

/-! ### Navigation -/

def Other (e : Failure) : Prop := ∀ n message, e ≠ .unreachable n message

private theorem other_page (message : String) : Other (.page message) := fun _ _ h => nomatch h

private theorem other_of_ofData {e : Failure} (h : e.OfData) : Other e := by
  intro n message he
  subst he
  cases h

section Navigation

variable {known : Option Int → Prop} {places : Int → Prop}

private theorem confined_readTotal (hset : ∀ total, known (some total)) :
    Confined known places Other readTotal := by
  refine Confined.orElse ?_ fun message => (Confined.tell _).bind fun _ => Confined.pure 0
  refine (Confined.call (fun _ h => nomatch h) fun _ => .inr ⟨_, rfl⟩).bind fun answer => ?_
  refine (Confined.ofOutcome fun e he => ?_).bind fun total => ?_
  · exact .inl (other_of_ofData (Json.onlyData_wholeOr 0 answer e he))
  · intro page s _
    exact ⟨hset total, ⟨[], (List.append_nil _).symm, fun n hn => absurd hn List.not_mem_nil⟩,
      fun e he => nomatch he⟩

/-- The number of slides is read only where it is not known, or known to be none. -/
private theorem confined_awaitLoad (pace : Pace)
    (hset : ∀ o, known o → o.getD 0 = 0 → ∀ total, known (some total)) :
    Confined known places Other (awaitLoad pace) := by
  have hperform : ∀ c : Call, (∀ n, c ≠ .navigate n) →
      Confined known places Other (perform c) := fun c hc =>
    Confined.perform (fun n hn => absurd hn (hc n)) other_page
  have hrest : Confined known places Other (do
      perform (.sleep (Settings.settleWait (← knownTotal)))
      if 0 < pace.wait then perform (.sleep pace.wait)) := by
    refine Confined.knownTotal_bind fun o _ => (hperform _ (by simp)).bind fun _ => ?_
    split
    · exact hperform _ (by simp)
    · exact Confined.pure ()
  refine (hperform _ (by simp)).bind fun _ => Confined.knownTotal_bind fun o ho => ?_
  by_cases hzero : o.getD 0 = 0
  · rw [if_pos (by simpa using hzero)]
    exact (confined_readTotal (hset o ho hzero)).bind fun _ => hrest
  · rw [if_neg (by simpa using hzero)]
    exact hrest

private theorem confined_attempt (pace : Pace) {n : Int} (hplace : places n)
    (hset : ∀ o, known o → o.getD 0 = 0 → ∀ total, known (some total)) :
    Confined known places Other (attempt pace n) := by
  refine (Confined.tell _).bind fun _ => Confined.bind ?_ fun _ => confined_awaitLoad pace hset
  refine Confined.perform (fun m hm => ?_) other_page
  cases hm
  exact hplace

theorem confined_navigate (pace : Pace) {n : Int} (hplace : places n)
    (hset : ∀ o, known o → o.getD 0 = 0 → ∀ total, known (some total)) :
    Confined known places (fun _ => True) (navigate pace n) := by
  have hattempt := (confined_attempt pace hplace hset).imp (fun _ h => h) fun e _ =>
    (.inl trivial : True ∨ ∃ message, e = .page message)
  refine Confined.orElse hattempt fun message => (Confined.tell _).bind fun _ => ?_
  refine (Confined.perform (fun _ h => nomatch h) fun _ => trivial).bind fun _ => ?_
  exact Confined.orElse hattempt fun message => Confined.throw trivial

private theorem confined_awaitReady (pace : Pace)
    (hset : ∀ o, known o → o.getD 0 = 0 → ∀ total, known (some total)) :
    Confined known places (fun _ => True) (awaitReady pace) := by
  have hload := (@confined_awaitLoad known places pace hset).imp (fun _ h => h) fun e _ =>
    (.inl trivial : True ∨ ∃ message, e = .page message)
  refine Confined.bind ?_ fun _ => Confined.bind ?_ fun _ => ?_
  · refine Confined.orElse ?_ fun message => Confined.throw trivial
    exact Confined.perform (fun _ h => nomatch h) fun _ => .inl trivial
  · refine Confined.orElse ?_ fun message => Confined.tell _
    exact Confined.perform (fun _ h => nomatch h) fun _ => .inl trivial
  · exact Confined.orElse hload fun message => Confined.throw trivial

/-! ### Detection -/

private theorem confined_reportSelector (j : Json) :
    Confined known places Other (reportSelector j) := by
  refine @Confined.quiet _ _ _ _ _ ((selector j).map fun _ => ()) (fun page s => ?_) fun e he => ?_
  · rw [reportSelector, run_bind, run_ofOutcome]
    cases selector j with
    | error e => exact ⟨rfl, rfl, rfl⟩
    | ok invalid =>
      have hget : (getThe Journal : Activity Journal).run page s = (.ok s, s) := rfl
      simp only [run_bind, hget]
      split <;> exact ⟨rfl, rfl, rfl⟩
  · cases j <;> cases he <;> exact fun _ _ h => nomatch h

private theorem confined_takeSnapshot (request : SnapshotRequest) :
    Confined known places Other (takeSnapshot request) := by
  refine (Confined.call (fun _ h => nomatch h) other_page).bind fun snapshot => ?_
  split
  · refine (Confined.ofOutcome fun e he => other_of_ofData ?_).bind fun invalid => ?_
    · have honly : Outcome.OnlyData (do
          (← Json.fieldOr (.list []) snapshot "invalidSelectors").items) := by simp
      exact honly e he
    · exact (Confined.forM confined_reportSelector invalid).bind fun _ => Confined.pure snapshot
  · exact Confined.pure snapshot

private theorem confined_activeSnapshot (settings : Settings) (detection : Inspection.Detection)
    (rounds : Nat) : Confined known places Other (activeSnapshot settings detection rounds) := by
  induction rounds with
  | zero => exact Confined.throw fun _ _ h => nomatch h
  | succ rounds ih =>
    refine (Confined.call (fun _ h => nomatch h) other_page).bind fun census => ?_
    refine (Confined.ofOutcome fun e he => ?_).bind fun (slide, found) => ?_
    · exact other_of_ofData (Inspection.onlyData_activeSlide census e he)
    · refine (Confined.tell found).bind fun _ => (confined_takeSnapshot _).bind fun snapshot => ?_
      split
      · exact (Confined.tell _).bind fun _ => ih
      · exact Confined.pure _

theorem confined_detect (settings : Settings) (detection : Inspection.Detection) :
    Confined known places Other (detect settings detection) := by
  refine (confined_activeSnapshot settings detection rounds).bind fun snapshot => ?_
  refine (Confined.ofOutcome fun e he => ?_).bind fun issues => ?_
  · exact other_of_ofData (detection.onlyData_issues snapshot e he)
  · refine (Confined.ofOutcome fun e he => other_of_ofData ?_).bind fun elements => ?_
    · have honly : Outcome.OnlyData (do
          (← Json.fieldOr (.list []) snapshot "elements").size) := by simp
      exact honly e he
    · exact (Confined.tell _).bind fun _ => Confined.pure issues

end Navigation

/-! ### Slides that cannot be reached -/

inductive Skips : Failure → Prop where
  | unreachable (n : Int) (message : String) : Skips (.unreachable n message)
  | page (message : String) : Skips (.page message)

def GivesUp (page : Page) (s : Journal) (x : Activity α) : Prop :=
  ∃ e, (x.run page s).1 = .error e ∧ Skips e

section GivesUp

variable {page : Page} {s : Journal} {x : Activity α}

theorem not_givesUp_of_ok {a : α} (h : (x.run page s).1 = .ok a) : ¬GivesUp page s x := by
  rintro ⟨e, he, _⟩
  rw [h] at he
  cases he

theorem givesUp_of_page {message : String} (h : (x.run page s).1 = .error (.page message)) :
    GivesUp page s x :=
  ⟨_, h, .page message⟩

/-- Where nothing else tells that a slide cannot be reached, failed calls do. -/
theorem givesUp_iff_page (hx : ∀ e, (x.run page s).1 = .error e → Other e) :
    GivesUp page s x ↔ ∃ message, (x.run page s).1 = .error (.page message) := by
  refine ⟨?_, fun ⟨message, h⟩ => givesUp_of_page h⟩
  rintro ⟨e, he, hskips⟩
  cases hskips with
  | unreachable n message => exact absurd rfl (hx _ he n message)
  | page message => exact ⟨message, he⟩

theorem givesUp_bind_iff {f : α → Activity β} :
    GivesUp page s (x >>= f) ↔
      GivesUp page s x ∨ ∃ a, (x.run page s).1 = .ok a ∧ GivesUp page (x.run page s).2 (f a) := by
  cases ho : (x.run page s).1 with
  | error e =>
    rw [GivesUp, GivesUp, run_bind_error ho, ho]
    constructor
    · rintro ⟨e', he, hskips⟩
      cases he
      exact .inl ⟨e, rfl, hskips⟩
    · rintro (⟨e', he, hskips⟩ | ⟨a, ha, _⟩)
      · cases he
        exact ⟨e, rfl, hskips⟩
      · cases ha
  | ok a =>
    rw [GivesUp, run_bind_ok ho]
    constructor
    · exact fun h => .inr ⟨a, rfl, h⟩
    · rintro (h | ⟨a', ha, h⟩)
      · exact absurd h (not_givesUp_of_ok ho)
      · cases ha
        exact h

private theorem givesUp_orElse_iff {handle : String → Activity α}
    (hx : ∀ e, (x.run page s).1 = .error e → Other e) :
    GivesUp page s (orElse x handle) ↔
      ∃ message, (x.run page s).1 = .error (.page message) ∧
        GivesUp page (x.run page s).2 (handle message) := by
  constructor
  · intro h
    cases ho : (x.run page s).1 with
    | ok a => exact absurd h (not_givesUp_of_ok (congrArg Prod.fst (run_orElse_ok ho)))
    | error e =>
      by_cases hpage : ∃ message, e = .page message
      · obtain ⟨message, rfl⟩ := hpage
        rw [GivesUp, run_orElse_page ho] at h
        exact ⟨message, rfl, h⟩
      · rw [GivesUp, run_orElse_error ho fun message he => hpage ⟨message, he⟩, ← ho] at h
        obtain ⟨message, he⟩ := (givesUp_iff_page hx).mp h
        exact absurd ⟨message, Except.error.inj (ho.symm.trans he)⟩ hpage
  · rintro ⟨message, ho, h⟩
    rwa [GivesUp, run_orElse_page ho]

end GivesUp

def secondAttempt (pace : Pace) (n : Int) (message : String) : Activity Unit := do
  warn ("Error navigating to slide " ++ String.ofList (intText n) ++ ", retrying: " ++ message)
  perform (.sleep pace.retryBackoff)
  attempt pace n

/-- Both attempts to go to a slide fail, the second one where the first one has left off. -/
def Unreached (pace : Pace) (page : Page) (s : Journal) (n : Int) : Prop :=
  ∃ first second, ((attempt pace n).run page s).1 = .error (.page first) ∧
    ((secondAttempt pace n first).run page ((attempt pace n).run page s).2).1 =
      .error (.page second)

private theorem attempt_other {pace : Pace} {n : Int} {page : Page} {s : Journal} (e : Failure)
    (h : ((attempt pace n).run page s).1 = .error e) : Other e := by
  have hattempt : Confined (fun _ => True) (fun _ => True) Other (attempt pace n) :=
    confined_attempt pace trivial fun _ _ _ _ => trivial
  exact (hattempt page s trivial).failure e h

private theorem secondAttempt_other {pace : Pace} {n : Int} {message : String} {page : Page}
    {s : Journal}
    (e : Failure) (h : ((secondAttempt pace n message).run page s).1 = .error e) : Other e := by
  have hattempt :
      Confined (fun _ => True) (fun _ => True) Other (secondAttempt pace n message) := by
    refine (Confined.tell _).bind fun _ => Confined.bind ?_ fun _ => ?_
    · exact Confined.perform (fun _ h => nomatch h) other_page
    · exact confined_attempt pace trivial fun _ _ _ _ => trivial
  exact (hattempt page s trivial).failure e h

theorem detect_other {settings : Settings} {detection : Inspection.Detection} {page : Page}
    {s : Journal} (e : Failure) (h : ((detect settings detection).run page s).1 = .error e) :
    Other e := by
  have hdetect : Confined (fun _ => True) (fun _ => True) Other (detect settings detection) :=
    confined_detect settings detection
  exact (hdetect page s trivial).failure e h

theorem givesUp_navigate_iff (pace : Pace) (page : Page) (s : Journal) (n : Int) :
    GivesUp page s (navigate pace n) ↔ Unreached pace page s n := by
  -- A failed second attempt is told as a slide out of reach; the slide is skipped for either.
  have hlast (s : Journal) : GivesUp page s
      (orElse (attempt pace n) fun message => throw (.unreachable n message)) ↔
        GivesUp page s (attempt pace n) := by
    rw [givesUp_orElse_iff attempt_other, givesUp_iff_page attempt_other]
    exact ⟨fun ⟨message, h, _⟩ => ⟨message, h⟩,
      fun ⟨message, h⟩ => ⟨message, h, _, rfl, .unreachable n message⟩⟩
  rw [navigate, givesUp_orElse_iff attempt_other]
  have hsecond (first : String) (s : Journal) : GivesUp page s (do
      warn ("Error navigating to slide " ++ String.ofList (intText n) ++ ", retrying: " ++ first)
      perform (.sleep pace.retryBackoff)
      orElse (attempt pace n) fun message => throw (.unreachable n message)) ↔
        ∃ second, ((secondAttempt pace n first).run page s).1 = .error (.page second) := by
    rw [← givesUp_iff_page secondAttempt_other, secondAttempt]
    simp only [givesUp_bind_iff, hlast]
  simp only [hsecond]
  exact ⟨fun ⟨first, h, second, h'⟩ => ⟨first, second, h, h'⟩,
    fun ⟨first, second, h, h'⟩ => ⟨first, h, second, h'⟩⟩

/-! ### Sessions -/

private theorem goes_nowhere {x : Activity α} {o : Outcome α} {page : Page} {s s' : Journal}
    (hx : Confined (fun _ => True) (fun _ => False) (fun _ => True) x)
    (hs : ∀ n, .navigate n ∉ s.calls) (h : x.run page s = (o, s')) :
    ∀ n, .navigate n ∉ s'.calls := by
  obtain ⟨_, ⟨made, hcalls, hmade⟩, _⟩ := hx page s trivial
  intro n hn
  rw [h] at hcalls
  rw [hcalls] at hn
  rcases List.mem_append.mp hn with hn | hn
  · exact hs n hn
  · exact hmade n hn

theorem awaitReady_goes_nowhere {pace : Pace} {page : Page} {s s' : Journal} {o : Outcome Unit}
    (hs : ∀ n, .navigate n ∉ s.calls) (h : (awaitReady pace).run page s = (o, s')) :
    ∀ n, .navigate n ∉ s'.calls :=
  goes_nowhere (confined_awaitReady pace fun _ _ _ _ => trivial) hs h

/-- What is done in a session begins before the session has gone to any slide, and its calls stay
among those of the session. -/
theorem within_spec {settings : Settings} {opening : Opening} {address : String} {x : Activity α}
    {a : α} {page : Page} {s s' : Journal} (hs : ∀ n, .navigate n ∉ s.calls)
    (h : (within settings opening address x).run page s = (.ok a, s')) :
    ∃ t t', (∀ n, .navigate n ∉ t.calls) ∧ x.run page t = (.ok a, t') ∧
      t'.calls <+: s'.calls := by
  have hperform : ∀ c : Call, (∀ n, c ≠ .navigate n) →
      Confined (fun _ => True) (fun _ => False) (fun _ => True) (perform c) :=
    fun c hc => Confined.perform (fun n hn => hc n hn) fun _ => trivial
  cases opening with
  | provided =>
    obtain ⟨_, t, hattach, h⟩ := run_bind_eq_ok_iff.mp h
    exact ⟨t, s', goes_nowhere (hperform _ (by simp)) hs hattach, h, List.prefix_rfl⟩
  | browser =>
    simp only [within] at h
    split at h
    · cases h
    · obtain ⟨_, s₁, hlaunch, h⟩ := run_bind_eq_ok_iff.mp h
      have hs := goes_nowhere (hperform _ (by simp)) hs hlaunch
      obtain ⟨s₂, h, hclose⟩ := run_ending_eq_ok h
      obtain ⟨_, s₃, hpage, h⟩ := run_bind_eq_ok_iff.mp h
      obtain ⟨_, s₄, hnote, h⟩ := run_bind_eq_ok_iff.mp h
      obtain ⟨_, t, hgoto, h⟩ := run_bind_eq_ok_iff.mp h
      have hs := goes_nowhere (hperform _ (by simp)) hs hpage
      have hs := goes_nowhere (Confined.tell _) hs hnote
      have hs := goes_nowhere (hperform _ (by simp)) hs hgoto
      obtain ⟨_, ⟨made, hcalls, _⟩, _⟩ := hperform .close (by simp) page s₂ trivial
      rw [hclose] at hcalls
      exact ⟨t, s₂, hs, h, hcalls ▸ List.prefix_append _ _⟩

end SlideOverflow.Session
