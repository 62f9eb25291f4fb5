import SlideOverflow.Session.Laws
import SlideOverflow.Session.Navigation

/-! The course of navigation: which calls it makes, in order, what each of them depends on, and the
number of slides that is remembered at each of them. Everything is told by how the page answers, so
that nothing is left open about a course. -/
namespace SlideOverflow.Session

open Number Activity

variable {α β : Type}

/-! ### Moments -/

structure Moment where
  calls : List Call
  total : Option Int

def Journal.moment (s : Journal) : Moment := ⟨s.calls, s.total⟩

def told? (page : Page) (calls : List Call) : Option Int :=
  match page calls .total with
  | .ok answer => (answer.wholeOr 0).toOption
  | .error _ => none

theorem told?_of_ok {page : Page} {calls : List Call} {answer : Json} {n : Int}
    (h : page calls .total = .ok answer) (hn : answer.wholeOr 0 = .ok n) :
    told? page calls = some n := by
  simp only [told?, h, hn]
  rfl

theorem told?_of_error {page : Page} {calls : List Call} {message : String}
    (h : page calls .total = .error message) : told? page calls = none := by
  simp only [told?, h]

/-- A page that tells numbers of slides which can be read, whenever it tells any. -/
def TellsTotals (page : Page) : Prop :=
  ∀ calls answer, page calls .total = .ok answer → ∃ n, answer.wholeOr 0 = .ok n

namespace Moment

/-- The moment after a call. Only an answer to the question for the number of slides is
remembered. -/
def next (page : Page) (m : Moment) (c : Call) : Moment where
  calls := m.calls ++ [c]
  total :=
    match c with
    | .total => told? page m.calls <|> m.total
    | _ => m.total

def after (page : Page) (m : Moment) (made : List Call) : Moment := made.foldl (next page) m

def known (m : Moment) : Int := m.total.getD 0

/-- What is asked before a slide settles: the number of slides, if none is remembered or zero. -/
def questions (m : Moment) : List Call := if m.known = 0 then [.total] else []

variable {page : Page} {m : Moment}

@[simp] theorem next_calls (c : Call) : (m.next page c).calls = m.calls ++ [c] := rfl

theorem next_total {c : Call} (h : c ≠ .total) : (m.next page c).total = m.total := by
  cases c <;> first | rfl | exact absurd rfl h

theorem after_append (made made' : List Call) :
    m.after page (made ++ made') = (m.after page made).after page made' :=
  List.foldl_append

@[simp] theorem after_calls (made : List Call) : (m.after page made).calls = m.calls ++ made := by
  induction made generalizing m with
  | nil => exact (List.append_nil _).symm
  | cons c made ih =>
    change ((m.next page c).after page made).calls = _
    rw [ih, next_calls, List.append_assoc, List.singleton_append]

end Moment

/-! ### Courses -/

/-- Calls that are made one after the other until one of them fails. -/
inductive Follows (page : Page) :
    List Call → List Call → List Call → Except String Unit → Prop where
  | done {before : List Call} : Follows page before [] [] (.ok ())
  | failed {before plan : List Call} {c : Call} {message : String} :
      page before c = .error message → Follows page before (c :: plan) [c] (.error message)
  | next {before plan made : List Call} {c : Call} {answer : Json} {ending : Except String Unit} :
      page before c = .ok answer → Follows page (before ++ [c]) plan made ending →
      Follows page before (c :: plan) (c :: made) ending

def Pace.pauses (pace : Pace) (total : Int) : List Call :=
  .sleep (Settings.settleWait total) :: if 0 < pace.wait then [.sleep pace.wait] else []

/-- The course of a wait for a slide. Only where the slide becomes visible is the number of slides
asked for, if need be, and then the pauses go by what is remembered. -/
inductive LoadWait (page : Page) (pace : Pace) (m : Moment) :
    List Call → Except String Unit → Prop where
  | unseen {message : String} :
      page m.calls (.awaitSlide pace.loadTimeout) = .error message →
      LoadWait page pace m [.awaitSlide pace.loadTimeout] (.error message)
  | seen {answer : Json} {visible asked : Moment} {made : List Call}
      {ending : Except String Unit} :
      page m.calls (.awaitSlide pace.loadTimeout) = .ok answer →
      visible = m.next page (.awaitSlide pace.loadTimeout) →
      asked = visible.after page visible.questions →
      Follows page asked.calls (pace.pauses asked.known) made ending →
      LoadWait page pace m (.awaitSlide pace.loadTimeout :: (visible.questions ++ made)) ending

inductive Attempt (page : Page) (pace : Pace) (n : Int) (m : Moment) :
    List Call → Except String Unit → Prop where
  | refused {message : String} :
      page m.calls (.navigate n) = .error message →
      Attempt page pace n m [.navigate n] (.error message)
  | waited {answer : Json} {made : List Call} {ending : Except String Unit} :
      page m.calls (.navigate n) = .ok answer →
      LoadWait page pace (m.next page (.navigate n)) made ending →
      Attempt page pace n m (.navigate n :: made) ending

/-- The course of going to a slide. A failed attempt is followed by a pause, and then by one more
attempt, whose failure is told as a slide that cannot be reached. -/
inductive Navigation (page : Page) (pace : Pace) (n : Int) (m : Moment) :
    List Call → Outcome Unit → Prop where
  | once {made : List Call} :
      Attempt page pace n m made (.ok ()) → Navigation page pace n m made (.ok ())
  | interrupted {made : List Call} {first message : String} :
      Attempt page pace n m made (.error first) →
      page (m.calls ++ made) (.sleep pace.retryBackoff) = .error message →
      Navigation page pace n m (made ++ [.sleep pace.retryBackoff]) (.error (.page message))
  | twice {made made' : List Call} {first : String} {answer : Json}
      {ending : Except String Unit} :
      Attempt page pace n m made (.error first) →
      page (m.calls ++ made) (.sleep pace.retryBackoff) = .ok answer →
      Attempt page pace n (m.after page (made ++ [.sleep pace.retryBackoff])) made' ending →
      Navigation page pace n m (made ++ .sleep pace.retryBackoff :: made')
        (ending.mapError (.unreachable n))

/-- The course of a wait for the first slide. Whether the presentation offers navigation makes no
difference. -/
inductive Readiness (page : Page) (pace : Pace) (m : Moment) : List Call → Outcome Unit → Prop where
  | notLoaded {message : String} :
      page m.calls (.awaitElement pageSelector pace.readyTimeout) = .error message →
      Readiness page pace m [.awaitElement pageSelector pace.readyTimeout]
        (.error (.notLoaded message))
  | loaded {answer : Json} {made : List Call} {ending : Except String Unit} :
      page m.calls (.awaitElement pageSelector pace.readyTimeout) = .ok answer →
      LoadWait page pace (m.after page
        [.awaitElement pageSelector pace.readyTimeout, .awaitNavigation navigationTimeout])
        made ending →
      Readiness page pace m (.awaitElement pageSelector pace.readyTimeout ::
        .awaitNavigation navigationTimeout :: made) (ending.mapError .notVisible)

structure Makes (page : Page) (s : Journal) (x : Activity α) (made : List Call) (o : Outcome α) :
    Prop where
  outcome : (x.run page s).1 = o
  moment : (x.run page s).2.moment = s.moment.after page made

section Laws

variable {page : Page} {s : Journal} {x : Activity α} {made made' : List Call}

/-- What does not touch the calls and what is remembered. -/
theorem Makes.quiet {o : Outcome α} (h : (x.run page s).1 = o)
    (hs : (x.run page s).2.moment = s.moment) : Makes page s x [] o :=
  ⟨h, hs⟩

theorem Makes.call {c : Call} (hc : c ≠ .total) {answer : Except String Json}
    (h : page s.calls c = answer) :
    Makes page s (Activity.call c) [c] (answer.mapError Failure.page) := by
  constructor
  · rw [run_call, h]
  · rw [run_call]
    change (⟨s.calls ++ [c], s.total⟩ : Moment) = s.moment.next page c
    cases c <;> first | rfl | exact absurd rfl hc

theorem Makes.bind {f : α → Activity β} {a : α} {o : Outcome β}
    (hx : Makes page s x made (.ok a)) (hf : Makes page (x.run page s).2 (f a) made' o) :
    Makes page s (x >>= f) (made ++ made') o := by
  constructor
  · rw [run_bind_ok hx.outcome, hf.outcome]
  · rw [run_bind_ok hx.outcome, hf.moment, hx.moment, Moment.after_append]

theorem Makes.bind_error {f : α → Activity β} {e : Failure}
    (hx : Makes page s x made (.error e)) : Makes page s (x >>= f) made (.error e) := by
  constructor
  · rw [run_bind_error hx.outcome]
  · rw [run_bind_error hx.outcome, hx.moment]

theorem Makes.bind_return {o : Outcome α} (hx : Makes page s x made o) (g : α → β) :
    Makes page s (x >>= fun a => return g a) made (o.map g) := by
  cases o with
  | error e => exact hx.bind_error
  | ok a =>
    have hreturn : Makes page s (x >>= fun a => return g a) (made ++ []) (.ok (g a)) :=
      hx.bind (.quiet rfl rfl)
    rwa [List.append_nil] at hreturn

theorem Makes.perform {c : Call} (hc : c ≠ .total) {answer : Except String Json}
    (h : page s.calls c = answer) :
    Makes page s (perform c) [c] ((answer.map fun _ => ()).mapError Failure.page) := by
  have hcall := (Makes.call hc h).bind_return fun _ => ()
  cases answer <;> exact hcall

theorem Makes.observe {o : Outcome α} (hx : Makes page s x made o) :
    Makes page s (observe x) made (.ok o) := by
  constructor
  · rw [run_observe, hx.outcome]
  · rw [run_observe, hx.moment]

theorem Makes.orElse_ok {handle : String → Activity α} {a : α} (hx : Makes page s x made (.ok a)) :
    Makes page s (orElse x handle) made (.ok a) := by
  constructor
  · rw [run_orElse_ok hx.outcome]
  · rw [run_orElse_ok hx.outcome, hx.moment]

theorem Makes.orElse_page {handle : String → Activity α} {message : String} {o : Outcome α}
    (hx : Makes page s x made (.error (.page message)))
    (hh : Makes page (x.run page s).2 (handle message) made' o) :
    Makes page s (orElse x handle) (made ++ made') o := by
  constructor
  · rw [run_orElse_page hx.outcome, hh.outcome]
  · rw [run_orElse_page hx.outcome, hh.moment, hx.moment, Moment.after_append]

/-- A failed call that is told as a failure of its own. -/
theorem Makes.orElse_throw {x : Activity Unit} {ending : Except String Unit}
    (hx : Makes page s x made (ending.mapError Failure.page)) (failure : String → Failure) :
    Makes page s (orElse x fun message => throw (failure message)) made
      (ending.mapError failure) := by
  cases ending with
  | ok _ => exact hx.orElse_ok
  | error message =>
    have hthrow : Makes page s (orElse x fun message => throw (failure message)) (made ++ [])
        (.error (failure message)) := hx.orElse_page (.quiet rfl rfl)
    rwa [List.append_nil] at hthrow

/-- What follows an activity is told by the moment after it. -/
theorem Makes.exists_bind {ι : Type} {P : List Call → ι → Prop} {o : ι → Outcome β}
    {f : α → Activity β} {a : α} (hx : Makes page s x made (.ok a))
    (hf : ∀ t : Journal, t.moment = s.moment.after page made →
      ∃ made' i, P (made ++ made') i ∧ Makes page t (f a) made' (o i)) :
    ∃ made' i, P made' i ∧ Makes page s (x >>= f) made' (o i) := by
  obtain ⟨made', i, hcourse, hmade⟩ := hf _ hx.moment
  exact ⟨made ++ made', i, hcourse, hx.bind hmade⟩

/-- A call fails, or is followed by what comes after it. -/
theorem Makes.exists_perform_bind {ι : Type} {P : List Call → ι → Prop} {o : ι → Outcome β}
    {f : Unit → Activity β} {c : Call} (hc : c ≠ .total)
    (hfailed : ∀ message, page s.calls c = .error message →
      ∃ i, P [c] i ∧ o i = .error (.page message))
    (hdone : ∀ answer (t : Journal), page s.calls c = .ok answer →
      t.moment = s.moment.after page [c] →
      ∃ made i, P (c :: made) i ∧ Makes page t (f ()) made (o i)) :
    ∃ made i, P made i ∧ Makes page s (Activity.perform c >>= f) made (o i) := by
  cases hanswer : page s.calls c with
  | error message =>
    obtain ⟨i, hcourse, hi⟩ := hfailed message hanswer
    refine ⟨[c], i, hcourse, ?_⟩
    rw [hi]
    exact (Makes.perform hc hanswer).bind_error
  | ok answer =>
    have hfirst : Makes page s (Activity.perform c) [c] (.ok ()) := Makes.perform hc hanswer
    exact hfirst.exists_bind fun t ht => hdone answer t hanswer ht

/-- What is done instead is told by the moment at which the activity failed. -/
theorem Makes.exists_orElse_page {ι : Type} {P : List Call → ι → Prop} {o : ι → Outcome α}
    {handle : String → Activity α} {message : String}
    (hx : Makes page s x made (.error (.page message)))
    (hh : ∀ t : Journal, t.moment = s.moment.after page made →
      ∃ made' i, P (made ++ made') i ∧ Makes page t (handle message) made' (o i)) :
    ∃ made' i, P made' i ∧ Makes page s (orElse x handle) made' (o i) := by
  obtain ⟨made', i, hcourse, hmade⟩ := hh _ hx.moment
  exact ⟨made ++ made', i, hcourse, hx.orElse_page hmade⟩

theorem Makes.tell_bind {f : Unit → Activity β} {o : Outcome β} (e : LogEntry)
    (h : Makes page { s with log := s.log ++ [e] } (f ()) made o) :
    Makes page s (tell e >>= f) made o := by
  have hsame : (tell e >>= f).run page s = (f ()).run page { s with log := s.log ++ [e] } := by
    rw [run_bind, run_tell]
  exact ⟨hsame ▸ h.outcome, hsame ▸ h.moment⟩

theorem Makes.ofOutcome_bind {f : α → Activity β} {a : α} {o : Outcome β}
    (h : Makes page s (f a) made o) : Makes page s (ofOutcome (.ok a) >>= f) made o := by
  have hsame : (ofOutcome (.ok a) >>= f).run page s = (f a).run page s := by
    rw [run_bind, run_ofOutcome]
  exact ⟨hsame ▸ h.outcome, hsame ▸ h.moment⟩

/-- A log entry changes neither the calls nor what is remembered. -/
theorem Makes.exists_tell_bind {ι : Type} {P : List Call → ι → Prop} {o : ι → Outcome β}
    {f : Unit → Activity β} (e : LogEntry)
    (hf : ∀ t : Journal, t.moment = s.moment →
      ∃ made i, P made i ∧ Makes page t (f ()) made (o i)) :
    ∃ made i, P made i ∧ Makes page s (tell e >>= f) made (o i) := by
  obtain ⟨made, i, hcourse, hmade⟩ := hf { s with log := s.log ++ [e] } rfl
  exact ⟨made, i, hcourse, .tell_bind e hmade⟩

theorem Makes.knownTotal_bind {f : Int → Activity β} {o : Outcome β}
    (h : Makes page s (f s.moment.known) made o) : Makes page s (knownTotal >>= f) made o := by
  have hsame : (knownTotal >>= f).run page s = (f s.moment.known).run page s := by
    have hk : knownTotal.run page s = (.ok s.moment.known, s) := rfl
    rw [run_bind, hk]
  exact ⟨hsame ▸ h.outcome, hsame ▸ h.moment⟩

/-- Calls are made one after the other. -/
private theorem exists_follows (plan : List Call) (hplan : ∀ c ∈ plan, c ≠ .total) (s : Journal) :
    ∃ made ending, Follows page s.calls plan made ending ∧
      Makes page s (plan.forM Activity.perform) made (ending.mapError Failure.page) := by
  induction plan generalizing s with
  | nil => exact ⟨[], .ok (), .done, .quiet rfl rfl⟩
  | cons c plan ih =>
    refine Makes.exists_perform_bind (hplan c List.mem_cons_self)
      (fun message hfailed => ⟨.error message, .failed hfailed, rfl⟩) fun answer t hanswer ht => ?_
    obtain ⟨made, ending, hfollows, hmade⟩ := ih (fun d hd => hplan d (.tail c hd)) t
    have hcalls : t.calls = s.calls ++ [c] := congrArg Moment.calls ht
    rw [hcalls] at hfollows
    exact ⟨made, ending, .next hanswer hfollows, hmade⟩

end Laws

/-! ### Courses of navigation -/

variable {page : Page} (hread : TellsTotals page)

include hread

/-- The number of slides is read by one question. A failed question changes nothing and gives
zero. -/
theorem readTotal_makes (s : Journal) :
    Makes page s readTotal [.total] (.ok ((told? page s.calls).getD 0)) := by
  have hnext : s.moment.after page [.total] =
      ⟨s.calls ++ [.total], told? page s.calls <|> s.total⟩ := rfl
  cases hanswer : page s.calls .total with
  | error message =>
    have htold : told? page s.calls = none := told?_of_error hanswer
    have hrun : readTotal.run page s = (.ok 0, { s with
        calls := s.calls ++ [.total]
        log := s.log ++ [.warning ("Could not read slide count: " ++ message)] }) := by
      have hcall := run_call_error hanswer
      rw [readTotal, @run_orElse_page _ _ _ _ _ message (by rw [run_bind, hcall])]
      simp only [run_bind, hcall, warn, run_tell, run_pure]
    constructor
    · rw [hrun, htold]
      rfl
    · rw [hrun, hnext, htold]
      rfl
  | ok answer =>
    obtain ⟨n, hn⟩ := hread s.calls answer hanswer
    have htold : told? page s.calls = some n := told?_of_ok hanswer hn
    have hrun : readTotal.run page s =
        (.ok n, { s with calls := s.calls ++ [.total], total := some n }) := by
      have hcall := run_call_ok hanswer
      rw [readTotal, run_orElse_ok (a := n)] <;>
        simp only [run_bind, hcall, run_ofOutcome, hn] <;> rfl
    constructor
    · rw [hrun, htold]
      rfl
    · rw [hrun, hnext, htold]
      rfl

/-- The number of slides is asked for if need be, and what follows goes on from there. -/
private theorem exists_asked (s : Journal) (rest : Activity β) :
    ∃ t, t.moment = s.moment.after page s.moment.questions ∧
      ∀ made o, Makes page t rest made o → Makes page s
        (do
          if (← knownTotal) == 0 then
            let _ ← readTotal
          rest)
        (s.moment.questions ++ made) o := by
  rw [Moment.questions]
  by_cases hzero : s.moment.known = 0
  · have hasked := readTotal_makes hread s
    refine ⟨(readTotal.run page s).2, ?_, fun made o hrest => Makes.knownTotal_bind ?_⟩
    · rw [hasked.moment, if_pos hzero]
    · rw [if_pos hzero, if_pos (by simpa using hzero)]
      exact hasked.bind hrest
  · refine ⟨s, ?_, fun made o hrest => Makes.knownTotal_bind ?_⟩
    · rw [if_neg hzero]
      rfl
    · rw [if_neg hzero, if_neg (by simpa using hzero)]
      exact hrest

omit hread in
/-- The pauses of a wait are made like any other calls. -/
private theorem exists_pauses (pace : Pace) (s : Journal) :
    ∃ made ending, Follows page s.moment.calls (pace.pauses s.moment.known) made ending ∧
      Makes page s
        (do
          perform (.sleep (Settings.settleWait (← knownTotal)))
          if 0 < pace.wait then perform (.sleep pace.wait))
        made (ending.mapError Failure.page) := by
  obtain ⟨made, ending, hfollows, hmade⟩ :=
    @exists_follows page (pace.pauses s.moment.known) (by simp [Pace.pauses]) s
  refine ⟨made, ending, hfollows, Makes.knownTotal_bind ?_⟩
  have hplan : (pace.pauses s.moment.known).forM perform = (do
      perform (.sleep (Settings.settleWait s.moment.known))
      if 0 < pace.wait then perform (.sleep pace.wait)) := by
    rw [Pace.pauses]
    split <;> simp
  rwa [hplan] at hmade

private theorem awaitLoad_makes (pace : Pace) (s : Journal) :
    ∃ made ending, LoadWait page pace s.moment made ending ∧
      Makes page s (awaitLoad pace) made (ending.mapError Failure.page) := by
  rw [awaitLoad]
  refine Makes.exists_perform_bind (by simp)
    (fun message hunseen => ⟨.error message, .unseen hunseen, rfl⟩) fun answer t hseen ht => ?_
  obtain ⟨u, hasked, hrest⟩ := exists_asked hread t (do
    perform (.sleep (Settings.settleWait (← knownTotal)))
    if 0 < pace.wait then perform (.sleep pace.wait))
  obtain ⟨made, ending, hfollows, hmade⟩ := @exists_pauses page pace u
  exact ⟨_, ending, .seen hseen ht hasked hfollows, hrest made _ hmade⟩

private theorem attempt_makes (pace : Pace) (n : Int) (s : Journal) :
    ∃ made ending, Attempt page pace n s.moment made ending ∧
      Makes page s (attempt pace n) made (ending.mapError Failure.page) := by
  rw [attempt, note]
  refine Makes.exists_tell_bind _ fun t ht => ?_
  rw [← ht]
  refine Makes.exists_perform_bind (by simp)
    (fun message hrefused => ⟨.error message, .refused hrefused, rfl⟩) fun answer u hscript hu => ?_
  obtain ⟨made, ending, hwait, hmade⟩ := awaitLoad_makes hread pace u
  rw [hu] at hwait
  exact ⟨made, ending, .waited hscript hwait, hmade⟩

theorem navigate_makes (pace : Pace) (n : Int) (s : Journal) :
    ∃ made o, Navigation page pace n s.moment made o ∧ Makes page s (navigate pace n) made o := by
  rw [navigate]
  obtain ⟨made, ending, hattempt, hmade⟩ := attempt_makes hread pace n s
  cases ending with
  | ok _ => exact ⟨made, .ok (), .once hattempt, hmade.orElse_ok⟩
  | error first =>
    refine hmade.exists_orElse_page fun t ht => Makes.exists_tell_bind _ fun u hu => ?_
    have hmoment : u.moment = s.moment.after page made := hu.trans ht
    have hcalls : u.calls = s.moment.calls ++ made :=
      (congrArg Moment.calls hmoment).trans (Moment.after_calls made)
    refine Makes.exists_perform_bind (by simp)
      (fun message hpause => ⟨_, .interrupted hattempt (hcalls ▸ hpause), rfl⟩)
      fun answer v hpause hv => ?_
    obtain ⟨made', ending, hsecond, hmade'⟩ := attempt_makes hread pace n v
    rw [hv, hmoment, ← Moment.after_append] at hsecond
    exact ⟨made', _, .twice hattempt (hcalls ▸ hpause) hsecond, hmade'.orElse_throw _⟩

omit hread in
/-- A presentation that offers no navigation is taken all the same. -/
private theorem navigationWait_makes (s : Journal) :
    Makes page s
      (orElse (perform (.awaitNavigation navigationTimeout)) fun _ =>
        note 2 "Navigation API unavailable, counting slide pages instead")
      [.awaitNavigation navigationTimeout] (.ok ()) := by
  cases hoffered : page s.calls (.awaitNavigation navigationTimeout) with
  | error message =>
    have hfailed : Makes page s (perform (.awaitNavigation navigationTimeout))
        [.awaitNavigation navigationTimeout] (.error (.page message)) :=
      Makes.perform (by simp) hoffered
    change Makes page s _ ([.awaitNavigation navigationTimeout] ++ []) _
    exact hfailed.orElse_page (.quiet rfl rfl)
  | ok answer =>
    have hmade : Makes page s (perform (.awaitNavigation navigationTimeout))
        [.awaitNavigation navigationTimeout] (.ok ()) := Makes.perform (by simp) hoffered
    exact hmade.orElse_ok

theorem awaitReady_makes (pace : Pace) (s : Journal) :
    ∃ made o, Readiness page pace s.moment made o ∧ Makes page s (awaitReady pace) made o := by
  rw [awaitReady]
  cases hloaded : page s.calls (.awaitElement pageSelector pace.readyTimeout) with
  | error message =>
    have hfirst := (Makes.perform (by simp) hloaded).orElse_throw (s := s) .notLoaded
    exact ⟨_, _, .notLoaded hloaded, hfirst.bind_error⟩
  | ok answer =>
    have hfirst := (Makes.perform (by simp) hloaded).orElse_throw (s := s) .notLoaded
    refine hfirst.exists_bind fun t ht => (navigationWait_makes t).exists_bind fun u hu => ?_
    obtain ⟨made, ending, hwait, hmade⟩ := awaitLoad_makes hread pace u
    rw [hu, ht] at hwait
    exact ⟨made, _, .loaded hloaded hwait, hmade.orElse_throw _⟩

end SlideOverflow.Session
