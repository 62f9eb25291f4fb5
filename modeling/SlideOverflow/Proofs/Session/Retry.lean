import SlideOverflow.Proofs.Session.Course

/-! Going to a slide on a page on which every pause succeeds. An attempt then either fails at the
script or at the wait for the slide, or goes through; from this it follows what is made of two
attempts. -/
namespace SlideOverflow.Session

open Activity

def Pauses (page : Page) : Prop := ∀ calls time, ∃ answer, page calls (.sleep time) = .ok answer

/-- An attempt after some calls that ends in an error of the page: the script fails, or no slide
becomes visible in time. -/
inductive Missed (page : Page) (pace : Pace) (n : Int) (before : List Call) :
    List Call → String → Prop where
  | refused {message : String} :
      page before (.navigate n) = .error message →
      Missed page pace n before [.navigate n] message
  | unseen {answer : Json} {message : String} :
      page before (.navigate n) = .ok answer →
      page (before ++ [.navigate n]) (.awaitSlide pace.loadTimeout) = .error message →
      Missed page pace n before [.navigate n, .awaitSlide pace.loadTimeout] message

/-- The calls of an attempt that goes through: the slide is visible, the number of slides is known
as far as it can be, and the pauses go by it. -/
def Pace.visit (pace : Pace) (page : Page) (n : Int) (m : Moment) : List Call :=
  let visible := m.after page [.navigate n, .awaitSlide pace.loadTimeout]
  .navigate n :: .awaitSlide pace.loadTimeout ::
    (visible.questions ++ pace.pauses (visible.after page visible.questions).known)

structure Reached (page : Page) (pace : Pace) (n : Int) (m : Moment) (made : List Call) : Prop where
  navigated : ∃ answer, page m.calls (.navigate n) = .ok answer
  seen : ∃ answer, page (m.calls ++ [.navigate n]) (.awaitSlide pace.loadTimeout) = .ok answer
  made_eq : made = pace.visit page n m

def MissesOnce (page : Page) (pace : Pace) (n : Int) (before : List Call) : Prop :=
  ∃ made message, Missed page pace n before made message

def MissesTwice (page : Page) (pace : Pace) (n : Int) (before : List Call) : Prop :=
  ∃ made message, Missed page pace n before made message ∧
    MissesOnce page pace n (before ++ made ++ [.sleep pace.retryBackoff])

inductive Trials (page : Page) (pace : Pace) (n : Int) (m : Moment) :
    List Call → Outcome Unit → Prop where
  | first {made : List Call} : Reached page pace n m made → Trials page pace n m made (.ok ())
  | second {made made' : List Call} {message : String} :
      Missed page pace n m.calls made message →
      Reached page pace n (m.after page (made ++ [.sleep pace.retryBackoff])) made' →
      Trials page pace n m (made ++ .sleep pace.retryBackoff :: made') (.ok ())
  | never {made made' : List Call} {message message' : String} :
      Missed page pace n m.calls made message →
      Missed page pace n (m.calls ++ made ++ [.sleep pace.retryBackoff]) made' message' →
      Trials page pace n m (made ++ .sleep pace.retryBackoff :: made')
        (.error (.unreachable n message'))

def Call.slide? : Call → Option Int
  | .navigate n => some n
  | _ => none

structure Retried (page : Page) (pace : Pace) (n : Int) (m : Moment) (made : List Call)
    (o : Outcome Unit) : Prop where
  trials : Trials page pace n m made o
  slides : made.filterMap Call.slide? = [n] ∨ made.filterMap Call.slide? = [n, n]
  again : made.filterMap Call.slide? = [n, n] ↔ MissesOnce page pace n m.calls
  unreachable : (∃ message, o = .error (.unreachable n message)) ↔ MissesTwice page pace n m.calls
  otherwise : ¬ MissesTwice page pace n m.calls → o = .ok () ∧ ∃ front last, made = front ++ last ∧
    Reached page pace n (m.after page front) last

variable {page : Page} {pace : Pace} {n : Int}

section Attempts

variable {m : Moment} {before made made' : List Call} {message message' : String}
  {ending : Except String Unit} {o : Outcome Unit}

/-- Pauses that succeed are all made. -/
private theorem Follows.eq_of_pauses (hpauses : Pauses page) {plan : List Call}
    (hplan : ∀ c ∈ plan, ∃ time, c = .sleep time) (h : Follows page before plan made ending) :
    made = plan ∧ ending = .ok () := by
  induction h with
  | done => exact ⟨rfl, rfl⟩
  | failed hfailed =>
    obtain ⟨time, rfl⟩ := hplan _ List.mem_cons_self
    obtain ⟨answer, hanswer⟩ := hpauses _ time
    rw [hanswer] at hfailed
    cases hfailed
  | next _ _ ih =>
    obtain ⟨rfl, rfl⟩ := ih fun c hc => hplan c (.tail _ hc)
    exact ⟨rfl, rfl⟩

private theorem Pace.sleep_of_mem_pauses {total : Int} {c : Call} (hc : c ∈ pace.pauses total) :
    ∃ time, c = .sleep time := by
  rw [Pace.pauses] at hc
  split at hc
  · simp only [List.mem_cons, List.not_mem_nil, or_false] at hc
    exact hc.elim (⟨_, ·⟩) (⟨_, ·⟩)
  · exact ⟨_, List.mem_singleton.1 hc⟩

/-- An attempt is missed or goes through. -/
private theorem Attempt.missed_or_reached (hpauses : Pauses page)
    (h : Attempt page pace n m made ending) :
    (∃ message, ending = .error message ∧ Missed page pace n m.calls made message) ∨
      ending = .ok () ∧ Reached page pace n m made := by
  cases h with
  | refused hrefused => exact .inl ⟨_, rfl, .refused hrefused⟩
  | waited hnavigated hwait =>
    cases hwait with
    | unseen hunseen => exact .inl ⟨_, rfl, .unseen hnavigated hunseen⟩
    | seen hseen hvisible hasked hfollows =>
      obtain ⟨rfl, rfl⟩ := hfollows.eq_of_pauses hpauses fun c => Pace.sleep_of_mem_pauses
      subst hvisible hasked
      exact .inr ⟨rfl, ⟨_, hnavigated⟩, ⟨_, hseen⟩, rfl⟩

/-- The course of navigation, told by what becomes of the attempts. -/
private theorem Navigation.trials (hpauses : Pauses page) (h : Navigation page pace n m made o) :
    Trials page pace n m made o := by
  cases h with
  | once hattempt =>
    rcases hattempt.missed_or_reached hpauses with ⟨message, hending, -⟩ | ⟨-, hreached⟩
    · cases hending
    · exact .first hreached
  | interrupted _ hpause =>
    obtain ⟨answer, hanswer⟩ := hpauses _ pace.retryBackoff
    rw [hanswer] at hpause
    cases hpause
  | @twice made made' first answer ending hattempt _ hagain =>
    rcases hattempt.missed_or_reached hpauses with ⟨message, -, hmissed⟩ | ⟨hending, -⟩
    · rcases hagain.missed_or_reached hpauses with ⟨message', rfl, hmissed'⟩ | ⟨rfl, hreached⟩
      · rw [Moment.after_calls, ← List.append_assoc] at hmissed'
        exact .never hmissed hmissed'
      · exact .second hmissed hreached
    · cases hending

private theorem Missed.slides (h : Missed page pace n before made message) :
    made.filterMap Call.slide? = [n] := by
  cases h <;> rfl

private theorem Reached.slides (h : Reached page pace n m made) :
    made.filterMap Call.slide? = [n] := by
  have hquestions (m : Moment) : m.questions.filterMap Call.slide? = [] := by
    rw [Moment.questions]
    split <;> rfl
  have hpauses (total : Int) : (pace.pauses total).filterMap Call.slide? = [] := by
    rw [Pace.pauses]
    split <;> rfl
  rw [h.made_eq, Pace.visit]
  change n :: List.filterMap Call.slide? (_ ++ _) = _
  rw [List.filterMap_append, hquestions, hpauses]
  rfl

private theorem slides_twice (h : made.filterMap Call.slide? = [n])
    (h' : made'.filterMap Call.slide? = [n]) (time : Int) :
    (made ++ .sleep time :: made').filterMap Call.slide? = [n, n] := by
  rw [List.filterMap_append, h]
  change [n] ++ made'.filterMap Call.slide? = _
  rw [h']
  rfl

/-- How the page answers decides between the two. -/
private theorem Reached.not_missesOnce (h : Reached page pace n m made) :
    ¬ MissesOnce page pace n m.calls := by
  obtain ⟨answer, hnavigated⟩ := h.navigated
  obtain ⟨answer', hseen⟩ := h.seen
  rintro ⟨made', message, hmissed⟩
  cases hmissed with
  | refused hrefused =>
    rw [hnavigated] at hrefused
    cases hrefused
  | unseen _ hunseen =>
    rw [hseen] at hunseen
    cases hunseen

/-- It is settled by the page after how many calls an attempt is missed. -/
private theorem Missed.unique (h : Missed page pace n before made message)
    (h' : Missed page pace n before made' message') : made = made' := by
  cases h with
  | refused hrefused =>
    cases h' with
    | refused _ => rfl
    | unseen hnavigated _ =>
      rw [hrefused] at hnavigated
      cases hnavigated
  | unseen hnavigated _ =>
    cases h' with
    | refused hrefused =>
      rw [hrefused] at hnavigated
      cases hnavigated
    | unseen _ _ => rfl

private theorem Trials.retried (h : Trials page pace n m made o) :
    Retried page pace n m made o := by
  cases h with
  | first hreached =>
    have honce := hreached.not_missesOnce
    have htwice : ¬ MissesTwice page pace n m.calls :=
      fun ⟨_, _, hmissed, _⟩ => honce ⟨_, _, hmissed⟩
    refine ⟨.first hreached, .inl hreached.slides, ?_, ?_, ?_⟩
    · rw [hreached.slides]
      exact iff_of_false (by simp) honce
    · exact iff_of_false (by rintro ⟨_, ⟨⟩⟩) htwice
    · exact fun _ => ⟨rfl, [], made, rfl, hreached⟩
  | @second made made' message hmissed hreached =>
    have hslides := slides_twice hmissed.slides hreached.slides pace.retryBackoff
    have htwice : ¬ MissesTwice page pace n m.calls := by
      rintro ⟨made'', message', hmissed', hagain⟩
      rw [← hmissed.unique hmissed'] at hagain
      have honce := hreached.not_missesOnce
      rw [Moment.after_calls, ← List.append_assoc] at honce
      exact honce hagain
    refine ⟨.second hmissed hreached, .inr hslides, ?_, ?_, ?_⟩
    · exact iff_of_true hslides ⟨_, _, hmissed⟩
    · exact iff_of_false (by rintro ⟨_, ⟨⟩⟩) htwice
    · exact fun _ => ⟨rfl, made ++ [.sleep pace.retryBackoff], made',
        by rw [List.append_assoc, List.singleton_append], hreached⟩
  | @never made made' message message' hmissed hmissed' =>
    have hslides := slides_twice hmissed.slides hmissed'.slides pace.retryBackoff
    have htwice : MissesTwice page pace n m.calls := ⟨_, _, hmissed, _, _, hmissed'⟩
    refine ⟨.never hmissed hmissed', .inr hslides, ?_, ?_, fun hnot => absurd htwice hnot⟩
    · exact iff_of_true hslides ⟨_, _, hmissed⟩
    · exact iff_of_true ⟨_, rfl⟩ htwice

end Attempts

/-- Going to a slide takes one attempt, or two with a pause between them: the second one is made
exactly when the first one ends in an error of the page, and the slide is unreachable exactly when
both do. -/
theorem navigate_retried (hpauses : Pauses page) (htotals : TellsTotals page) (pace : Pace)
    (n : Int) (s : Journal) :
    ∃ made, ((navigate pace n).run page s).2.calls = s.calls ++ made ∧
      Retried page pace n s.moment made ((navigate pace n).run page s).1 := by
  obtain ⟨made, o, hcourse, hmade⟩ := navigate_makes htotals pace n s
  refine ⟨made, ?_, ?_⟩
  · exact (congrArg Moment.calls hmade.moment).trans (Moment.after_calls made)
  · rw [hmade.outcome]
    exact (hcourse.trials hpauses).retried

/-- Forty slides, of which none is visible at the first wait for it. -/
def late : Page := fun calls c =>
  match c with
  | .awaitSlide _ => if calls.length < 2 then .error "Timeout 10000ms exceeded" else .ok .null
  | .total => .ok (.ofInt 40)
  | _ => .ok .null

private theorem pauses_late : Pauses late := fun _ _ => ⟨.null, rfl⟩

private theorem tellsTotals_late : TellsTotals late := by
  intro calls answer hanswer
  cases hanswer
  exact ⟨40, rfl⟩

/-- The second attempt goes through. The number of slides is asked for there, and the slide settles
for less time than in a short presentation. -/
theorem navigate_retried_of_late :
    let pace : Pace := ⟨250, 2000, 10000, 30000⟩
    ∃ made, made = [.navigate 3, .awaitSlide 10000, .sleep 2000, .navigate 3, .awaitSlide 10000,
        .total, .sleep 450, .sleep 250] ∧
      Pauses late ∧ TellsTotals late ∧
      Retried late pace 3 (Journal.moment {}) made ((navigate pace 3).run late {}).1 := by
  intro pace
  obtain ⟨made, hcalls, hretried⟩ := navigate_retried pauses_late tellsTotals_late pace 3 {}
  exact ⟨made, hcalls.symm, pauses_late, tellsTotals_late, hretried⟩

end SlideOverflow.Session
