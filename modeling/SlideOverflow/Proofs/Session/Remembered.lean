import SlideOverflow.Proofs.Session.Course

/-! The number of slides that is remembered while a presentation is navigated: at every moment it
is the last number that the page told, whatever else fails, and the slides settle by it. -/
namespace SlideOverflow.Session

open Activity

/-! ### The last number that was told -/

def Unanswered (page : Page) (before calls : List Call) : Prop :=
  ∀ front back, calls = front ++ .total :: back →
    ∃ message, page (before ++ front) .total = .error message

inductive LastTold (page : Page) (calls : List Call) : Option Int → Prop where
  | never : Unanswered page [] calls → LastTold page calls none
  | told {before later : List Call} {answer : Json} {n : Int} :
      calls = before ++ .total :: later → page before .total = .ok answer →
      answer.wholeOr 0 = .ok n → Unanswered page (before ++ [.total]) later →
      LastTold page calls (some n)

section Told

variable {page : Page} {before calls : List Call} {c : Call} {total : Option Int}

private theorem Unanswered.nil : Unanswered page before [] := by
  intro front back h
  exact absurd h.symm (by simp)

private theorem Unanswered.snoc (h : Unanswered page before calls)
    (hc : c = .total → ∃ message, page (before ++ calls) .total = .error message) :
    Unanswered page before (calls ++ [c]) := by
  intro front back heq
  rcases List.eq_nil_or_concat back with rfl | ⟨back, last, rfl⟩
  · obtain ⟨rfl, hlast⟩ := List.append_inj' heq rfl
    exact hc (List.cons.inj hlast).1
  · rw [List.concat_eq_append, ← List.cons_append, ← List.append_assoc] at heq
    exact h front back (List.append_inj' heq rfl).1

/-- A call that tells no number of slides leaves the last one as it is. -/
private theorem LastTold.snoc (h : LastTold page calls total)
    (hc : c = .total → ∃ message, page calls .total = .error message) :
    LastTold page (calls ++ [c]) total := by
  cases h with
  | never hnever => exact .never (hnever.snoc hc)
  | @told before later answer n hcalls hanswer hn hlater =>
    subst hcalls
    have hcalls : before ++ .total :: later ++ [c] = before ++ .total :: (later ++ [c]) := by
      rw [List.append_assoc, List.cons_append]
    refine .told hcalls hanswer hn (hlater.snoc fun htotal => ?_)
    rw [List.append_assoc, List.singleton_append]
    exact hc htotal

/-- What is remembered is what was told last: one more call keeps it so. -/
private theorem LastTold.next (htotals : TellsTotals page) {m : Moment}
    (h : LastTold page m.calls m.total)
    (c : Call) : LastTold page (m.next page c).calls (m.next page c).total := by
  by_cases hc : c = .total
  · subst hc
    cases hanswer : page m.calls .total with
    | error message =>
      have htold : (m.next page .total).total = m.total := by
        change (told? page m.calls <|> m.total) = m.total
        rw [told?_of_error hanswer]
        rfl
      rw [htold]
      exact h.snoc fun _ => ⟨message, hanswer⟩
    | ok answer =>
      obtain ⟨n, hn⟩ := htotals m.calls answer hanswer
      have htold : (m.next page .total).total = some n := by
        change (told? page m.calls <|> m.total) = some n
        rw [told?_of_ok hanswer hn]
        rfl
      rw [htold]
      exact .told rfl hanswer hn .nil
  · rw [Moment.next_total hc]
    exact h.snoc fun htotal => absurd htotal hc

/-- So do any further calls. -/
private theorem LastTold.after (htotals : TellsTotals page) {m : Moment}
    (h : LastTold page m.calls m.total) (made : List Call) :
    LastTold page (m.after page made).calls (m.after page made).total := by
  induction made generalizing m with
  | nil => exact h
  | cons c made ih => exact ih (h.next htotals c)

end Told

/-! ### Turns -/

inductive Turn where
  | total
  | current
  | goTo (slide : Int)
  | ready

def Turn.activity (pace : Pace) : Turn → Activity (Option Int)
  | .total => do return some (← readTotal)
  | .current => do return some (← readCurrent)
  | .goTo slide => do
    navigate pace slide
    return none
  | .ready => do
    awaitReady pace
    return none

/-- The journal after some turns. A turn that fails is followed by the next one all the same. -/
def afterTurns (page : Page) (pace : Pace) (s : Journal) (turns : List Turn) : Journal :=
  turns.foldl (fun s turn => ((turn.activity pace).run page s).2) s

inductive Turn.Course (page : Page) (pace : Pace) (m : Moment) :
    Turn → List Call → Outcome (Option Int) → Prop where
  | told {answer : Json} {n : Int} :
      page m.calls .total = .ok answer → answer.wholeOr 0 = .ok n →
      Course page pace m .total [.total] (.ok (some n))
  | untold {message : String} :
      page m.calls .total = .error message → Course page pace m .total [.total] (.ok (some 0))
  | current {o : Outcome (Option Int)} : Course page pace m .current [.current] o
  | goTo {n : Int} {made : List Call} {o : Outcome Unit} :
      Navigation page pace n m made o →
      Course page pace m (.goTo n) made (o.map fun _ => none)
  | ready {made : List Call} {o : Outcome Unit} :
      Readiness page pace m made o → Course page pace m .ready made (o.map fun _ => none)

variable {page : Page}

/-- The number of the slide that is shown is asked for once, and changes nothing. -/
private theorem readCurrent_makes (s : Journal) : ∃ o, Makes page s readCurrent [.current] o := by
  refine ⟨_, rfl, ?_⟩
  change (readCurrent.run page s).2.moment = ⟨s.calls ++ [.current], s.total⟩
  cases hanswer : page s.calls .current with
  | error message =>
    have hcall := run_call_error hanswer
    rw [readCurrent, @run_orElse_page _ _ _ _ _ message (by rw [run_bind, hcall])]
    simp only [run_bind, hcall, note, run_tell, run_pure]
    rfl
  | ok answer =>
    simp only [readCurrent, orElse, run_bind, run_observe, run_call_ok hanswer, run_ofOutcome]
    rcases answer.wholeOr 1 with e | n
    · cases e <;> simp [note, Journal.moment]
    · rfl

section Runs

variable (htotals : TellsTotals page)

include htotals

private theorem Turn.exists_course (pace : Pace) (turn : Turn) (s : Journal) :
    ∃ made o, turn.Course page pace s.moment made o ∧
      Makes page s (turn.activity pace) made o := by
  cases turn with
  | total =>
    refine ⟨_, _, ?_, (readTotal_makes htotals s).bind_return some⟩
    cases hanswer : page s.calls .total with
    | error message =>
      rw [told?_of_error hanswer]
      exact .untold hanswer
    | ok answer =>
      obtain ⟨n, hn⟩ := htotals s.calls answer hanswer
      rw [told?_of_ok hanswer hn]
      exact .told hanswer hn
  | current =>
    obtain ⟨o, hread⟩ := @readCurrent_makes page s
    exact ⟨_, _, .current, hread.bind_return some⟩
  | goTo slide =>
    obtain ⟨made, o, hcourse, hmade⟩ := navigate_makes htotals pace slide s
    exact ⟨made, _, .goTo hcourse, hmade.bind_return fun _ => none⟩
  | ready =>
    obtain ⟨made, o, hcourse, hmade⟩ := awaitReady_makes htotals pace s
    exact ⟨made, _, .ready hcourse, hmade.bind_return fun _ => none⟩

/-- A turn, whether it fails or not, remembers what was told last. -/
private theorem Turn.lastTold (pace : Pace) (turn : Turn) {s : Journal}
    (hs : LastTold page s.calls s.total) :
    LastTold page ((turn.activity pace).run page s).2.calls
      ((turn.activity pace).run page s).2.total := by
  obtain ⟨made, o, -, hmade⟩ := turn.exists_course htotals pace s
  have hmoment := hs.after (m := s.moment) htotals made
  rwa [← hmade.moment] at hmoment

/-- So do any turns. -/
private theorem afterTurns_lastTold (pace : Pace) (turns : List Turn) {s : Journal}
    (hs : LastTold page s.calls s.total) :
    LastTold page (afterTurns page pace s turns).calls (afterTurns page pace s turns).total := by
  induction turns generalizing s with
  | nil => exact hs
  | cons turn turns ih => exact ih (turn.lastTold htotals pace hs)

/-- What a turn does after other turns, and what is remembered at each of its calls. -/
structure Turn.Remembers (page : Page) (pace : Pace) (turn : Turn) (s t : Journal)
    (made : List Call) (o : Outcome (Option Int)) : Prop where
  course : turn.Course page pace s.moment made o
  moment : t.moment = s.moment.after page made
  within : ∀ front, front <+: made →
    LastTold page (s.calls ++ front) (s.moment.after page front).total

/-- Whatever fails, and after any turns: what is remembered is at every moment the last number that
the page told. It is asked for and settled by as the course of the next turn says, and a slide
settles for 300 to 600 milliseconds, and for no longer in a longer presentation. -/
theorem afterTurns_remembers (pace : Pace) (turns : List Turn) (turn : Turn) :
    let s := afterTurns page pace {} turns
    LastTold page s.calls s.total ∧
      (∃ made o t, (turn.activity pace).run page s = (o, t) ∧
        turn.Remembers page pace s t made o) ∧
      (∀ total, 300 ≤ Settings.settleWait total ∧ Settings.settleWait total ≤ 600) ∧
      ∀ few many, few ≤ many → Settings.settleWait many ≤ Settings.settleWait few := by
  intro s
  have htold : LastTold page s.calls s.total :=
    afterTurns_lastTold htotals pace turns (.never .nil)
  refine ⟨htold, ?_, Settings.settleWait_within, fun _ _ => Settings.settleWait_antitone⟩
  obtain ⟨made, o, hcourse, hmade⟩ := turn.exists_course htotals pace s
  refine ⟨made, o, _, Prod.ext hmade.outcome rfl, hcourse, hmade.moment, fun front _ => ?_⟩
  have hfront := htold.after (m := s.moment) htotals front
  rwa [Moment.after_calls] at hfront

end Runs

/-- Twenty-five slides, of which the second one cannot be reached. The page tells their number only
after a while. -/
def hesitant : Page := fun calls c =>
  match c with
  | .total => if calls.length < 5 then .error "Target crashed" else .ok (.ofInt 25)
  | .navigate n => if n = 2 then .error "No such route" else .ok .null
  | _ => .ok .null

private theorem tellsTotals_hesitant : TellsTotals hesitant := by
  intro calls answer hanswer
  simp only [hesitant] at hanswer
  split at hanswer
  · cases hanswer
  · cases hanswer
    exact ⟨25, rfl⟩

/-- While the number is not told, it is asked for at every slide that becomes visible. -/
theorem afterTurns_remembers_of_hesitant :
    let pace : Pace := ⟨0, 2000, 10000, 30000⟩
    let s := afterTurns hesitant pace {} [.ready, .goTo 2]
    TellsTotals hesitant ∧ s.total = none ∧
      ∃ made o t, made = [.navigate 3, .awaitSlide 10000, .total, .sleep 550] ∧
        t.total = some 25 ∧ ((Turn.goTo 3).activity pace).run hesitant s = (o, t) ∧
        (Turn.goTo 3).Remembers hesitant pace s t made o := by
  intro pace s
  obtain ⟨-, ⟨made, o, t, hrun, hremembers⟩, -⟩ :=
    afterTurns_remembers tellsTotals_hesitant pace [.ready, .goTo 2] (.goTo 3)
  obtain ⟨log, hs⟩ : ∃ log, s = ⟨[.awaitElement pageSelector 30000, .awaitNavigation 5000,
      .awaitSlide 10000, .total, .sleep 600, .navigate 2, .sleep 2000, .navigate 2], log, none,
      []⟩ := ⟨_, rfl⟩
  have ht : t = (((Turn.goTo 3).activity pace).run hesitant s).2 := (congrArg Prod.snd hrun).symm
  have hmoment : t.moment = ⟨s.calls ++ [.navigate 3, .awaitSlide 10000, .total, .sleep 550],
      some 25⟩ := by
    rw [ht, hs]
    rfl
  have hcalls : t.moment.calls = s.calls ++ made := by
    rw [hremembers.moment, Moment.after_calls]
    rfl
  rw [hmoment] at hcalls
  exact ⟨tellsTotals_hesitant, by rw [hs], made, o, t, (List.append_cancel_left hcalls).symm,
    congrArg Moment.total hmoment, hrun, hremembers⟩

end SlideOverflow.Session
