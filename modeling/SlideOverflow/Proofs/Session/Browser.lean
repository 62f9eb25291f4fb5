import SlideOverflow.Proofs.Session.Conduct
import SlideOverflow.Session.Page

/-! Sessions in browsers of their own. The browser that a session launches is closed by its last
call and by no other one, however the session goes; and the session fails only where it cannot be
opened or closed, or where what is done in it fails. -/
namespace SlideOverflow.Session

open Activity

variable {α : Type} {settings : Settings} {address : String} {page : Page}
  {expected : List Call → Failure → Prop}

def launchCall (settings : Settings) : Call := .launch settings.browser settings.headless

def pageCall (settings : Settings) : Call :=
  .newPage settings.viewportWidth settings.viewportHeight

def gotoCall (address : String) : Call := .goto address loadedState

/-- The calls of a session in a browser of its own: a browser that was launched is closed at the
end, once. -/
inductive Orderly (settings : Settings) (page : Page) : List Call → Prop where
  /-- There is no browser of this kind. -/
  | unsupported : engines.contains settings.browser = false → Orderly settings page []
  | notLaunched {message : String} : page [] (launchCall settings) = .error message →
      Orderly settings page [launchCall settings]
  | closed {answer : Json} {inner : List Call} : page [] (launchCall settings) = .ok answer →
      (∀ c ∈ inner, c.Inner) → Orderly settings page (launchCall settings :: (inner ++ [.close]))

/-- What is done in a browser that was launched fails: no page is opened, the address is not loaded,
or what follows fails in an expected way. -/
inductive Interrupted (settings : Settings) (address : String) (page : Page)
    (expected : List Call → Failure → Prop) : List Call → Failure → Prop where
  | noPage {message : String} :
      page [launchCall settings] (pageCall settings) = .error message →
      Interrupted settings address page expected [launchCall settings, pageCall settings]
        (.page message)
  | notLoaded {message : String} :
      page [launchCall settings, pageCall settings] (gotoCall address) = .error message →
      Interrupted settings address page expected
        [launchCall settings, pageCall settings, gotoCall address] (.page message)
  | inside {calls : List Call} {e : Failure} : expected calls e →
      Interrupted settings address page expected calls e

inductive Fails (settings : Settings) (address : String) (page : Page)
    (expected : List Call → Failure → Prop) : List Call → Failure → Prop where
  | unsupported : engines.contains settings.browser = false →
      Fails settings address page expected [] (.defect .noFields)
  | notLaunched {message : String} : page [] (launchCall settings) = .error message →
      Fails settings address page expected [launchCall settings] (.page message)
  | notClosed {calls : List Call} {message : String} : page calls .close = .error message →
      Fails settings address page expected (calls ++ [.close]) (.page message)
  | interrupted {calls : List Call} {e : Failure} :
      Interrupted settings address page expected calls e →
      Fails settings address page expected (calls ++ [.close]) e

structure Goes (settings : Settings) (address : String) (page : Page)
    (expected : List Call → Failure → Prop) (calls : List Call) (o : Outcome α) : Prop where
  orderly : Orderly settings page calls
  failure : ∀ e, o = .error e → Fails settings address page expected calls e

theorem Goes.of_error {calls : List Call} {e : Failure} (horderly : Orderly settings page calls)
    (hfails : Fails settings address page expected calls e) :
    Goes settings address page expected calls (.error e : Outcome α) := by
  refine ⟨horderly, ?_⟩
  intro e' he
  cases he
  exact hfails

private def inBrowser (settings : Settings) (address : String) (x : Activity α) : Activity α := do
  perform (pageCall settings)
  note 2 ("Opening " ++ address ++ " in " ++ settings.browser)
  perform (gotoCall address)
  x

private theorem within_of_supported (h : engines.contains settings.browser = true)
    (x : Activity α) :
    within settings .browser address x = (do
      perform (launchCall settings)
      ending (inBrowser settings address x) (perform .close)) := by
  unfold within
  simp only [h]
  rfl

private theorem run_within_of_unsupported (h : engines.contains settings.browser = false)
    (x : Activity α) (s : Journal) :
    (within settings .browser address x).run page s = (.error (.defect .noFields), s) := by
  unfold within
  simp only [h]
  rfl

private theorem behaves_inBrowser {x : Activity α} (hx : Conducts page expected x) :
    Behaves page (Interrupted settings address page expected)
      { calls := [launchCall settings] } (inBrowser settings address x) := by
  apply Behaves.perform_bind (pageCall settings) trivial fun message h => .noPage h
  apply (Conducts.tell _ _).bind
  intro _ _
  apply Behaves.perform_bind (gotoCall address) trivial fun message h => .notLoaded h
  exact hx.imp (fun _ _ he => .inside he) _

theorem goes_within {x : Activity α} (hx : Conducts page expected x) {o : Outcome α} {s : Journal}
    (h : (within settings .browser address x).run page {} = (o, s)) :
    Goes settings address page expected s.calls o := by
  cases hengine : engines.contains settings.browser with
  | false =>
    rw [run_within_of_unsupported hengine] at h
    cases h
    exact .of_error (.unsupported hengine) (.unsupported hengine)
  | true =>
    rw [within_of_supported hengine, run_bind, run_perform] at h
    cases hlaunch : page [] (launchCall settings) with
    | error message =>
      simp only [hlaunch] at h
      cases h
      exact .of_error (.notLaunched hlaunch) (.notLaunched hlaunch)
    | ok answer =>
      simp only [hlaunch] at h
      change (ending (inBrowser settings address x) (perform .close)).run page
        { calls := [launchCall settings] } = (o, s) at h
      obtain ⟨⟨inner, hcalls, hinner⟩, hfails⟩ := @behaves_inBrowser _ settings address _ _ _ hx
      rw [run_ending, run_perform] at h
      generalize (inBrowser settings address x).run page { calls := [launchCall settings] } = done
        at h hcalls hfails
      obtain ⟨result, t⟩ := done
      change t.calls = [launchCall settings] ++ inner at hcalls
      have horderly : Orderly settings page (t.calls ++ [.close]) := by
        rw [hcalls, List.append_assoc]
        exact .closed hlaunch hinner
      -- The browser is closed in any case; where that fails, this is what the session fails with.
      cases hclose : page t.calls .close with
      | error message =>
        rw [hclose] at h
        cases h
        exact .of_error horderly (.notClosed hclose)
      | ok answer =>
        rw [hclose] at h
        cases h
        exact ⟨horderly, fun e he => .interrupted (hfails e he)⟩

end SlideOverflow.Session
