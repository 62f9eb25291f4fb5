import SlideOverflow.Json.Field
import SlideOverflow.Session.Page
import SlideOverflow.Settings.Basic

/-! Navigation: going to a slide and waiting until it has rendered and settled. A slide that cannot
be reached is tried once more. -/
namespace SlideOverflow.Session

open Number Activity

structure Pace where
  wait : Int
  retryBackoff : Int
  loadTimeout : Int
  readyTimeout : Int
deriving DecidableEq, Repr

def Pace.ofSettings (s : Settings) (wait : Int) : Pace :=
  ⟨wait, s.retryBackoffMs, s.loadTimeoutMs, s.readyTimeoutMs⟩

def pageSelector : String := ".slidev-page"

def navigationTimeout : Int := 5000

/-- Reads the number of slides; zero, and nothing remembered, if the page does not answer. -/
def readTotal : Activity Int :=
  orElse
    (do
      let answer ← call .total
      let total ← ofOutcome (answer.wholeOr 0)
      modifyThe Journal fun s => { s with total := some total }
      return total)
    (fun message => do
      warn ("Could not read slide count: " ++ message)
      return 0)

/-- Reads the number of the slide that is shown; one if the page does not answer. -/
def readCurrent : Activity Int :=
  orElse
    (do
      let answer ← call .current
      ofOutcome (answer.wholeOr 1))
    (fun message => do
      note 2 ("Could not read current slide: " ++ message)
      return 1)

def knownTotal : Activity Int := do
  return (← getThe Journal).total.getD 0

/-- Waits for a visible slide and lets it settle. The number of slides is read if none is
remembered. -/
def awaitLoad (pace : Pace) : Activity Unit := do
  perform (.awaitSlide pace.loadTimeout)
  if (← knownTotal) == 0 then
    let _ ← readTotal
  perform (.sleep (Settings.settleWait (← knownTotal)))
  if 0 < pace.wait then perform (.sleep pace.wait)

def attempt (pace : Pace) (slide : Int) : Activity Unit := do
  note 3 ("Navigating to slide " ++ String.ofList (intText slide))
  perform (.navigate slide)
  awaitLoad pace

def navigate (pace : Pace) (slide : Int) : Activity Unit :=
  orElse (attempt pace slide) fun message => do
    warn ("Error navigating to slide " ++ String.ofList (intText slide) ++ ", retrying: " ++
      message)
    perform (.sleep pace.retryBackoff)
    orElse (attempt pace slide) fun message => throw (.unreachable slide message)

/-- Waits until the presentation shows its first slide. It need not offer navigation. -/
def awaitReady (pace : Pace) : Activity Unit := do
  orElse (perform (.awaitElement pageSelector pace.readyTimeout)) fun message =>
    throw (.notLoaded message)
  orElse (perform (.awaitNavigation navigationTimeout)) fun _ =>
    note 2 "Navigation API unavailable, counting slide pages instead"
  orElse (awaitLoad pace) fun message => throw (.notVisible message)

end SlideOverflow.Session
