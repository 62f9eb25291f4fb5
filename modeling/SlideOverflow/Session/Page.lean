import SlideOverflow.Failure
import SlideOverflow.Json.Basic
import SlideOverflow.Settings.Basic

/-! Sessions: the calls that are made on a rendered page, one after the other. A page is given by
how it answers each call after the calls before it, so everything that it can do is a function. What
an activity has called and told is kept when it fails. A session runs on a page that is provided, or
in a browser of its own, which is closed whatever happens in the session. -/
namespace SlideOverflow.Session

structure SnapshotRequest where
  /-- The index of the slide, as the census gave it. -/
  slide : Json
  exclude : List Json
  hiddenClass : String
  ancestorDepth : Int
  previewLength : Int
deriving Repr

/-- A call on a browser or a page. Times are milliseconds. -/
inductive Call where
  /-- Takes a page that is already open at an address. -/
  | attach (address : String)
  | launch (engine : String) (headless : Bool)
  | newPage (width height : Int)
  | goto (address : String) (state : String)
  | close
  /-- Waits for an element that matches a selector. -/
  | awaitElement (selector : String) (timeout : Int)
  /-- Waits for the presentation to offer navigation. -/
  | awaitNavigation (timeout : Int)
  /-- Waits for a slide to be visible. -/
  | awaitSlide (timeout : Int)
  /-- Asks for the number of slides. -/
  | total
  /-- Asks for the number of the slide that is shown. -/
  | current
  | navigate (slide : Int)
  | sleep (time : Int)
  | census
  | snapshot (request : SnapshotRequest)
deriving Repr

/-- How a page answers a call after the calls before it, the first one first: with a value, or with
the text of an error. -/
abbrev Page := List Call → Call → Except String Json

/-- What has been called and told in a session, and what it remembers. -/
structure Journal where
  calls : List Call := []
  log : List LogEntry := []
  /-- The number of slides that the page last answered. -/
  total : Option Int := none
  /-- The invalid selectors that were already reported. -/
  reported : List Json := []
deriving Repr

/-- Something done in a session: its outcome and the journal after it. -/
abbrev Activity (α : Type) := ReaderT Page (ExceptT Failure (StateM Journal)) α

namespace Activity

def run {α : Type} (x : Activity α) (page : Page) (s : Journal) : Outcome α × Journal :=
  Id.run ((ReaderT.run x page).run.run s)

def ofOutcome {α : Type} : Outcome α → Activity α
  | .ok a => pure a
  | .error e => throw e

def call (c : Call) : Activity Json := do
  let page ← read
  let s ← getThe Journal
  set { s with calls := s.calls ++ [c] }
  match page s.calls c with
  | .ok answer => return answer
  | .error message => throw (.page message)

def perform (c : Call) : Activity Unit := do
  let _ ← call c

def tell (e : LogEntry) : Activity Unit := do
  modifyThe Journal fun s => { s with log := s.log ++ [e] }

def warn (message : String) : Activity Unit := tell (.warning message)

def note (least : Nat) (message : String) : Activity Unit := tell (.note least message)

def observe {α : Type} (x : Activity α) : Activity (Outcome α) :=
  tryCatch (do return .ok (← x)) fun e => return .error e

/-- Goes on in another way when a call of the activity fails. Other failures stay. -/
def orElse {α : Type} (x : Activity α) (handle : String → Activity α) : Activity α := do
  match ← observe x with
  | .ok a => return a
  | .error (.page message) => handle message
  | .error e => throw e

/-- Ends with an activity, whether the first one fails or not. -/
def ending {α : Type} (x : Activity α) (last : Activity Unit) : Activity α := do
  let result ← observe x
  last
  ofOutcome result

end Activity

/-! ### Opening -/

open Activity

inductive Opening where
  /-- Pages are provided from outside. -/
  | provided
  /-- Each session launches a browser. -/
  | browser
deriving DecidableEq, Repr

def engines : List String := ["chromium", "firefox", "webkit"]

def loadedState : String := "networkidle"

def within {α : Type} (settings : Settings) (opening : Opening) (address : String)
    (x : Activity α) : Activity α :=
  match opening with
  | .provided => do
    perform (.attach address)
    x
  | .browser => do
    if !engines.contains settings.browser then throw (.defect .noFields)
    perform (.launch settings.browser settings.headless)
    ending
      (do
        perform (.newPage settings.viewportWidth settings.viewportHeight)
        note 2 ("Opening " ++ address ++ " in " ++ settings.browser)
        perform (.goto address loadedState)
        x)
      (perform .close)

end SlideOverflow.Session
