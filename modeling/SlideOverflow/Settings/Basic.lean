/-! Settings that govern detection, sessions, navigation, attribution and prediction. -/
namespace SlideOverflow

/-- The settings, with their defaults. Times are milliseconds, sizes are pixels. -/
structure Settings where
  /-- Overflow that has to be exceeded before an issue is reported. -/
  threshold : Float := 1
  /-- Selectors whose matches are never inspected. -/
  exclude : List String := [".slidev-page-indicator", ".slidev-nav"]
  /-- Class of content that a click has yet to reveal. -/
  hiddenMarkerClass : String := "slidev-vclick-hidden"
  /-- How many ancestors are asked whether they are shown. -/
  ancestorVisibilityDepth : Int := 3
  /-- Most characters of an element's text that an issue carries. -/
  textPreviewLength : Int := 50
  browser : String := "chromium"
  headless : Bool := true
  viewportWidth : Int := 1920
  viewportHeight : Int := 1080
  /-- Number of sessions that check slides side by side. -/
  concurrency : Int := 1
  /-- Extra wait after each navigation. -/
  waitMs : Int := 0
  /-- Wait before the second attempt to reach a slide. -/
  retryBackoffMs : Int := 500
  /-- Longest wait for the first slide page. -/
  readyTimeoutMs : Int := 10000
  /-- Longest wait for a slide to become visible. -/
  loadTimeoutMs : Int := 3000
  /-- Files that may hold the source of a presentation, in order of preference. -/
  sourceCandidates : List String := ["slides.md", "index.md", "README.md"]
  canvasWidth : Int := 980
  canvasHeight : Int := 552
  h1MaxChars : Int := 60
  h2MaxChars : Int := 80
  h3MaxChars : Int := 100
  codeMaxLines : Int := 30
deriving DecidableEq, Repr, Inhabited

namespace Settings

/-- What reading the environment makes sure of. -/
structure Valid (s : Settings) : Prop where
  threshold : 0 ≤ s.threshold
  ancestorVisibilityDepth : 0 ≤ s.ancestorVisibilityDepth
  textPreviewLength : 0 < s.textPreviewLength
  viewportWidth : 0 < s.viewportWidth
  viewportHeight : 0 < s.viewportHeight
  concurrency : 1 ≤ s.concurrency
  waitMs : 0 ≤ s.waitMs
  retryBackoffMs : 0 ≤ s.retryBackoffMs
  readyTimeoutMs : 0 < s.readyTimeoutMs
  loadTimeoutMs : 0 < s.loadTimeoutMs
  canvasWidth : 0 < s.canvasWidth
  canvasHeight : 0 < s.canvasHeight
  h1MaxChars : 0 < s.h1MaxChars
  h2MaxChars : 0 < s.h2MaxChars
  h3MaxChars : 0 < s.h3MaxChars
  codeMaxLines : 0 < s.codeMaxLines

/-- The defaults pass their own checks. -/
theorem valid_default : Valid {} := by
  constructor <;> decide

/-- How long a slide settles once it is visible: 600 milliseconds in decks of up to ten slides,
fifty less for every further ten slides, and never less than 300. -/
def settleWait (total : Int) : Int :=
  if 10 < total then max 300 (600 - (total - 10).fdiv 10 * 50) else 600

theorem settleWait_within (total : Int) : 300 ≤ settleWait total ∧ settleWait total ≤ 600 := by
  rw [settleWait, Int.fdiv_eq_ediv_of_nonneg _ (by decide)]
  split <;> omega

/-- More slides settle for no longer. -/
theorem settleWait_antitone {few many : Int} (h : few ≤ many) :
    settleWait many ≤ settleWait few := by
  rw [settleWait, settleWait, Int.fdiv_eq_ediv_of_nonneg _ (by decide),
    Int.fdiv_eq_ediv_of_nonneg _ (by decide)]
  split <;> split <;> omega

end Settings

end SlideOverflow
