import SlideOverflow.Attribution.Strategy
import SlideOverflow.Json.Writer

/-! Sources: the presentation that a file holds, to which issues on its slides are attributed. -/
namespace SlideOverflow.Attribution

open Number Deck

structure Source where
  file : String
  presentation : Presentation
  cascade : List Strategy := Strategy.cascade
deriving Repr

namespace Source

def withCascade (s : Source) (strategies : List Strategy) : Source :=
  { s with cascade := if strategies.isEmpty then Strategy.cascade else strategies }

def slide? (s : Source) (number : Int) : Option Slide :=
  if 1 ≤ number then s.presentation.slides[number.toNat - 1]? else none

def locate (s : Source) (slide : Slide) (e : Element) : Outcome (LineRange × List LogEntry) := do
  let tagClass ← TagClass.ofJson e.tag
  match ← Strategy.firstFinding slide tagClass e s.cascade with
  | some (strategy, range) =>
    return (range, [.note 3 (e.selector.asText ++ ": matched by " ++ strategy.name ++ " at line " ++
      String.ofList (numeral range.first))])
  | none => return (slide.wholeRange, [])

/-- Attributes an issue on a slide to its lines; without such a slide the issue stays as it is. -/
def enrich (s : Source) (number : Int) (issue : Issue) : Outcome (Issue × List LogEntry) :=
  match s.slide? number with
  | none => .ok (issue, [])
  | some slide => do
    let (range, log) ← s.locate slide issue.element
    let source : SourceRange := ⟨s.file, range.first, range.last, range.content⟩
    return ({ issue with source := some source }, log)

def enrichAll (s : Source) (number : Int) : List Issue → Outcome (List Issue) × List LogEntry
  | [] => (.ok [], [])
  | issue :: issues =>
    match s.enrich number issue with
    | .error e => (.error e, [])
    | .ok (i, log) =>
      let (is, logs) := s.enrichAll number issues
      (is.map (i :: ·), log ++ logs)

def read (settings : Settings) (file : String) (text : List Char) :
    Outcome Source × List LogEntry :=
  let (result, log) := Presentation.read settings {} text
  (result.map fun p => { file := file, presentation := p }, log)

end Source

end SlideOverflow.Attribution
