import SlideOverflow.Forecast.Calibration
import SlideOverflow.Issue

/-! Expected issues: why an overflow is expected, how likely it is, and what to do about it. -/
namespace SlideOverflow.Forecast

open Number

inductive Risk where
  | low
  | medium
  | high
deriving DecidableEq, Repr

namespace Risk

def name : Risk → String
  | .low => "low"
  | .medium => "medium"
  | .high => "high"

def rank : Risk → Nat
  | .low => 0
  | .medium => 1
  | .high => 2

def max (a b : Risk) : Risk :=
  if a.rank < b.rank then b else a

theorem rank_max (a b : Risk) : (max a b).rank = Nat.max a.rank b.rank := by
  cases a <;> cases b <;> rfl

end Risk

inductive Reason where
  | wideHeading (level : Nat) (estimate : Estimate) (advice : String)
  | longHeading (level length : Nat) (ceiling : Quantity)
  | longCode (lines : Nat) (ceiling : Quantity)
  | wideCode (estimate : Estimate)
deriving Repr

structure ExpectedIssue where
  slide : Nat
  first : Nat
  last : Nat
  reason : Reason
deriving Repr

namespace Reason

def kind : Reason → IssueKind
  | .wideHeading .. => .textOverflow
  | .longHeading .. => .textOverflow
  | .longCode .. => .elementOverflow
  | .wideCode _ => .scrollbar

def tag : Reason → String
  | .wideHeading level .. => "h" ++ String.ofList (numeral level)
  | .longHeading level .. => "h" ++ String.ofList (numeral level)
  | .longCode .. => "pre"
  | .wideCode _ => "pre"

def risk : Reason → Risk
  | .wideHeading .. => .high
  | .longHeading .. => .medium
  | .longCode .. => .high
  | .wideCode _ => .medium

def advice : Reason → String
  | .wideHeading _ _ advice => advice
  | .longHeading level _ ceiling =>
    "Shorten h" ++ String.ofList (numeral level) ++ " to at most " ++
      ceiling.toString ++ " characters"
  | .longCode _ ceiling =>
    "Split the code block; keep it under " ++ ceiling.toString ++ " lines"
  | .wideCode _ => "Wrap or shorten long code lines to avoid horizontal scrolling"

def measured : Reason → Quantity
  | .wideHeading _ estimate _ => estimate.width
  | .longHeading _ length _ => .int length
  | .longCode lines _ => .int lines
  | .wideCode estimate => estimate.width

def limit : Reason → Quantity
  | .wideHeading _ estimate _ => estimate.available.width
  | .longHeading _ _ ceiling => ceiling
  | .longCode _ ceiling => ceiling
  | .wideCode estimate => estimate.available.width

end Reason

end SlideOverflow.Forecast
