import SlideOverflow.Failure
import SlideOverflow.Metadata.Block
import SlideOverflow.Metadata.Value.Text

/-! What is amiss in a document without keeping it from being read. -/
namespace SlideOverflow.Deck

open Metadata

inductive Warning where
  | unclosedDocumentBlock
  | unclosedSlideBlock (line : Nat)
  | malformedMetadata (line : Nat) (fault : Fault) (text : List Char)
  | metadataNotTable (line : Nat)
  | unusableCanvasWidth (shown : List Char) (used : Int)
  | unclosedCode (line : Nat)
  | unclosedComment (line : Nat)
deriving Repr

namespace Warning

private def decimal (n : Nat) : String := String.ofList (Number.numeral n)

def message : Warning → String
  | .unclosedDocumentBlock => "Unclosed global metadata block at line 1, using defaults"
  | .unclosedSlideBlock line => "Unclosed slide metadata block at line " ++ decimal line
  | .malformedMetadata line fault _ =>
    "Failed to parse metadata block at line " ++ decimal line ++ " (" ++ fault.cause.problem ++
      "), using defaults"
  | .metadataNotTable line =>
    "Metadata block at line " ++ decimal line ++ " is not a mapping, using defaults"
  | .unusableCanvasWidth shown used =>
    "Ignoring invalid canvasWidth " ++ String.ofList shown ++ ", using " ++
      String.ofList (Number.intText used)
  | .unclosedCode line => "Unclosed code block at line " ++ decimal line
  | .unclosedComment line => "Unclosed HTML comment at line " ++ decimal line

def logEntry? : Warning → Option LogEntry
  | .malformedMetadata line fault text =>
    some (.note 3 ("Metadata YAML error at line " ++ decimal line ++ ": " ++ fault.report text))
  | _ => none

def ofBlock (line : Nat) : Block → List Warning
  | .table _ => []
  | .malformed fault text => [.malformedMetadata line fault text]
  | .notTable => [.metadataNotTable line]

end Warning

end SlideOverflow.Deck
