import SlideOverflow.Check.Run
import SlideOverflow.Forecast.Predictor
import SlideOverflow.Json.Writer
import SlideOverflow.Settings.Environment
import SlideOverflow.Check.Report
import SlideOverflow.Deck.Report
import SlideOverflow.Forecast.Report
import SlideOverflow.Proofs.Deck.Tiling
import SlideOverflow.Proofs.Deck.Written
import SlideOverflow.Proofs.Session.Locality
import SlideOverflow.Proofs.Check.Chunks
import SlideOverflow.Proofs.Check.Workers
import SlideOverflow.Proofs.Metadata.Words
import SlideOverflow.Proofs.Geometry.Fit
import SlideOverflow.Proofs.Deck.Readable
import SlideOverflow.Proofs.Deck.Coverage
import SlideOverflow.Proofs.Deck.NodeTree
import SlideOverflow.Proofs.Attribution.Located
import SlideOverflow.Proofs.Inspection.Failures
import SlideOverflow.Proofs.Session.Footprint
import SlideOverflow.Proofs.Check.Conservation
import SlideOverflow.Proofs.Deck.Separators
import SlideOverflow.Proofs.Deck.Renumbered
import SlideOverflow.Proofs.Deck.Alone
import SlideOverflow.Proofs.Check.Sessions
import SlideOverflow.Proofs.Inspection.ActiveSlide
import SlideOverflow.Proofs.Inspection.Snapshot
import SlideOverflow.Proofs.Check.Documented
import SlideOverflow.Proofs.Check.Selection
import SlideOverflow.Proofs.Deck.Openings
import SlideOverflow.Proofs.Deck.Paragraph
import SlideOverflow.Proofs.Deck.Comment
import SlideOverflow.Proofs.Deck.Unclosed
import SlideOverflow.Proofs.Deck.Warnings
import SlideOverflow.Proofs.Deck.Extent
import SlideOverflow.Proofs.Deck.Nested
import SlideOverflow.Proofs.Deck.Items
import SlideOverflow.Proofs.Deck.Quotes
import SlideOverflow.Proofs.Deck.PlainText
import SlideOverflow.Proofs.Deck.FoundItem
import SlideOverflow.Proofs.Deck.FoundHeading
import SlideOverflow.Proofs.Attribution.Body
import SlideOverflow.Proofs.Session.Retry
import SlideOverflow.Proofs.Session.Remembered
import SlideOverflow.Proofs.Inspection.Threshold
import SlideOverflow.Proofs.Inspection.Shift
import SlideOverflow.Proofs.Session.Reported
import SlideOverflow.Proofs.Inspection.Addressed
import SlideOverflow.Proofs.Forecast.Analysis
import SlideOverflow.Proofs.Inspection.Resolved
import SlideOverflow.Proofs.Check.Aggregation
import SlideOverflow.Proofs.Check.Rerun
import SlideOverflow.Proofs.Forecast.Agreement
import SlideOverflow.Proofs.Geometry.Slots
import SlideOverflow.Proofs.Check.Loading
import SlideOverflow.Proofs.Deck.Progress
