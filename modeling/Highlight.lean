import Highlight.Workspace
import Highlight.Toml.Document
import Highlight.Proofs.Highlighter.Session
import Highlight.Proofs.Highlighter.Mirror
import Highlight.Proofs.Workspace.Runs
import Highlight.Proofs.Theme.Layering
import Highlight.Proofs.Pattern.Liveness
import Highlight.Proofs.Pattern.Front
import Highlight.Proofs.Pattern.Leftmost
import Highlight.Proofs.Pattern.Matches
import Highlight.Proofs.Scan.Plain
import Highlight.Proofs.Scan.Starters
import Highlight.Proofs.Scan.Refinement
import Highlight.Proofs.Span.Painting
import Highlight.Proofs.Scan.Overpainting
import Highlight.Proofs.Scan.Hiding
import Highlight.Proofs.Scan.Closing
import Highlight.Proofs.Library.Lineage
import Highlight.Proofs.Library.Eviction
import Highlight.Proofs.Library.Transparency
import Highlight.Proofs.Library.Inheritance
import Highlight.Proofs.Library.Walk
import Highlight.Proofs.Library.History
import Highlight.Proofs.Library.Verdict
import Highlight.Proofs.Library.Registered
import Highlight.Proofs.Naming
import Highlight.Proofs.Workspace.Catalogue
import Highlight.Proofs.Workspace.Failure
import Highlight.Proofs.Workspace.Themes
import Highlight.Proofs.Workspace.Growth
import Highlight.Proofs.Library.Layerwise
import Highlight.Proofs.Scan.Styles
import Highlight.Proofs.Theme.Declared
import Highlight.Proofs.Highlighter.Extent
import Highlight.Proofs.Highlighter.Framing
import Highlight.Proofs.Scan.Partition
import Highlight.Proofs.Scan.Guarded
import Highlight.Proofs.Slots
import Highlight.Proofs.Scan.Override
import Highlight.Proofs.Scan.Unclosed
import Highlight.Proofs.Pattern.Ends
import Highlight.Proofs.Pattern.Meaning
import Highlight.Proofs.Pattern.Coding
import Highlight.Proofs.Pattern.Readings
import Highlight.Proofs.Scan.LineEnd
import Highlight.Proofs.Library.Reading
import Highlight.Proofs.Library.Declarations
import Highlight.Proofs.Library.Faults
import Highlight.Proofs.Library.Descent
import Highlight.Proofs.Library.Refusal
import Highlight.Proofs.Paths
import Highlight.Proofs.Library.Sharing
import Highlight.Proofs.Library.Spelling
import Highlight.Proofs.Workspace.Detection
import Highlight.Proofs.Pattern.Words
import Highlight.Proofs.Library.Words
import Highlight.Proofs.Scan.Overlooked
import Highlight.Proofs.Library.Renewal
import Highlight.Proofs.Color.Digits
import Highlight.Proofs.Color.Literal
import Highlight.Proofs.Color.Printed
import Highlight.Proofs.Scan.Turns
import Highlight.Proofs.Library.Intact
