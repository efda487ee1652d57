import QualityGate.Main
import QualityGate.Proofs.Checking.LineLength
import QualityGate.Proofs.CommandLine.Verdict
import QualityGate.Proofs.Delimiter
import QualityGate.Proofs.Detection.Attribution
import QualityGate.Proofs.Detection.Body
import QualityGate.Proofs.Detection.Independence
import QualityGate.Proofs.Detection.Nesting
import QualityGate.Proofs.Detection.Regions
import QualityGate.Proofs.Detection.Takeover
import QualityGate.Proofs.Detection.Violations
import QualityGate.Proofs.FileTree.Resolution
import QualityGate.Proofs.GoSource.Acceptance
import QualityGate.Proofs.GoSource.Comments
import QualityGate.Proofs.GoSource.Cursor
import QualityGate.Proofs.GoSource.Lexemes
import QualityGate.Proofs.GoSource.Literals
import QualityGate.Proofs.GoSource.Mirroring
import QualityGate.Proofs.GoSource.Placement.Expressions
import QualityGate.Proofs.GoSource.Placement.Rules
import QualityGate.Proofs.GoSource.Placement.Statements
import QualityGate.Proofs.GoSource.Placement.Types
import QualityGate.Proofs.GoSource.Places
import QualityGate.Proofs.Language.Selection
import QualityGate.Proofs.Locating.Heads
import QualityGate.Proofs.Locating.Reading
import QualityGate.Proofs.Locating.Vocabulary
import QualityGate.Proofs.Lookup
import QualityGate.Proofs.Masking.Characters
import QualityGate.Proofs.Masking.Elements
import QualityGate.Proofs.Masking.Geometry
import QualityGate.Proofs.Masking.Idempotence
import QualityGate.Proofs.Masking.LineEnds
import QualityGate.Proofs.Masking.Steps
import QualityGate.Proofs.Path
import QualityGate.Proofs.Path.Elements
import QualityGate.Proofs.Pattern.Compilation
import QualityGate.Proofs.Pattern.Enumeration
import QualityGate.Proofs.Pattern.Matching
import QualityGate.Proofs.Pattern.Search
import QualityGate.Proofs.Reporting.Accounts
import QualityGate.Proofs.Reporting.JsonReading
import QualityGate.Proofs.Reporting.Lossless
import QualityGate.Proofs.Reporting.Sheet
import QualityGate.Proofs.Reporting.SummaryReading
import QualityGate.Proofs.Reporting.TableReading
import QualityGate.Proofs.Reporting.YamlReading
import QualityGate.Proofs.Scanning.Cancellation
import QualityGate.Proofs.Scanning.Delivery
import QualityGate.Proofs.Scanning.Display
import QualityGate.Proofs.Scanning.FixedOrder
import QualityGate.Proofs.Scanning.LinkTarget
import QualityGate.Proofs.Scanning.Locations
import QualityGate.Proofs.Scanning.Moments
import QualityGate.Proofs.Scanning.Moves
import QualityGate.Proofs.Scanning.Parallel
import QualityGate.Proofs.Scanning.Recognition
import QualityGate.Proofs.Scanning.Schedule
import QualityGate.Proofs.Scanning.Sequence
import QualityGate.Proofs.Scanning.Slots
import QualityGate.Proofs.Scanning.Success
import QualityGate.Proofs.Scanning.Walk
import QualityGate.Proofs.Text.Decoding
import QualityGate.Proofs.Text.Sorting
import QualityGate.Proofs.Text.Splitting
