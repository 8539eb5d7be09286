import Acceptance.CommandLine.Reader
import Acceptance.CommandLine.Settings
import Acceptance.Samples.BankAccount
import Acceptance.Samples.Scripted
import Acceptance.Samples.Unreachable
import Acceptance.Samples.UserLogin
import Acceptance.Proofs.Run.Dispatch
import Acceptance.Proofs.Run.Provenance
import Acceptance.Proofs.Run.Sequence
import Acceptance.Proofs.Run.LifeCycle
import Acceptance.Proofs.Run.Shape
import Acceptance.Proofs.Run.Walk
import Acceptance.Proofs.Run.Wording
import Acceptance.Proofs.Run.LastWriter
import Acceptance.Proofs.Report
import Acceptance.Proofs.Run.Fate
import Acceptance.Proofs.Run.Record
import Acceptance.Proofs.Run.Trace
import Acceptance.Proofs.Sentence.Spelling
import Acceptance.Proofs.Run.Reach
import Acceptance.Proofs.Step.Nested
import Acceptance.Proofs.Step.NotFound
import Acceptance.Proofs.Run.Blank
import Acceptance.Proofs.Binary64.Units
import Acceptance.Proofs.Run.Script
import Acceptance.Proofs.Binary64.Nearest
import Acceptance.Proofs.Binary64.Decimal
import Acceptance.Proofs.Binary64.Literal
import Acceptance.Proofs.Binary64.Shortest
import Acceptance.Proofs.Argument
import Acceptance.Proofs.Binary64.Text
import Acceptance.Proofs.Binary64.Layout
import Acceptance.Proofs.Sentence.CamelCase
import Acceptance.Proofs.Sentence.OnePass
import Acceptance.Proofs.Verdict
import Acceptance.Proofs.Step.Assertion
import Acceptance.Proofs.Report.Display
import Acceptance.Proofs.CommandLine.Overrides
