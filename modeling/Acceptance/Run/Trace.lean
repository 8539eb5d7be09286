import Acceptance.Report
import Acceptance.Signature
import Acceptance.TableError

namespace Acceptance

/-! What a run tells about itself while it goes on: spans that are entered and events that
occur, each with a level and named fields. -/

inductive TraceRecord where
  /-- The table with the number of its rows. The name of the fixture's type, which the span
  has as well, is left out: a fixture has no name here. -/
  | table (rows : Nat)
  | setupFailed (cause : String)
  | step (row : Nat) (phase : Phase) (sentence : String)
  | resolved (identifier : String) (signature : Signature)
  | errored (message : String)
  | processed (verdict : Verdict)
  | ignoring (row : Nat)
  | malformed (error : TableError)
  | finished (report : Report)
  | tearingDown
deriving DecidableEq

namespace TraceRecord

inductive Shape where
  | span
  | event
deriving DecidableEq

inductive Level where
  | debug
  | info
  | warn
deriving DecidableEq

def Level.name : Level → String
  | .debug => "DEBUG"
  | .info => "INFO"
  | .warn => "WARN"

inductive Field where
  | number (value : Nat)
  | flag (value : Bool)
  | text (value : String)
deriving DecidableEq

def shape : TraceRecord → Shape
  | .table _ | .step _ _ _ => .span
  | _ => .event

def level : TraceRecord → Level
  | .table _ | .finished _ => .info
  | .setupFailed _ | .errored _ | .malformed _ => .warn
  | _ => .debug

def title : TraceRecord → String
  | .table _ => "table"
  | .setupFailed cause => (TableError.setup cause).message
  | .step _ _ _ => "step"
  | .resolved _ _ => "resolved step handler"
  | .errored _ => "step errored"
  | .processed _ => "step processed"
  | .ignoring _ => "ignoring rows after the Then phase"
  | .malformed _ => "malformed table"
  | .finished _ => "table finished"
  | .tearingDown => "tearing down fixture"

def fields : TraceRecord → List (String × Field)
  | .table rows => [("rows", .number rows)]
  | .step row phase sentence =>
      [("row", .number row), ("phase", .text phase.word), ("sentence", .text sentence)]
  | .resolved identifier signature =>
      [("identifier", .text identifier), ("signature", .text signature.text)]
  | .errored message => [("msg", .text message)]
  | .processed verdict => [("verdict", .text verdict.literal)]
  | .ignoring row => [("from", .number row)]
  | .malformed error => [("error", .text error.message)]
  | .finished report =>
      [("report", .text report.display), ("success", .flag report.isSuccess)]
  | .setupFailed _ | .tearingDown => []

end TraceRecord

end Acceptance
