import Acceptance.Step.Assertion
import Acceptance.Step.Completion

namespace Acceptance

/-! What a step handler gives back, and what a step thereby turns out to be. -/

inductive Outcome where
  | action
  | assertion (assertion : Assertion)
  | failed (message : String)
deriving DecidableEq

/-- What a handler returns: nothing of interest, a truth value, an assertion, a finished
outcome, or the success or failure of a computation with a reply of its own. -/
inductive Reply where
  | action
  | flag (holds : Bool)
  | assertion (assertion : Assertion)
  | outcome (outcome : Outcome)
  | success (reply : Reply)
  /-- A failure, by the text that tells it and what caused it. -/
  | failure (cause : String)

/-- Success adds nothing to the reply inside it, however often it is wrapped. -/
def Reply.toOutcome : Reply → Outcome
  | .action => .action
  | .flag holds => .assertion (Assertion.that holds)
  | .assertion asserted => .assertion asserted
  | .outcome finished => finished
  | .success inner => inner.toOutcome
  | .failure cause => .failed cause

end Acceptance
