import Acceptance.Config
import Acceptance.Phase
import Acceptance.Step.Outcome

namespace Acceptance

/-! Verdicts on the steps of a table, and the rows of results that show them. -/

inductive Verdict where
  | pass
  | fail (message : Option String)
  | error (message : String)
  | unmarked
deriving DecidableEq

namespace Verdict

def nonempty? (text : Option String) : Option String :=
  text.filter (· ≠ "")

/-- The verdict on an assertion. A failure is explained by the actual value, and by the
expected one before it; without an actual value it is left unexplained. -/
def classify (sentence : String) (assertion : Assertion) : Verdict :=
  if assertion.passed then
    .pass
  else
    match nonempty? assertion.actual with
    | none => .fail none
    | some actual =>
        let expected :=
          match nonempty? assertion.expected with
          | none => ""
          | some expected => "expected: " ++ expected ++ ", "
        .fail (some (sentence ++ " (" ++ expected ++ "actual: " ++ actual ++ ")"))

/-- The verdict on a step that could not be resolved or did not come to an end. -/
def ofError (sentence detail : String) : Verdict :=
  .error (sentence ++ " Exception: " ++ detail)

def diagnostic : Verdict → Option String
  | .fail message => message
  | .error message => some message
  | .pass | .unmarked => none

def isPass : Verdict → Bool
  | .pass => true
  | _ => false

def isFail : Verdict → Bool
  | .fail _ => true
  | _ => false

def isError : Verdict → Bool
  | .error _ => true
  | _ => false

/-- The verdict cell and the diagnostic cell. The message of a failed assertion follows
the marker in the verdict cell; that of an error has the diagnostic cell to itself. -/
def cells (config : Config) : Verdict → String × String
  | .pass => (config.passMarker, "")
  | .fail none => (config.failMarker, "")
  | .fail (some message) => (config.failMarker ++ ":" ++ message, "")
  | .error message => (config.failMarker, config.errorPrefix ++ message)
  | .unmarked => ("", "")

def literal : Verdict → String
  | .pass => "Pass"
  | .fail message => "Fail(" ++ Comparable.literal message ++ ")"
  | .error message => "Error(" ++ Text.quoted message ++ ")"
  | .unmarked => "Unmarked"

end Verdict

/-- The result of one step: a continuing step belongs to the phase that it continues. -/
structure ResultRow where
  phase : Phase
  verdict : Verdict
  cells : String × String
deriving DecidableEq

def ResultRow.render (config : Config) (phase : Phase) (verdict : Verdict) : ResultRow :=
  ⟨phase, verdict, verdict.cells config⟩

end Acceptance
