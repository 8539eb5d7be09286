import Acceptance.Run.Session
import Acceptance.Sentence.Arguments
import Acceptance.Sentence.Identifier
import Acceptance.Step.Registry

namespace Acceptance

/-! Dispatching a sentence: find the step that it names, call it with the arguments of
the sentence, and turn the way in which the call came back into a verdict. -/

/-- A step found for a sentence, and what it is to be called with. -/
structure Resolution (State : Type u) where
  identifier : String
  arguments : List Argument
  step : Step State

def Resolution.signature {State : Type u} (resolution : Resolution State) : Signature :=
  resolution.arguments.map Argument.kind

namespace Registry

/-- The step that a sentence names. A sentence with more opening brackets than
placeholders names none. -/
def resolve {State : Type u} (registry : Registry State) (sentence : String) :
    Except StepError (Resolution State) :=
  let identifier := Sentence.identifier sentence
  let arguments := Sentence.arguments sentence
  let opened := Sentence.placeholderCount sentence
  if opened ≠ arguments.length then
    .error (.placeholders opened arguments.length)
  else
    match registry.find identifier (arguments.map Argument.kind) with
    | .error error => .error error
    | .ok step => .ok ⟨identifier, arguments, step⟩

end Registry

namespace Verdict

def ofCompletion (sentence : String) : Completion Outcome → Verdict
  | .returned .action => .unmarked
  | .returned (.assertion assertion) => classify sentence assertion
  | .returned (.failed message) => ofError sentence (StepError.failed message).message
  | .panicked payload => ofError sentence (StepError.panicked payload.message).message

end Verdict

def Session.dispatch {State : Type u} (registry : Registry State) (sentence : String)
    (session : Session State) : Session State × Verdict :=
  match registry.resolve sentence with
  | .error error => (session, Verdict.ofError sentence error.message)
  | .ok resolution =>
      let resolved :=
        session.record (.resolved resolution.identifier resolution.signature)
      let called :=
        resolved.call
          (.step resolution.identifier resolution.signature resolution.arguments)
          (resolution.step resolution.arguments)
      (called.1, Verdict.ofCompletion sentence called.2)

def dispatch {State : Type u} (registry : Registry State) (sentence : String)
    (state : State) : State × Verdict :=
  let dispatched := (Session.start state).dispatch registry sentence
  (dispatched.1.state, dispatched.2)

end Acceptance
