import Acceptance.Binary64.Arithmetic
import Acceptance.Run.Fixture

namespace Acceptance.Samples

/-! A fixture whose steps are described by data: each names the effects that it has on a
running total and a note, and the reply that it gives. -/

structure Scripted (Tag : Type) where
  total : Binary64 := Binary64.zero false
  note : String := ""
  /-- The steps that were called: the tag of each, and its arguments as they are shown. -/
  calls : List (Tag × List String) := []
  setups : Nat := 0
  teardowns : Nat := 0
deriving DecidableEq

namespace Scripted

variable {Tag : Type}

/-- The later of two states with only the calls that were made since the earlier one. -/
def since (earlier later : Scripted Tag) : Scripted Tag :=
  { later with calls := later.calls.drop earlier.calls.length }

/-! ### Arguments as effects and replies see them -/

def numbers (arguments : List Argument) : List Binary64 :=
  arguments.filterMap Argument.number?

def texts (arguments : List Argument) : List String :=
  arguments.filterMap Argument.text?

def firstNumber (arguments : List Argument) : Binary64 :=
  (numbers arguments).headD (Binary64.zero false)

def firstText (arguments : List Argument) : String :=
  (texts arguments).headD ""

/-! ### Effects -/

inductive Effect where
  | add
  | multiply
  | setTotal
  | append
  | setNote
deriving DecidableEq

def Effect.apply (arguments : List Argument) (state : Scripted Tag) : Effect → Scripted Tag
  | .add => { state with total := (numbers arguments).foldl Binary64.add state.total }
  | .multiply =>
      { state with total := (numbers arguments).foldl Binary64.multiply state.total }
  | .setTotal => { state with total := firstNumber arguments }
  | .append => { state with note := (texts arguments).foldl (· ++ ·) state.note }
  | .setNote => { state with note := firstText arguments }

/-! ### Responses -/

inductive Response where
  | fixed (reply : Reply)
  | totalIs
  | noteIs
  | equalsTotal
  | displayedTotal
  | equalsNote
  | displayedNote
  | success (inner : Response)
  | panic (payload : PanicPayload)

def Response.complete (arguments : List Argument) (state : Scripted Tag) :
    Response → Completion Reply
  | .fixed reply => .returned reply
  | .totalIs => .returned (.flag (state.total.equal (firstNumber arguments)))
  | .noteIs => .returned (.flag (state.note = firstText arguments))
  | .equalsTotal =>
      .returned (.assertion (Assertion.equals (firstNumber arguments) state.total))
  | .displayedTotal =>
      .returned (.assertion (Assertion.equalsDisplayed (firstNumber arguments) state.total))
  | .equalsNote =>
      .returned (.assertion (Assertion.equals (firstText arguments) state.note))
  | .displayedNote =>
      .returned (.assertion (Assertion.equalsDisplayed (firstText arguments) state.note))
  | .success inner => (inner.complete arguments state).map Reply.success
  | .panic payload => .panicked payload

/-! ### Steps and fixtures -/

structure StepScript (Tag : Type) where
  identifier : String
  signature : Signature
  tag : Tag
  effects : List Effect
  response : Response

def StepScript.handler (script : StepScript Tag) : Handler (Scripted Tag) where
  signature := script.signature
  call values state :=
    let arguments := script.signature.argumentsOf values
    let noted :=
      { state with
        calls := state.calls ++ [(script.tag, arguments.map Argument.display)] }
    let after := script.effects.foldl (Effect.apply arguments) noted
    (after, script.response.complete arguments after)

def registerScript (registry : Registry (Scripted Tag)) (script : StepScript Tag) :
    Registry (Scripted Tag) :=
  registry.register script.identifier script.handler

def registryOf (scripts : List (StepScript Tag)) : Registry (Scripted Tag) :=
  scripts.foldl registerScript Registry.empty

/-- What the calls of a fixture other than its steps come back with. -/
structure FixtureScript (Tag : Type) where
  steps : List (StepScript Tag) := []
  setupPanic : Option PanicPayload := none
  setupError : Option String := none
  stepsPanic : Option PanicPayload := none
  teardownPanic : Option PanicPayload := none

def panicOr {α : Type} (payload : Option PanicPayload) (value : α) : Completion α :=
  match payload with
  | some payload => .panicked payload
  | none => .returned value

def FixtureScript.fixture (script : FixtureScript Tag) : Fixture (Scripted Tag) where
  setup state :=
    ({ state with setups := state.setups + 1 },
      panicOr script.setupPanic
        (match script.setupError with
          | some cause => .error cause
          | none => .ok ()))
  steps := panicOr script.stepsPanic (registryOf script.steps)
  teardown state :=
    ({ state with teardowns := state.teardowns + 1 }, panicOr script.teardownPanic ())

end Scripted

end Acceptance.Samples
