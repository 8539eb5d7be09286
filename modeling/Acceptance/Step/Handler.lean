import Acceptance.Argument
import Acceptance.Step.Outcome

namespace Acceptance

/-! Step handlers. A handler is a function of a fixture's state and of parameters whose
kinds it declares. It may change the state, also when it fails or panics. -/

structure Handler (State : Type u) where
  signature : Signature
  call : signature.Values → State → State × Completion Reply

/-- A handler with its parameter types forgotten: it takes any arguments. -/
abbrev Step (State : Type u) :=
  List Argument → State → State × Completion Outcome

namespace Handler

def mismatch (signature : Signature) (arguments : List Argument) : Outcome :=
  .failed ("handler accepts " ++ signature.text ++ ", but was given " ++
    Signature.text (arguments.map Argument.kind))

/-- Call a handler with the arguments if they fit its signature; else leave the state as
it is and fail. -/
def invoke {State : Type u} (handler : Handler State) : Step State :=
  fun arguments state =>
    match handler.signature.values? arguments with
    | some values =>
        let back := handler.call values state
        (back.1, back.2.map Reply.toOutcome)
    | none => (state, .returned (mismatch handler.signature arguments))

/-! Handlers from ordinary functions of the state. -/

/-- A handler that changes the state and asserts nothing. -/
def action {State : Type u} (signature : Signature)
    (change : signature.Values → State → State) : Handler State :=
  ⟨signature, fun values state => (change values state, .returned .action)⟩

/-- A handler that leaves the state as it is and replies with what it finds. -/
def check {State : Type u} (signature : Signature)
    (reply : signature.Values → State → Reply) : Handler State :=
  ⟨signature, fun values state => (state, .returned (reply values state))⟩

end Handler

end Acceptance
