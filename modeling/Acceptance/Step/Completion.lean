namespace Acceptance

/-! How a call comes back: with a value, or by a panic. -/

/-- What a panic carries. Only a text can be shown. -/
inductive PanicPayload where
  | text (message : String)
  | other
deriving DecidableEq

def PanicPayload.message : PanicPayload → String
  | .text message => message
  | .other => "(Could not resolve panic payload)"

inductive Completion (α : Type u) where
  | returned (value : α)
  | panicked (payload : PanicPayload)

namespace Completion

def map {α : Type u} {β : Type v} (transform : α → β) : Completion α → Completion β
  | .returned value => .returned (transform value)
  | .panicked payload => .panicked payload

end Completion

end Acceptance
