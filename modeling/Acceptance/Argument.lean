import Acceptance.Binary64.Literal
import Acceptance.Binary64.Text
import Acceptance.Signature
import Acceptance.Text.Words

namespace Acceptance

/-! The arguments of a step: what the placeholders of its sentence stand for. -/

inductive Argument where
  | numeric (value : Binary64)
  | text (value : String)
deriving DecidableEq

namespace Argument

def kind : Argument → Kind
  | .numeric _ => .numeric
  | .text _ => .text

/-- An argument as it is shown: a number in its literal form, a text as it is. -/
def display : Argument → String
  | .numeric value => value.literalText
  | .text value => value

/-- The argument that a placeholder's value stands for: a number if one is read from the
value without blanks at its ends, else the unchanged text. A number that is not finite must be
spelled in the one way it is shown. -/
def infer (raw : String) : Argument :=
  let trimmed := Text.trim raw.toList
  match Binary64.ofText trimmed with
  | some number =>
      if number.isFinite || Binary64.isNonFiniteLiteral trimmed then
        .numeric number
      else
        .text raw
  | none => .text raw

def number? : Argument → Option Binary64
  | .numeric value => some value
  | .text _ => none

def text? : Argument → Option String
  | .numeric _ => none
  | .text value => some value

end Argument

/-! ### Fitting arguments to a signature -/

def Kind.value? : (kind : Kind) → Argument → Option kind.Value
  | .numeric, .numeric value => some value
  | .text, .text value => some value
  | _, _ => none

/-- The parameter values that a list of arguments gives, if their kinds are those of the
signature, one for one. -/
def Signature.values? : (signature : Signature) → List Argument → Option signature.Values
  | [], [] => some ()
  | kind :: rest, argument :: arguments =>
      match kind.value? argument, Signature.values? rest arguments with
      | some value, some values => some (value, values)
      | _, _ => none
  | _, _ => none

def Signature.argumentsOf : (signature : Signature) → signature.Values → List Argument
  | [], () => []
  | .numeric :: rest, (value, values) => .numeric value :: argumentsOf rest values
  | .text :: rest, (value, values) => .text value :: argumentsOf rest values

theorem Signature.values?_eq_some_iff {signature : Signature} {arguments : List Argument}
    {values : signature.Values} :
    signature.values? arguments = some values ↔ signature.argumentsOf values = arguments := by
  induction signature generalizing arguments with
  | nil => cases arguments <;> simp [values?, argumentsOf]
  | cons kind rest induction =>
      rcases values with ⟨value, values⟩
      cases arguments with
      | nil => cases kind <;> simp [values?, argumentsOf]
      | cons argument arguments =>
          have later := @induction arguments values
          cases found : Signature.values? rest arguments with
          | none =>
              have different : argumentsOf rest values ≠ arguments := by
                intro equal
                simpa [found] using later.mpr equal
              cases kind <;> cases argument <;>
                simp [values?, argumentsOf, found, Kind.value?, different]
          | some others =>
              rw [found, Option.some_inj] at later
              cases kind <;> cases argument <;>
                simp [values?, argumentsOf, found, Kind.value?, ← later, eq_comm (a := value)]

theorem Signature.values?_isSome_iff {signature : Signature} {arguments : List Argument} :
    (signature.values? arguments).isSome ↔ arguments.map Argument.kind = signature := by
  induction signature generalizing arguments with
  | nil => cases arguments <;> simp [values?]
  | cons kind rest induction =>
      cases arguments with
      | nil => simp [values?]
      | cons argument arguments =>
          have later := @induction arguments
          cases found : Signature.values? rest arguments with
          | none =>
              have different : arguments.map Argument.kind ≠ rest := by
                intro equal
                simpa [found] using later.mpr equal
              cases kind <;> cases argument <;>
                simp [values?, found, Kind.value?, Argument.kind, different]
          | some values =>
              have equal : arguments.map Argument.kind = rest :=
                later.mp (by simp [found])
              cases kind <;> cases argument <;>
                simp [values?, found, Kind.value?, Argument.kind, equal]

end Acceptance
