import Acceptance.Binary64.Basic

namespace Acceptance

/-! The kinds of values that steps take, and the signatures made of them. -/

inductive Kind where
  | numeric
  | text
deriving DecidableEq

namespace Kind

def name : Kind → String
  | .numeric => "Numeric"
  | .text => "Text"

abbrev Value : Kind → Type
  | .numeric => Binary64
  | .text => String

end Kind

abbrev Signature := List Kind

namespace Signature

/-- A signature as it is shown: `(Text, Numeric)`. -/
def text (signature : Signature) : String :=
  "(" ++ ", ".intercalate (signature.map Kind.name) ++ ")"

/-- The parameter lists that a signature admits, one value for each kind. -/
abbrev Values : Signature → Type
  | [] => Unit
  | kind :: rest => kind.Value × Values rest

def sortByText (signatures : List Signature) : List Signature :=
  signatures.mergeSort fun left right => left.text ≤ right.text

end Signature

example : Signature.text [.text, .numeric] = "(Text, Numeric)" := by decide +kernel

end Acceptance
