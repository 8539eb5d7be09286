import Acceptance.Signature

namespace Acceptance

/-! Why a single step comes to an error. The other steps of its table still run. -/

inductive StepError where
  /-- No handler has the identifier and the signature; these signatures are known. -/
  | notFound (identifier : String) (signature : Signature) (known : List Signature)
  /-- More brackets open than placeholders could be read. -/
  | placeholders (opened parsed : Nat)
  | failed (message : String)
  | panicked (message : String)
deriving DecidableEq

namespace StepError

def notFoundMessage (identifier : String) (signature : Signature)
    (known : List Signature) : String :=
  if identifier = "" then
    "step sentence yields an empty handler name"
  else
    let missing := "no step handler `" ++ identifier ++ "` accepting " ++ signature.text
    if known = [] then
      missing
    else
      missing ++ " (registered: " ++
        ", ".intercalate (known.map fun other => identifier ++ other.text) ++ ")"

def message : StepError → String
  | .notFound identifier signature known => notFoundMessage identifier signature known
  | .placeholders opened parsed =>
      "step has " ++ toString opened ++ " `[` placeholder(s), but only " ++
        toString parsed ++ " could be parsed"
  | .failed message => "step failed: " ++ message
  | .panicked message => "step panicked: " ++ message

end StepError

end Acceptance
