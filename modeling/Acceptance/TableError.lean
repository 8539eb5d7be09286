import Acceptance.Phase

namespace Acceptance

/-! Why the run of a whole table stops. -/

inductive TableError where
  /-- The table ends before the first row of a phase. -/
  | missingStep (phase : Phase) (row : Nat)
  /-- A row has no cell of this index. -/
  | missingCell (row cell : Nat)
  /-- The fixture could not be set up. The text tells the failure and what caused it. -/
  | setup (cause : String)
deriving DecidableEq

def TableError.message : TableError → String
  | .missingStep phase row =>
      "table has no " ++ phase.word ++ " row: expected one at index " ++ toString row
  | .missingCell row cell => "row " ++ toString row ++ " has no cell " ++ toString cell
  | .setup cause => "fixture setup failed: " ++ cause

end Acceptance
