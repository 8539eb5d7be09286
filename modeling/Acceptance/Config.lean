namespace Acceptance

/-! The words by which a table is read and its results are marked. -/

structure Config where
  /-- Marks a row that continues the step before it; its letter case is ignored. -/
  andKeyword : String := "AND"
  /-- The verdict cell of a passed step. -/
  passMarker : String := "pass"
  /-- The verdict cell of a step that failed or met an error. -/
  failMarker : String := "fail"
  /-- Stands before the message in the diagnostic cell of an error. -/
  errorPrefix : String := "error:"
deriving DecidableEq

end Acceptance
