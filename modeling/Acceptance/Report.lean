import Acceptance.Verdict

namespace Acceptance

/-! Counts of the verdicts of a run. -/

structure Report where
  passed : Nat := 0
  failed : Nat := 0
  errored : Nat := 0
  unmarked : Nat := 0
deriving DecidableEq

namespace Report

def total (report : Report) : Nat :=
  report.passed + report.failed + report.errored + report.unmarked

/-- A run succeeds if no step failed or met an error. -/
def isSuccess (report : Report) : Bool :=
  report.failed = 0 && report.errored = 0

def add (report : Report) : Verdict → Report
  | .pass => { report with passed := report.passed + 1 }
  | .fail _ => { report with failed := report.failed + 1 }
  | .error _ => { report with errored := report.errored + 1 }
  | .unmarked => { report with unmarked := report.unmarked + 1 }

def ofVerdicts (verdicts : List Verdict) : Report :=
  verdicts.foldl add {}

def ofRows (rows : List ResultRow) : Report :=
  ofVerdicts (rows.map ResultRow.verdict)

def counts (report : Report) : List (Nat × String) :=
  [(report.passed, "passed"), (report.failed, "failed"), (report.errored, "errored"),
   (report.unmarked, "unmarked")]

/-- The total, and the counts that are not zero: `3 steps (1 passed, 2 unmarked)`. -/
def display (report : Report) : String :=
  let total := toString report.total ++ (if report.total = 1 then " step" else " steps")
  match report.counts.filter (fun count => count.1 ≠ 0) with
  | [] => total
  | shown =>
      total ++ " (" ++ ", ".intercalate
        (shown.map fun count => toString count.1 ++ " " ++ count.2) ++ ")"

example : display ⟨1, 0, 2, 0⟩ = "3 steps (1 passed, 2 errored)" := by decide +kernel

end Report

end Acceptance
