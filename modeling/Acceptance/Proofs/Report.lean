import Mathlib.Data.List.Count
import Acceptance.Report

namespace Acceptance

/-! A report counts verdicts by kind, and every verdict once. -/

namespace Report

private theorem foldl_add (report : Report) (verdicts : List Verdict) :
    verdicts.foldl add report =
      ⟨report.passed + verdicts.countP Verdict.isPass,
        report.failed + verdicts.countP Verdict.isFail,
        report.errored + verdicts.countP Verdict.isError,
        report.unmarked + verdicts.count .unmarked⟩ := by
  induction verdicts generalizing report with
  | nil => rfl
  | cons verdict verdicts induction =>
      rw [List.foldl_cons, induction]
      cases verdict <;>
        simp [add, List.countP_cons, Verdict.isPass, Verdict.isFail, Verdict.isError,
          Nat.add_right_comm, Nat.add_assoc]

theorem ofVerdicts_eq_counts (verdicts : List Verdict) :
    ofVerdicts verdicts =
      ⟨verdicts.countP Verdict.isPass, verdicts.countP Verdict.isFail,
        verdicts.countP Verdict.isError, verdicts.count .unmarked⟩ := by
  rw [ofVerdicts, foldl_add]
  simp

theorem ofVerdicts_cons (verdict : Verdict) (verdicts : List Verdict) :
    ofVerdicts (verdict :: verdicts) = (ofVerdicts verdicts).add verdict := by
  rw [ofVerdicts_eq_counts, ofVerdicts_eq_counts]
  cases verdict <;> simp [add, List.countP_cons, Verdict.isPass, Verdict.isFail, Verdict.isError]

theorem total_add (report : Report) (verdict : Verdict) :
    (report.add verdict).total = report.total + 1 := by
  cases verdict <;> simp only [add, total] <;> omega

theorem total_ofVerdicts (verdicts : List Verdict) :
    (ofVerdicts verdicts).total = verdicts.length := by
  induction verdicts with
  | nil => rfl
  | cons verdict verdicts induction =>
      rw [ofVerdicts_cons, total_add, induction, List.length_cons]

end Report

end Acceptance
