import Acceptance.Phase
import Acceptance.Table

namespace Acceptance

/-! The outline of a table assigns its rows to phases, before any step is looked at. The
first row of a phase belongs to it whatever its marker says; the rows after it belong to
the phase as long as they are marked as continuing. -/

structure Outline where
  /-- The rows that are to be processed, each with its phase. -/
  planned : List (Phase × Row)
  /-- The phase that the table ends before. -/
  missing : Option Phase
  /-- The rows after the last phase. -/
  ignored : List Row
deriving DecidableEq

namespace Outline

def continuing (keyword : String) (phase : Phase) (rows : List Row) : List Row :=
  if phase.isContinued then
    rows.takeWhile fun row => row.continues keyword
  else
    []

/-- The outline of the rows that are left when these phases are still to come. -/
def ofPhases (keyword : String) : List Phase → List Row → Outline
  | [], rows => ⟨[], none, rows⟩
  | phase :: _, [] => ⟨[], some phase, []⟩
  | phase :: phases, first :: rows =>
      let continued := continuing keyword phase rows
      let later := ofPhases keyword phases (rows.drop continued.length)
      { later with
        planned := (first :: continued).map (fun row => (phase, row)) ++ later.planned }

private theorem takeWhile_append_drop {α : Type} (holds : α → Bool) (members : List α) :
    members.takeWhile holds ++ members.drop (members.takeWhile holds).length = members := by
  have prefixed := List.takeWhile_prefix (l := members) holds
  exact (List.prefix_iff_eq_append.mp prefixed)

/-- Every row of the table is planned or ignored, and in the order of the table. -/
theorem planned_append_ignored (keyword : String) (phases : List Phase) (rows : List Row) :
    (ofPhases keyword phases rows).planned.map Prod.snd ++
      (ofPhases keyword phases rows).ignored = rows := by
  induction phases generalizing rows with
  | nil => simp [ofPhases]
  | cons phase phases induction =>
      cases rows with
      | nil => rfl
      | cons first rows =>
          have taken : continuing keyword phase rows ++
              rows.drop (continuing keyword phase rows).length = rows := by
            rw [continuing]
            split
            · exact takeWhile_append_drop _ rows
            · rfl
          simp only [ofPhases, List.map_append, List.append_assoc]
          rw [induction]
          simp [Function.comp_def, taken]

def ofTable (keyword : String) (table : Table) : Outline :=
  ofPhases keyword Phase.inOrder table.rows

end Outline

end Acceptance
