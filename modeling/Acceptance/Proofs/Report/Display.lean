import Mathlib.Algebra.GroupWithZero.Nat
import Acceptance.Proofs.Text.Numbers
import Acceptance.Proofs.Unicode.Case
import Acceptance.Report

namespace Acceptance.Report

/-! The text of a report tells its counts. Each count stands in it before its label, unless it
is zero, and the total before them is their sum. -/

open Text

/-! ### The counts that are shown -/

def shown (report : Report) : List (Nat × String) :=
  report.counts.filter fun count => count.1 ≠ 0

/-- The sum of the counts with a label. -/
def amount (label : String) (counts : List (Nat × String)) : Nat :=
  ((counts.filter fun count => count.2 = label).map Prod.fst).sum

theorem sum_nonzero (counts : List (Nat × String)) :
    ((counts.filter fun count => count.1 ≠ 0).map Prod.fst).sum = (counts.map Prod.fst).sum := by
  induction counts with
  | nil => rfl
  | cons count counts induction =>
      by_cases zero : count.1 = 0 <;> simp [zero, ← induction]

theorem amount_shown (label : String) (report : Report) :
    amount label report.shown = amount label report.counts := by
  rw [amount, amount, shown, List.filter_comm, sum_nonzero]

/-- Counts that are left out are zero, so the shown ones tell them all. -/
theorem eq_of_shown_eq {left right : Report} (same : left.shown = right.shown) : left = right := by
  have amounts (label : String) : amount label left.counts = amount label right.counts := by
    rw [← amount_shown, same, amount_shown]
  have passed : left.passed = right.passed := by simpa [amount, counts] using amounts "passed"
  have failed : left.failed = right.failed := by simpa [amount, counts] using amounts "failed"
  have errored : left.errored = right.errored := by
    simpa [amount, counts] using amounts "errored"
  have unmarked : left.unmarked = right.unmarked := by
    simpa [amount, counts] using amounts "unmarked"
  cases left
  cases right
  congr

theorem sum_shown (report : Report) : (report.shown.map Prod.fst).sum = report.total := by
  rw [shown, sum_nonzero, total, counts]
  simp only [List.map_cons, List.map_nil, List.sum_cons, List.sum_nil]
  omega

/-! ### Labels -/

/-- Labels are words in small letters. -/
def IsLabel (label : String) : Prop :=
  ∀ character ∈ label.toList, character.isLower = true

theorem isLabel_of_mem_shown {report : Report} {count : Nat × String}
    (member : count ∈ report.shown) : IsLabel count.2 := by
  have labels : ∀ count ∈ report.counts, IsLabel count.2 := by
    simp [counts, IsLabel]
  exact labels count (List.mem_of_mem_filter member)

/-- A count before its label. -/
def statistic (count : Nat × String) : List Char :=
  Nat.toDigits 10 count.1 ++ ' ' :: count.2.toList

/-- What ends a count in the list. -/
def EndsStatistic (character : Char) : Prop :=
  character = ',' ∨ character = ')'

theorem exists_statistic_cons (count : Nat × String) :
    ∃ first others, statistic count = first :: others ∧ ¬ EndsStatistic first := by
  rcases exists_toDigits_cons count.1 with ⟨first, others, written, digit⟩
  have unstopped : ¬ EndsStatistic first := by
    intro ends
    rcases ends with rfl | rfl <;> cases digit
  exact ⟨first, others ++ ' ' :: count.2.toList, by rw [statistic, written]; rfl, unstopped⟩

theorem startsWithStop_space (rest : List Char) :
    StartsWithStop (fun character => character.isDigit = false) (' ' :: rest) := by
  apply startsWithStop_cons
  rfl

theorem toldApart_statistic {left right : Nat × String} (leftLabel : IsLabel left.2)
    (rightLabel : IsLabel right.2) : ToldApart EndsStatistic statistic left right := by
  intro leftRest rightRest leftStop rightStop same
  have ends (character : Char) (stop : EndsStatistic character) : character.isLower = false := by
    rcases stop with rfl | rfl <;> rfl
  simp only [statistic, List.append_assoc, List.cons_append] at same
  have numbers := toldApart_of_read (fun value _ stop => leadingNumber_append value stop)
    left.1 right.1 _ _ (startsWithStop_space _) (startsWithStop_space _) same
  rw [numbers, List.append_right_inj, List.cons_inj_right] at same
  have labels := eq_of_run leftLabel rightLabel (leftStop.imp ends) (rightStop.imp ends) same
  exact Prod.ext numbers (String.toList_inj.mp labels)

/-! ### The text -/

/-- What stands between the total and the counts. -/
def unit (report : Report) : List Char :=
  ' ' :: ((if report.total = 1 then "step" else "steps").toList ++
    if report.shown = [] then [] else [' '])

def summary (report : Report) : List Char :=
  Nat.toDigits 10 report.total ++ report.unit

def parenthesis : List (Nat × String) → List Char
  | [] => []
  | count :: counts => '(' :: (listed statistic (count :: counts) ++ [')'])

theorem toList_display (report : Report) :
    report.display.toList = report.summary ++ parenthesis report.shown := by
  have written (count : Nat × String) :
      (toString count.1 ++ " " ++ count.2).toList = statistic count := by
    rw [String.toList_append, String.toList_append, Nat.toString_eq_repr, Nat.toList_repr,
      List.append_assoc]
    rfl
  have total : (toString report.total ++
      if report.total = 1 then " step" else " steps").toList =
        Nat.toDigits 10 report.total ++
          ' ' :: (if report.total = 1 then "step" else "steps").toList := by
    rw [String.toList_append, Nat.toString_eq_repr, Nat.toList_repr]
    split <;> rfl
  rw [display, summary, unit, ← shown]
  cases report.shown with
  | nil =>
      dsimp only
      rw [total, if_pos rfl, parenthesis, List.append_nil, List.append_nil]
  | cons count counts =>
      dsimp only
      have texts : ((count :: counts).map fun count =>
          toString count.1 ++ " " ++ count.2).map String.toList =
            (count :: counts).map statistic := by
        rw [List.map_map]
        exact List.map_congr_left fun count _ => written count
      rw [String.toList_append, String.toList_append, String.toList_append, total,
        String.toList_intercalate, texts, if_neg (List.cons_ne_nil _ _), parenthesis, listed]
      simp

theorem plain_unit (report : Report) : ∀ character ∈ report.unit,
    character.isDigit = false ∧ character ≠ '(' ∧ character ≠ ')' := by
  rw [unit]
  split <;> split <;> simp

theorem bracket_not_mem_summary {bracket : Char} (isBracket : bracket = '(' ∨ bracket = ')')
    (report : Report) : bracket ∉ report.summary := by
  rw [summary, List.mem_append, not_or]
  constructor
  · intro member
    have digit := isDigit_of_mem_toDigits _ bracket member
    rcases isBracket with rfl | rfl <;> cases digit
  · intro member
    have plain := plain_unit report bracket member
    exact isBracket.elim plain.2.1 plain.2.2

theorem mem_parenthesis_iff {bracket : Char} (isBracket : bracket = '(' ∨ bracket = ')')
    (counts : List (Nat × String)) : bracket ∈ parenthesis counts ↔ counts ≠ [] := by
  cases counts with
  | nil => simp [parenthesis]
  | cons count counts => rcases isBracket with rfl | rfl <;> simp [parenthesis]

theorem mem_display_iff {bracket : Char} (isBracket : bracket = '(' ∨ bracket = ')')
    (report : Report) : bracket ∈ report.display.toList ↔ report ≠ ⟨0, 0, 0, 0⟩ := by
  rw [toList_display, List.mem_append, or_iff_right (bracket_not_mem_summary isBracket report),
    mem_parenthesis_iff isBracket, not_iff_not]
  constructor
  · intro none
    exact eq_of_shown_eq none
  · intro zero
    rw [zero]
    rfl

section

variable (report : Report)

private theorem unopened_summary :
    ∀ character ∈ report.summary, decide (character ≠ '(') = true := by
  intro character member
  apply decide_eq_true
  intro opening
  rw [opening] at member
  exact bracket_not_mem_summary (.inl rfl) report member

private theorem opens_parenthesis (counts : List (Nat × String)) :
    StartsWithStop (fun character => decide (character ≠ '(') = false) (parenthesis counts) := by
  cases counts with
  | nil => exact startsWithStop_nil _
  | cons count counts =>
      apply startsWithStop_cons
      rfl

theorem takeWhile_display : report.display.toList.takeWhile (· ≠ '(') = report.summary := by
  rw [toList_display, takeWhile_run report.unopened_summary (opens_parenthesis _)]

theorem dropWhile_display :
    report.display.toList.dropWhile (· ≠ '(') = parenthesis report.shown := by
  rw [toList_display, dropWhile_run report.unopened_summary (opens_parenthesis _)]

end

theorem eq_of_parenthesis_eq {left right : List (Nat × String)}
    (leftLabels : ∀ count ∈ left, IsLabel count.2) (rightLabels : ∀ count ∈ right, IsLabel count.2)
    (same : parenthesis left = parenthesis right) : left = right := by
  have apart (first) (member : first ∈ left) (second) (other : second ∈ right) :
      ToldApart EndsStatistic statistic first second :=
    toldApart_statistic (leftLabels first member) (rightLabels second other)
  cases left with
  | nil =>
      cases right with
      | nil => rfl
      | cons second right => cases same
  | cons first left =>
      cases right with
      | nil => cases same
      | cons second right =>
          exact eq_of_listed (.inl rfl) (.inr rfl) (by decide) exists_statistic_cons apart
            (List.cons.inj same).2

theorem display_injective : Function.Injective display := by
  have labels (report : Report) : ∀ count ∈ report.shown, IsLabel count.2 :=
    fun _ => isLabel_of_mem_shown
  intro left right same
  apply eq_of_shown_eq
  apply eq_of_parenthesis_eq (labels left) (labels right)
  rw [← dropWhile_display, ← dropWhile_display, same]

/-! ### The numbers in the text -/

theorem numbers_summary (report : Report) : numbers report.summary = [report.total] := by
  have plain := fun character member => (plain_unit report character member).1
  have stop : StartsWithStop (fun character => character.isDigit = false) report.unit :=
    startsWithStop_space _
  rw [summary, numbers_toDigits_append _ stop, numbers_eq_nil plain]

theorem numbers_statistic_append {count : Nat × String} (label : IsLabel count.2)
    (rest : List Char) : numbers (statistic count ++ rest) = count.1 :: numbers rest := by
  have plain : ∀ character ∈ count.2.toList, character.isDigit = false :=
    fun character member => Unicode.isDigit_of_isLower (label character member)
  rw [statistic, List.append_assoc, List.cons_append,
    numbers_toDigits_append _ (startsWithStop_space _), numbers_cons rfl, numbers_append plain]

theorem numbers_statistics_append {counts : List (Nat × String)}
    (labels : ∀ count ∈ counts, IsLabel count.2) (rest : List Char) :
    numbers ((counts.flatMap fun count => ',' :: ' ' :: statistic count) ++ rest) =
      counts.map Prod.fst ++ numbers rest := by
  induction counts with
  | nil => rfl
  | cons count counts induction =>
      rw [List.forall_mem_cons] at labels
      rw [List.flatMap_cons, List.append_assoc, List.cons_append, List.cons_append,
        numbers_cons rfl, numbers_cons rfl, numbers_statistic_append labels.1,
        induction labels.2, List.map_cons, List.cons_append]

theorem numbers_parenthesis {counts : List (Nat × String)}
    (labels : ∀ count ∈ counts, IsLabel count.2) :
    numbers (parenthesis counts) = counts.map Prod.fst := by
  cases counts with
  | nil => rfl
  | cons count counts =>
      have numbered := numbers_statistics_append labels [')']
      rw [List.flatMap_cons, List.append_assoc, List.cons_append, List.cons_append,
        numbers_cons rfl, numbers_cons rfl, ← List.append_assoc, ← listed_cons] at numbered
      rw [parenthesis, numbers_cons rfl, numbered]
      exact List.append_nil _

/-- The text of a report tells its counts: other counts have another text. The total is the sum
of the counts in parentheses, which are those that are not zero. Only a report without counts
has no parentheses. -/
theorem display_tells_counts (report : Report) :
    let text := report.display.toList
    let counted := numbers (text.dropWhile (· ≠ '('))
    (∀ other : Report, other.display = report.display ↔ other = report) ∧
    numbers (text.takeWhile (· ≠ '(')) = [counted.sum] ∧
    counted.sum = report.total ∧
    counted =
      [report.passed, report.failed, report.errored, report.unmarked].filter (· ≠ 0) ∧
    ∀ bracket ∈ ['(', ')'], bracket ∈ text ↔ report ≠ ⟨0, 0, 0, 0⟩ := by
  intro text counted
  have labels : ∀ count ∈ report.shown, IsLabel count.2 :=
    fun _ => isLabel_of_mem_shown
  have counts : counted = report.shown.map Prod.fst := by
    rw [← numbers_parenthesis labels, ← dropWhile_display]
  have sum : counted.sum = report.total := by
    rw [counts, sum_shown]
  have leading : numbers (text.takeWhile (· ≠ '(')) = [counted.sum] := by
    rw [takeWhile_display, numbers_summary, sum]
  have nonzero : counted =
      [report.passed, report.failed, report.errored, report.unmarked].filter (· ≠ 0) := by
    have values : report.counts.map Prod.fst =
        [report.passed, report.failed, report.errored, report.unmarked] := rfl
    rw [counts, ← values, List.filter_map]
    rfl
  have brackets : ∀ bracket ∈ ['(', ')'], bracket ∈ text ↔ report ≠ ⟨0, 0, 0, 0⟩ := by
    intro bracket member
    exact mem_display_iff (by simpa using member) report
  exact ⟨fun other => display_injective.eq_iff, leading, sum, nonzero, brackets⟩

end Acceptance.Report
