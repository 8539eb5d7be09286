import Acceptance.Proofs.Report.Display
import Acceptance.Proofs.Run.Trace
import Acceptance.Proofs.Step.Assertion
import Acceptance.Proofs.Step.Name

namespace Acceptance

/-! What a trace shows of its records. The title and the fields of a record tell all of it, so
no two records are shown alike, and the level tells whether something went wrong. -/

/-! ### First letters -/

/-- Texts that start with different characters are different, whatever follows. -/
def initial (text : String) : Option Char :=
  text.toList.head?

theorem initial_append {text : String} {first : Char} (starts : initial text = some first)
    (rest : String) : initial (text ++ rest) = some first := by
  rw [initial] at starts ⊢
  rw [String.toList_append, List.head?_append, starts]
  rfl

theorem eq_of_repr_eq {left right : Nat} (same : left.repr = right.repr) : left = right := by
  rw [← Nat.ofDigitChars_ten_toDigits (n := left), ← Nat.toList_repr, same, Nat.toList_repr,
    Nat.ofDigitChars_ten_toDigits]

/-- The number in front of a blank is told by the text. -/
theorem eq_of_repr_append {left right : Nat} {leftRest rightRest : String}
    (leftStarts : initial leftRest = some ' ') (rightStarts : initial rightRest = some ' ')
    (same : left.repr ++ leftRest = right.repr ++ rightRest) : left = right := by
  have stop {rest : String} (starts : initial rest = some ' ') :
      Text.StartsWithStop (fun character => character.isDigit = false) rest.toList := by
    intro character member
    rw [Option.mem_def, ← initial, starts] at member
    cases member
    rfl
  have characters : Nat.toDigits 10 left ++ leftRest.toList =
      Nat.toDigits 10 right ++ rightRest.toList := by
    rw [← Nat.toList_repr, ← Nat.toList_repr, ← String.toList_append, ← String.toList_append,
      same]
  rw [← Text.leadingNumber_append left (stop leftStarts), characters,
    Text.leadingNumber_append right (stop rightStarts)]

/-! ### Phases, errors and verdicts -/

def Phase.initial : Phase → Char
  | .given => 'G'
  | .event => 'W'
  | .expectation => 'T'

theorem Phase.initial_word (phase : Phase) :
    Acceptance.initial phase.word = some phase.initial := by
  cases phase <;> rfl

theorem Phase.initial_injective : Function.Injective Phase.initial := by
  intro left right same
  revert same
  cases left <;> cases right <;> decide

theorem Phase.word_injective : Function.Injective Phase.word := by
  intro left right same
  have initials := congrArg Acceptance.initial same
  rw [Phase.initial_word, Phase.initial_word, Option.some_inj] at initials
  exact Phase.initial_injective initials

namespace TableError

def initial : TableError → Char
  | .missingStep _ _ => 't'
  | .missingCell _ _ => 'r'
  | .setup _ => 'f'

theorem initial_message (error : TableError) :
    Acceptance.initial error.message = some error.initial := by
  cases error with
  | missingStep phase row =>
      exact initial_append (initial_append (initial_append rfl _) _) _
  | missingCell row cell => exact initial_append (initial_append (initial_append rfl _) _) _
  | setup cause => exact initial_append rfl _

theorem message_missingStep (phase : Phase) (row : Nat) :
    (missingStep phase row).message =
      "table has no " ++ (phase.word ++ (" row: expected one at index " ++ row.repr)) := by
  unfold message
  simp only [String.append_assoc, Nat.toString_eq_repr]

theorem message_missingCell (row cell : Nat) :
    (missingCell row cell).message =
      "row " ++ (row.repr ++ (" has no cell " ++ cell.repr)) := by
  unfold message
  simp only [String.append_assoc, Nat.toString_eq_repr]

theorem message_injective : Function.Injective message := by
  intro left right same
  have initials : left.initial = right.initial := by
    rw [← Option.some_inj, ← initial_message, ← initial_message, same]
  cases left <;> cases right <;> try cases initials
  case missingStep.missingStep phase row otherPhase otherRow =>
    rw [message_missingStep, message_missingStep, String.append_right_inj] at same
    have words := congrArg Acceptance.initial same
    rw [initial_append phase.initial_word, initial_append otherPhase.initial_word,
      Option.some_inj] at words
    cases Phase.initial_injective words
    rw [String.append_right_inj, String.append_right_inj] at same
    rw [eq_of_repr_eq same]
  case missingCell.missingCell row cell otherRow otherCell =>
    rw [message_missingCell, message_missingCell, String.append_right_inj] at same
    have rows : row = otherRow :=
      eq_of_repr_append (initial_append rfl _) (initial_append rfl _) same
    subst rows
    rw [String.append_right_inj, String.append_right_inj] at same
    rw [eq_of_repr_eq same]
  case setup.setup cause other =>
    have causes : cause = other := (String.append_right_inj _).mp same
    rw [causes]

end TableError

namespace Verdict

def initial : Verdict → Char
  | .pass => 'P'
  | .fail _ => 'F'
  | .error _ => 'E'
  | .unmarked => 'U'

theorem initial_literal (verdict : Verdict) :
    Acceptance.initial verdict.literal = some verdict.initial := by
  cases verdict with
  | pass => rfl
  | fail message => exact initial_append (initial_append rfl _) _
  | error message => exact initial_append (initial_append rfl _) _
  | unmarked => rfl

theorem literal_injective : Function.Injective literal := by
  intro left right same
  have initials : left.initial = right.initial := by
    rw [← Option.some_inj, ← initial_literal, ← initial_literal, same]
  cases left <;> cases right <;> try cases initials
  case pass.pass => rfl
  case fail.fail message other =>
    have literals := (String.append_right_inj _).mp ((String.append_left_inj _).mp same)
    rw [literal_inj.mp literals]
  case error.error message other =>
    have quoted := (String.append_right_inj _).mp ((String.append_left_inj _).mp same)
    have messages : message = other := literal_inj.mp quoted
    rw [messages]
  case unmarked.unmarked => rfl

end Verdict

/-! ### Records -/

namespace TraceRecord

/-- What kind of record has a title. A setup that failed puts the cause into its title, so it
is told by the first letter. -/
def kindOfTitle (title : String) : Nat :=
  if initial title = some 'f' then
    0
  else
    1 + ["table", "step", "resolved step handler", "step errored", "step processed",
      "ignoring rows after the Then phase", "malformed table", "table finished",
      "tearing down fixture"].idxOf title

def kind : TraceRecord → Nat
  | .setupFailed _ => 0
  | .table _ => 1
  | .step _ _ _ => 2
  | .resolved _ _ => 3
  | .errored _ => 4
  | .processed _ => 5
  | .ignoring _ => 6
  | .malformed _ => 7
  | .finished _ => 8
  | .tearingDown => 9

theorem kindOfTitle_title (record : TraceRecord) : kindOfTitle record.title = record.kind := by
  cases record
  case setupFailed cause => exact if_pos (initial_append rfl _)
  all_goals
    dsimp only [title, kind]
    decide

theorem eq_of_title_eq_of_fields_eq {left right : TraceRecord}
    (sameTitle : left.title = right.title) (sameFields : left.fields = right.fields) :
    left = right := by
  have kinds : left.kind = right.kind := by
    rw [← kindOfTitle_title, ← kindOfTitle_title, sameTitle]
  cases left <;> cases right <;> try cases kinds
  case setupFailed.setupFailed cause other =>
    have causes : cause = other := (String.append_right_inj _).mp sameTitle
    rw [causes]
  case tearingDown.tearingDown => rfl
  all_goals
    simp only [fields, List.cons.injEq, Prod.mk.injEq, Field.number.injEq, Field.text.injEq,
      true_and, and_true] at sameFields
  case table.table => rw [sameFields]
  case step.step => rw [sameFields.1, Phase.word_injective sameFields.2.1, sameFields.2.2]
  case resolved.resolved => rw [sameFields.1, Signature.text_injective sameFields.2]
  case errored.errored => rw [sameFields]
  case processed.processed => rw [Verdict.literal_injective sameFields]
  case ignoring.ignoring => rw [sameFields]
  case malformed.malformed => rw [TableError.message_injective sameFields]
  case finished.finished => rw [Report.display_injective sameFields.1]

/-! ### Warnings -/

/-- Something among the records is a warning. -/
def Warns (records : List TraceRecord) : Prop :=
  ∃ record ∈ records, record.level = .warn

theorem not_warns_nil : ¬ Warns [] := by
  simp [Warns]

theorem warns_cons_iff {record : TraceRecord} {records : List TraceRecord} :
    Warns (record :: records) ↔ record.level = .warn ∨ Warns records :=
  List.exists_mem_cons_iff ..

theorem warns_append_iff {earlier later : List TraceRecord} :
    Warns (earlier ++ later) ↔ Warns earlier ∨ Warns later := by
  induction earlier with
  | nil => simp [not_warns_nil]
  | cons record earlier induction =>
      rw [List.cons_append, warns_cons_iff, warns_cons_iff, induction, or_assoc]

end TraceRecord

universe u

variable {State : Type u}

open TraceRecord

theorem RowTold.warns_iff {registry : Registry State} {row : Nat} {phase : Phase}
    {sentence : String} {verdict : Verdict} {block : List TraceRecord}
    (told : RowTold registry row phase sentence verdict block) :
    Warns block ↔ verdict.isError = true := by
  cases told with
  | unresolved => simp [warns_cons_iff, level, Verdict.isError]
  | errored => simp [warns_cons_iff, level, Verdict.isError]
  | processed _ clean => simp [warns_cons_iff, not_warns_nil, level, clean]

theorem RowsTold.warns_iff {registry : Registry State} {phaseAt : Nat → Phase} {row : Nat}
    {sentences : List String} {verdicts : List Verdict} {records : List TraceRecord}
    (told : RowsTold registry phaseAt row sentences verdicts records) :
    Warns records ↔ ∃ verdict ∈ verdicts, verdict.isError = true := by
  induction told with
  | nil => simp [not_warns_nil]
  | cons first _ induction =>
      rw [warns_append_iff, first.warns_iff, induction, List.exists_mem_cons_iff]

/-- How a run comes back that something went wrong in: with an error, or with a row that met
one. -/
def Ending.IsTroubled : Ending → Prop
  | .finished rows => ∃ row ∈ rows, row.verdict.isError = true
  | .failed _ => True
  | .panicked _ | .aborted => False

theorem ResultTold.warns_iff {table : Table} {phaseAt : Nat → Phase} {verdicts : List Verdict}
    {result : Except TableError (List ResultRow)} {closing : List TraceRecord}
    (told : ResultTold table phaseAt verdicts result closing) :
    (∃ verdict ∈ verdicts, verdict.isError = true) ∨ Warns closing ↔
      (Ending.ofResult result).IsTroubled := by
  cases told with
  | missingStep => simp [warns_cons_iff, level, Ending.ofResult, Ending.IsTroubled]
  | missingCell => simp [warns_cons_iff, level, Ending.ofResult, Ending.IsTroubled]
  | @finished results _ shown =>
      have quiet : ¬ Warns ((if verdicts.length < table.size then
          [TraceRecord.ignoring verdicts.length] else []) ++
            [.finished (Report.ofRows results)]) := by
        rw [warns_append_iff]
        split <;> simp [warns_cons_iff, not_warns_nil, level]
      rw [or_iff_left quiet, ← shown]
      simp [Ending.ofResult, Ending.IsTroubled]

namespace Fixture

variable {fixture : Fixture State} {config : Config} {table : Table} {start : State}

theorem Tells.warns_iff {calls : List FixtureCall} {ending : Ending} {told : List TraceRecord}
    (tells : fixture.Tells config table start calls ending told) :
    Warns told ↔ ending.IsTroubled := by
  cases tells with
  | setupPanicked => simp [not_warns_nil, Ending.IsTroubled]
  | setupFailed => simp [warns_cons_iff, level, Ending.IsTroubled]
  | stepsPanicked => simp [not_warns_nil, Ending.IsTroubled]
  | processed _ _ _ _ rows closed =>
      rw [warns_append_iff, rows.warns_iff]
      exact closed.warns_iff

/-- A run warns if a row meets an error or the run comes to one, and never otherwise. -/
theorem warns_run_iff (fixture : Fixture State) (config : Config) (table : Table)
    (start : State) :
    Warns (fixture.run config table start).session.trace ↔
      (fixture.conducted config table start).2.IsTroubled := by
  rcases fixture.exists_tells config table start with ⟨told, tells, trace⟩
  rw [fixture.trace_run, trace, warns_append_iff, warns_cons_iff, tells.warns_iff]
  simp [warns_cons_iff, not_warns_nil, level]

end Fixture

end Acceptance
