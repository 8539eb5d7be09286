import Acceptance.Proofs.Run.Dispatch
import Acceptance.Run.Fixture
import Acceptance.Samples.BankAccount

namespace Acceptance

/-! Running a table is dispatching the sentences of its rows one after another. A row
without a sentence ends the sequence, and so does the end of the rows that are planned;
what the sentences before it did stays done. -/

variable {State : Type u}

/-- Dispatch sentences one after another, each on the state that the one before it left. -/
def dispatchEach (registry : Registry State) : List String → State → State × List Verdict
  | [], state => (state, [])
  | sentence :: sentences, state =>
      let dispatched := dispatch registry sentence state
      let later := dispatchEach registry sentences dispatched.1
      (later.1, dispatched.2 :: later.2)

@[simp] theorem length_verdicts_dispatchEach (registry : Registry State)
    (sentences : List String) (state : State) :
    (dispatchEach registry sentences state).2.length = sentences.length := by
  induction sentences generalizing state with
  | nil => rfl
  | cons sentence sentences induction => simp [dispatchEach, induction]

/-! ### The sentences of rows -/

namespace Row

/-- The sentences of the rows before the first row that has none. -/
def leadingSentences : List Row → List String
  | [] => []
  | row :: rows =>
      match row.sentence with
      | none => []
      | some sentence => sentence :: leadingSentences rows

theorem length_leadingSentences_le (rows : List Row) :
    (leadingSentences rows).length ≤ rows.length := by
  induction rows with
  | nil => exact Nat.le_refl 0
  | cons row rows induction =>
      rw [leadingSentences]
      cases row.sentence with
      | none => exact Nat.zero_le _
      | some sentence => exact Nat.succ_le_succ induction

theorem map_sentence_take_leadingSentences (rows : List Row) :
    (rows.take (leadingSentences rows).length).map sentence =
      (leadingSentences rows).map some := by
  induction rows with
  | nil => rfl
  | cons row rows induction =>
      rw [leadingSentences]
      cases found : row.sentence with
      | none => rfl
      | some sentence => simp [found, induction]

end Row

namespace Outline

def sentences (outline : Outline) : List String :=
  Row.leadingSentences (outline.planned.map Prod.snd)

theorem length_sentences_le (outline : Outline) :
    outline.sentences.length ≤ outline.planned.length := by
  rw [← List.length_map (f := Prod.snd)]
  exact Row.length_leadingSentences_le _

theorem rows_planned_ofTable (keyword : String) (table : Table) :
    (ofTable keyword table).planned.map Prod.snd =
      table.rows.take (ofTable keyword table).planned.length := by
  have leading : (ofTable keyword table).planned.map Prod.snd <+: table.rows :=
    ⟨(ofTable keyword table).ignored,
      planned_append_ignored keyword Phase.inOrder table.rows⟩
  have taken := List.prefix_iff_eq_take.mp leading
  rwa [List.length_map] at taken

theorem ignored_of_missing {keyword : String} {phases : List Phase} {rows : List Row}
    {phase : Phase} (lacking : (ofPhases keyword phases rows).missing = some phase) :
    (ofPhases keyword phases rows).ignored = [] := by
  induction phases generalizing rows with
  | nil => cases lacking
  | cons first phases induction =>
      cases rows with
      | nil => rfl
      | cons row rows => exact induction lacking

theorem length_planned_of_missing {keyword : String} {table : Table} {phase : Phase}
    (lacking : (ofTable keyword table).missing = some phase) :
    (ofTable keyword table).planned.length = table.size := by
  have split := planned_append_ignored keyword Phase.inOrder table.rows
  rw [ignored_of_missing lacking, List.append_nil] at split
  rw [Table.size, ← split, List.length_map]
  rfl

theorem map_some_sentences_ofTable (keyword : String) (table : Table) :
    (table.rows.take (ofTable keyword table).sentences.length).map Row.sentence =
      (ofTable keyword table).sentences.map some := by
  let outline := ofTable keyword table
  have taken : ((outline.planned.map Prod.snd).take outline.sentences.length).map Row.sentence =
      outline.sentences.map some :=
    Row.map_sentence_take_leadingSentences (outline.planned.map Prod.snd)
  rwa [rows_planned_ofTable, List.take_take,
    Nat.min_eq_left outline.length_sentences_le] at taken

/-- Where no planned row lacks its sentence, there is a verdict for every phase. -/
theorem length_phases_of_spoken {outline : Outline}
    (spoken : outline.sentences.length = outline.planned.length) (registry : Registry State)
    (state : State) :
    (outline.planned.map Prod.fst).length =
      (dispatchEach registry outline.sentences state).2.length := by
  rw [List.length_map, length_verdicts_dispatchEach, spoken]

end Outline

/-! ### Rendered results -/

namespace ResultRow

variable (config : Config)

theorem map_phase_zipWith_render {phases : List Phase} {verdicts : List Verdict}
    (same : phases.length = verdicts.length) :
    (phases.zipWith (render config) verdicts).map phase = phases := by
  rw [List.map_zipWith]
  exact List.map_zip_eq_zipWith.symm.trans (List.map_fst_zip (Nat.le_of_eq same))

theorem map_verdict_zipWith_render {phases : List Phase} {verdicts : List Verdict}
    (same : phases.length = verdicts.length) :
    (phases.zipWith (render config) verdicts).map verdict = verdicts := by
  rw [List.map_zipWith]
  exact List.map_zip_eq_zipWith.symm.trans (List.map_snd_zip (Nat.le_of_eq same.symm))

theorem map_cells_zipWith_render {phases : List Phase} {verdicts : List Verdict}
    (same : phases.length = verdicts.length) :
    (phases.zipWith (render config) verdicts).map cells =
      verdicts.map (Verdict.cells config) := by
  have shown : ((phases.zipWith (render config) verdicts).map verdict).map
      (Verdict.cells config) = (phases.zipWith (render config) verdicts).map cells := by
    rw [List.map_map, List.map_zipWith, List.map_zipWith]
    rfl
  rw [← shown, map_verdict_zipWith_render config same]

end ResultRow

/-! ### Processing rows -/

namespace Session

variable (registry : Registry State) (config : Config)

@[simp] theorem state_processRow (row : Nat) (phase : Phase) (sentence : String)
    (session : Session State) :
    (session.processRow registry config row phase sentence).1.state =
      (Acceptance.dispatch registry sentence session.state).1 := by
  simp [processRow]

@[simp] theorem calls_processRow (row : Nat) (phase : Phase) (sentence : String)
    (session : Session State) :
    (session.processRow registry config row phase sentence).1.calls =
      session.calls ++ registry.callsOf sentence := by
  simp [processRow]

@[simp] theorem result_processRow (row : Nat) (phase : Phase) (sentence : String)
    (session : Session State) :
    (session.processRow registry config row phase sentence).2 =
      ResultRow.render config phase
        (Acceptance.dispatch registry sentence session.state).2 := by
  simp [processRow]

theorem state_processRows (index : Nat) (planned : List (Phase × Row))
    (session : Session State) :
    (session.processRows registry config index planned).1.state =
      (dispatchEach registry (Row.leadingSentences (planned.map Prod.snd))
        session.state).1 := by
  induction planned generalizing index session with
  | nil => rfl
  | cons first planned induction =>
      rcases first with ⟨phase, row⟩
      rw [List.map_cons, Row.leadingSentences, processRows]
      cases row.sentence with
      | none => rfl
      | some sentence => simp [dispatchEach, induction]

theorem calls_processRows (index : Nat) (planned : List (Phase × Row))
    (session : Session State) :
    (session.processRows registry config index planned).1.calls =
      session.calls ++
        (Row.leadingSentences (planned.map Prod.snd)).flatMap registry.callsOf := by
  induction planned generalizing index session with
  | nil => simp [processRows, Row.leadingSentences]
  | cons first planned induction =>
      rcases first with ⟨phase, row⟩
      rw [List.map_cons, Row.leadingSentences, processRows]
      cases row.sentence with
      | none => simp
      | some sentence => simp [induction]

/-- The results are the verdicts of the dispatched sentences, each rendered for the phase
of its row. If a sentence is missing, the row that lacks it is reported instead. -/
theorem result_processRows (index : Nat) (planned : List (Phase × Row))
    (session : Session State) :
    (session.processRows registry config index planned).2 =
      let sentences := Row.leadingSentences (planned.map Prod.snd)
      if sentences.length = planned.length then
        .ok ((planned.map Prod.fst).zipWith (ResultRow.render config)
          (dispatchEach registry sentences session.state).2)
      else
        .error (.missingCell (index + sentences.length) 1) := by
  induction planned generalizing index session with
  | nil => rfl
  | cons first planned induction =>
      rcases first with ⟨phase, row⟩
      rw [List.map_cons, Row.leadingSentences, processRows]
      cases row.sentence with
      | none => simp
      | some sentence =>
          simp only [induction, state_processRow, result_processRow, dispatchEach,
            List.length_cons, Nat.add_right_cancel_iff]
          split
          · rfl
          · simp only [Except.map]
            rw [Nat.add_right_comm, Nat.add_assoc]

/-! ### Processing a table -/

variable (table : Table) (session : Session State)

private theorem processTable_frame :
    let processed := session.processRows registry config 0
      (Outline.ofTable config.andKeyword table).planned
    (session.processTable registry config table).1.state = processed.1.state ∧
      (session.processTable registry config table).1.calls = processed.1.calls := by
  rw [processTable]
  generalize session.processRows registry config 0
    (Outline.ofTable config.andKeyword table).planned = processed
  rcases processed with ⟨processed, result⟩
  cases result with
  | error error => exact ⟨rfl, rfl⟩
  | ok results =>
      cases (Outline.ofTable config.andKeyword table).missing with
      | some phase => exact ⟨rfl, rfl⟩
      | none =>
          dsimp only
          split
          · exact ⟨rfl, rfl⟩
          · exact ⟨rfl, calls_record processed _⟩

theorem state_processTable :
    (session.processTable registry config table).1.state =
      (dispatchEach registry (Outline.ofTable config.andKeyword table).sentences
        session.state).1 :=
  (processTable_frame registry config table session).1.trans
    (state_processRows registry config 0 _ session)

theorem calls_processTable :
    (session.processTable registry config table).1.calls =
      session.calls ++
        (Outline.ofTable config.andKeyword table).sentences.flatMap registry.callsOf :=
  (processTable_frame registry config table session).2.trans
    (calls_processRows registry config 0 _ session)

/-- A row without a sentence comes before a phase without a row. -/
theorem result_processTable :
    (session.processTable registry config table).2 =
      let outline := Outline.ofTable config.andKeyword table
      if outline.sentences.length = outline.planned.length then
        match outline.missing with
        | some phase => .error (.missingStep phase table.size)
        | none =>
            .ok ((outline.planned.map Prod.fst).zipWith (ResultRow.render config)
              (dispatchEach registry outline.sentences session.state).2)
      else
        .error (.missingCell outline.sentences.length 1) := by
  rw [processTable]
  generalize Outline.ofTable config.andKeyword table = outline
  have rows : (session.processRows registry config 0 outline.planned).2 =
      if outline.sentences.length = outline.planned.length then
        .ok ((outline.planned.map Prod.fst).zipWith (ResultRow.render config)
          (dispatchEach registry outline.sentences session.state).2)
      else
        .error (.missingCell (0 + outline.sentences.length) 1) :=
    result_processRows registry config 0 outline.planned session
  dsimp only
  generalize session.processRows registry config 0 outline.planned = processed at rows ⊢
  rcases processed with ⟨processed, result⟩
  split at rows
  case isTrue spoken =>
    cases rows
    rw [if_pos spoken]
    cases outline.missing with
    | some phase => rfl
    | none =>
        dsimp only
        split <;> rfl
  case isFalse silent =>
    cases rows
    rw [if_neg silent, Nat.zero_add]

/-- Processing a table does not touch the setup, so it cannot report its failure. -/
theorem result_processTable_ne_setup (cause : String) :
    (session.processTable registry config table).2 ≠ .error (.setup cause) := by
  rw [result_processTable]
  dsimp only
  split
  · cases (Outline.ofTable config.andKeyword table).missing <;> simp
  · simp

end Session

/-- How a run comes back whose rows come to a result. -/
def Ending.ofResult : Except TableError (List ResultRow) → Ending
  | .error error => .failed error
  | .ok results => .finished results

/-- What the trace tells of rows that come to a result. -/
def TraceRecord.ofResult : Except TableError (List ResultRow) → TraceRecord
  | .error error => .malformed error
  | .ok results => .finished (Report.ofRows results)

/-! ### Runs

A run is what is conducted before the teardown, followed by the teardown. -/

namespace Fixture

variable (fixture : Fixture State) (config : Config) (table : Table) (state : State)

/-- The session that a run hands to the teardown, and how the run would come back if the
teardown did. -/
def conducted : Session State × Ending :=
  ((Session.start state).record (.table table.size)).conduct fixture config table

theorem state_run :
    (fixture.run config table state).session.state =
      (fixture.teardown (fixture.conducted config table state).1.state).1 := rfl

theorem calls_run :
    (fixture.run config table state).session.calls =
      (fixture.conducted config table state).1.calls ++ [.teardown] := by
  simp [run, conducted]

theorem ending_run :
    (fixture.run config table state).ending =
      (fixture.conducted config table state).2.afterTeardown
        (fixture.teardown (fixture.conducted config table state).1.state).2 := rfl

/-- The session after the setup. -/
def opened : Session State :=
  (((Session.start state).record (.table table.size)).call .setup fixture.setup).1

/-- The session after the fixture was asked for its steps. -/
def ready : Session State :=
  ((fixture.opened table state).call .steps fun state => (state, fixture.steps)).1

@[simp] theorem state_opened :
    (fixture.opened table state).state = (fixture.setup state).1 := rfl

@[simp] theorem calls_opened : (fixture.opened table state).calls = [.setup] := rfl

@[simp] theorem trace_opened : (fixture.opened table state).trace = [.table table.size] := rfl

@[simp] theorem state_ready : (fixture.ready table state).state = (fixture.setup state).1 := rfl

@[simp] theorem calls_ready : (fixture.ready table state).calls = [.setup, .steps] := rfl

@[simp] theorem trace_ready : (fixture.ready table state).trace = [.table table.size] := rfl

variable {fixture state}

private theorem call_setup {back : Completion (Except String Unit)}
    (setup : (fixture.setup state).2 = back) :
    ((Session.start state).record (.table table.size)).call .setup fixture.setup =
      (fixture.opened table state, back) :=
  Prod.ext rfl setup

private theorem call_steps {back : Completion (Registry State)} (steps : fixture.steps = back) :
    ((fixture.opened table state).call .steps fun state => (state, fixture.steps)) =
      (fixture.ready table state, back) :=
  Prod.ext rfl steps

theorem conducted_of_setup_panicked {payload : PanicPayload}
    (setup : (fixture.setup state).2 = .panicked payload) :
    fixture.conducted config table state = (fixture.opened table state, .panicked payload) := by
  rw [conducted, Session.conduct, call_setup table setup]

theorem conducted_of_setup_failed {cause : String}
    (setup : (fixture.setup state).2 = .returned (.error cause)) :
    fixture.conducted config table state =
      ((fixture.opened table state).record (.setupFailed cause), .failed (.setup cause)) := by
  rw [conducted, Session.conduct, call_setup table setup]

theorem conducted_of_steps_panicked {payload : PanicPayload}
    (setup : (fixture.setup state).2 = .returned (.ok ()))
    (steps : fixture.steps = .panicked payload) :
    fixture.conducted config table state = (fixture.ready table state, .panicked payload) := by
  rw [conducted, Session.conduct, call_setup table setup]
  dsimp only
  rw [call_steps table steps]

variable {prepared : State} {registry : Registry State}

theorem conducted_of_steps_returned
    (setup : (fixture.setup state).2 = .returned (.ok ()))
    (steps : fixture.steps = .returned registry) :
    let processed := (fixture.ready table state).processTable registry config table
    fixture.conducted config table state =
      (processed.1.record (.ofResult processed.2), .ofResult processed.2) := by
  rw [conducted, Session.conduct, call_setup table setup]
  dsimp only
  rw [call_steps table steps]
  dsimp only
  generalize (fixture.ready table state).processTable registry config table = processed
  rcases processed with ⟨session, result⟩
  cases result <;> rfl

/-- A run takes one of four courses up to its teardown. -/
@[elab_as_elim]
theorem conducted_cases {motive : Session State × Ending → Prop}
    (fixture : Fixture State) (config : Config) (table : Table) (state : State)
    (setupPanicked : ∀ payload, (fixture.setup state).2 = .panicked payload →
      motive (fixture.opened table state, .panicked payload))
    (setupFailed : ∀ cause, (fixture.setup state).2 = .returned (.error cause) →
      motive ((fixture.opened table state).record (.setupFailed cause),
        .failed (.setup cause)))
    (stepsPanicked : ∀ payload, (fixture.setup state).2 = .returned (.ok ()) →
      fixture.steps = .panicked payload →
      motive (fixture.ready table state, .panicked payload))
    (processed : ∀ registry, (fixture.setup state).2 = .returned (.ok ()) →
      fixture.steps = .returned registry →
      let processed := (fixture.ready table state).processTable registry config table
      motive (processed.1.record (.ofResult processed.2), .ofResult processed.2)) :
    motive (fixture.conducted config table state) := by
  cases setup : (fixture.setup state).2 with
  | panicked payload =>
      rw [conducted_of_setup_panicked config table setup]
      exact setupPanicked payload setup
  | returned result =>
      cases result with
      | error cause =>
          rw [conducted_of_setup_failed config table setup]
          exact setupFailed cause setup
      | ok done =>
          cases steps : fixture.steps with
          | panicked payload =>
              rw [conducted_of_steps_panicked config table setup steps]
              exact stepsPanicked payload setup steps
          | returned registry =>
              rw [conducted_of_steps_returned config table setup steps]
              exact processed registry setup steps

theorem conducted_of_ready
    (prepares : fixture.setup state = (prepared, .returned (.ok ())))
    (offers : fixture.steps = .returned registry) :
    ∃ ready : Session State,
      ready.state = prepared ∧ ready.calls = [.setup, .steps] ∧
      (fixture.conducted config table state).1.state =
        (ready.processTable registry config table).1.state ∧
      (fixture.conducted config table state).1.calls =
        (ready.processTable registry config table).1.calls ∧
      (fixture.conducted config table state).2 =
        .ofResult (ready.processTable registry config table).2 := by
  have setup : (fixture.setup state).2 = .returned (.ok ()) := by rw [prepares]
  refine ⟨fixture.ready table state, ?_, rfl, ?_⟩
  · rw [state_ready, prepares]
  · rw [conducted_of_steps_returned config table setup offers]
    exact ⟨rfl, Session.calls_record .., rfl⟩

variable (fixture)

/-- What a run hands to the teardown is what dispatching the sentences of the first rows,
in their order and each once, makes of the state after the setup; nothing else touches
the fixture. If these are all the rows to process, the verdicts are those of the
dispatches. If not, the run fails at the row after them. -/
theorem run_dispatches_in_sequence
    (prepares : fixture.setup state = (prepared, .returned (.ok ())))
    (offers : fixture.steps = .returned registry) :
    ∃ (sentences : List String) (ending : Ending),
      (table.rows.take sentences.length).map Row.sentence = sentences.map some ∧
      let dispatched := dispatchEach registry sentences prepared
      let run := fixture.run config table state
      run.session.state = (fixture.teardown dispatched.1).1 ∧
      run.session.calls =
        .setup :: .steps :: sentences.flatMap registry.callsOf ++ [.teardown] ∧
      run.ending = ending.afterTeardown (fixture.teardown dispatched.1).2 ∧
      match ending with
      | .finished results =>
          results.map ResultRow.verdict = dispatched.2 ∧
          results.map ResultRow.cells = dispatched.2.map (Verdict.cells config)
      | .failed (.missingCell row cell) => row = sentences.length ∧ cell = 1
      | .failed (.missingStep _ row) => row = sentences.length ∧ row = table.size
      | _ => False := by
  rcases conducted_of_ready config table prepares offers with
    ⟨ready, atPrepared, called, handed, calls, ending⟩
  let outline := Outline.ofTable config.andKeyword table
  rw [Session.state_processTable, atPrepared] at handed
  rw [Session.calls_processTable, called] at calls
  rw [Session.result_processTable, atPrepared] at ending
  refine ⟨outline.sentences, (fixture.conducted config table state).2,
    Outline.map_some_sentences_ofTable config.andKeyword table, ?_, ?_, ?_, ?_⟩
  · rw [state_run, handed]
  · rw [calls_run, calls]
    rfl
  · rw [ending_run, handed]
  · rw [ending]
    by_cases spoken : outline.sentences.length = outline.planned.length
    · rw [if_pos spoken]
      cases missing : outline.missing with
      | some phase =>
          exact ⟨(spoken.trans (Outline.length_planned_of_missing missing)).symm, rfl⟩
      | none =>
          have same := Outline.length_phases_of_spoken spoken registry prepared
          exact ⟨ResultRow.map_verdict_zipWith_render config same,
            ResultRow.map_cells_zipWith_render config same⟩
    · rw [if_neg spoken]
      exact ⟨rfl, rfl⟩

open Samples in
theorem run_dispatches_in_sequence_deposit :
    let table := Table.ofCells
      [["given", "user [Alice] has [100.0] dollars in their account"],
       ["when", "[50.0] dollars is deposited in to the account"]]
    let run := BankAccount.fixture.run {} table {}
    BankAccount.fixture.setup {} = ({ setups := 1 }, .returned (.ok ())) ∧
    BankAccount.fixture.steps = .returned BankAccount.registry ∧
    run.ending = .failed (.missingStep .expectation 2) ∧
    run.session.state =
      (BankAccount.fixture.teardown (dispatchEach BankAccount.registry
        ["user [Alice] has [100.0] dollars in their account",
         "[50.0] dollars is deposited in to the account"] { setups := 1 }).1).1 := by
  intro table run
  have prepares : BankAccount.fixture.setup {} = ({ setups := 1 }, .returned (.ok ())) := rfl
  have offers : BankAccount.fixture.steps = .returned BankAccount.registry := rfl
  have failed : run.ending = .failed (.missingStep .expectation 2) := by decide +kernel
  refine ⟨prepares, offers, failed, ?_⟩
  rcases BankAccount.fixture.run_dispatches_in_sequence {} table prepares offers with
    ⟨sentences, ending, taken, left, -, back, shape⟩
  have same : ending = .failed (.missingStep .expectation 2) := back.symm.trans failed
  subst same
  rw [← shape.1] at taken
  have spelled : sentences =
      ["user [Alice] has [100.0] dollars in their account",
       "[50.0] dollars is deposited in to the account"] :=
    (List.map_inj_right fun _ _ => Option.some.inj).mp taken.symm
  exact spelled ▸ left

end Fixture

end Acceptance
