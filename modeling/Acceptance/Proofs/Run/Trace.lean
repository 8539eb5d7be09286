import Acceptance.Proofs.Run.LifeCycle
import Acceptance.Proofs.Run.Shape

namespace Acceptance

/-! The trace of a run. It opens with the table and closes with the teardown. In between it
has a block for each row that was processed, and then what the rows came to. -/

universe u

variable {State : Type u}

/-! ### Phases by row -/

/-- The phase of a row, if the row is processed. -/
def Table.phaseAt (table : Table) (keyword : String) (row : Nat) : Phase :=
  let event := table.nextBreak keyword 1
  if row < event then .given else if row = event then .event else .expectation

namespace Outline

variable {keyword : String} {table : Table}

private theorem getElem?_replicate_append {count index : Nat} {phase found : Phase}
    {others : List Phase}
    (present : (List.replicate count phase ++ others)[index]? = some found) :
    index < count ∧ found = phase ∨ count ≤ index ∧ others[index - count]? = some found := by
  rw [List.getElem?_append, List.length_replicate] at present
  split at present
  case isTrue below =>
    rw [List.getElem?_replicate, if_pos below] at present
    exact .inl ⟨below, (Option.some.inj present).symm⟩
  case isFalse past => exact .inr ⟨Nat.le_of_not_lt past, present⟩

theorem phaseAt_of_planned {row : Nat} {phase : Phase}
    (planned : ((ofTable keyword table).planned.map Prod.fst)[row]? = some phase) :
    table.phaseAt keyword row = phase := by
  let event := table.nextBreak keyword 1
  have givenEnd : phaseEnd table keyword .given 0 = event := rfl
  have eventEnd : phaseEnd table keyword .event event = event + 1 := rfl
  change ((ofPhases keyword [.given, .event, .expectation]
    (table.rows.drop 0)).planned.map Prod.fst)[row]? = some phase at planned
  change (if row < event then Phase.given else if row = event then .event else .expectation) =
    phase
  -- The row is in a phase or behind it, unless no row is left for the phase.
  rcases Nat.eq_zero_or_pos table.size with empty | given
  · rw [ofPhases_of_le _ _ (Nat.le_of_eq empty)] at planned
    cases planned
  rcases ofPhases_of_lt keyword .given [.event, .expectation] given with
    ⟨-, bounded, -, phases⟩
  rw [givenEnd] at bounded phases
  rw [phases, Nat.sub_zero] at planned
  rcases getElem?_replicate_append planned with ⟨before, rfl⟩ | ⟨past, planned⟩
  · rw [if_pos before]
  rw [if_neg (Nat.not_lt_of_le past)]
  rcases Nat.eq_or_lt_of_le bounded with never | happens
  · rw [ofPhases_of_le _ _ (Nat.le_of_eq never.symm)] at planned
    cases planned
  rcases ofPhases_of_lt keyword .event [.expectation] happens with
    ⟨-, bounded, -, phases⟩
  rw [eventEnd] at bounded phases
  rw [phases, Nat.add_sub_cancel_left] at planned
  rcases getElem?_replicate_append planned with ⟨within, rfl⟩ | ⟨past, planned⟩
  · rw [if_pos (by omega)]
  rw [if_neg (by omega)]
  rcases Nat.eq_or_lt_of_le bounded with last | expected
  · rw [ofPhases_of_le _ _ (Nat.le_of_eq last.symm)] at planned
    cases planned
  rw [(ofPhases_of_lt keyword .expectation [] expected).2.2.2] at planned
  rcases getElem?_replicate_append planned with ⟨-, rfl⟩ | ⟨-, planned⟩
  · rfl
  · cases planned

variable (keyword table) in
theorem length_planned_add_length_ignored :
    (ofTable keyword table).planned.length + (ofTable keyword table).ignored.length =
      table.size := by
  have rows := congrArg List.length (planned_append_ignored keyword Phase.inOrder table.rows)
  rwa [List.length_append, List.length_map] at rows

end Outline

/-! ### The blocks of rows -/

/-- The block of one row. It tells that a handler is found just if one is called, and then
the message of the error or the verdict. -/
inductive RowTold (registry : Registry State) (row : Nat) (phase : Phase) (sentence : String) :
    Verdict → List TraceRecord → Prop where
  | unresolved {message : String} (uncalled : registry.callsOf sentence = []) :
      RowTold registry row phase sentence (.error message)
        [.step row phase sentence, .errored message]
  | errored {identifier : String} {signature : Signature} {arguments : List Argument}
      {message : String}
      (called : registry.callsOf sentence = [.step identifier signature arguments]) :
      RowTold registry row phase sentence (.error message)
        [.step row phase sentence, .resolved identifier signature, .errored message]
  | processed {identifier : String} {signature : Signature} {arguments : List Argument}
      {verdict : Verdict}
      (called : registry.callsOf sentence = [.step identifier signature arguments])
      (clean : verdict.isError = false) :
      RowTold registry row phase sentence verdict
        [.step row phase sentence, .resolved identifier signature, .processed verdict]

/-- The blocks of rows from a given index on, without a gap. -/
inductive RowsTold (registry : Registry State) (phaseAt : Nat → Phase) :
    Nat → List String → List Verdict → List TraceRecord → Prop where
  | nil {row : Nat} : RowsTold registry phaseAt row [] [] []
  | cons {row : Nat} {sentence : String} {sentences : List String} {verdict : Verdict}
      {verdicts : List Verdict} {block records : List TraceRecord}
      (first : RowTold registry row (phaseAt row) sentence verdict block)
      (later : RowsTold registry phaseAt (row + 1) sentences verdicts records) :
      RowsTold registry phaseAt row (sentence :: sentences) (verdict :: verdicts)
        (block ++ records)

namespace Session

variable (registry : Registry State) (config : Config)

theorem trace_dispatch (sentence : String) (session : Session State) :
    (session.dispatch registry sentence).1.trace = session.trace ++
      match registry.resolve sentence with
      | .error _ => []
      | .ok resolution => [.resolved resolution.identifier resolution.signature] := by
  rw [dispatch]
  cases registry.resolve sentence with
  | error error => simp
  | ok resolution => simp

theorem exists_rowTold (row : Nat) (phase : Phase) (sentence : String)
    (session : Session State) :
    ∃ block, (session.processRow registry config row phase sentence).1.trace =
        session.trace ++ block ∧
      RowTold registry row phase sentence
        (Acceptance.dispatch registry sentence session.state).2 block := by
  have trace : (session.processRow registry config row phase sentence).1.trace =
      ((session.record (.step row phase sentence)).dispatch registry sentence).1.trace ++
        [verdictRecord (Acceptance.dispatch registry sentence session.state).2] := by
    simp [processRow]
  rw [trace_dispatch, trace_record, List.append_assoc, List.append_assoc] at trace
  refine ⟨_, trace, ?_⟩
  cases resolved : registry.resolve sentence with
  | error error =>
      rw [Acceptance.dispatch, Session.dispatch_of_error _ resolved]
      exact .unresolved (by rw [Registry.callsOf, resolved])
  | ok resolution =>
      have called : registry.callsOf sentence =
          [.step resolution.identifier resolution.signature resolution.arguments] := by
        rw [Registry.callsOf, resolved]
      cases (Acceptance.dispatch registry sentence session.state).2 with
      | error message => exact .errored called
      | pass => exact .processed called rfl
      | fail message => exact .processed called rfl
      | unmarked => exact .processed called rfl

theorem exists_rowsTold {phaseAt : Nat → Phase} (index : Nat) (planned : List (Phase × Row))
    (session : Session State)
    (phases : ∀ offset phase, (planned.map Prod.fst)[offset]? = some phase →
      phaseAt (index + offset) = phase) :
    ∃ records, (session.processRows registry config index planned).1.trace =
        session.trace ++ records ∧
      RowsTold registry phaseAt index (Row.leadingSentences (planned.map Prod.snd))
        (dispatchEach registry (Row.leadingSentences (planned.map Prod.snd)) session.state).2
        records := by
  induction planned generalizing index session with
  | nil => exact ⟨[], (List.append_nil _).symm, .nil⟩
  | cons first planned induction =>
      rcases first with ⟨phase, row⟩
      rw [List.map_cons, Row.leadingSentences, processRows]
      cases row.sentence with
      | none => exact ⟨[], (List.append_nil _).symm, .nil⟩
      | some sentence =>
          obtain rfl : phaseAt index = phase := phases 0 phase rfl
          rcases session.exists_rowTold registry config index (phaseAt index) sentence with
            ⟨block, trace, told⟩
          rcases induction (index + 1)
            (session.processRow registry config index (phaseAt index) sentence).1
            (fun offset phase found => by
              rw [Nat.add_right_comm]
              exact phases (offset + 1) phase found) with ⟨records, laterTrace, laterTold⟩
          rw [state_processRow] at laterTold
          refine ⟨block ++ records, ?_, .cons told laterTold⟩
          rw [laterTrace, trace, List.append_assoc]

end Session

/-! ### What the rows came to -/

theorem Row.exists_silent_of_length_lt {rows : List Row}
    (short : (leadingSentences rows).length < rows.length) :
    ∃ row, rows[(leadingSentences rows).length]? = some row ∧ row.sentence = none := by
  induction rows with
  | nil => cases short
  | cons first rows induction =>
      rw [leadingSentences] at short ⊢
      cases found : first.sentence with
      | none => exact ⟨first, rfl, found⟩
      | some sentence =>
          rw [found] at short
          exact induction (Nat.lt_of_succ_lt_succ short)

/-- The records that follow the blocks of rows with these verdicts. -/
inductive ResultTold (table : Table) (phaseAt : Nat → Phase) (verdicts : List Verdict) :
    Except TableError (List ResultRow) → List TraceRecord → Prop where
  | missingStep {phase : Phase} (exhausted : verdicts.length = table.size) :
      ResultTold table phaseAt verdicts (.error (.missingStep phase table.size))
        [.malformed (.missingStep phase table.size)]
  | missingCell {row : Row} (present : table.row? verdicts.length = some row)
      (silent : row.sentence = none) :
      ResultTold table phaseAt verdicts (.error (.missingCell verdicts.length 1))
        [.malformed (.missingCell verdicts.length 1)]
  | finished {results : List ResultRow}
      (phases : results.map ResultRow.phase = (List.range verdicts.length).map phaseAt)
      (shown : results.map ResultRow.verdict = verdicts) :
      ResultTold table phaseAt verdicts (.ok results)
        ((if verdicts.length < table.size then [.ignoring verdicts.length] else []) ++
          [.finished (Report.ofRows results)])

namespace Outline

/-- The records that follow the blocks of rows, as they are made. -/
def closing (outline : Outline) : Except TableError (List ResultRow) → List TraceRecord
  | .error error => [.malformed error]
  | .ok results =>
      (if outline.ignored = [] then [] else [.ignoring outline.planned.length]) ++
        [.finished (Report.ofRows results)]

theorem exists_silent_of_length_ne {keyword : String} {table : Table}
    (silent : (ofTable keyword table).sentences.length ≠
      (ofTable keyword table).planned.length) :
    ∃ row, table.row? (ofTable keyword table).sentences.length = some row ∧
      row.sentence = none := by
  let outline := ofTable keyword table
  have short : outline.sentences.length < outline.planned.length :=
    Nat.lt_of_le_of_ne outline.length_sentences_le silent
  have among : outline.sentences.length < (outline.planned.map Prod.snd).length := by
    rwa [List.length_map]
  rcases Row.exists_silent_of_length_lt among with ⟨row, present, wordless⟩
  refine ⟨row, ?_, wordless⟩
  calc table.rows[outline.sentences.length]?
      = (table.rows.take outline.planned.length)[outline.sentences.length]? :=
        (List.getElem?_take_of_lt short).symm
    _ = (outline.planned.map Prod.snd)[outline.sentences.length]? := by
        rw [rows_planned_ofTable]
    _ = some row := present

theorem closing_ofTable_ok (keyword : String) (table : Table) (results : List ResultRow) :
    let count := (ofTable keyword table).planned.length
    (ofTable keyword table).closing (.ok results) =
      (if count < table.size then [.ignoring count] else []) ++
        [.finished (Report.ofRows results)] := by
  have size := length_planned_add_length_ignored keyword table
  have whole : (ofTable keyword table).ignored = [] ↔
      ¬ (ofTable keyword table).planned.length < table.size := by
    rw [← List.length_eq_zero_iff]
    omega
  simp only [closing, whole, ite_not]

theorem phases_eq_map_range (keyword : String) (table : Table) :
    (ofTable keyword table).planned.map Prod.fst =
      (List.range (ofTable keyword table).planned.length).map (table.phaseAt keyword) := by
  apply List.ext_getElem?
  intro row
  cases planned : ((ofTable keyword table).planned.map Prod.fst)[row]? with
  | none =>
      rw [List.getElem?_eq_none_iff, List.length_map] at planned
      simp [planned]
  | some phase =>
      have inside := (List.getElem?_eq_some_iff.mp planned).1
      rw [List.length_map] at inside
      simp [List.getElem?_range inside, phaseAt_of_planned planned]

end Outline

namespace Session

variable (registry : Registry State) (config : Config) (table : Table)
  (session : Session State)

theorem trace_processTable :
    let outline := Outline.ofTable config.andKeyword table
    let processed := session.processTable registry config table
    (processed.1.record (.ofResult processed.2)).trace =
      (session.processRows registry config 0 outline.planned).1.trace ++
        outline.closing processed.2 := by
  intro outline processed
  simp only [processed]
  rw [processTable]
  generalize rows : session.processRows registry config 0 outline.planned = processed
  rcases processed with ⟨processed, result⟩
  cases result with
  | error error => exact trace_record processed _
  | ok results =>
      cases outline.missing with
      | some phase => exact trace_record processed _
      | none =>
          by_cases whole : outline.ignored = []
          · simp [outline, whole, Outline.closing, TraceRecord.ofResult]
          · simp [outline, whole, Outline.closing, TraceRecord.ofResult]

theorem resultTold_closing :
    let outline := Outline.ofTable config.andKeyword table
    let result := (session.processTable registry config table).2
    ResultTold table (table.phaseAt config.andKeyword)
      (dispatchEach registry outline.sentences session.state).2 result
      (outline.closing result) := by
  intro outline result
  let verdicts := (dispatchEach registry outline.sentences session.state).2
  have told : verdicts.length = outline.sentences.length := length_verdicts_dispatchEach ..
  have found : result = _ := session.result_processTable registry config table
  by_cases spoken : outline.sentences.length = outline.planned.length
  · have all : verdicts.length = outline.planned.length := told.trans spoken
    rw [found]
    change ResultTold _ _ verdicts _ _
    dsimp only
    rw [if_pos spoken]
    cases missing : outline.missing with
    | some phase =>
        exact .missingStep (all.trans (Outline.length_planned_of_missing missing))
    | none =>
        have same := Outline.length_phases_of_spoken spoken registry session.state
        dsimp only
        rw [Outline.closing_ofTable_ok, ← all]
        refine .finished ?_ (ResultRow.map_verdict_zipWith_render config same)
        rw [ResultRow.map_phase_zipWith_render config same, all]
        exact Outline.phases_eq_map_range config.andKeyword table
  · rcases Outline.exists_silent_of_length_ne spoken with ⟨row, present, silent⟩
    rw [found]
    dsimp only
    rw [if_neg spoken]
    rw [← told] at present ⊢
    exact .missingCell present silent

theorem exists_told :
    let outline := Outline.ofTable config.andKeyword table
    let processed := session.processTable registry config table
    let verdicts := (dispatchEach registry outline.sentences session.state).2
    ∃ rows closing,
      (processed.1.record (.ofResult processed.2)).trace =
        session.trace ++ rows ++ closing ∧
      RowsTold registry (table.phaseAt config.andKeyword) 0 outline.sentences verdicts rows ∧
      ResultTold table (table.phaseAt config.andKeyword) verdicts processed.2 closing := by
  intro outline processed verdicts
  have phases offset phase
      (planned : (outline.planned.map Prod.fst)[offset]? = some phase) :
      table.phaseAt config.andKeyword (0 + offset) = phase := by
    rw [Nat.zero_add]
    exact Outline.phaseAt_of_planned planned
  rcases session.exists_rowsTold registry config 0 outline.planned phases with
    ⟨rows, trace, told⟩
  refine ⟨rows, outline.closing processed.2, ?_, told,
    session.resultTold_closing registry config table⟩
  rw [← trace]
  exact session.trace_processTable registry config table

end Session

/-! ### Runs -/

namespace Fixture

/-- What a run tells between its opening and the teardown, beside the calls that it makes
until then and the way in which it comes back if the teardown does. -/
inductive Tells (fixture : Fixture State) (config : Config) (table : Table) (start : State) :
    List FixtureCall → Ending → List TraceRecord → Prop where
  | setupPanicked {payload : PanicPayload}
      (setup : (fixture.setup start).2 = .panicked payload) :
      Tells fixture config table start [.setup] (.panicked payload) []
  | setupFailed {cause : String}
      (setup : (fixture.setup start).2 = .returned (.error cause)) :
      Tells fixture config table start [.setup] (.failed (.setup cause)) [.setupFailed cause]
  | stepsPanicked {payload : PanicPayload}
      (setup : (fixture.setup start).2 = .returned (.ok ()))
      (steps : fixture.steps = .panicked payload) :
      Tells fixture config table start [.setup, .steps] (.panicked payload) []
  | processed {registry : Registry State} {sentences : List String}
      {verdicts : List Verdict} {result : Except TableError (List ResultRow)}
      {rows closing : List TraceRecord}
      (setup : (fixture.setup start).2 = .returned (.ok ()))
      (steps : fixture.steps = .returned registry)
      (read : (table.rows.take sentences.length).map Row.sentence = sentences.map some)
      (dispatched : (dispatchEach registry sentences (fixture.setup start).1).2 = verdicts)
      (told : RowsTold registry (table.phaseAt config.andKeyword) 0 sentences verdicts rows)
      (closed : ResultTold table (table.phaseAt config.andKeyword) verdicts result closing) :
      Tells fixture config table start
        (.setup :: .steps :: sentences.flatMap registry.callsOf) (.ofResult result)
        (rows ++ closing)

variable (fixture : Fixture State) (config : Config) (table : Table) (start : State)

theorem exists_tells :
    let conducted := fixture.conducted config table start
    ∃ told, fixture.Tells config table start conducted.1.calls conducted.2 told ∧
      conducted.1.trace = .table table.size :: told := by
  refine conducted_cases fixture config table start
    ?setupPanicked ?setupFailed ?stepsPanicked ?processed
  case setupPanicked => exact fun payload setup => ⟨[], .setupPanicked setup, rfl⟩
  case setupFailed => exact fun cause setup => ⟨[.setupFailed cause], .setupFailed setup, rfl⟩
  case stepsPanicked => exact fun payload setup steps => ⟨[], .stepsPanicked setup steps, rfl⟩
  case processed =>
    intro registry setup steps processed
    rcases (fixture.ready table start).exists_told registry config table with
      ⟨rows, closing, trace, told, closed⟩
    refine ⟨rows ++ closing, ?_, ?_⟩
    · rw [Session.calls_record, Session.calls_processTable]
      exact .processed setup steps
        (Outline.map_some_sentences_ofTable config.andKeyword table) rfl told closed
    · rw [trace, trace_ready, List.append_assoc]
      rfl

theorem trace_run :
    (fixture.run config table start).session.trace =
      (fixture.conducted config table start).1.trace ++ [.tearingDown] := by
  simp [Fixture.run, conducted]

/-- The trace of every run is the table, what the run tells, and the teardown. -/
theorem trace_grammar :
    let run := fixture.run config table start
    ∃ calls ending told,
      fixture.Tells config table start calls ending told ∧
      run.session.trace = .table table.size :: told ++ [.tearingDown] ∧
      run.session.calls = calls ++ [.teardown] ∧
      run.ending = ending.afterTeardown
        (fixture.teardown (fixture.conducted config table start).1.state).2 := by
  intro run
  rcases fixture.exists_tells config table start with ⟨told, tells, trace⟩
  refine ⟨_, _, told, tells, ?_, fixture.calls_run config table start,
    fixture.ending_run config table start⟩
  rw [← trace]
  exact fixture.trace_run config table start

open Samples in
example : (BankAccount.fixture.run {} (Table.ofCells [["given", "it [rains"], ["when"]]) {}
    ).session.trace =
    [.table 2, .step 0 .given "it [rains",
      .errored ("it [rains Exception: " ++ (StepError.placeholders 1 0).message),
      .malformed (.missingCell 1 1), .tearingDown] := by
  decide +kernel

end Fixture

end Acceptance
