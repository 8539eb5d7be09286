import Acceptance.Proofs.Run.LifeCycle

namespace Acceptance

/-! What a run depends on. Of a table it reads the sentence of each row, and of the markers
only which of the rows after the first one continue the row before them. Whatever else two
tables hold, and by whatever words they are read, the runs do the same. -/

universe u

variable {State : Type u}

/-! ### Tables that read alike -/

/-- Two tables, each read by a keyword of its own, with the same sentences in their rows and
with the same rows that continue. The marker of the first row is not looked at. -/
structure Table.SameScript (leftKeyword rightKeyword : String) (left right : Table) : Prop where
  sentences : left.rows.map Row.sentence = right.rows.map Row.sentence
  continued : left.rows.tail.map (fun row => row.continues leftKeyword) =
    right.rows.tail.map (fun row => row.continues rightKeyword)

theorem Table.SameScript.size_eq {leftKeyword rightKeyword : String} {left right : Table}
    (same : SameScript leftKeyword rightKeyword left right) : left.size = right.size := by
  have lengths := congrArg List.length same.sentences
  rwa [List.length_map, List.length_map] at lengths

namespace Outline

def step (planned : Phase × Row) : Phase × Option String :=
  (planned.1, planned.2.sentence)

/-- Two outlines with the same steps, and with as many rows behind them. -/
structure SameSteps (left right : Outline) : Prop where
  steps : left.planned.map step = right.planned.map step
  missing : left.missing = right.missing
  ignored : left.ignored.length = right.ignored.length

theorem continuing_eq_take (keyword : String) (phase : Phase) (rows : List Row) :
    continuing keyword phase rows = rows.take (continuing keyword phase rows).length := by
  have leading : continuing keyword phase rows <+: rows := by
    rw [continuing]
    split
    · exact List.takeWhile_prefix _
    · exact List.nil_prefix
  exact List.prefix_iff_eq_take.mp leading

section

variable {leftKeyword rightKeyword : String} {left right : List Row}

theorem length_continuing_congr
    (continued : left.map (fun row => row.continues leftKeyword) =
      right.map (fun row => row.continues rightKeyword)) (phase : Phase) :
    (continuing leftKeyword phase left).length =
      (continuing rightKeyword phase right).length := by
  have taken := congrArg (fun flags => (flags.takeWhile id).length) continued
  simp only [List.takeWhile_map, List.length_map, Function.id_comp] at taken
  rw [continuing, continuing]
  split
  · exact taken
  · rfl

theorem ofPhases_sameSteps (phases : List Phase)
    (sentences : left.map Row.sentence = right.map Row.sentence)
    (continued : left.tail.map (fun row => row.continues leftKeyword) =
      right.tail.map (fun row => row.continues rightKeyword)) :
    SameSteps (ofPhases leftKeyword phases left) (ofPhases rightKeyword phases right) := by
  induction phases generalizing left right with
  | nil =>
      have lengths := congrArg List.length sentences
      rw [List.length_map, List.length_map] at lengths
      exact ⟨rfl, rfl, lengths⟩
  | cons phase phases induction =>
      match left, right with
      | [], [] => exact ⟨rfl, rfl, rfl⟩
      | first :: left, other :: right =>
          rw [List.map_cons, List.map_cons, List.cons.injEq] at sentences
          rw [List.tail_cons, List.tail_cons] at continued
          have width := length_continuing_congr continued phase
          have later : SameSteps
              (ofPhases leftKeyword phases (left.drop (continuing leftKeyword phase left).length))
              (ofPhases rightKeyword phases
                (right.drop (continuing rightKeyword phase right).length)) := by
            apply induction
            · rw [List.map_drop, List.map_drop, sentences.2, width]
            · rw [List.tail_drop, List.tail_drop, List.map_drop, List.map_drop, continued, width]
          have spoken : (continuing leftKeyword phase left).map Row.sentence =
              (continuing rightKeyword phase right).map Row.sentence := by
            rw [continuing_eq_take, continuing_eq_take rightKeyword, List.map_take,
              List.map_take, sentences.2, width]
          have steps : ∀ rows : List Row, (rows.map fun row => (phase, row)).map step =
              (rows.map Row.sentence).map fun sentence => (phase, sentence) := by
            intro rows
            rw [List.map_map, List.map_map]
            rfl
          have start : step (phase, first) = step (phase, other) :=
            congrArg (Prod.mk phase) sentences.1
          refine ⟨?_, later.missing, later.ignored⟩
          simp only [ofPhases, List.map_append, List.map_cons, steps, start, spoken, later.steps]

theorem ofTable_sameSteps {left right : Table}
    (same : Table.SameScript leftKeyword rightKeyword left right) :
    SameSteps (ofTable leftKeyword left) (ofTable rightKeyword right) :=
  ofPhases_sameSteps Phase.inOrder same.sentences same.continued

end

end Outline

/-! ### Runs of tables that read alike

Step for step, the same is done to the fixture and told in the journal. The results are the
same steps with the same verdicts, which each configuration renders by its own markers. -/

/-- Configurations that render verdicts alike. They may read tables by different keywords. -/
structure Config.SameMarkers (left right : Config) : Prop where
  passMarker : left.passMarker = right.passMarker
  failMarker : left.failMarker = right.failMarker
  errorPrefix : left.errorPrefix = right.errorPrefix

namespace ResultRow

def renderEach (config : Config) (steps : List (Phase × Verdict)) : List ResultRow :=
  steps.map fun step => render config step.1 step.2

theorem renderEach_congr {left right : Config} (same : left.SameMarkers right)
    (steps : List (Phase × Verdict)) : renderEach left steps = renderEach right steps := by
  apply List.map_congr_left
  rintro ⟨phase, verdict⟩ -
  rcases same with ⟨passMarker, failMarker, errorPrefix⟩
  rw [render, render]
  cases verdict with
  | pass => simp only [Verdict.cells, passMarker]
  | fail message => cases message <;> simp only [Verdict.cells, failMarker]
  | error message => simp only [Verdict.cells, failMarker, errorPrefix]
  | unmarked => rfl

theorem map_verdict_renderEach (config : Config) (steps : List (Phase × Verdict)) :
    (renderEach config steps).map verdict = steps.map Prod.snd := by
  rw [renderEach, List.map_map]
  rfl

end ResultRow

/-- Two ways for runs to come back: with the same steps and verdicts, rendered by two
configurations, or without results and then in the same way. -/
inductive Ending.SameSteps (left right : Config) : Ending → Ending → Prop where
  | finished (steps : List (Phase × Verdict)) :
      SameSteps left right (.finished (ResultRow.renderEach left steps))
        (.finished (ResultRow.renderEach right steps))
  | failed (error : TableError) : SameSteps left right (.failed error) (.failed error)
  | panicked (payload : PanicPayload) :
      SameSteps left right (.panicked payload) (.panicked payload)
  | aborted : SameSteps left right .aborted .aborted

theorem Ending.SameSteps.eq_of_sameMarkers {left right : Config} {first second : Ending}
    (same : SameSteps left right first second) (markers : left.SameMarkers right) :
    first = second := by
  cases same with
  | finished steps => rw [ResultRow.renderEach_congr markers]
  | failed error => rfl
  | panicked payload => rfl
  | aborted => rfl

theorem Ending.SameSteps.afterTeardown {left right : Config} {first second : Ending}
    (same : SameSteps left right first second) (back : Completion Unit) :
    SameSteps left right (first.afterTeardown back) (second.afterTeardown back) := by
  cases back with
  | returned done => exact same
  | panicked payload =>
      cases same with
      | finished steps => exact .panicked payload
      | failed error => exact .panicked payload
      | panicked earlier => exact .aborted
      | aborted => exact .aborted

namespace Session

variable (registry : Registry State) (leftConfig rightConfig : Config)

theorem processRows_congr (index : Nat) {left right : List (Phase × Row)}
    (same : left.map Outline.step = right.map Outline.step) (session : Session State) :
    (session.processRows registry leftConfig index left).1 =
      (session.processRows registry rightConfig index right).1 ∧
    ∃ outcome : Except TableError (List (Phase × Verdict)),
      (session.processRows registry leftConfig index left).2 =
        outcome.map (ResultRow.renderEach leftConfig) ∧
      (session.processRows registry rightConfig index right).2 =
        outcome.map (ResultRow.renderEach rightConfig) := by
  induction left generalizing right index session with
  | nil =>
      cases right with
      | nil => exact ⟨rfl, .ok [], rfl, rfl⟩
      | cons other right => cases same
  | cons first left induction =>
      cases right with
      | nil => cases same
      | cons other right =>
          rcases first with ⟨phase, row⟩
          rcases other with ⟨otherPhase, otherRow⟩
          rw [List.map_cons, List.map_cons, List.cons.injEq, Outline.step, Outline.step,
            Prod.mk.injEq] at same
          rcases same with ⟨⟨rfl, sentence⟩, later⟩
          dsimp only at sentence
          rw [processRows, processRows, sentence]
          cases otherRow.sentence with
          | none => exact ⟨rfl, .error (.missingCell index 1), rfl, rfl⟩
          | some sentence =>
              let entered := session.processRow registry leftConfig index phase sentence
              rcases induction (index + 1) later entered.1 with ⟨sessions, outcome, back, otherBack⟩
              let verdict := (Acceptance.dispatch registry sentence session.state).2
              refine ⟨sessions, outcome.map ((phase, verdict) :: ·), ?_, ?_⟩
              · dsimp only
                rw [back, result_processRow]
                cases outcome <;> rfl
              · change Except.map _ (entered.1.processRows registry rightConfig _ _).2 = _
                rw [otherBack, result_processRow]
                cases outcome <;> rfl

theorem processTable_congr {left right : Table}
    (same : Table.SameScript leftConfig.andKeyword rightConfig.andKeyword left right)
    (session : Session State) :
    (session.processTable registry leftConfig left).1 =
      (session.processTable registry rightConfig right).1 ∧
    ∃ outcome : Except TableError (List (Phase × Verdict)),
      (session.processTable registry leftConfig left).2 =
        outcome.map (ResultRow.renderEach leftConfig) ∧
      (session.processTable registry rightConfig right).2 =
        outcome.map (ResultRow.renderEach rightConfig) := by
  have outlines := Outline.ofTable_sameSteps same
  rw [processTable, processTable]
  generalize Outline.ofTable leftConfig.andKeyword left = leftOutline at outlines ⊢
  generalize Outline.ofTable rightConfig.andKeyword right = rightOutline at outlines ⊢
  have width : leftOutline.planned.length = rightOutline.planned.length := by
    have lengths := congrArg List.length outlines.steps
    rwa [List.length_map, List.length_map] at lengths
  have ignored : leftOutline.ignored = [] ↔ rightOutline.ignored = [] := by
    rw [← List.length_eq_zero_iff, outlines.ignored, List.length_eq_zero_iff]
  rcases processRows_congr registry leftConfig rightConfig 0 outlines.steps session with
    ⟨sessions, outcome, back, otherBack⟩
  generalize session.processRows registry leftConfig 0 leftOutline.planned = first at *
  generalize session.processRows registry rightConfig 0 rightOutline.planned = second at *
  rcases first with ⟨reached, result⟩
  rcases second with ⟨otherReached, otherResult⟩
  cases sessions
  cases back
  cases otherBack
  cases outcome with
  | error error => exact ⟨rfl, .error error, rfl, rfl⟩
  | ok steps =>
      simp only [Except.map, outlines.missing, same.size_eq]
      cases rightOutline.missing with
      | some phase => exact ⟨rfl, .error (.missingStep phase right.size), rfl, rfl⟩
      | none =>
          simp only [ignored, width]
          split <;> exact ⟨rfl, .ok steps, rfl, rfl⟩

end Session

namespace Fixture

variable (fixture : Fixture State) (leftConfig rightConfig : Config)

theorem conducted_congr {left right : Table}
    (same : Table.SameScript leftConfig.andKeyword rightConfig.andKeyword left right)
    (state : State) :
    (fixture.conducted leftConfig left state).1 = (fixture.conducted rightConfig right state).1 ∧
      Ending.SameSteps leftConfig rightConfig (fixture.conducted leftConfig left state).2
        (fixture.conducted rightConfig right state).2 := by
  have opened : fixture.opened left state = fixture.opened right state := by
    rw [Fixture.opened, Fixture.opened, same.size_eq]
  have ready : fixture.ready left state = fixture.ready right state := by
    rw [Fixture.ready, Fixture.ready, opened]
  refine conducted_cases fixture leftConfig left state
    ?setupPanicked ?setupFailed ?stepsPanicked ?processed
  case setupPanicked =>
    intro payload setup
    rw [conducted_of_setup_panicked rightConfig right setup]
    exact ⟨opened, .panicked payload⟩
  case setupFailed =>
    intro cause setup
    rw [conducted_of_setup_failed rightConfig right setup]
    exact ⟨congrArg (Session.record · _) opened, .failed (.setup cause)⟩
  case stepsPanicked =>
    intro payload setup steps
    rw [conducted_of_steps_panicked rightConfig right setup steps]
    exact ⟨ready, .panicked payload⟩
  case processed =>
    intro registry setup steps processed
    rw [conducted_of_steps_returned rightConfig right setup steps, ← ready]
    rcases Session.processTable_congr registry leftConfig rightConfig same
      (fixture.ready left state) with ⟨sessions, outcome, back, otherBack⟩
    simp only [processed, sessions, back, otherBack]
    cases outcome with
    | error error => exact ⟨rfl, .failed error⟩
    | ok steps =>
        refine ⟨?_, .finished steps⟩
        simp only [Except.map, TraceRecord.ofResult, Report.ofRows,
          ResultRow.map_verdict_renderEach]

theorem run_congr {left right : Table}
    (same : Table.SameScript leftConfig.andKeyword rightConfig.andKeyword left right)
    (state : State) :
    (fixture.run leftConfig left state).session = (fixture.run rightConfig right state).session ∧
      Ending.SameSteps leftConfig rightConfig (fixture.run leftConfig left state).ending
        (fixture.run rightConfig right state).ending := by
  rcases fixture.conducted_congr leftConfig rightConfig same state with ⟨sessions, endings⟩
  rw [ending_run, ending_run, sessions]
  refine ⟨?_, endings.afterTeardown _⟩
  change ((fixture.conducted leftConfig left state).1.record .tearingDown |>.call .teardown
    fixture.teardown).1 = ((fixture.conducted rightConfig right state).1.record .tearingDown
      |>.call .teardown fixture.teardown).1
  rw [sessions]

end Fixture

/-! ### Rows behind the last phase

A table that has all of its phases may be followed by further rows, if the first of them does
not continue the last phase. -/

namespace Outline

variable {keyword : String} {rows extra : List Row}

theorem continuing_append
    (apart : ∀ row ∈ extra.head?, row.continues keyword = false) (phase : Phase) :
    continuing keyword phase (rows ++ extra) = continuing keyword phase rows := by
  have stops : extra.takeWhile (fun row => row.continues keyword) = [] := by
    cases extra with
    | nil => rfl
    | cons row extra => exact List.takeWhile_cons_of_neg (by simp [apart row rfl])
  rw [continuing, continuing]
  split
  · rw [List.takeWhile_append, stops, List.append_nil]
    split
    case isTrue whole => exact (List.takeWhile_prefix _).eq_of_length whole |>.symm
    case isFalse => rfl
  · rfl

theorem ofPhases_append (apart : ∀ row ∈ extra.head?, row.continues keyword = false)
    {phases : List Phase} (complete : (ofPhases keyword phases rows).missing = none) :
    ofPhases keyword phases (rows ++ extra) =
      { ofPhases keyword phases rows with
        ignored := (ofPhases keyword phases rows).ignored ++ extra } := by
  induction phases generalizing rows with
  | nil => rfl
  | cons phase phases induction =>
      cases rows with
      | nil => cases complete
      | cons first rows =>
          have short : (continuing keyword phase rows).length ≤ rows.length := by
            rw [continuing_eq_take]
            exact List.length_take_le' ..
          rw [List.cons_append, ofPhases, ofPhases, continuing_append apart,
            List.drop_append_of_le_length short, induction complete]

end Outline

namespace Session

variable {registry : Registry State} {config : Config} {table : Table}

theorem processTable_eq_ok_iff {session : Session State} {results : List ResultRow} :
    (session.processTable registry config table).2 = .ok results ↔
      let outline := Outline.ofTable config.andKeyword table
      outline.sentences.length = outline.planned.length ∧ outline.missing = none ∧
        (outline.planned.map Prod.fst).zipWith (ResultRow.render config)
          (dispatchEach registry outline.sentences session.state).2 = results := by
  rw [result_processTable]
  dsimp only
  split
  case isTrue spoken =>
    cases (Outline.ofTable config.andKeyword table).missing <;> simp [spoken]
  case isFalse silent => simp [silent]

theorem processTable_append {session longer : Session State} {results : List ResultRow}
    {extra : List Row} (finished : (session.processTable registry config table).2 = .ok results)
    (apart : ∀ row ∈ extra.head?, row.continues config.andKeyword = false)
    (states : longer.state = session.state) (calls : longer.calls = session.calls) :
    let extended := longer.processTable registry config ⟨table.rows ++ extra⟩
    extended.2 = .ok results ∧
      extended.1.state = (session.processTable registry config table).1.state ∧
      extended.1.calls = (session.processTable registry config table).1.calls := by
  intro extended
  rw [processTable_eq_ok_iff] at finished
  let outline := Outline.ofTable config.andKeyword table
  have outlines : Outline.ofTable config.andKeyword ⟨table.rows ++ extra⟩ =
      { outline with ignored := outline.ignored ++ extra } :=
    Outline.ofPhases_append apart finished.2.1
  have sentences : (Outline.ofTable config.andKeyword ⟨table.rows ++ extra⟩).sentences =
      outline.sentences := by
    rw [outlines]
    rfl
  refine ⟨?_, ?_, ?_⟩
  · rw [processTable_eq_ok_iff, states, outlines]
    exact finished
  · rw [state_processTable, state_processTable, sentences, states]
  · rw [calls_processTable, calls_processTable, sentences, calls]

end Session

namespace Fixture

theorem conducted_append {fixture : Fixture State} {config : Config} {table : Table}
    {state : State} {results : List ResultRow} {extra : List Row}
    (finished : (fixture.conducted config table state).2 = .finished results)
    (apart : ∀ row ∈ extra.head?, row.continues config.andKeyword = false) :
    let longer := fixture.conducted config ⟨table.rows ++ extra⟩ state
    longer.2 = .finished results ∧
      longer.1.state = (fixture.conducted config table state).1.state ∧
      longer.1.calls = (fixture.conducted config table state).1.calls := by
  revert finished
  refine conducted_cases fixture config table state
    ?setupPanicked ?setupFailed ?stepsPanicked ?processed
  case setupPanicked => exact fun payload setup finished => by cases finished
  case setupFailed => exact fun cause setup finished => by cases finished
  case stepsPanicked => exact fun payload setup steps finished => by cases finished
  case processed =>
    intro registry setup steps processed finished
    have result : processed.2 = .ok results := by
      generalize processed.2 = result at finished
      cases result with
      | error error => cases finished
      | ok rows => exact congrArg Except.ok (Ending.finished.inj finished)
    rcases Session.processTable_append result apart
      (state_ready fixture ⟨table.rows ++ extra⟩ state) (calls_ready fixture _ state) with
      ⟨extended, states, calls⟩
    rw [conducted_of_steps_returned config _ setup steps]
    refine ⟨congrArg Ending.ofResult extended, states, ?_⟩
    rw [Session.calls_record, Session.calls_record]
    exact calls

/-- What a run does depends on the fixture and on the script of its table: tables with the same
sentences, in which the same rows after the first one continue, lead to the same session and to
the same verdicts, and configurations with the same markers render these alike. Rows behind the
last phase are not part of the script, whatever they lack. -/
theorem run_depends_on_script (fixture : Fixture State) (state : State) :
    (∀ (leftConfig rightConfig : Config) (left right : Table),
      Table.SameScript leftConfig.andKeyword rightConfig.andKeyword left right →
      let first := fixture.run leftConfig left state
      let second := fixture.run rightConfig right state
      first.session = second.session ∧
      Ending.SameSteps leftConfig rightConfig first.ending second.ending ∧
      (leftConfig.SameMarkers rightConfig → first.ending = second.ending)) ∧
    (∀ (config : Config) (table : Table) (results : List ResultRow) (extra : List Row),
      let run := fixture.run config table state
      let longer := fixture.run config ⟨table.rows ++ extra⟩ state
      run.ending = .finished results →
      (∀ row ∈ extra.head?, row.continues config.andKeyword = false) →
      longer.ending = .finished results ∧ longer.session.state = run.session.state ∧
        longer.session.calls = run.session.calls) := by
  constructor
  · intro leftConfig rightConfig left right same first second
    rcases fixture.run_congr leftConfig rightConfig same state with ⟨sessions, endings⟩
    exact ⟨sessions, endings, endings.eq_of_sameMarkers⟩
  · intro config table results extra run longer finished apart
    rw [ending_run, Ending.afterTeardown_eq_finished_iff] at finished
    rcases conducted_append finished.1 apart with ⟨extended, states, calls⟩
    refine ⟨?_, ?_, ?_⟩
    · rw [ending_run, Ending.afterTeardown_eq_finished_iff, states]
      exact ⟨extended, finished.2⟩
    · rw [state_run, state_run, states]
    · rw [calls_run, calls_run, calls]

open Samples in
/-- Other markers, another keyword and further cells make no difference, and neither does a row
without any cell behind the last phase. -/
theorem run_depends_on_script_of_account :
    let plain := Table.ofCells
      [["given", "user [Alice] has [100.0] dollars in their account"],
       ["and", "[50.0] dollars is deposited in to the account"],
       ["when", "[20.0] dollars is withdrawn from the account"],
       ["then", "the balance should be [130.0] dollars"]]
    let marked := Table.ofCells
      [["&", "user [Alice] has [100.0] dollars in their account", "a friend"],
       ["&", "[50.0] dollars is deposited in to the account"],
       ["", "[20.0] dollars is withdrawn from the account", "in cash", ""],
       ["&&", "the balance should be [130.0] dollars"]]
    let words : Config := { andKeyword := "AND" }
    let signs : Config := { andKeyword := "&" }
    let run := BankAccount.fixture.run words plain {}
    Table.SameScript words.andKeyword signs.andKeyword plain marked ∧
    run.session = (BankAccount.fixture.run signs marked {}).session ∧
    run.ending = (BankAccount.fixture.run signs marked {}).ending ∧
    let results := ResultRow.renderEach words
      [(.given, .unmarked), (.given, .unmarked), (.event, .unmarked), (.expectation, .pass)]
    run.ending = .finished results ∧
      (BankAccount.fixture.run words ⟨plain.rows ++ [⟨[]⟩]⟩ {}).ending = .finished results := by
  intro plain marked words signs run
  have same : Table.SameScript words.andKeyword signs.andKeyword plain marked :=
    ⟨rfl, by decide +kernel⟩
  rcases BankAccount.fixture.run_depends_on_script {} with ⟨alike, longer⟩
  rcases alike words signs plain marked same with ⟨sessions, -, endings⟩
  refine ⟨same, sessions, endings ⟨rfl, rfl, rfl⟩, ?_⟩
  intro results
  have finished : run.ending = .finished results := by decide +kernel
  have apart : ∀ row ∈ [Row.mk []].head?, row.continues words.andKeyword = false := by
    rintro row ⟨⟩
    rfl
  exact ⟨finished, (longer words plain results [⟨[]⟩] finished apart).1⟩

end Fixture

end Acceptance
