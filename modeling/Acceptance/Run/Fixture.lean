import Acceptance.Run.Dispatch
import Acceptance.Run.Outline

namespace Acceptance

/-! Running a table on a fixture: set the fixture up, ask it for its steps, process the
rows of the table one by one, and tear the fixture down whatever happened. -/

/-- An object under test, given by how its state behaves. -/
structure Fixture (State : Type u) where
  setup : State → State × Completion (Except String Unit) :=
    fun state => (state, .returned (.ok ()))
  steps : Completion (Registry State)
  teardown : State → State × Completion Unit := fun state => (state, .returned ())

/-- How a run comes back. A panic of the teardown takes the place of a result, but cannot
come on top of another panic: then there is no way back. -/
inductive Ending where
  | finished (rows : List ResultRow)
  | failed (error : TableError)
  | panicked (payload : PanicPayload)
  | aborted
deriving DecidableEq

namespace Session

variable {State : Type u}

def verdictRecord : Verdict → TraceRecord
  | .error message => .errored message
  | verdict => .processed verdict

def processRow (registry : Registry State) (config : Config) (row : Nat) (phase : Phase)
    (sentence : String) (session : Session State) : Session State × ResultRow :=
  let entered := session.record (.step row phase sentence)
  let dispatched := entered.dispatch registry sentence
  (dispatched.1.record (verdictRecord dispatched.2),
    ResultRow.render config phase dispatched.2)

/-- Process planned rows, the first of which has the given index, up to the first row
without a sentence. -/
def processRows (registry : Registry State) (config : Config) :
    Nat → List (Phase × Row) → Session State →
      Session State × Except TableError (List ResultRow)
  | _, [], session => (session, .ok [])
  | index, (phase, row) :: planned, session =>
      match row.sentence with
      | none => (session, .error (.missingCell index 1))
      | some sentence =>
          let processed := session.processRow registry config index phase sentence
          let later := processRows registry config (index + 1) planned processed.1
          (later.1, later.2.map (processed.2 :: ·))

def processTable (registry : Registry State) (config : Config) (table : Table)
    (session : Session State) : Session State × Except TableError (List ResultRow) :=
  let outline := Outline.ofTable config.andKeyword table
  match session.processRows registry config 0 outline.planned with
  | (processed, .error error) => (processed, .error error)
  | (processed, .ok results) =>
      match outline.missing with
      | some phase => (processed, .error (.missingStep phase table.size))
      | none =>
          if outline.ignored = [] then
            (processed, .ok results)
          else
            (processed.record (.ignoring outline.planned.length), .ok results)

/-- What happens in a run between its opening and the teardown. -/
def conduct (fixture : Fixture State) (config : Config) (table : Table)
    (session : Session State) : Session State × Ending :=
  match session.call .setup fixture.setup with
  | (session, .panicked payload) => (session, .panicked payload)
  | (session, .returned (.error cause)) =>
      (session.record (.setupFailed cause), .failed (.setup cause))
  | (session, .returned (.ok ())) =>
      match session.call .steps fun state => (state, fixture.steps) with
      | (session, .panicked payload) => (session, .panicked payload)
      | (session, .returned registry) =>
          match session.processTable registry config table with
          | (session, .error error) => (session.record (.malformed error), .failed error)
          | (session, .ok results) =>
              (session.record (.finished (Report.ofRows results)), .finished results)

end Session

def Ending.afterTeardown (ending : Ending) : Completion Unit → Ending
  | .returned () => ending
  | .panicked payload =>
      match ending with
      | .panicked _ | .aborted => .aborted
      | .finished _ | .failed _ => .panicked payload

structure Run (State : Type u) where
  session : Session State
  ending : Ending

namespace Fixture

def run {State : Type u} (fixture : Fixture State) (config : Config) (table : Table)
    (state : State) : Run State :=
  let opened := (Session.start state).record (.table table.size)
  let conducted := opened.conduct fixture config table
  let closed := (conducted.1.record .tearingDown).call .teardown fixture.teardown
  ⟨closed.1, conducted.2.afterTeardown closed.2⟩

/-- Run tables one after another on the same fixture: each run starts from the state that
the one before it left. -/
def runEach {State : Type u} (fixture : Fixture State) (config : Config) :
    List Table → State → List (Run State)
  | [], _ => []
  | table :: tables, state =>
      let run := fixture.run config table state
      run :: fixture.runEach config tables run.session.state

end Fixture

end Acceptance
