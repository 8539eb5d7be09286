import Acceptance.Proofs.Run.Sequence

namespace Acceptance

/-! The life cycle of a fixture. Every run sets the fixture up once, before all else, and
tears it down once, after all else, whatever goes wrong in between. How a run comes back
is decided by the setup, by the offer of the steps and by the teardown, but never by a
step. -/

variable {State : Type u}

namespace Completion

def Panics {α : Type v} (completion : Completion α) : Prop :=
  ∃ payload, completion = .panicked payload

@[simp] theorem panics_panicked {α : Type v} (payload : PanicPayload) :
    (panicked payload : Completion α).Panics :=
  ⟨payload, rfl⟩

@[simp] theorem not_panics_returned {α : Type v} (value : α) :
    ¬ (returned value).Panics := by
  rintro ⟨payload, equal⟩
  cases equal

theorem eq_returned_of_not_panics {completion : Completion Unit}
    (quiet : ¬ completion.Panics) : completion = .returned () := by
  cases completion with
  | returned done => rfl
  | panicked payload => exact absurd (panics_panicked payload) quiet

end Completion

namespace Fixture

variable (fixture : Fixture State)

/-! ### The calls account for the state -/

/-- What a call does to the state of a fixture. -/
def perform : FixtureCall → State → State
  | .setup, state => (fixture.setup state).1
  | .steps, state => state
  | .step identifier signature arguments, state =>
      match fixture.steps with
      | .panicked _ => state
      | .returned registry =>
          match registry.find? identifier signature with
          | none => state
          | some step => (step arguments state).1
  | .teardown, state => (fixture.teardown state).1

def replay (calls : List FixtureCall) (state : State) : State :=
  calls.foldl (fun reached call => fixture.perform call reached) state

@[simp] theorem replay_nil (state : State) : fixture.replay [] state = state := rfl

@[simp] theorem replay_cons (call : FixtureCall) (calls : List FixtureCall) (state : State) :
    fixture.replay (call :: calls) state = fixture.replay calls (fixture.perform call state) :=
  rfl

@[simp] theorem replay_append (earlier later : List FixtureCall) (state : State) :
    fixture.replay (earlier ++ later) state =
      fixture.replay later (fixture.replay earlier state) :=
  List.foldl_append

variable {fixture} {registry : Registry State}

theorem replay_callsOf (offers : fixture.steps = .returned registry) (sentence : String)
    (state : State) :
    fixture.replay (registry.callsOf sentence) state =
      (dispatch registry sentence state).1 := by
  rw [Registry.callsOf]
  cases resolved : registry.resolve sentence with
  | error error =>
      rw [← Session.state_start state, ← Session.state_dispatch,
        Session.dispatch_of_error _ resolved]
      rfl
  | ok resolution =>
      rw [dispatch_of_ok resolved, replay_cons, replay_nil, perform, offers]
      dsimp only
      rw [Registry.find?_of_resolve resolved]

theorem replay_flatMap_callsOf (offers : fixture.steps = .returned registry)
    (sentences : List String) (state : State) :
    fixture.replay (sentences.flatMap registry.callsOf) state =
      (dispatchEach registry sentences state).1 := by
  induction sentences generalizing state with
  | nil => rfl
  | cons sentence sentences induction =>
      rw [List.flatMap_cons, replay_append, replay_callsOf offers, induction]
      rfl

/-! ### The courses of a run -/

/-- The courses that a run can take up to its teardown. -/
inductive Course (fixture : Fixture State) (start : State)
    (conducted : Session State × Ending) : Prop where
  | setupPanicked (payload : PanicPayload)
      (setup : (fixture.setup start).2 = .panicked payload)
      (left : conducted.1.state = (fixture.setup start).1)
      (calls : conducted.1.calls = [.setup])
      (ending : conducted.2 = .panicked payload)
  | setupFailed (cause : String)
      (setup : (fixture.setup start).2 = .returned (.error cause))
      (left : conducted.1.state = (fixture.setup start).1)
      (calls : conducted.1.calls = [.setup])
      (ending : conducted.2 = .failed (.setup cause))
  | stepsPanicked (payload : PanicPayload)
      (setup : (fixture.setup start).2 = .returned (.ok ()))
      (steps : fixture.steps = .panicked payload)
      (left : conducted.1.state = (fixture.setup start).1)
      (calls : conducted.1.calls = [.setup, .steps])
      (ending : conducted.2 = .panicked payload)
  | processed (registry : Registry State) (sentences : List String)
      (setup : (fixture.setup start).2 = .returned (.ok ()))
      (steps : fixture.steps = .returned registry)
      (left : conducted.1.state =
        (dispatchEach registry sentences (fixture.setup start).1).1)
      (calls : conducted.1.calls =
        .setup :: .steps :: sentences.flatMap registry.callsOf)
      (result : Except TableError (List ResultRow))
      (notSetup : ∀ cause, result ≠ .error (.setup cause))
      (ending : conducted.2 = .ofResult result)

theorem course (fixture : Fixture State) (config : Config) (table : Table) (start : State) :
    fixture.Course start (fixture.conducted config table start) := by
  refine conducted_cases fixture config table start
    ?setupPanicked ?setupFailed ?stepsPanicked ?processed
  case setupPanicked => exact fun payload setup => .setupPanicked payload setup rfl rfl rfl
  case setupFailed => exact fun cause setup => .setupFailed cause setup rfl rfl rfl
  case stepsPanicked =>
    exact fun payload setup steps => .stepsPanicked payload setup steps rfl rfl rfl
  case processed =>
    intro registry setup steps processed
    let ready := fixture.ready table start
    have left := ready.state_processTable registry config table
    have calls := ready.calls_processTable registry config table
    exact .processed registry _ setup steps left ((Session.calls_record ..).trans calls) _
      (Session.result_processTable_ne_setup registry config table ready) rfl

variable (fixture : Fixture State) (config : Config) (table : Table) (start : State)

theorem calls_conducted :
    ∃ middle, (fixture.conducted config table start).1.calls = .setup :: middle ∧
      (∀ call ∈ middle, call ≠ .setup ∧ call ≠ .teardown) ∧
      ((fixture.setup start).2 ≠ .returned (.ok ()) → middle = []) ∧
      (fixture.steps.Panics → ∀ call ∈ middle, call = .steps) := by
  cases fixture.course config table start with
  | setupPanicked _ _ _ calls => exact ⟨[], calls, by simp⟩
  | setupFailed _ _ _ calls => exact ⟨[], calls, by simp⟩
  | stepsPanicked _ setup _ _ calls => exact ⟨[.steps], calls, by simp [setup]⟩
  | processed registry sentences setup steps _ calls =>
      refine ⟨_, calls, ?_, fun unprepared => absurd setup unprepared, ?_⟩
      · intro call member
        rcases List.mem_cons.mp member with rfl | member
        · simp
        · rcases List.mem_flatMap.mp member with ⟨sentence, -, made⟩
          rcases Registry.step_of_mem_callsOf made with ⟨identifier, signature, arguments, rfl⟩
          simp
      · intro panics
        simp [steps] at panics

theorem state_conducted :
    (fixture.conducted config table start).1.state =
      fixture.replay (fixture.conducted config table start).1.calls start := by
  cases fixture.course config table start with
  | setupPanicked _ _ left calls => rw [left, calls]; rfl
  | setupFailed _ _ left calls => rw [left, calls]; rfl
  | stepsPanicked _ _ _ left calls => rw [left, calls]; rfl
  | processed registry sentences _ steps left calls =>
      rw [left, calls, replay_cons, replay_cons, replay_flatMap_callsOf steps]
      rfl

theorem conducted_failed_iff (cause : String) :
    (fixture.conducted config table start).2 = .failed (.setup cause) ↔
      (fixture.setup start).2 = .returned (.error cause) := by
  cases fixture.course config table start with
  | setupPanicked _ setup _ _ ending => simp [setup, ending]
  | setupFailed _ setup _ _ ending => simp [setup, ending]
  | stepsPanicked _ setup _ _ _ ending => simp [setup, ending]
  | processed _ _ setup _ _ _ result notSetup ending =>
      rw [setup, ending]
      cases result with
      | error error =>
          have different : error ≠ .setup cause := fun same => notSetup cause (same ▸ rfl)
          simp [Ending.ofResult, different]
      | ok results => simp [Ending.ofResult]

theorem conducted_panicked_iff :
    (∃ payload, (fixture.conducted config table start).2 = .panicked payload) ↔
      (fixture.setup start).2.Panics ∨
        ((fixture.setup start).2 = .returned (.ok ()) ∧ fixture.steps.Panics) := by
  cases fixture.course config table start with
  | setupPanicked _ setup _ _ ending => simp [setup, ending]
  | setupFailed _ setup _ _ ending => simp [setup, ending]
  | stepsPanicked _ setup steps _ _ ending => simp [setup, steps, ending]
  | processed _ _ setup steps _ _ result _ ending =>
      rw [setup, steps, ending]
      cases result <;> simp [Ending.ofResult]

theorem conducted_ne_aborted : (fixture.conducted config table start).2 ≠ .aborted := by
  cases fixture.course config table start with
  | setupPanicked _ _ _ _ ending => simp [ending]
  | setupFailed _ _ _ _ ending => simp [ending]
  | stepsPanicked _ _ _ _ _ ending => simp [ending]
  | processed _ _ _ _ _ _ result _ ending => cases result <;> simp [ending, Ending.ofResult]

end Fixture

/-! ### The teardown -/

namespace Ending

theorem afterTeardown_eq_failed_iff (ending : Ending) (error : TableError)
    (back : Completion Unit) :
    ending.afterTeardown back = .failed error ↔ ending = .failed error ∧ ¬ back.Panics := by
  cases back with
  | returned done => simp [afterTeardown]
  | panicked payload => cases ending <;> simp [afterTeardown]

theorem afterTeardown_eq_finished_iff (ending : Ending) (rows : List ResultRow)
    (back : Completion Unit) :
    ending.afterTeardown back = .finished rows ↔ ending = .finished rows ∧ ¬ back.Panics := by
  cases back with
  | returned done => simp [afterTeardown]
  | panicked payload => cases ending <;> simp [afterTeardown]

theorem afterTeardown_eq_aborted_iff {ending : Ending} (before : ending ≠ .aborted)
    (back : Completion Unit) :
    ending.afterTeardown back = .aborted ↔
      (∃ payload, ending = .panicked payload) ∧ back.Panics := by
  cases back with
  | returned done => simp [afterTeardown, before]
  | panicked payload => cases ending <;> simp [afterTeardown] at before ⊢

theorem afterTeardown_panicked_iff (ending : Ending) (back : Completion Unit) :
    (∃ payload, ending.afterTeardown back = .panicked payload) ↔
      ((∃ payload, ending = .panicked payload) ∨ back.Panics) ∧
        ending.afterTeardown back ≠ .aborted := by
  cases back with
  | returned done => cases ending <;> simp [afterTeardown]
  | panicked payload => cases ending <;> simp [afterTeardown]

end Ending

/-! ### Orderly runs -/

namespace Fixture

/-- A run in order, from the state that it started in and with the calls that it made
between the setup and the teardown. -/
structure Orderly (fixture : Fixture State) (start : State) (middle : List FixtureCall)
    (run : Run State) : Prop where
  calls : run.session.calls = .setup :: middle ++ [.teardown]
  setup_once : .setup ∉ middle
  teardown_once : .teardown ∉ middle
  /-- The calls are all that the state went through. -/
  accounted : run.session.state = fixture.replay run.session.calls start
  /-- A fixture that is not set up is not called again before the teardown. -/
  unprepared : (fixture.setup start).2 ≠ .returned (.ok ()) → middle = []
  /-- No step is called if the steps could not be had. -/
  stepless : fixture.steps.Panics → ∀ call ∈ middle, call = .steps
  failed_iff : ∀ cause, run.ending = .failed (.setup cause) ↔
    (fixture.setup start).2 = .returned (.error cause) ∧
      ¬ (fixture.teardown (fixture.replay (.setup :: middle) start)).2.Panics
  panicked_iff : (∃ payload, run.ending = .panicked payload) ↔
    ((fixture.setup start).2.Panics ∨
      ((fixture.setup start).2 = .returned (.ok ()) ∧ fixture.steps.Panics) ∨
      (fixture.teardown (fixture.replay (.setup :: middle) start)).2.Panics) ∧
    run.ending ≠ .aborted
  /-- There is no way back only from a teardown that panics on top of a panic. -/
  aborted_iff : run.ending = .aborted ↔
    ((fixture.setup start).2.Panics ∨
      ((fixture.setup start).2 = .returned (.ok ()) ∧ fixture.steps.Panics)) ∧
    (fixture.teardown (fixture.replay (.setup :: middle) start)).2.Panics

theorem run_orderly (fixture : Fixture State) (config : Config) (table : Table)
    (start : State) :
    ∃ middle, fixture.Orderly start middle (fixture.run config table start) := by
  rcases fixture.calls_conducted config table start with
    ⟨middle, made, between, unprepared, stepless⟩
  have calls := fixture.calls_run config table start
  have left := fixture.state_conducted config table start
  have ending := fixture.ending_run config table start
  have before := fixture.conducted_ne_aborted config table start
  rw [made] at calls left
  rw [left] at ending
  refine ⟨middle, ?_⟩
  constructor
  case calls => exact calls
  case setup_once => exact fun member => (between _ member).1 rfl
  case teardown_once => exact fun member => (between _ member).2 rfl
  case accounted =>
    rw [calls, replay_append, ← left]
    rfl
  case unprepared => exact unprepared
  case stepless => exact stepless
  case failed_iff =>
    intro cause
    rw [ending, Ending.afterTeardown_eq_failed_iff, conducted_failed_iff]
  case panicked_iff =>
    rw [ending, Ending.afterTeardown_panicked_iff, conducted_panicked_iff, or_assoc]
  case aborted_iff =>
    rw [ending, Ending.afterTeardown_eq_aborted_iff before, conducted_panicked_iff]

/-! ### Runs one after another -/

/-- The state that runs of the tables, one after another, leave. -/
def after (fixture : Fixture State) (config : Config) (tables : List Table) (state : State) :
    State :=
  tables.foldl (fun reached table => (fixture.run config table reached).session.state) state

theorem length_runEach (fixture : Fixture State) (config : Config) (tables : List Table)
    (state : State) : (fixture.runEach config tables state).length = tables.length := by
  induction tables generalizing state with
  | nil => rfl
  | cons table tables induction => exact congrArg Nat.succ (induction _)

theorem getElem?_runEach (fixture : Fixture State) (config : Config) (tables : List Table)
    (state : State) (index : Nat) :
    (fixture.runEach config tables state)[index]? =
      tables[index]?.map fun table =>
        fixture.run config table (fixture.after config (tables.take index) state) := by
  induction tables generalizing state index with
  | nil => rfl
  | cons table tables induction =>
      cases index with
      | zero => rfl
      | succ index => exact induction _ index

def opensOrCloses (call : FixtureCall) : Bool :=
  call = .setup ∨ call = .teardown

theorem Orderly.filter_calls {fixture : Fixture State} {start : State}
    {middle : List FixtureCall} {run : Run State}
    (orderly : fixture.Orderly start middle run) :
    run.session.calls.filter opensOrCloses = [.setup, .teardown] := by
  have between : middle.filter opensOrCloses = [] := by
    rw [List.filter_eq_nil_iff]
    intro call member flagged
    rcases of_decide_eq_true flagged with rfl | rfl
    · exact orderly.setup_once member
    · exact orderly.teardown_once member
  rw [orderly.calls, List.filter_append, List.filter_cons_of_pos rfl, between]
  rfl

theorem filter_calls_runEach (fixture : Fixture State) (config : Config)
    (tables : List Table) (state : State) :
    ((fixture.runEach config tables state).flatMap fun run => run.session.calls).filter
        opensOrCloses =
      (List.replicate tables.length [.setup, .teardown]).flatten := by
  induction tables generalizing state with
  | nil => rfl
  | cons table tables induction =>
      rcases fixture.run_orderly config table state with ⟨middle, orderly⟩
      rw [runEach, List.flatMap_cons, List.filter_append, orderly.filter_calls, induction]
      rfl

/-- Each of several runs is in order, from the state that the runs before it left, and the
setups and the teardowns of all of them alternate. -/
theorem life_cycle (fixture : Fixture State) (config : Config) (tables : List Table)
    (state : State) :
    let runs := fixture.runEach config tables state
    runs.length = tables.length ∧
    (∀ index : Fin tables.length,
      let start := fixture.after config (tables.take index) state
      let run := fixture.run config tables[index] start
      runs[index.val]? = some run ∧ ∃ middle, fixture.Orderly start middle run) ∧
    ((runs.flatMap fun run => run.session.calls).filter fun call =>
        call = .setup ∨ call = .teardown) =
      (List.replicate tables.length [.setup, .teardown]).flatten := by
  intro runs
  refine ⟨fixture.length_runEach config tables state, ?_,
    fixture.filter_calls_runEach config tables state⟩
  intro index start run
  refine ⟨?_, fixture.run_orderly config tables[index] start⟩
  rw [getElem?_runEach, List.getElem?_eq_getElem index.isLt]
  rfl

end Fixture

end Acceptance
