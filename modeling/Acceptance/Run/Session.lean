import Acceptance.Argument
import Acceptance.Run.Trace

namespace Acceptance

/-! A session is a fixture's state together with a journal of all that was done since the
session was opened. Every call on the fixture goes through `Session.call`, so the journal
misses none. -/

/-- The calls that are made on a fixture. -/
inductive FixtureCall where
  | setup
  | steps
  | step (identifier : String) (signature : Signature) (arguments : List Argument)
  | teardown
deriving DecidableEq

inductive JournalEntry where
  | call (call : FixtureCall)
  | record (record : TraceRecord)
deriving DecidableEq

structure Session (State : Type u) where
  state : State
  journal : List JournalEntry

namespace Session

variable {State : Type u}

def start (state : State) : Session State :=
  ⟨state, []⟩

def record (session : Session State) (entry : TraceRecord) : Session State :=
  { session with journal := session.journal ++ [.record entry] }

def call {α : Type v} (session : Session State) (made : FixtureCall)
    (action : State → State × α) : Session State × α :=
  let back := action session.state
  (⟨back.1, session.journal ++ [.call made]⟩, back.2)

def calls (session : Session State) : List FixtureCall :=
  session.journal.filterMap fun
    | .call call => some call
    | .record _ => none

def trace (session : Session State) : List TraceRecord :=
  session.journal.filterMap fun
    | .call _ => none
    | .record record => some record

@[simp] theorem state_start (state : State) : (start state).state = state := rfl

@[simp] theorem calls_start (state : State) : (start state).calls = [] := rfl

@[simp] theorem trace_start (state : State) : (start state).trace = [] := rfl

@[simp] theorem state_record (session : Session State) (entry : TraceRecord) :
    (session.record entry).state = session.state := rfl

@[simp] theorem calls_record (session : Session State) (entry : TraceRecord) :
    (session.record entry).calls = session.calls := by
  simp [calls, record]

@[simp] theorem trace_record (session : Session State) (entry : TraceRecord) :
    (session.record entry).trace = session.trace ++ [entry] := by
  simp [trace, record]

@[simp] theorem state_call {α : Type v} (session : Session State) (made : FixtureCall)
    (action : State → State × α) :
    (session.call made action).1.state = (action session.state).1 := rfl

@[simp] theorem value_call {α : Type v} (session : Session State) (made : FixtureCall)
    (action : State → State × α) :
    (session.call made action).2 = (action session.state).2 := rfl

@[simp] theorem calls_call {α : Type v} (session : Session State) (made : FixtureCall)
    (action : State → State × α) :
    (session.call made action).1.calls = session.calls ++ [made] := by
  simp [calls, call]

@[simp] theorem trace_call {α : Type v} (session : Session State) (made : FixtureCall)
    (action : State → State × α) :
    (session.call made action).1.trace = session.trace := by
  simp [trace, call]

end Session

end Acceptance
