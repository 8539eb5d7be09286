import Acceptance.Run.Fixture

namespace Acceptance

/-! A table can also be run without an outline: phase by phase, where each row is looked at
when it is reached. A row that has no sentence ends the walk on the spot, and so does a
phase that finds no row left. Such a walk does what the run of the outline does, row for
row and entry for entry of the journal. -/

namespace Session

variable {State : Type u} {α β γ : Type}

/-- Go on from a session that has not ended in an error. -/
def proceed (reached : Session State × Except TableError α)
    (next : α → Session State → Session State × Except TableError β) :
    Session State × Except TableError β :=
  match reached with
  | (session, .error error) => (session, .error error)
  | (session, .ok value) => next value session

theorem proceed_assoc (reached : Session State × Except TableError α)
    (next : α → Session State → Session State × Except TableError β)
    (last : β → Session State → Session State × Except TableError γ) :
    proceed (proceed reached next) last =
      proceed reached fun value session => proceed (next value session) last := by
  rcases reached with ⟨session, result⟩
  cases result <;> rfl

theorem proceed_congr {reached : Session State × Except TableError α}
    {left right : α → Session State → Session State × Except TableError β}
    (same : ∀ value session, reached = (session, .ok value) →
      left value session = right value session) :
    proceed reached left = proceed reached right := by
  rcases reached with ⟨session, result⟩
  cases result with
  | error error => rfl
  | ok value => exact same value session rfl

theorem exists_of_proceed_eq_ok {reached : Session State × Except TableError α}
    {next : α → Session State → Session State × Except TableError β} {left : Session State}
    {last : β} (back : proceed reached next = (left, .ok last)) :
    ∃ session value, reached = (session, .ok value) ∧ next value session = (left, .ok last) := by
  rcases reached with ⟨session, result⟩
  cases result with
  | error error => cases back
  | ok value => exact ⟨session, value, rfl, back⟩

/-! ### Walking -/

variable (registry : Registry State) (config : Config)

def visit (index : Nat) (phase : Phase) (row : Row) (session : Session State) :
    Session State × Except TableError ResultRow :=
  match row.sentence with
  | none => (session, .error (.missingCell index 1))
  | some sentence =>
      let processed := session.processRow registry config index phase sentence
      (processed.1, .ok processed.2)

/-- Visit rows as long as they are marked as continuing. What comes back are the results
and the rows that are left. -/
def walkContinued (phase : Phase) :
    Nat → List Row → Session State →
      Session State × Except TableError (List ResultRow × List Row)
  | _, [], session => (session, .ok ([], []))
  | index, row :: rows, session =>
      if row.continues config.andKeyword then
        proceed (session.visit registry config index phase row) fun result session =>
          proceed (walkContinued phase (index + 1) rows session) fun later session =>
            (session, .ok (result :: later.1, later.2))
      else
        (session, .ok ([], row :: rows))

/-- Walk through the phases that are still to come, in a table of the given size. -/
def walkPhases (size : Nat) :
    List Phase → Nat → List Row → Session State →
      Session State × Except TableError (List ResultRow × List Row)
  | [], _, rows, session => (session, .ok ([], rows))
  | phase :: _, _, [], session => (session, .error (.missingStep phase size))
  | phase :: phases, index, row :: rows, session =>
      proceed (session.visit registry config index phase row) fun first session =>
        proceed
          (if phase.isContinued then
            session.walkContinued registry config phase (index + 1) rows
          else
            (session, .ok ([], rows))) fun continued session =>
          proceed
            (walkPhases size phases (index + 1 + continued.1.length) continued.2 session)
            fun later session => (session, .ok (first :: continued.1 ++ later.1, later.2))

def walk (table : Table) (session : Session State) :
    Session State × Except TableError (List ResultRow) :=
  proceed (session.walkPhases registry config table.size Phase.inOrder 0 table.rows)
    fun walked session =>
      match walked.2 with
      | [] => (session, .ok walked.1)
      | _ :: _ => (session.record (.ignoring walked.1.length), .ok walked.1)

/-! ### Walking and processing an outline -/

variable {registry config}

theorem processRows_cons (index : Nat) (phase : Phase) (row : Row)
    (planned : List (Phase × Row)) (session : Session State) :
    session.processRows registry config index ((phase, row) :: planned) =
      proceed (session.visit registry config index phase row) fun result session =>
        proceed (session.processRows registry config (index + 1) planned)
          fun results session => (session, .ok (result :: results)) := by
  rw [processRows, visit]
  cases row.sentence with
  | none => rfl
  | some sentence =>
      simp only [proceed]
      generalize session.processRow registry config index phase sentence = processed
      generalize processed.1.processRows registry config (index + 1) planned = later
      rcases later with ⟨session, results⟩
      cases results <;> rfl

theorem length_of_processRows {index : Nat} {planned : List (Phase × Row)}
    {session left : Session State} {results : List ResultRow}
    (processed : session.processRows registry config index planned = (left, .ok results)) :
    results.length = planned.length := by
  induction planned generalizing index session left results with
  | nil =>
      cases processed
      rfl
  | cons first planned induction =>
      rcases first with ⟨phase, row⟩
      rw [processRows_cons] at processed
      rcases exists_of_proceed_eq_ok processed with ⟨visited, result, -, rest⟩
      rcases exists_of_proceed_eq_ok rest with ⟨reached, later, back, equal⟩
      cases equal
      exact congrArg Nat.succ (induction back)

theorem processRows_append (index : Nat) (earlier later : List (Phase × Row))
    (session : Session State) :
    session.processRows registry config index (earlier ++ later) =
      proceed (session.processRows registry config index earlier) fun first session =>
        proceed (session.processRows registry config (index + earlier.length) later)
          fun second session => (session, .ok (first ++ second)) := by
  induction earlier generalizing index session with
  | nil =>
      change session.processRows registry config index later =
        proceed (session.processRows registry config index later) _
      generalize session.processRows registry config index later = processed
      rcases processed with ⟨session, results⟩
      cases results <;> rfl
  | cons first earlier induction =>
      rcases first with ⟨phase, row⟩
      rw [List.cons_append, processRows_cons, processRows_cons, proceed_assoc]
      apply proceed_congr
      intro result session _
      rw [induction, proceed_assoc, proceed_assoc]
      apply proceed_congr
      intro results session _
      rw [List.length_cons, Nat.add_right_comm, Nat.add_assoc, proceed_assoc]
      rfl

theorem walkContinued_eq (phase : Phase) (index : Nat) (rows : List Row)
    (session : Session State) :
    let marked : Row → Bool := fun row => row.continues config.andKeyword
    session.walkContinued registry config phase index rows =
      proceed (session.processRows registry config index
        ((rows.takeWhile marked).map (phase, ·))) fun results session =>
          (session, .ok (results, rows.drop (rows.takeWhile marked).length)) := by
  intro marked
  induction rows generalizing index session with
  | nil => rfl
  | cons row rows induction =>
      rw [walkContinued]
      by_cases continued : marked row = true
      · rw [if_pos continued, List.takeWhile_cons_of_pos continued, List.map_cons,
          processRows_cons, proceed_assoc]
        apply proceed_congr
        intro result session _
        rw [induction, proceed_assoc, proceed_assoc]
        rfl
      · rw [if_neg continued, List.takeWhile_cons_of_neg continued]
        rfl

theorem walkPhases_eq (size : Nat) (phases : List Phase) (index : Nat) (rows : List Row)
    (session : Session State) :
    session.walkPhases registry config size phases index rows =
      let outline := Outline.ofPhases config.andKeyword phases rows
      proceed (session.processRows registry config index outline.planned)
        fun results session =>
          match outline.missing with
          | some phase => (session, .error (.missingStep phase size))
          | none => (session, .ok (results, outline.ignored)) := by
  induction phases generalizing index rows session with
  | nil => rfl
  | cons phase phases induction =>
      cases rows with
      | nil => rfl
      | cons row rows =>
          let continued := Outline.continuing config.andKeyword phase rows
          have further (session : Session State) :
              (if phase.isContinued then
                session.walkContinued registry config phase (index + 1) rows
              else
                (session, .ok ([], rows))) =
              proceed (session.processRows registry config (index + 1)
                (continued.map (phase, ·))) fun results session =>
                  (session, .ok (results, rows.drop continued.length)) := by
            simp only [continued, Outline.continuing]
            split
            · exact walkContinued_eq phase (index + 1) rows session
            · rfl
          rw [walkPhases, Outline.ofPhases]
          simp only [further]
          rw [List.map_cons, List.cons_append, processRows_cons, proceed_assoc]
          apply proceed_congr
          intro first session _
          rw [processRows_append, proceed_assoc, proceed_assoc, proceed_assoc]
          apply proceed_congr
          intro results session processed
          have length := length_of_processRows processed
          rw [List.length_map] at length
          rw [List.length_map, proceed_assoc]
          change proceed (walkPhases _ _ _ _ (index + 1 + results.length) _ session) _ = _
          rw [length, induction, proceed_assoc]
          apply proceed_congr
          intro others session _
          cases (Outline.ofPhases config.andKeyword phases (rows.drop continued.length)).missing with
          | none => rfl
          | some phase => rfl

/-- Looking at each row when it is reached makes no difference to what is called, in what
order, and to what comes back. -/
theorem walk_eq_processTable (table : Table) (session : Session State) :
    session.walk registry config table = session.processTable registry config table := by
  rw [walk, walkPhases_eq, proceed_assoc, processTable, Outline.ofTable]
  generalize Outline.ofPhases config.andKeyword Phase.inOrder table.rows = outline
  rcases processed : session.processRows registry config 0 outline.planned with ⟨left, result⟩
  cases result with
  | error error => rfl
  | ok results =>
      have length := length_of_processRows processed
      simp only [proceed]
      cases outline.missing with
      | some phase => rfl
      | none =>
          cases outline.ignored with
          | nil => rfl
          | cons row rows =>
              simp only [length]
              rfl

end Session

end Acceptance
