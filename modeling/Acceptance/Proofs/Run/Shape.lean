import Acceptance.Proofs.Run.Sequence

namespace Acceptance

variable {State : Type u}

/-! What the markers of a table and the number of cells in its rows say about a run,
whatever the steps do. A table breaks at a row that does not continue the row before it.
The first break after the first row is the event. The row after the event is expected
whatever its marker says, and the run ends at the first break behind it. -/

namespace Table

variable (table : Table) (keyword : String)

def breaksAt (index : Nat) : Bool :=
  (table.row? index).any fun row => !row.continues keyword

/-- The least index from `start` on at which the table breaks, and its size if it does
not. -/
def nextBreak (start : Nat) : Nat :=
  ((List.range table.size).find? fun index =>
    start ≤ index && table.breaksAt keyword index).getD table.size

def CompleteBelow (bound : Nat) : Prop :=
  ∀ row ∈ table.rows.take bound, 2 ≤ row.cells.length

instance (bound : Nat) : Decidable (table.CompleteBelow bound) :=
  inferInstanceAs (Decidable (∀ row ∈ table.rows.take bound, 2 ≤ row.cells.length))

variable {table keyword}

theorem nextBreak_eq {start index : Nat} (bounded : index ≤ table.size)
    (earlier : ∀ before, start ≤ before → before < index →
      table.breaksAt keyword before = false)
    (breaks : index < table.size → start ≤ index ∧ table.breaksAt keyword index = true) :
    table.nextBreak keyword start = index := by
  have passed (before : Nat) (below : before < index) :
      (start ≤ before && table.breaksAt keyword before) = false := by
    by_cases after : start ≤ before
    · simp [earlier before after below]
    · simp [after]
  rw [nextBreak]
  rcases Nat.lt_or_eq_of_le bounded with inside | whole
  · have found : (List.range table.size).find? (fun index =>
        start ≤ index && table.breaksAt keyword index) = some index := by
      apply List.find?_range_eq_some.mpr
      refine ⟨?_, List.mem_range.mpr inside, ?_⟩
      · simp [breaks inside]
      · intro before below
        simp [passed before below]
    rw [found]
    rfl
  · have missed : (List.range table.size).find? (fun index =>
        start ≤ index && table.breaksAt keyword index) = none := by
      apply List.find?_range_eq_none.mpr
      intro before below
      simp [passed before (whole ▸ below)]
    rw [missed]
    exact whole.symm

theorem nextBreak_of_size_le {start : Nat} (past : table.size ≤ start) :
    table.nextBreak keyword start = table.size := by
  apply nextBreak_eq (Nat.le_refl _)
  · intro before after below
    omega
  · intro inside
    omega

/-- The rows from `start` to the next break are those that are marked as continuing. -/
theorem nextBreak_eq_add_length {start : Nat} (within : start ≤ table.size) :
    table.nextBreak keyword start =
      start + ((table.rows.drop start).takeWhile fun row => row.continues keyword).length := by
  let unmarked : Row → Bool := fun row => !row.continues keyword
  have taken : ((table.rows.drop start).takeWhile fun row => row.continues keyword).length =
      (table.rows.drop start).findIdx unmarked := by
    rw [List.takeWhile_eq_take_findIdx_not, List.length_take]
    exact Nat.min_eq_left List.findIdx_le_length
  have short : (table.rows.drop start).findIdx unmarked ≤ table.size - start := by
    rw [size, ← List.length_drop]
    exact List.findIdx_le_length
  rw [taken]
  apply nextBreak_eq
  · omega
  · intro before after below
    have inside : before < table.rows.length := by
      rw [size] at within short
      omega
    have marked := List.not_of_lt_findIdx
      (show before - start < (table.rows.drop start).findIdx unmarked by omega)
    simp only [List.getElem_drop, Nat.add_sub_cancel' after] at marked
    rw [breaksAt, row?, List.getElem?_eq_getElem inside]
    exact marked
  · intro inside
    refine ⟨Nat.le_add_right _ _, ?_⟩
    rw [breaksAt, row?, ← List.getElem?_drop]
    cases present : (table.rows.drop start)[(table.rows.drop start).findIdx unmarked]? with
    | none =>
        rw [List.getElem?_eq_none_iff, List.length_drop] at present
        rw [size] at inside
        omega
    | some row => exact List.findIdx_of_getElem?_eq_some (p := unmarked) present

variable (table keyword) in
theorem nextBreak_le (start : Nat) : table.nextBreak keyword start ≤ table.size := by
  rcases Nat.le_total start table.size with within | past
  · rw [nextBreak_eq_add_length within]
    have short := (List.takeWhile_prefix (l := table.rows.drop start)
      fun row => row.continues keyword).length_le
    rw [List.length_drop] at short
    rw [size] at within ⊢
    omega
  · exact Nat.le_of_eq (nextBreak_of_size_le past)

variable (keyword) in
theorem le_nextBreak {start : Nat} (within : start ≤ table.size) :
    start ≤ table.nextBreak keyword start := by
  rw [nextBreak_eq_add_length within]
  exact Nat.le_add_right _ _

end Table

namespace Row

theorem sentence_eq_none_iff {row : Row} : row.sentence = none ↔ row.cells.length < 2 := by
  rw [sentence, List.getElem?_eq_none_iff]
  exact Nat.lt_succ_iff.symm

theorem length_leadingSentences_eq_length_iff (rows : List Row) :
    (leadingSentences rows).length = rows.length ↔ ∀ row ∈ rows, 2 ≤ row.cells.length := by
  induction rows with
  | nil => simp [leadingSentences]
  | cons row rows induction =>
      rw [leadingSentences, List.forall_mem_cons, ← induction]
      cases found : row.sentence with
      | none =>
          have short := sentence_eq_none_iff.mp found
          simp only [List.length_nil, List.length_cons]
          omega
      | some sentence =>
          have long : ¬ row.cells.length < 2 := by
            rw [← sentence_eq_none_iff, found]
            exact Option.some_ne_none sentence
          simp only [List.length_cons, Nat.add_right_cancel_iff]
          omega

theorem length_leadingSentences_eq {rows : List Row} {row : Row} {index : Nat}
    (present : rows[index]? = some row) (short : row.cells.length < 2)
    (before : ∀ row ∈ rows.take index, 2 ≤ row.cells.length) :
    (leadingSentences rows).length = index := by
  induction rows generalizing index with
  | nil => cases present
  | cons first rows induction =>
      rw [leadingSentences]
      cases index with
      | zero =>
          cases present
          rw [sentence_eq_none_iff.mpr short]
          rfl
      | succ index =>
          have long := before first List.mem_cons_self
          cases found : first.sentence with
          | none =>
              have short := sentence_eq_none_iff.mp found
              omega
          | some sentence =>
              have later := induction present fun row member =>
                before row (List.mem_cons_of_mem first member)
              rw [List.length_cons, later]

end Row

namespace Outline

variable {table : Table} {keyword : String} {start : Nat}

def phaseEnd (table : Table) (keyword : String) (phase : Phase) (start : Nat) : Nat :=
  if phase.isContinued then table.nextBreak keyword (start + 1) else start + 1

variable (keyword) in
/-- Rows that are left over are planned from the phase that is next. -/
theorem ofPhases_of_lt (phase : Phase) (phases : List Phase) (inside : start < table.size) :
    let reached := phaseEnd table keyword phase start
    let outline := ofPhases keyword (phase :: phases) (table.rows.drop start)
    let later := ofPhases keyword phases (table.rows.drop reached)
    start < reached ∧ reached ≤ table.size ∧
      outline.missing = later.missing ∧
      outline.planned.map Prod.fst =
        List.replicate (reached - start) phase ++ later.planned.map Prod.fst := by
  intro reached outline later
  have left : table.rows.drop start = table.rows[start] :: table.rows.drop (start + 1) :=
    List.drop_eq_getElem_cons inside
  have width : reached =
      start + 1 + (continuing keyword phase (table.rows.drop (start + 1))).length := by
    simp only [reached, phaseEnd, continuing]
    split
    · exact Table.nextBreak_eq_add_length inside
    · rfl
  have bounded : reached ≤ table.size := by
    simp only [reached, phaseEnd]
    split
    · exact Table.nextBreak_le ..
    · exact inside
  have rest : (table.rows.drop (start + 1)).drop
      (continuing keyword phase (table.rows.drop (start + 1))).length =
      table.rows.drop reached := by
    rw [List.drop_drop, width]
  refine ⟨by omega, bounded, ?_, ?_⟩
  · simp only [outline, later, left, ofPhases, rest]
  · have count : reached - start =
        (continuing keyword phase (table.rows.drop (start + 1))).length + 1 := by omega
    simp only [outline, later, left, ofPhases, rest, count]
    simp [List.replicate_succ, Function.comp_def, List.map_const']

theorem ofPhases_of_le (phase : Phase) (phases : List Phase) (past : table.size ≤ start) :
    ofPhases keyword (phase :: phases) (table.rows.drop start) = ⟨[], some phase, []⟩ := by
  rw [List.drop_eq_nil_of_le past]
  rfl

variable (keyword table)

theorem missing_ofTable :
    let event := table.nextBreak keyword 1
    (ofTable keyword table).missing =
      if event + 1 < table.size then none
      else some
        (if table.size = 0 then .given
          else if event = table.size then .event
          else .expectation) := by
  intro event
  have givenEnd : phaseEnd table keyword .given 0 = event := rfl
  have eventEnd : phaseEnd table keyword .event event = event + 1 := rfl
  -- Each phase finds no row left, or leaves the question to the phases after it.
  change (ofPhases keyword [.given, .event, .expectation] (table.rows.drop 0)).missing = _
  rcases Nat.eq_zero_or_pos table.size with empty | given
  · rw [ofPhases_of_le _ _ (Nat.le_of_eq empty), if_neg (by omega), if_pos empty]
  rcases ofPhases_of_lt keyword .given [.event, .expectation] given with
    ⟨-, bounded, missing, -⟩
  rw [missing, givenEnd, if_neg (Nat.ne_of_gt given)]
  rw [givenEnd] at bounded
  rcases Nat.eq_or_lt_of_le bounded with never | happens
  · rw [ofPhases_of_le _ _ (Nat.le_of_eq never.symm), if_neg (by omega), if_pos never]
  rcases ofPhases_of_lt keyword .event [.expectation] happens with
    ⟨-, bounded, missing, -⟩
  rw [missing, eventEnd, if_neg (Nat.ne_of_lt happens)]
  rw [eventEnd] at bounded
  rcases Nat.eq_or_lt_of_le bounded with last | expected
  · rw [ofPhases_of_le _ _ (Nat.le_of_eq last.symm), if_neg (by omega)]
  · rw [(ofPhases_of_lt keyword .expectation [] expected).2.2.1, if_pos expected]
    rfl

variable {keyword table}

theorem missing_ofTable_eq_none_iff :
    (ofTable keyword table).missing = none ↔
      table.nextBreak keyword 1 + 1 < table.size := by
  rw [missing_ofTable]
  split <;> simp_all

/-- The rows before the event are given, and those after it are expected. -/
theorem phases_ofTable (room : table.nextBreak keyword 1 + 1 < table.size) :
    let event := table.nextBreak keyword 1
    (ofTable keyword table).planned.map Prod.fst =
      List.replicate event .given ++ .event ::
        List.replicate (table.nextBreak keyword (event + 2) - (event + 1)) .expectation := by
  intro event
  have givenEnd : phaseEnd table keyword .given 0 = event := rfl
  have eventEnd : phaseEnd table keyword .event event = event + 1 := rfl
  have expectationEnd : phaseEnd table keyword .expectation (event + 1) =
      table.nextBreak keyword (event + 2) := rfl
  have given := (ofPhases_of_lt keyword .given [.event, .expectation]
    (show 0 < table.size by omega)).2.2.2
  have happens := (ofPhases_of_lt keyword .event [.expectation]
    (show event < table.size by omega)).2.2.2
  have expected := (ofPhases_of_lt keyword .expectation []
    (show event + 1 < table.size from room)).2.2.2
  rw [givenEnd, Nat.sub_zero] at given
  rw [eventEnd, Nat.add_sub_cancel_left] at happens
  rw [expectationEnd] at expected
  change (ofPhases keyword [.given, .event, .expectation]
    (table.rows.drop 0)).planned.map Prod.fst = _
  rw [given, happens, expected]
  simp [ofPhases]

theorem length_planned_ofTable :
    (ofTable keyword table).planned.length =
      table.nextBreak keyword (table.nextBreak keyword 1 + 2) := by
  have bounded := table.nextBreak_le keyword 1
  by_cases room : table.nextBreak keyword 1 + 1 < table.size
  · have phases := congrArg List.length (phases_ofTable room)
    have reached := Table.le_nextBreak keyword
      (show table.nextBreak keyword 1 + 2 ≤ table.size by omega)
    simp only [List.length_map, List.length_append, List.length_cons,
      List.length_replicate] at phases
    omega
  · rw [Table.nextBreak_of_size_le (by omega)]
    cases missing : (ofTable keyword table).missing with
    | some phase => exact length_planned_of_missing missing
    | none => exact absurd (missing_ofTable_eq_none_iff.mp missing) room

theorem length_sentences_ofTable_eq_iff :
    (ofTable keyword table).sentences.length = (ofTable keyword table).planned.length ↔
      table.CompleteBelow (ofTable keyword table).planned.length := by
  have spoken := Row.length_leadingSentences_eq_length_iff
    ((ofTable keyword table).planned.map Prod.snd)
  rw [List.length_map] at spoken
  rw [sentences, spoken, rows_planned_ofTable, Table.CompleteBelow]

theorem length_sentences_ofTable_eq {index : Nat} {row : Row}
    (planned : index < (ofTable keyword table).planned.length)
    (present : table.row? index = some row) (short : row.cells.length < 2)
    (before : table.CompleteBelow index) :
    (ofTable keyword table).sentences.length = index := by
  rw [sentences, rows_planned_ofTable]
  apply Row.length_leadingSentences_eq
  · rw [List.getElem?_take_of_lt planned]
    exact present
  · exact short
  · rw [List.take_take, Nat.min_eq_left (Nat.le_of_lt planned)]
    exact before

end Outline

namespace Fixture

variable (fixture : Fixture State) (config : Config) (table : Table) {state prepared : State}
  {registry : Registry State}

theorem ending_of_ready {outline : Outline}
    (prepares : fixture.setup state = (prepared, .returned (.ok ())))
    (offers : fixture.steps = .returned registry)
    (closes : (fixture.teardown (fixture.conducted config table state).1.state).2 =
      .returned ())
    (outlined : Outline.ofTable config.andKeyword table = outline) :
    (fixture.run config table state).ending =
      if outline.sentences.length = outline.planned.length then
        match outline.missing with
        | some phase => .failed (.missingStep phase table.size)
        | none =>
            .finished ((outline.planned.map Prod.fst).zipWith (ResultRow.render config)
              (dispatchEach registry outline.sentences prepared).2)
      else
        .failed (.missingCell outline.sentences.length 1) := by
  rcases conducted_of_ready config table prepares offers with
    ⟨ready, atPrepared, -, -, -, ending⟩
  rw [ending_run, closes, Ending.afterTeardown, ending, Session.result_processTable,
    atPrepared, outlined]
  dsimp only
  split
  · cases outline.missing <;> rfl
  · rfl

theorem ending_eq_finished_iff {outline : Outline}
    (prepares : fixture.setup state = (prepared, .returned (.ok ())))
    (offers : fixture.steps = .returned registry)
    (closes : (fixture.teardown (fixture.conducted config table state).1.state).2 =
      .returned ())
    (outlined : Outline.ofTable config.andKeyword table = outline)
    (results : List ResultRow) :
    (fixture.run config table state).ending = .finished results ↔
      outline.sentences.length = outline.planned.length ∧ outline.missing = none ∧
      (outline.planned.map Prod.fst).zipWith (ResultRow.render config)
        (dispatchEach registry outline.sentences prepared).2 = results := by
  rw [fixture.ending_of_ready config table prepares offers closes outlined]
  by_cases spoken : outline.sentences.length = outline.planned.length
  · rw [if_pos spoken]
    cases outline.missing with
    | none => simp [spoken]
    | some phase => simp
  · simp [spoken]

/-- How a run comes back is decided by the markers and the number of cells in the rows of
its table. The row of the event is the first that breaks with the first row, and the rows
from the one after it up to the next break are expectations. -/
theorem run_shape
    (prepares : fixture.setup state = (prepared, .returned (.ok ())))
    (offers : fixture.steps = .returned registry)
    (closes : (fixture.teardown (fixture.conducted config table state).1.state).2 =
      .returned ()) :
    let event := table.nextBreak config.andKeyword 1
    let stop := table.nextBreak config.andKeyword (event + 2)
    let ending := (fixture.run config table state).ending
    ((∃ results, ending = .finished results) ↔
      event + 1 < table.size ∧ table.CompleteBelow stop) ∧
    (∀ results, ending = .finished results →
      results.length = stop ∧
      results.map ResultRow.phase =
        List.replicate event .given ++ .event ::
          List.replicate (stop - (event + 1)) .expectation ∧
      ∃ sentences : List String,
        (table.rows.take stop).map Row.sentence = sentences.map some ∧
        results.map ResultRow.verdict = (dispatchEach registry sentences prepared).2) ∧
    (∀ index row, index < min stop table.size → table.row? index = some row →
      row.cells.length < 2 → table.CompleteBelow index →
      ending = .failed (.missingCell index 1)) ∧
    (table.CompleteBelow (min stop table.size) → ¬ event + 1 < table.size →
      ending = .failed (.missingStep
        (if table.size = 0 then .given
          else if event = table.size then .event
          else .expectation) table.size)) := by
  intro event stop ending
  generalize outlined : Outline.ofTable config.andKeyword table = outline
  have bounded : stop ≤ table.size := Table.nextBreak_le ..
  have width : outline.planned.length = stop := by
    rw [← outlined]
    exact Outline.length_planned_ofTable
  have spoken : outline.sentences.length = outline.planned.length ↔
      table.CompleteBelow stop := by
    rw [← width, ← outlined]
    exact Outline.length_sentences_ofTable_eq_iff
  have room : outline.missing = none ↔ event + 1 < table.size := by
    rw [← outlined]
    exact Outline.missing_ofTable_eq_none_iff
  have back := fixture.ending_of_ready config table prepares offers closes outlined
  have finishes :=
    fixture.ending_eq_finished_iff config table prepares offers closes outlined
  refine ⟨?_, ?_, ?_, ?_⟩
  · rw [← spoken, ← room]
    constructor
    · rintro ⟨results, finished⟩
      rcases (finishes results).mp finished with ⟨complete, missing, -⟩
      exact ⟨missing, complete⟩
    · rintro ⟨missing, complete⟩
      exact ⟨_, (finishes _).mpr ⟨complete, missing, rfl⟩⟩
  · intro results finished
    rcases (finishes results).mp finished with ⟨complete, missing, rfl⟩
    have same := Outline.length_phases_of_spoken complete registry prepared
    have taken := Outline.map_some_sentences_ofTable config.andKeyword table
    rw [outlined, complete, width] at taken
    refine ⟨?_, ?_, outline.sentences, taken, ?_⟩
    · rw [List.length_zipWith, ← same, Nat.min_self, List.length_map, width]
    · rw [ResultRow.map_phase_zipWith_render config same, ← outlined]
      exact Outline.phases_ofTable (room.mp missing)
    · exact ResultRow.map_verdict_zipWith_render config same
  · intro index row below present short before
    have inside : index < outline.planned.length := by omega
    have reached : outline.sentences.length = index := by
      rw [← outlined] at inside ⊢
      exact Outline.length_sentences_ofTable_eq inside present short before
    have silent : outline.sentences.length ≠ outline.planned.length := by omega
    rw [if_neg silent, reached] at back
    exact back
  · intro complete narrow
    rw [Nat.min_eq_left bounded] at complete
    have lacking := Outline.missing_ofTable table config.andKeyword
    dsimp only at lacking
    rw [outlined, if_neg narrow] at lacking
    rw [if_pos (spoken.mpr complete), lacking] at back
    exact back

open Samples in
/-- A first row that is marked as continuing is given all the same, and the row after the
event is expected whatever its marker says. -/
theorem run_shape_of_continuing_rows :
    let table := Table.ofCells
      [["And", "user [Alice] has [100.0] dollars in their account"],
       ["and", "nothing of [this] kind is known"],
       ["then", "[50.0] dollars is deposited in to the account"],
       ["AND", "the balance should be [150.0] dollars"],
       ["but"]]
    let run := BankAccount.fixture.run {} table {}
    BankAccount.fixture.setup {} = ({ setups := 1 }, .returned (.ok ())) ∧
    BankAccount.fixture.steps = .returned BankAccount.registry ∧
    (BankAccount.fixture.teardown
      (BankAccount.fixture.conducted {} table {}).1.state).2 = .returned () ∧
    ∃ results, run.ending = .finished results ∧
      results.map ResultRow.phase = [.given, .given, .event, .expectation] := by
  intro table run
  have prepares : BankAccount.fixture.setup {} = ({ setups := 1 }, .returned (.ok ())) := rfl
  have offers : BankAccount.fixture.steps = .returned BankAccount.registry := rfl
  have closes : (BankAccount.fixture.teardown
      (BankAccount.fixture.conducted {} table {}).1.state).2 = .returned () := rfl
  have event : table.nextBreak "AND" 1 = 2 := rfl
  have stop : table.nextBreak "AND" 4 = 4 := rfl
  have complete : table.CompleteBelow 4 := by decide
  rcases BankAccount.fixture.run_shape {} table prepares offers closes with
    ⟨returns, shape, -, -⟩
  simp only [event, stop] at returns shape
  rcases returns.mpr ⟨by decide, complete⟩ with ⟨results, finished⟩
  exact ⟨prepares, offers, closes, results, finished, (shape results finished).2.1⟩

end Fixture

end Acceptance
