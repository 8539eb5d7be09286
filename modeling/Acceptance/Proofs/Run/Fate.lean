import Mathlib.Data.List.Forall2
import Acceptance.Proofs.Report
import Acceptance.Proofs.Run.LifeCycle
import Acceptance.Proofs.Run.Shape
import Acceptance.Proofs.Sentence.WellFormed

namespace Acceptance

/-! What becomes of the rows of a run, told by the handlers that they call and by how these
come back. The report counts just that, so no row that was not carried out counts as passed. -/

universe u

variable {State : Type u}

/-! ### Fates -/

inductive Fate where
  /-- The brackets of the row do not pair up, or no handler is registered for it. -/
  | unresolved
  /-- The handler asserted nothing. -/
  | acted
  | asserted (passed : Bool)
  /-- The handler gave back an error. -/
  | failed
  | panicked
deriving DecidableEq

namespace Fate

def ofReply : Reply → Fate
  | .action => .acted
  | .flag holds => .asserted holds
  | .assertion assertion => .asserted assertion.passed
  | .outcome .action => .acted
  | .outcome (.assertion assertion) => .asserted assertion.passed
  | .outcome (.failed _) => .failed
  | .success reply => ofReply reply
  | .failure _ => .failed

def ofCompletion : Completion Reply → Fate
  | .returned reply => ofReply reply
  | .panicked _ => .panicked

/-- The verdicts that a fate may be shown by. -/
inductive Shows : Fate → Verdict → Prop where
  | unresolved {message : String} : Shows .unresolved (.error message)
  | acted : Shows .acted .unmarked
  | held : Shows (.asserted true) .pass
  | unmet {message : Option String} : Shows (.asserted false) (.fail message)
  | failed {message : String} : Shows .failed (.error message)
  | panicked {message : String} : Shows .panicked (.error message)

theorem shows_classify (sentence : String) (assertion : Assertion) :
    Shows (.asserted assertion.passed) (Verdict.classify sentence assertion) := by
  cases passed : assertion.passed with
  | true =>
      rw [Verdict.classify_of_passed sentence passed]
      exact .held
  | false =>
      rcases Verdict.classify_of_failed sentence passed with ⟨message, explained⟩
      rw [explained]
      exact .unmet

private theorem shows_ofReply (sentence : String) (reply : Reply) :
    (ofReply reply).Shows (Verdict.ofCompletion sentence (.returned reply.toOutcome)) := by
  induction reply with
  | action => exact .acted
  | flag holds => exact shows_classify sentence (Assertion.that holds)
  | assertion assertion => exact shows_classify sentence assertion
  | outcome outcome =>
      cases outcome with
      | action => exact .acted
      | assertion assertion => exact shows_classify sentence assertion
      | failed message => exact .failed
  | success reply induction => exact induction
  | failure cause => exact .failed

theorem shows_ofCompletion (sentence : String) (completion : Completion Reply) :
    (ofCompletion completion).Shows
      (Verdict.ofCompletion sentence (completion.map Reply.toOutcome)) := by
  cases completion with
  | returned reply => exact shows_ofReply sentence reply
  | panicked payload => exact .panicked

theorem ofReply_ne_unresolved (reply : Reply) : ofReply reply ≠ .unresolved := by
  induction reply with
  | outcome outcome => cases outcome <;> simp [ofReply]
  | success reply induction => exact induction
  | _ => simp [ofReply]

theorem ofCompletion_ne_unresolved (completion : Completion Reply) :
    ofCompletion completion ≠ .unresolved := by
  cases completion with
  | returned reply => exact ofReply_ne_unresolved reply
  | panicked payload => simp [ofCompletion]

end Fate

/-! ### Counting fates -/

theorem Report.ofVerdicts_eq_of_shown {fates : List Fate} {verdicts : List Verdict}
    (shown : List.Forall₂ Fate.Shows fates verdicts) :
    ofVerdicts verdicts =
      ⟨fates.count (.asserted true), fates.count (.asserted false),
        fates.count .unresolved + fates.count .failed + fates.count .panicked,
        fates.count .acted⟩ := by
  induction shown with
  | nil => rfl
  | cons first later induction =>
      rw [ofVerdicts_cons, induction]
      cases first <;> simp [add] <;> omega

theorem Report.isSuccess_ofVerdicts_iff {fates : List Fate} {verdicts : List Verdict}
    (shown : List.Forall₂ Fate.Shows fates verdicts) :
    (ofVerdicts verdicts).isSuccess = true ↔
      ∀ fate ∈ fates, fate = .acted ∨ fate = .asserted true := by
  rw [ofVerdicts_eq_of_shown shown, isSuccess]
  simp only [Bool.and_eq_true, decide_eq_true_eq, Nat.add_eq_zero_iff, List.count_eq_zero]
  constructor
  · rintro ⟨unmet, ⟨unresolved, failed⟩, panicked⟩ fate member
    cases fate with
    | asserted passed => cases passed <;> simp_all
    | _ => simp_all
  · intro well
    refine ⟨?_, ⟨?_, ?_⟩, ?_⟩ <;> intro member <;> simpa using well _ member

/-! ### From sentences to fates -/

def Sentence.IsWellFormed (sentence : String) : Prop :=
  ∃ pieces : Segments, pieces.WellFormed ∧ pieces.text = sentence.toList

theorem Sentence.isWellFormed_iff {sentence : String} :
    IsWellFormed sentence ↔ placeholderCount sentence = (arguments sentence).length :=
  wellFormed_segments_iff.symm.trans placeholderCount_eq_length_arguments_iff.symm

namespace Assembly

/-- A sentence that names a registered handler shares the fate of its call, in the state that
the call is made in. -/
inductive LeadsTo (assembly : Assembly State) (sentence : String) (state : State) :
    Fate → Prop where
  | malformed (unpaired : ¬ Sentence.IsWellFormed sentence) :
      assembly.LeadsTo sentence state .unresolved
  | unregistered (wellFormed : Sentence.IsWellFormed sentence)
      (unknown : assembly.latest? (Sentence.identifier sentence)
        (Sentence.signature sentence) = none) :
      assembly.LeadsTo sentence state .unresolved
  | called (wellFormed : Sentence.IsWellFormed sentence) {handler : Handler State}
      (latest : assembly.latest? (Sentence.identifier sentence)
        (Sentence.signature sentence) = some handler)
      {values : handler.signature.Values}
      (fits : handler.signature.argumentsOf values = Sentence.arguments sentence) :
      assembly.LeadsTo sentence state (.ofCompletion (handler.call values state).2)

/-- Sentences lead to fates one after another, each in the state that the one before it
left. -/
inductive LeadsToEach (assembly : Assembly State) :
    List String → State → List Fate → Prop where
  | nil {state : State} : assembly.LeadsToEach [] state []
  | cons {sentence : String} {sentences : List String} {state : State} {fate : Fate}
      {fates : List Fate} (first : assembly.LeadsTo sentence state fate)
      (later : assembly.LeadsToEach sentences
        (dispatch assembly.registry sentence state).1 fates) :
      assembly.LeadsToEach (sentence :: sentences) state (fate :: fates)

variable (assembly : Assembly State)

/-- A fate other than being unresolved is met by calling a handler, and shown by the verdict. -/
theorem exists_leadsTo (sentence : String) (state : State) :
    ∃ fate, assembly.LeadsTo sentence state fate ∧
      fate.Shows (dispatch assembly.registry sentence state).2 ∧
      (assembly.registry.callsOf sentence = [] ↔ fate = .unresolved) := by
  have unresolved {error : StepError}
      (stopped : assembly.registry.resolve sentence = .error error) :
      Fate.unresolved.Shows (dispatch assembly.registry sentence state).2 ∧
        (assembly.registry.callsOf sentence = [] ↔ Fate.unresolved = .unresolved) := by
    rw [dispatch, Session.dispatch_of_error _ stopped, Registry.callsOf, stopped]
    exact ⟨.unresolved, by simp⟩
  by_cases counted :
      Sentence.placeholderCount sentence = (Sentence.arguments sentence).length
  case neg =>
    have unpaired : ¬ Sentence.IsWellFormed sentence :=
      fun wellFormed => counted (Sentence.isWellFormed_iff.mp wellFormed)
    exact ⟨_, .malformed unpaired,
      unresolved (assembly.registry.resolve_of_miscounted counted)⟩
  case pos =>
    have wellFormed := Sentence.isWellFormed_iff.mpr counted
    cases latest : assembly.latest? (Sentence.identifier sentence)
        (Sentence.signature sentence) with
    | none =>
        have unknown := assembly.find?_registry (Sentence.identifier sentence)
          (Sentence.signature sentence)
        rw [latest] at unknown
        exact ⟨_, .unregistered wellFormed latest,
          unresolved (Registry.resolve_of_unknown counted unknown)⟩
    | some handler =>
        rcases exists_values_of_latest? latest with ⟨values, fits⟩
        refine ⟨_, .called wellFormed latest fits, ?_, ?_⟩
        · rw [dispatch_of_latest? counted latest fits]
          exact Fate.shows_ofCompletion sentence _
        · rw [Registry.callsOf, resolve_of_latest? counted latest]
          simp [Fate.ofCompletion_ne_unresolved]

theorem exists_leadsToEach (sentences : List String) (state : State) :
    ∃ fates, assembly.LeadsToEach sentences state fates ∧
      List.Forall₂ Fate.Shows fates (dispatchEach assembly.registry sentences state).2 ∧
      List.Forall₂ (fun sentence fate =>
        assembly.registry.callsOf sentence = [] ↔ fate = .unresolved) sentences fates := by
  induction sentences generalizing state with
  | nil => exact ⟨[], .nil, .nil, .nil⟩
  | cons sentence sentences induction =>
      rcases assembly.exists_leadsTo sentence state with ⟨fate, first, shown, called⟩
      rcases induction (dispatch assembly.registry sentence state).1 with
        ⟨fates, later, laterShown, laterCalled⟩
      exact ⟨fate :: fates, .cons first later, .cons shown laterShown, .cons called laterCalled⟩

end Assembly

/-! ### Runs that come to results -/

namespace Fixture

variable (fixture : Fixture State) (config : Config) (table : Table) {state : State}

/-- A run comes to results only if the fixture was set up and torn down without a fault. -/
theorem faultless_of_finished {results : List ResultRow}
    (finished : (fixture.run config table state).ending = .finished results) :
    (fixture.setup state).2 = .returned (.ok ()) ∧
      (fixture.teardown (fixture.conducted config table state).1.state).2 = .returned () := by
  rw [ending_run, Ending.afterTeardown_eq_finished_iff] at finished
  rcases finished with ⟨conducted, closes⟩
  refine ⟨?_, Completion.eq_returned_of_not_panics closes⟩
  cases fixture.course config table state with
  | setupPanicked _ _ _ _ ending => simp [ending] at conducted
  | setupFailed _ _ _ _ ending => simp [ending] at conducted
  | stepsPanicked _ _ _ _ _ ending => simp [ending] at conducted
  | processed _ _ setup => exact setup

/-- The report on a run counts what became of its rows: each row is in one count, and a row
passed only if its handler was called and asserted so. So a run is a success just if every
row called a handler that came back without an error and asserted nothing false. -/
theorem report_counts_fates {assembly : Assembly State} {results : List ResultRow}
    (offers : fixture.steps = .returned assembly.registry)
    (finished : (fixture.run config table state).ending = .finished results) :
    let report := Report.ofRows results
    ∃ (sentences : List String) (fates : List Fate),
      (table.rows.take results.length).map Row.sentence = sentences.map some ∧
      assembly.LeadsToEach sentences (fixture.setup state).1 fates ∧
      (fixture.run config table state).session.calls =
        .setup :: .steps :: sentences.flatMap assembly.registry.callsOf ++ [.teardown] ∧
      List.Forall₂ (fun sentence fate =>
        assembly.registry.callsOf sentence = [] ↔ fate = .unresolved) sentences fates ∧
      List.Forall₂ Fate.Shows fates (results.map ResultRow.verdict) ∧
      report.total = results.length ∧
      report.passed = fates.count (.asserted true) ∧
      report.failed = fates.count (.asserted false) ∧
      report.errored =
        fates.count .unresolved + fates.count .failed + fates.count .panicked ∧
      report.unmarked = fates.count .acted ∧
      (report.isSuccess = true ↔ ∀ fate ∈ fates, fate = .acted ∨ fate = .asserted true) := by
  intro report
  rcases fixture.faultless_of_finished config table finished with ⟨prepares, closes⟩
  generalize outlined : Outline.ofTable config.andKeyword table = outline
  rcases (fixture.ending_eq_finished_iff config table (Prod.ext rfl prepares) offers closes
    outlined results).mp finished with ⟨spoken, -, rfl⟩
  rcases assembly.exists_leadsToEach outline.sentences (fixture.setup state).1 with
    ⟨fates, leads, shown, called⟩
  have same := Outline.length_phases_of_spoken spoken assembly.registry (fixture.setup state).1
  rw [← ResultRow.map_verdict_zipWith_render config same] at shown
  have counted : report = _ := Report.ofVerdicts_eq_of_shown shown
  refine ⟨outline.sentences, fates, ?_, leads, ?_, called, shown, ?_, congrArg _ counted,
    congrArg _ counted, congrArg _ counted, congrArg _ counted,
    Report.isSuccess_ofVerdicts_iff shown⟩
  · have taken := Outline.map_some_sentences_ofTable config.andKeyword table
    rw [outlined, spoken] at taken
    rwa [List.length_zipWith, ← same, Nat.min_self, List.length_map]
  · rcases conducted_of_ready config table (Prod.ext rfl prepares) offers with
      ⟨ready, -, opened, -, calls, -⟩
    rw [calls_run, calls, Session.calls_processTable, opened, outlined]
    rfl
  · exact (Report.total_ofVerdicts _).trans (List.length_map _)

/-- A row that names no step is an error, whatever the rows around it come to. -/
theorem report_counts_fates_lamp :
    let assembly : Assembly Bool :=
      (Assembly.empty.register "theLampIsSwitched" (.action [] fun () lit => !lit)).register
        "theLampIsLit" (.check [] fun () lit => .flag lit)
    let fixture : Fixture Bool := { steps := .returned assembly.registry }
    let table := Table.ofCells
      [["given", "the lamp is switched"], ["when", "the lamp [x] breaks"],
       ["then", "the lamp is lit"], ["and", "The lamp is  switched"]]
    ∃ (results : List ResultRow) (sentences : List String) (fates : List Fate),
      (fixture.run {} table false).ending = .finished results ∧
      results.map ResultRow.verdict =
        [.unmarked, .error ("the lamp [x] breaks Exception: " ++
          "no step handler `theLampBreaks` accepting (Text)"), .pass, .unmarked] ∧
      assembly.LeadsToEach sentences false fates ∧ fates.count .acted = 2 ∧
      (Report.ofRows results).isSuccess = false := by
  intro assembly fixture table
  let results : List ResultRow := [
    ResultRow.render {} .given .unmarked,
    ResultRow.render {} .event (.error ("the lamp [x] breaks Exception: " ++
      "no step handler `theLampBreaks` accepting (Text)")),
    ResultRow.render {} .expectation .pass,
    ResultRow.render {} .expectation .unmarked]
  have finished : (fixture.run {} table false).ending = .finished results := by decide +kernel
  have offers : fixture.steps = .returned assembly.registry := rfl
  rcases fixture.report_counts_fates {} table offers finished with
    ⟨sentences, fates, -, leads, -, -, -, -, -, -, -, acted, -⟩
  exact ⟨results, sentences, fates, finished, rfl, leads, acted.symm, rfl⟩

end Fixture

end Acceptance
