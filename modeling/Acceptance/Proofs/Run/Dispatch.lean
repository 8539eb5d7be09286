import Acceptance.Proofs.Step.Assembly
import Acceptance.Proofs.Step.Handler
import Acceptance.Run.Dispatch

namespace Acceptance

/-! What dispatching a sentence does. A sentence that names no step touches nothing. One
that names a step calls it, once, and whatever the call leaves behind stays. -/

variable {State : Type u}

/-! ### Resolving a sentence -/

namespace Registry

theorem resolve_of_miscounted (registry : Registry State) {sentence : String}
    (miscounted :
      Sentence.placeholderCount sentence ≠ (Sentence.arguments sentence).length) :
    registry.resolve sentence =
      .error (.placeholders (Sentence.placeholderCount sentence)
        (Sentence.arguments sentence).length) := by
  rw [resolve, if_pos miscounted]

theorem resolve_of_unknown {registry : Registry State} {sentence : String}
    (counted : Sentence.placeholderCount sentence = (Sentence.arguments sentence).length)
    (unknown : registry.find? (Sentence.identifier sentence) (Sentence.signature sentence) =
      none) :
    registry.resolve sentence =
      .error (.notFound (Sentence.identifier sentence) (Sentence.signature sentence)
        (Signature.sortByText (registry.signatures (Sentence.identifier sentence)))) := by
  rw [Sentence.signature] at unknown
  rw [resolve, if_neg (not_not_intro counted), find, unknown, Sentence.signature]

theorem resolve_of_found {registry : Registry State} {sentence : String} {step : Step State}
    (counted : Sentence.placeholderCount sentence = (Sentence.arguments sentence).length)
    (found : registry.find? (Sentence.identifier sentence) (Sentence.signature sentence) =
      some step) :
    registry.resolve sentence =
      .ok ⟨Sentence.identifier sentence, Sentence.arguments sentence, step⟩ := by
  rw [Sentence.signature] at found
  rw [resolve, if_neg (not_not_intro counted), find, found]

/-- A step is looked up by what its sentence spells, and called with the same arguments. -/
theorem of_resolve_eq_ok {registry : Registry State} {sentence : String}
    {resolution : Resolution State} (resolved : registry.resolve sentence = .ok resolution) :
    resolution.identifier = Sentence.identifier sentence ∧
      resolution.arguments = Sentence.arguments sentence ∧
      registry.find? resolution.identifier resolution.signature = some resolution.step := by
  by_cases counted :
      Sentence.placeholderCount sentence = (Sentence.arguments sentence).length
  · cases found : registry.find? (Sentence.identifier sentence)
        (Sentence.signature sentence) with
    | none => simp [resolve_of_unknown counted found] at resolved
    | some step =>
        rw [resolve_of_found counted found] at resolved
        rw [← Except.ok.inj resolved]
        exact ⟨rfl, rfl, found⟩
  · simp [resolve_of_miscounted registry counted] at resolved

theorem find?_of_resolve {registry : Registry State} {sentence : String}
    {resolution : Resolution State} (resolved : registry.resolve sentence = .ok resolution) :
    registry.find? resolution.identifier resolution.signature = some resolution.step :=
  (of_resolve_eq_ok resolved).2.2

/-- The calls that a sentence makes on a fixture: none if it names no step. -/
def callsOf (registry : Registry State) (sentence : String) : List FixtureCall :=
  match registry.resolve sentence with
  | .error _ => []
  | .ok resolution =>
      [.step resolution.identifier resolution.signature resolution.arguments]

theorem step_of_mem_callsOf {registry : Registry State} {sentence : String}
    {call : FixtureCall} (made : call ∈ registry.callsOf sentence) :
    ∃ identifier signature arguments, call = .step identifier signature arguments := by
  rw [callsOf] at made
  split at made
  · cases made
  · exact ⟨_, _, _, List.mem_singleton.mp made⟩

end Registry

/-! ### Dispatching within a session

The state and the verdict depend on the session's state only, and the journal grows by
the calls of the sentence. -/

namespace Session

variable (registry : Registry State) (sentence : String) (session : Session State)

theorem dispatch_of_error {registry : Registry State} {sentence : String}
    {error : StepError} (unresolved : registry.resolve sentence = .error error) :
    session.dispatch registry sentence =
      (session, Verdict.ofError sentence error.message) := by
  rw [dispatch, unresolved]

@[simp] theorem state_dispatch :
    (session.dispatch registry sentence).1.state =
      (Acceptance.dispatch registry sentence session.state).1 := by
  rw [Acceptance.dispatch, dispatch, dispatch]
  cases registry.resolve sentence <;> rfl

@[simp] theorem verdict_dispatch :
    (session.dispatch registry sentence).2 =
      (Acceptance.dispatch registry sentence session.state).2 := by
  rw [Acceptance.dispatch, dispatch, dispatch]
  cases registry.resolve sentence <;> rfl

@[simp] theorem calls_dispatch :
    (session.dispatch registry sentence).1.calls =
      session.calls ++ registry.callsOf sentence := by
  rw [dispatch, Registry.callsOf]
  cases registry.resolve sentence with
  | error error => simp
  | ok resolution => simp

end Session

theorem dispatch_of_ok {registry : Registry State} {sentence : String}
    {resolution : Resolution State} (resolved : registry.resolve sentence = .ok resolution)
    (state : State) :
    dispatch registry sentence state =
      ((resolution.step resolution.arguments state).1,
        Verdict.ofCompletion sentence (resolution.step resolution.arguments state).2) := by
  rw [dispatch, Session.dispatch, resolved]
  rfl

/-! ### The verdict on a call -/

/-- The verdict that a call earns by how it comes back. Layers of success do not count. -/
inductive Earns (sentence : String) : Completion Reply → Verdict → Prop where
  | action : Earns sentence (.returned .action) .unmarked
  | holds : Earns sentence (.returned (.flag true)) .pass
  | fails : Earns sentence (.returned (.flag false)) (.fail none)
  | met {assertion : Assertion} (passed : assertion.passed = true) :
      Earns sentence (.returned (.assertion assertion)) .pass
  | unmet {assertion : Assertion} {message : Option String}
      (failed : assertion.passed = false)
      (explained : Verdict.classify sentence assertion = .fail message) :
      Earns sentence (.returned (.assertion assertion)) (.fail message)
  | finishedAction : Earns sentence (.returned (.outcome .action)) .unmarked
  | finishedAssertion {assertion : Assertion} {verdict : Verdict}
      (earned : Earns sentence (.returned (.assertion assertion)) verdict) :
      Earns sentence (.returned (.outcome (.assertion assertion))) verdict
  | finishedFailure {text : String} :
      Earns sentence (.returned (.outcome (.failed text)))
        (.error (sentence ++ " Exception: step failed: " ++ text))
  | failure {cause : String} :
      Earns sentence (.returned (.failure cause))
        (.error (sentence ++ " Exception: step failed: " ++ cause))
  | success {reply : Reply} {verdict : Verdict}
      (earned : Earns sentence (.returned reply) verdict) :
      Earns sentence (.returned (.success reply)) verdict
  | panic {payload : PanicPayload} :
      Earns sentence (.panicked payload)
        (.error (sentence ++ " Exception: step panicked: " ++ payload.message))

theorem Verdict.classify_of_passed (sentence : String) {assertion : Assertion}
    (passed : assertion.passed = true) : classify sentence assertion = .pass := by
  rw [classify, if_pos passed]

theorem Verdict.classify_of_failed (sentence : String) {assertion : Assertion}
    (failed : assertion.passed = false) :
    ∃ message, classify sentence assertion = .fail message := by
  rw [classify, if_neg (by simp [failed])]
  split
  · exact ⟨none, rfl⟩
  · exact ⟨_, rfl⟩

theorem Verdict.ofError_append (sentence label text : String) :
    ofError sentence (label ++ text) = .error (sentence ++ (" Exception: " ++ label) ++ text) := by
  rw [ofError]
  simp only [String.append_assoc]

theorem Verdict.ofError_failed (sentence text : String) :
    ofError sentence (StepError.failed text).message =
      .error (sentence ++ " Exception: step failed: " ++ text) :=
  ofError_append sentence "step failed: " text

namespace Earns

variable {sentence : String}

private theorem ofAssertion (assertion : Assertion) :
    Earns sentence (.returned (.assertion assertion)) (Verdict.classify sentence assertion) := by
  cases passed : assertion.passed with
  | true =>
      rw [Verdict.classify_of_passed sentence passed]
      exact .met passed
  | false =>
      rcases Verdict.classify_of_failed sentence passed with ⟨message, explained⟩
      rw [explained]
      exact .unmet passed explained

private theorem ofReply (reply : Reply) :
    Earns sentence (.returned reply) (Verdict.ofCompletion sentence (.returned reply.toOutcome)) := by
  induction reply with
  | action => exact .action
  | flag holds =>
      cases holds with
      | true => exact .holds
      | false => exact .fails
  | assertion assertion => exact ofAssertion assertion
  | outcome outcome =>
      cases outcome with
      | action => exact .finishedAction
      | assertion assertion => exact .finishedAssertion (ofAssertion assertion)
      | failed text =>
          rw [Reply.toOutcome, Verdict.ofCompletion, Verdict.ofError_failed]
          exact .finishedFailure
  | success reply earned => exact .success earned
  | failure cause =>
      rw [Reply.toOutcome, Verdict.ofCompletion, Verdict.ofError_failed]
      exact .failure

end Earns

/-! ### Dispatching to an assembled registry -/

namespace Assembly

variable {assembly : Assembly State} {sentence : String} {handler : Handler State}

theorem resolve_of_latest?
    (counted : Sentence.placeholderCount sentence = (Sentence.arguments sentence).length)
    (latest : assembly.latest? (Sentence.identifier sentence) (Sentence.signature sentence) =
      some handler) :
    assembly.registry.resolve sentence =
      .ok ⟨Sentence.identifier sentence, Sentence.arguments sentence, handler.invoke⟩ := by
  apply Registry.resolve_of_found counted
  rw [find?_registry, latest, Option.map_some]

theorem exists_values_of_latest?
    (latest : assembly.latest? (Sentence.identifier sentence) (Sentence.signature sentence) =
      some handler) :
    ∃ values : handler.signature.Values,
      handler.signature.argumentsOf values = Sentence.arguments sentence :=
  handler.exists_values (signature_of_latest? latest).symm

theorem dispatch_of_latest?
    (counted : Sentence.placeholderCount sentence = (Sentence.arguments sentence).length)
    (latest : assembly.latest? (Sentence.identifier sentence) (Sentence.signature sentence) =
      some handler)
    {values : handler.signature.Values}
    (fits : handler.signature.argumentsOf values = Sentence.arguments sentence) (state : State) :
    dispatch assembly.registry sentence state =
      ((handler.call values state).1,
        Verdict.ofCompletion sentence ((handler.call values state).2.map Reply.toOutcome)) := by
  rw [dispatch_of_ok (resolve_of_latest? counted latest)]
  dsimp only
  rw [← fits, handler.invoke_argumentsOf]

end Assembly

end Acceptance
