import Acceptance.Proofs.Run.Dispatch
import Acceptance.Proofs.Sentence.Identifier

namespace Acceptance

/-! What becomes of a blank sentence, of which only blanks are left without its placeholders.
Its identifier is empty, and an empty identifier is looked up like any other. So what keeps a
blank sentence from being a step is that no handler is registered without a name. -/

variable {State : Type u}

/-! ### Rejected sentences -/

/-- A sentence that comes to an error and leaves no trace of having been dispatched. -/
def Session.Rejects (session : Session State) (registry : Registry State)
    (sentence : String) : Prop :=
  (session.dispatch registry sentence).1 = session ∧
    (session.dispatch registry sentence).2.isError = true

theorem Session.rejects_of_resolve {registry : Registry State} {sentence : String}
    {error : StepError} (unresolved : registry.resolve sentence = .error error)
    (session : Session State) : session.Rejects registry sentence := by
  rw [Rejects, session.dispatch_of_error unresolved]
  exact ⟨rfl, rfl⟩

namespace Assembly

theorem latest?_eq_none_of_unnamed {assembly : Assembly State} {identifier : String}
    (unnamed : ∀ registration ∈ assembly.registrations, registration.1 ≠ identifier)
    (signature : Signature) : assembly.latest? identifier signature = none := by
  have absent : (assembly.registrations.filter fun registration =>
      registration.1 = identifier ∧ registration.2.signature = signature) = [] := by
    rw [List.filter_eq_nil_iff]
    intro registration member found
    exact unnamed registration member (of_decide_eq_true found).1
  rw [latest?, absent]
  rfl

variable {assembly : Assembly State} {sentence : String}

theorem resolve_of_latest?_eq_none
    (counted : Sentence.placeholderCount sentence = (Sentence.arguments sentence).length)
    (unknown : assembly.latest? (Sentence.identifier sentence) (Sentence.signature sentence) =
      none) :
    assembly.registry.resolve sentence =
      .error (.notFound (Sentence.identifier sentence) (Sentence.signature sentence)
        (Signature.sortByText
          (assembly.registry.signatures (Sentence.identifier sentence)))) := by
  apply Registry.resolve_of_unknown counted
  rw [find?_registry, unknown]
  rfl

theorem calls_dispatch_of_latest? {handler : Handler State}
    (counted : Sentence.placeholderCount sentence = (Sentence.arguments sentence).length)
    (latest : assembly.latest? (Sentence.identifier sentence) (Sentence.signature sentence) =
      some handler) (session : Session State) :
    (session.dispatch assembly.registry sentence).1.calls = session.calls ++
      [.step (Sentence.identifier sentence) (Sentence.signature sentence)
        (Sentence.arguments sentence)] := by
  rw [Session.calls_dispatch, Registry.callsOf, resolve_of_latest? counted latest]
  rfl

/-- A sentence is rejected just if its brackets do not pair up or no handler is registered for
what it spells. -/
theorem rejects_iff (session : Session State) :
    session.Rejects assembly.registry sentence ↔
      (Sentence.placeholderCount sentence = (Sentence.arguments sentence).length →
        assembly.latest? (Sentence.identifier sentence) (Sentence.signature sentence) =
          none) := by
  constructor
  · intro rejected counted
    cases latest : assembly.latest? (Sentence.identifier sentence)
        (Sentence.signature sentence) with
    | none => rfl
    | some handler =>
        have calls := calls_dispatch_of_latest? counted latest session
        rw [rejected.1] at calls
        simp at calls
  · intro unknown
    by_cases counted :
        Sentence.placeholderCount sentence = (Sentence.arguments sentence).length
    · exact session.rejects_of_resolve (resolve_of_latest?_eq_none counted (unknown counted))
    · exact session.rejects_of_resolve (Registry.resolve_of_miscounted _ counted)

end Assembly

/-! ### Blank sentences -/

/-- A nameless step is not found for want of a name, whatever else is known. -/
theorem Verdict.ofError_notFound_empty (sentence : String) (signature : Signature)
    (known : List Signature) :
    ofError sentence (StepError.notFound "" signature known).message =
      .error (sentence ++ " Exception: step sentence yields an empty handler name") := by
  change ofError sentence (StepError.notFoundMessage "" signature known) = _
  rw [StepError.notFoundMessage, if_pos rfl, ofError, String.append_assoc]
  rfl

namespace Assembly

/-- A blank sentence is an error and touches nothing, unless its brackets pair up and a handler
of its signature is registered under the empty identifier: then it calls this handler. -/
theorem blank_sentence_rejected_iff (assembly : Assembly State) {sentence : String}
    (blank : Sentence.identifier sentence = "") (session : Session State) :
    let arguments := Sentence.arguments sentence
    let signature := arguments.map Argument.kind
    let dispatched := session.dispatch assembly.registry sentence
    let Counted := Sentence.placeholderCount sentence = arguments.length
    let Rejected := dispatched.1 = session ∧ dispatched.2.isError = true
    Sentence.stripped sentence = "" ∧
    (Rejected ↔ (Counted → assembly.latest? "" signature = none)) ∧
    ((∀ registration ∈ assembly.registrations, registration.1 ≠ "") → Rejected) ∧
    (Counted → assembly.latest? "" signature = none → dispatched.2 =
      .error (sentence ++ " Exception: step sentence yields an empty handler name")) ∧
    (∀ handler, Counted → assembly.latest? "" signature = some handler →
      dispatched.1.calls = session.calls ++ [.step "" signature arguments]) := by
  intro arguments signature dispatched Counted Rejected
  have rejectedIff : Rejected ↔ (Counted → assembly.latest? "" signature = none) := by
    have rejected : session.Rejects assembly.registry sentence ↔ _ := rejects_iff session
    rwa [blank] at rejected
  refine ⟨Sentence.identifier_eq_empty_iff.mp blank, rejectedIff, ?_, ?_, ?_⟩
  · intro unnamed
    exact rejectedIff.mpr fun _ => latest?_eq_none_of_unnamed unnamed signature
  · intro counted unknown
    have back := session.dispatch_of_error
      (resolve_of_latest?_eq_none counted (blank.symm ▸ unknown))
    rw [blank, Verdict.ofError_notFound_empty] at back
    exact congrArg Prod.snd back
  · intro handler counted latest
    have calls := calls_dispatch_of_latest? counted (blank.symm ▸ latest) session
    rw [blank] at calls
    exact calls

theorem blank_sentence_rejected_iff_of_two_numbers :
    let count : Handler Nat := .action [.numeric] fun _ state => state + 1
    let assembly := (Assembly.empty.register "count" count).register "" count
    let dispatched := (Session.start 0).dispatch assembly.registry "\u2003[1] [2]"
    Sentence.identifier "\u2003[1] [2]" = "" ∧
    dispatched.1 = Session.start 0 ∧
    dispatched.2 = .error
      "\u2003[1] [2] Exception: step sentence yields an empty handler name" := by
  intro count assembly dispatched
  have blank : Sentence.identifier "\u2003[1] [2]" = "" := by decide +kernel
  have counted : Sentence.placeholderCount "\u2003[1] [2]" =
      (Sentence.arguments "\u2003[1] [2]").length := by decide +kernel
  have signature : (Sentence.arguments "\u2003[1] [2]").map Argument.kind =
      [.numeric, .numeric] := by decide +kernel
  have unknown : assembly.latest? ""
      ((Sentence.arguments "\u2003[1] [2]").map Argument.kind) = none := by
    rw [signature]
    rfl
  rcases assembly.blank_sentence_rejected_iff blank (Session.start 0) with
    ⟨-, rejectedIff, -, message, -⟩
  exact ⟨blank, (rejectedIff.mpr fun _ => unknown).1, message counted unknown⟩

/-- A handler that is registered without a name is called by a blank sentence. -/
theorem blank_sentence_calls_nameless_handler :
    let count : Handler Nat := .action [.numeric] fun _ state => state + 1
    let assembly := Assembly.empty.register "" count
    let dispatched := (Session.start 0).dispatch assembly.registry " [1] "
    Sentence.identifier " [1] " = "" ∧ Sentence.stripped " [1] " = "" ∧
    dispatched.2 = .unmarked ∧ dispatched.1.state = 1 ∧
    dispatched.1.calls = [.step "" [.numeric] [Argument.infer "1"]] := by
  decide +kernel

end Assembly

end Acceptance
