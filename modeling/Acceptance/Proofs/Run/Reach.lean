import Acceptance.Proofs.Run.Dispatch
import Acceptance.Proofs.Sentence.Spelling

namespace Acceptance

/-! Which of the registered steps sentences can reach. A step whose identifier is spelled in
camel case is called by the sentence that is written for it. One whose identifier starts with
a capital or holds a blank is called by no sentence at all, since no identifier of a sentence
does. -/

universe u

variable {State : Type u}

/-- An identifier that no sentence has. -/
def Sentence.Unspellable (identifier : String) : Prop :=
  (∃ character ∈ identifier.toList.head?, character.isUpper = true) ∨
    ∃ character ∈ identifier.toList, Unicode.isWhitespace character = true

theorem Sentence.identifier_ne_of_unspellable {name : String} (unspellable : Unspellable name)
    (sentence : String) : identifier sentence ≠ name := by
  rintro rfl
  rw [Unspellable, identifier, String.toList_ofList] at unspellable
  rcases unspellable with ⟨character, member, capital⟩ | ⟨character, member, blank⟩
  · rw [isUpper_head_identifierCharacters _ character member] at capital
    cases capital
  · rw [isVisible_identifierCharacters _ character member] at blank
    cases blank

/-- A step that a sentence calls has the identifier of the sentence. -/
theorem Registry.identifier_of_mem_callsOf {registry : Registry State} {sentence : String}
    {identifier : String} {signature : Signature} {arguments : List Argument}
    (made : .step identifier signature arguments ∈ registry.callsOf sentence) :
    Sentence.identifier sentence = identifier := by
  rw [callsOf] at made
  split at made
  case h_1 => cases made
  case h_2 resolution resolved =>
    cases List.mem_singleton.mp made
    exact (of_resolve_eq_ok resolved).1.symm

namespace Assembly

/-- A registered step is called by some sentence, whatever the state, if its identifier can
be spelled. No sentence calls a step whose identifier starts with a capital or holds a blank. -/
theorem callable_by_sentence {assembly : Assembly State} {identifier : String}
    {signature : Signature} {handler : Handler State}
    (registered : assembly.latest? identifier signature = some handler) :
    (Sentence.Spellable identifier →
      ∃ (sentence : String) (values : handler.signature.Values), ∀ session : Session State,
        let dispatched := session.dispatch assembly.registry sentence
        dispatched.1.calls = session.calls ++
          [.step identifier signature (handler.signature.argumentsOf values)] ∧
        dispatched.1.state = (handler.call values session.state).1) ∧
    (Sentence.Unspellable identifier →
      ∀ (sentence : String) (session : Session State),
        ∃ calls, (session.dispatch assembly.registry sentence).1.calls =
            session.calls ++ calls ∧
          ∀ arguments, .step identifier signature arguments ∉ calls) := by
  constructor
  · intro spellable
    rcases spellable.exists_sentence signature with ⟨sentence, rfl, rfl, counted⟩
    rcases exists_values_of_latest? registered with ⟨values, fits⟩
    refine ⟨sentence, values, fun session => ⟨?_, ?_⟩⟩
    · rw [Session.calls_dispatch, Registry.callsOf, resolve_of_latest? counted registered, fits]
      rfl
    · rw [Session.state_dispatch, dispatch_of_latest? counted registered fits]
  · intro unspellable sentence session
    refine ⟨_, session.calls_dispatch assembly.registry sentence, fun arguments made => ?_⟩
    exact Sentence.identifier_ne_of_unspellable unspellable sentence
      (Registry.identifier_of_mem_callsOf made)

/-- Capitals side by side and digits stand in no one's way, but a leading capital does. -/
theorem callable_by_sentence_counter :
    let count : Handler Nat := .action [.numeric, .text] fun _ state => state + 1
    let assembly := (Assembly.empty.register "owns3DogsInUK" count).register "Depot" count
    assembly.latest? "owns3DogsInUK" [.numeric, .text] = some count ∧
    Sentence.Spellable "owns3DogsInUK" ∧
    (∃ (sentence : String) (values : count.signature.Values), ∀ session : Session Nat,
      let dispatched := session.dispatch assembly.registry sentence
      dispatched.1.calls = session.calls ++
        [.step "owns3DogsInUK" [.numeric, .text] (count.signature.argumentsOf values)] ∧
      dispatched.1.state = session.state + 1) ∧
    assembly.latest? "Depot" [.numeric, .text] = some count ∧
    Sentence.Unspellable "Depot" ∧
    ∀ (sentence : String) (session : Session Nat),
      ∃ calls, (session.dispatch assembly.registry sentence).1.calls = session.calls ++ calls ∧
        ∀ arguments, .step "Depot" [.numeric, .text] arguments ∉ calls := by
  intro count assembly
  have owns : assembly.latest? "owns3DogsInUK" [.numeric, .text] = some count := rfl
  have depot : assembly.latest? "Depot" [.numeric, .text] = some count := rfl
  have spellable : Sentence.Spellable "owns3DogsInUK" := by decide +kernel
  have unspellable : Sentence.Unspellable "Depot" := .inl ⟨'D', rfl, rfl⟩
  exact ⟨owns, spellable, (callable_by_sentence owns).1 spellable, depot, unspellable,
    (callable_by_sentence depot).2 unspellable⟩

end Assembly

end Acceptance
