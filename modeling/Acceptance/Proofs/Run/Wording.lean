import Acceptance.Proofs.Run.Dispatch
import Acceptance.Proofs.Sentence.Layout

namespace Acceptance

/-! What dispatching makes of the wording of a sentence. It goes on only if the brackets of
the sentence pair up, and of the wording it then uses the words and the values alone. -/

universe u

namespace Sentence

/-- A sentence has no more arguments than opening brackets, and as many just if it is made of
gaps without opening brackets and of bracketed values without brackets of their own. It is
so in one way only, and its arguments are then what the values stand for. Any other sentence
is an error that tells both numbers, and touches nothing. -/
theorem counted_iff_wellFormed (sentence : String) :
    let opened := sentence.toList.count '['
    let parsed := (arguments sentence).length
    let MadeOf := fun pieces : Segments => pieces.WellFormed ∧ pieces.text = sentence.toList
    placeholderCount sentence = opened ∧ parsed ≤ opened ∧
    (parsed = opened ↔ ∃ pieces, MadeOf pieces) ∧
    (∀ pieces, MadeOf pieces →
      (∀ other, MadeOf other → other = pieces) ∧
      pieces.values.length = opened ∧
      arguments sentence = pieces.values.map (fun value => Argument.infer (String.ofList value)) ∧
      signature sentence =
        pieces.values.map fun value => (Argument.infer (String.ofList value)).kind) ∧
    ((¬ ∃ pieces, MadeOf pieces) → parsed < opened ∧
      ∀ {State : Type u} (registry : Registry State) (session : Session State),
        session.dispatch registry sentence = (session, .error (sentence ++ " Exception: " ++
          (StepError.placeholders opened parsed).message))) := by
  intro opened parsed MadeOf
  have madeIff : parsed = opened ↔ ∃ pieces, MadeOf pieces := by
    rw [← wellFormed_segments_iff, ← placeholderCount_eq_length_arguments_iff]
    exact eq_comm
  have le : parsed ≤ opened := length_arguments_le sentence
  refine ⟨rfl, le, madeIff, ?_, ?_⟩
  · intro pieces made
    have found : segments sentence = pieces := segments_eq_of_text_eq made.1 made.2
    have values : placeholders sentence = pieces.values.map String.ofList := by
      rw [placeholders, found]
    refine ⟨fun other otherMade => ?_, ?_, ?_, ?_⟩
    · exact otherMade.1.eq_of_text_eq made.1 (otherMade.2.trans made.2.symm)
    · rw [← madeIff.mpr ⟨pieces, made⟩, ← found]
      exact (length_arguments sentence).symm
    · rw [arguments, values, List.map_map]
      rfl
    · rw [signature, arguments, values, List.map_map, List.map_map]
      rfl
  · intro unmade
    have different : parsed ≠ opened := fun equal => unmade (madeIff.mp equal)
    refine ⟨Nat.lt_of_le_of_ne le different, fun registry session => ?_⟩
    exact session.dispatch_of_error (registry.resolve_of_miscounted (Ne.symm different))

end Sentence

/-! ### Verdicts on two wordings -/

/-- Two verdicts of one kind whose messages differ in the sentence they start with, if they
have any. -/
inductive Verdict.Alike (left right : String) : Verdict → Verdict → Prop where
  | pass : Alike left right .pass .pass
  | unmarked : Alike left right .unmarked .unmarked
  | unexplained : Alike left right (.fail none) (.fail none)
  | explained (detail : String) :
      Alike left right (.fail (some (left ++ detail))) (.fail (some (right ++ detail)))
  | error (detail : String) :
      Alike left right (.error (left ++ detail)) (.error (right ++ detail))

namespace Verdict

variable (left right : String)

theorem alike_ofError (detail : String) :
    Alike left right (ofError left detail) (ofError right detail) := by
  rw [ofError, ofError, String.append_assoc, String.append_assoc]
  exact .error _

theorem alike_classify (assertion : Assertion) :
    Alike left right (classify left assertion) (classify right assertion) := by
  rw [classify, classify]
  split
  · exact .pass
  · cases nonempty? assertion.actual with
    | none => exact .unexplained
    | some actual =>
        simp only [String.append_assoc]
        exact .explained _

theorem alike_ofCompletion (completion : Completion Outcome) :
    Alike left right (ofCompletion left completion) (ofCompletion right completion) := by
  cases completion with
  | panicked payload => exact alike_ofError ..
  | returned outcome =>
      cases outcome with
      | action => exact .unmarked
      | assertion assertion => exact alike_classify ..
      | failed message => exact alike_ofError ..

end Verdict

/-! ### Two sentences that come to the same step -/

section SameResolution

variable {State : Type u} {registry : Registry State} {left right : String}

theorem Registry.resolve_congr
    (identifiers : Sentence.identifier left = Sentence.identifier right)
    (arguments : Sentence.arguments left = Sentence.arguments right)
    (counts : Sentence.placeholderCount left = Sentence.placeholderCount right) :
    registry.resolve left = registry.resolve right := by
  rw [resolve, resolve, identifiers, arguments, counts]

theorem Session.dispatch_of_same_resolution
    (same : registry.resolve left = registry.resolve right) (session : Session State) :
    (session.dispatch registry left).1 = (session.dispatch registry right).1 ∧
      Verdict.Alike left right (session.dispatch registry left).2
        (session.dispatch registry right).2 := by
  rw [dispatch, dispatch, same]
  cases registry.resolve right with
  | error error => exact ⟨rfl, Verdict.alike_ofError ..⟩
  | ok resolution => exact ⟨rfl, Verdict.alike_ofCompletion ..⟩

end SameResolution

/-- Two sentences with the same words, but for the case of their ASCII letters, and the same
values are the same step: they spell one identifier and one list of arguments, they do the
same to every session, and the verdicts on them are alike. -/
theorem dispatch_of_same_words_and_values {left right : Sentence.Layout}
    (words : left.words.map (List.map Char.toLower) = right.words.map (List.map Char.toLower))
    (values : left.values = right.values) :
    Sentence.identifier left.sentence = Sentence.identifier right.sentence ∧
    Sentence.arguments left.sentence = Sentence.arguments right.sentence ∧
    ∀ {State : Type u} (registry : Registry State) (session : Session State),
      (session.dispatch registry left.sentence).1 =
        (session.dispatch registry right.sentence).1 ∧
      (dispatch registry left.sentence session.state).1 =
        (dispatch registry right.sentence session.state).1 ∧
      Verdict.Alike left.sentence right.sentence
        (dispatch registry left.sentence session.state).2
        (dispatch registry right.sentence session.state).2 := by
  have identifiers :
      Sentence.identifier left.sentence = Sentence.identifier right.sentence := by
    rw [left.identifier_sentence, right.identifier_sentence,
      ← Sentence.camelCase_map_toLower left.words, words, Sentence.camelCase_map_toLower]
  have arguments :
      Sentence.arguments left.sentence = Sentence.arguments right.sentence := by
    rw [left.arguments_sentence, right.arguments_sentence, values]
  have counts : Sentence.placeholderCount left.sentence =
      Sentence.placeholderCount right.sentence := by
    rw [left.placeholderCount_sentence, right.placeholderCount_sentence, arguments]
  refine ⟨identifiers, arguments, fun registry session => ?_⟩
  have same : registry.resolve left.sentence = registry.resolve right.sentence :=
    Registry.resolve_congr identifiers arguments counts
  have sessions := Session.dispatch_of_same_resolution same session
  have states := congrArg Session.state sessions.1
  rw [Session.state_dispatch, Session.state_dispatch] at states
  have verdicts := sessions.2
  rw [Session.verdict_dispatch, Session.verdict_dispatch] at verdicts
  exact ⟨sessions.1, states, verdicts⟩

theorem dispatch_of_same_words_and_values_reordered :
    ∃ left right : Sentence.Layout,
      left.sentence = "user [Alice] HAS\t[3]" ∧ right.sentence = " [Alice] User [3]  has" ∧
      left.words.map (List.map Char.toLower) = right.words.map (List.map Char.toLower) ∧
      left.values = right.values ∧
      Sentence.identifier left.sentence = Sentence.identifier right.sentence ∧
      Sentence.arguments left.sentence = Sentence.arguments right.sentence ∧
      ∀ (registry : Registry Nat) (session : Session Nat),
        (dispatch registry left.sentence session.state).1 =
          (dispatch registry right.sentence session.state).1 := by
  let left : Sentence.Layout := {
    before := { characters := [] }
    pieces := [
      (.word { characters := "user".toList }, { characters := [' '] }),
      (.placeholder { characters := "Alice".toList }, { characters := [' '] }),
      (.word { characters := "HAS".toList }, { characters := ['\t'] }),
      (.placeholder { characters := "3".toList }, { characters := [] })] }
  let right : Sentence.Layout := {
    before := { characters := [' '] }
    pieces := [
      (.placeholder { characters := "Alice".toList }, { characters := [' '] }),
      (.word { characters := "User".toList }, { characters := [' '] }),
      (.placeholder { characters := "3".toList }, { characters := [' ', ' '] }),
      (.word { characters := "has".toList }, { characters := [] })] }
  have words : left.words.map (List.map Char.toLower) =
      right.words.map (List.map Char.toLower) := by decide
  have values : left.values = right.values := by decide
  rcases dispatch_of_same_words_and_values words values with ⟨identifiers, arguments, dispatched⟩
  refine ⟨left, right, by decide, by decide, words, values, identifiers, arguments, ?_⟩
  intro registry session
  exact (dispatched registry session).2.1

end Acceptance
