import Acceptance.Proofs.Sentence.Identifier
import Acceptance.Proofs.Sentence.WellFormed

namespace Acceptance.Sentence

open Acceptance.Unicode

/-! Brackets are read twice: once to take them out of the phrase that names the step, and
once for the values of its arguments. On a sentence whose brackets pair up the two readings
differ in one thing only. A value that breaks the line is an argument and stays in the
phrase as well. -/

namespace Segments

/-- What is left once the placeholders are taken out whose value keeps to one line. -/
def leftover : Segments → List Char
  | .last gap => gap
  | .placeholder gap value rest =>
      gap ++ (if '\n' ∈ value then '[' :: value ++ [']'] else []) ++ rest.leftover

def KeepsToLines (segments : Segments) : Prop :=
  ∀ value ∈ segments.values, '\n' ∉ value

instance (segments : Segments) : Decidable segments.KeepsToLines :=
  List.decidableBAll _ segments.values

theorem leftover_eq_outside {segments : Segments} (oneLine : segments.KeepsToLines) :
    segments.leftover = segments.outside := by
  induction segments with
  | last gap => rfl
  | placeholder gap value rest induction =>
      rw [KeepsToLines, values, List.forall_mem_cons] at oneLine
      rw [leftover, outside, if_neg oneLine.1, List.append_nil, induction oneLine.2]

/-- Of the opening brackets only those of broken values are left. -/
theorem WellFormed.opening_mem_leftover_iff {segments : Segments}
    (wellFormed : segments.WellFormed) :
    '[' ∈ segments.leftover ↔ ¬ segments.KeepsToLines := by
  induction segments with
  | last gap =>
      have plain : '[' ∉ gap := wellFormed
      simp [leftover, KeepsToLines, values, plain]
  | placeholder gap value rest induction =>
      rcases wellFormed with ⟨plain, _, restWellFormed⟩
      have later := induction restWellFormed
      rw [KeepsToLines] at later
      rw [leftover, KeepsToLines, values, List.forall_mem_cons, List.mem_append,
        List.mem_append, or_iff_right plain, later]
      by_cases broken : '\n' ∈ value <;> simp [broken]

/-- A reading that neither loses nor adds opening brackets tells the leftover from the text
outside the placeholders just if some value is broken. -/
theorem WellFormed.agrees_iff {segments : Segments} (wellFormed : segments.WellFormed)
    {reading : List Char → List Char} (kept : ∀ text, '[' ∈ reading text ↔ '[' ∈ text) :
    reading segments.leftover = reading segments.outside ↔ segments.KeepsToLines := by
  constructor
  · intro same
    have plain : '[' ∉ reading segments.leftover := by
      rw [same, kept]
      exact (wellFormed_iff.mp wellFormed).1
    rw [kept, wellFormed.opening_mem_leftover_iff] at plain
    exact Decidable.not_not.mp plain
  · intro oneLine
    rw [leftover_eq_outside oneLine]

end Segments

/-! ### Taking the brackets out -/

theorem dropBracketed_append {gap : List Char} (plain : '[' ∉ gap) (rest : List Char) :
    dropBracketed (gap ++ rest) = gap ++ dropBracketed rest := by
  induction gap with
  | nil => rfl
  | cons character gap induction =>
      rw [List.mem_cons, not_or] at plain
      have other : ¬ (character = '[' ∧ closesOnLine (gap ++ rest) = true) :=
        fun opening => plain.1 opening.1.symm
      rw [List.cons_append, dropBracketed, if_neg other, induction plain.2, List.cons_append]

theorem dropBracketed_of_unopened {text : List Char} (unopened : '[' ∉ text) :
    dropBracketed text = text := by
  have kept := dropBracketed_append unopened []
  rwa [List.append_nil, dropBracketed, List.append_nil] at kept

theorem dropThroughClosing_append {value : List Char} (unclosed : ']' ∉ value)
    (rest : List Char) :
    dropThroughClosing (value ++ ']' :: rest) = dropBracketed rest := by
  induction value with
  | nil => rw [List.nil_append, dropThroughClosing, if_pos rfl]
  | cons character value induction =>
      rw [List.mem_cons, not_or] at unclosed
      rw [List.cons_append, dropThroughClosing, if_neg (Ne.symm unclosed.1),
        induction unclosed.2]

theorem closesOnLine_append_iff {value : List Char} (unclosed : ']' ∉ value)
    (rest : List Char) :
    closesOnLine (value ++ ']' :: rest) = true ↔ '\n' ∉ value := by
  induction value with
  | nil => simp [closesOnLine]
  | cons character value induction =>
      rw [List.mem_cons, not_or] at unclosed
      rw [List.cons_append, closesOnLine, if_neg (Ne.symm unclosed.1)]
      by_cases breaking : character = '\n'
      · simp [breaking]
      · rw [if_neg breaking, induction unclosed.2, List.mem_cons, not_or,
          and_iff_right (Ne.symm breaking)]

theorem dropBracketed_text {segments : Segments} (wellFormed : segments.WellFormed) :
    dropBracketed segments.text = segments.leftover := by
  induction segments with
  | last gap => exact dropBracketed_of_unopened wellFormed
  | placeholder gap value rest induction =>
      rcases wellFormed with ⟨plain, ⟨_, unopened, unclosed⟩, restWellFormed⟩
      have closes := closesOnLine_append_iff unclosed rest.text
      rw [Segments.text, Segments.leftover, List.append_assoc, List.append_assoc,
        dropBracketed_append plain, List.cons_append, dropBracketed, ← induction restWellFormed]
      by_cases broken : '\n' ∈ value
      · -- The bracket stays, and what it opens holds no other one to take out.
        have closing : dropBracketed (']' :: rest.text) = ']' :: dropBracketed rest.text := by
          rw [dropBracketed, if_neg (by simp)]
        simp [closes, broken, dropBracketed_append unopened, closing]
      · simp [closes, broken, dropThroughClosing_append unclosed]

/-! ### The phrase of a sentence -/

theorem dropBracketed_toList {sentence : String} (wellFormed : (segments sentence).WellFormed) :
    dropBracketed sentence.toList = (segments sentence).leftover := by
  rw [← dropBracketed_text wellFormed, segments, text_readGap]

theorem identifier_of_wellFormed {sentence : String}
    (wellFormed : (segments sentence).WellFormed) :
    identifier sentence = identifierOfPhrase (String.ofList (segments sentence).leftover) := by
  rw [identifier_eq, dropBracketed_toList wellFormed, identifierOfPhrase, String.toList_ofList]

theorem keepsToLines_iff {sentence : String} :
    (segments sentence).KeepsToLines ↔ ∀ value ∈ placeholders sentence, '\n' ∉ value.toList := by
  simp [Segments.KeepsToLines, placeholders]

theorem identifier_eq_outside_iff {sentence : String}
    (wellFormed : (segments sentence).WellFormed) :
    identifier sentence = identifierOfPhrase (String.ofList (segments sentence).outside) ↔
      (segments sentence).KeepsToLines := by
  have visible : isWhitespace '[' = false := by decide
  rw [identifier_of_wellFormed wellFormed, identifierOfPhrase, identifierOfPhrase,
    String.ofList_inj, String.toList_ofList, String.toList_ofList]
  exact wellFormed.agrees_iff (mem_identifierCharacters_iff caseless_opening visible)

/-- A sentence with a placeholder for each opening bracket is stripped of those of them that
keep to one line. So the step is named by the text outside the placeholders just if no value
breaks the line, and then other values in their place leave the name as it is. -/
theorem stripped_eq_outside_iff {sentence : String}
    (counted : placeholderCount sentence = (arguments sentence).length) :
    let OneLine := fun text : String => ∀ value ∈ placeholders text, '\n' ∉ value.toList
    let pieces := segments sentence
    stripped sentence = String.ofList (Text.trim pieces.leftover) ∧
    identifier sentence = identifierOfPhrase (String.ofList pieces.leftover) ∧
    (stripped sentence = String.ofList (Text.trim pieces.outside) ↔ OneLine sentence) ∧
    (identifier sentence = identifierOfPhrase (String.ofList pieces.outside) ↔
      OneLine sentence) ∧
    (OneLine sentence → ∀ other : String,
      placeholderCount other = (arguments other).length → OneLine other →
      (segments other).outside = pieces.outside → identifier other = identifier sentence) := by
  intro OneLine pieces
  have wellFormed : pieces.WellFormed := placeholderCount_eq_length_arguments_iff.mp counted
  have strippedEq : stripped sentence = String.ofList (Text.trim pieces.leftover) := by
    rw [stripped, strippedCharacters, dropBracketed_toList wellFormed]
  refine ⟨strippedEq, identifier_of_wellFormed wellFormed, ?_, ?_, ?_⟩
  · rw [strippedEq, String.ofList_inj,
      wellFormed.agrees_iff fun _ => Text.mem_trim_iff (by decide), keepsToLines_iff]
  · rw [identifier_eq_outside_iff wellFormed, keepsToLines_iff]
  · intro oneLine other otherCounted otherOneLine same
    have otherWellFormed := placeholderCount_eq_length_arguments_iff.mp otherCounted
    rw [(identifier_eq_outside_iff otherWellFormed).mpr (keepsToLines_iff.mpr otherOneLine), same,
      (identifier_eq_outside_iff wellFormed).mpr (keepsToLines_iff.mpr oneLine)]

theorem stripped_eq_outside_iff_of_balance :
    let sentence := "user [Alice] has [100.0] dollars"
    placeholderCount sentence = (arguments sentence).length ∧
    stripped sentence = String.ofList (Text.trim "user  has  dollars".toList) ∧
    identifier sentence = identifierOfPhrase "user  has  dollars" := by
  have counted : placeholderCount "user [Alice] has [100.0] dollars" =
      (arguments "user [Alice] has [100.0] dollars").length := by decide +kernel
  have oneLine : ∀ value ∈ placeholders "user [Alice] has [100.0] dollars",
      '\n' ∉ value.toList := by decide +kernel
  rcases stripped_eq_outside_iff counted with ⟨_, _, strippedIff, identifierIff, _⟩
  exact ⟨counted, strippedIff.mpr oneLine, identifierIff.mpr oneLine⟩

/-- A value with a line break in it is an argument, and yet its words are in the identifier. -/
theorem identifier_of_broken_value :
    let sentence := "pay [a\nb] now"
    let outside := String.ofList (segments sentence).outside
    placeholderCount sentence = (arguments sentence).length ∧
    placeholders sentence = ["a\nb"] ∧
    stripped sentence ≠ String.ofList (Text.trim outside.toList) ∧
    identifier sentence ≠ identifierOfPhrase outside ∧
    identifier sentence = "pay[aB]Now" ∧ identifierOfPhrase outside = "payNow" := by
  decide +kernel

end Acceptance.Sentence
