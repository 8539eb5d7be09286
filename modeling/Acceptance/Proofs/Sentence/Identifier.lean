import Acceptance.Proofs.Text.Words
import Acceptance.Proofs.Unicode.Lower
import Acceptance.Sentence.Identifier

namespace Acceptance.Sentence

open Acceptance.Unicode

/-! An identifier comes from the words of its phrase. The blanks around them leave no mark
on it, and neither does the case in which their ASCII letters are written. Read as a phrase,
an identifier is a single word, whose capitals do not outlive the reading. -/

@[simp] theorem identifierCharacters_trim (phrase : List Char) :
    identifierCharacters (Text.trim phrase) = identifierCharacters phrase := by
  rw [identifierCharacters, Text.words_trim, identifierCharacters]

theorem identifier_eq (sentence : String) :
    identifier sentence =
      String.ofList (identifierCharacters (dropBracketed sentence.toList)) := by
  rw [identifier, strippedCharacters, identifierCharacters_trim]

theorem identifierCharacters_eq_nil_iff {phrase : List Char} :
    identifierCharacters phrase = [] ↔ Text.IsBlank phrase := by
  rw [← Text.words_eq_nil_iff, identifierCharacters]
  cases listed : Text.words phrase with
  | nil => simp [camelCase]
  | cons word others =>
      cases word with
      | nil => exact absurd rfl (Text.of_mem_words (listed ▸ List.mem_cons_self)).1
      | cons first rest => simp [camelCase, recaseWord, lowerCharacter_ne_nil]

/-- A sentence has no name if nothing but blanks is left of it once it is stripped. -/
theorem identifier_eq_empty_iff {sentence : String} :
    identifier sentence = "" ↔ stripped sentence = "" := by
  rw [identifier_eq, stripped, strippedCharacters, String.ofList_eq_empty_iff,
    String.ofList_eq_empty_iff, identifierCharacters_eq_nil_iff, Text.trim_eq_nil_iff]

/-! ### The case of ASCII letters -/

private theorem meetsCased_map_toLower (text : List Char) :
    meetsCased (text.map Char.toLower) = meetsCased text := by
  have ignorable : isCaseIgnorable ∘ Char.toLower = isCaseIgnorable :=
    funext isCaseIgnorable_toLower
  rw [meetsCased, meetsCased, List.dropWhile_map, ignorable]
  cases text.dropWhile isCaseIgnorable with
  | nil => rfl
  | cons character rest => exact isCased_toLower character

private theorem lowerAfter_map_toLower (before text : List Char) :
    lowerAfter (before.map Char.toLower) (text.map Char.toLower) = lowerAfter before text := by
  induction text generalizing before with
  | nil => rfl
  | cons character rest induction =>
      have later := induction (character :: before)
      rw [List.map_cons] at later
      rw [List.map_cons, lowerAfter, later, lowerAfter, lowerCharacter_toLower, lowerSigma,
        lowerSigma, meetsCased_map_toLower, meetsCased_map_toLower]
      simp only [toLower_eq_sigma_iff]

private theorem recaseWord_map_toLower {first : Char → List Char}
    (caseFree : ∀ character, first character.toLower = first character) (word : List Char) :
    recaseWord first (word.map Char.toLower) = recaseWord first word := by
  cases word with
  | nil => rfl
  | cons character rest =>
      have tail := lowerAfter_map_toLower [] rest
      rw [List.map_nil] at tail
      rw [List.map_cons, recaseWord, recaseWord, caseFree, lowerText, lowerText, tail]

theorem camelCase_map_toLower (words : List (List Char)) :
    camelCase (words.map (List.map Char.toLower)) = camelCase words := by
  cases words with
  | nil => rfl
  | cons word others =>
      rw [List.map_cons, camelCase, camelCase, recaseWord_map_toLower lowerCharacter_toLower,
        List.flatMap_map]
      simp only [recaseWord_map_toLower upperCharacter_toLower]

/-! ### Characters without case

A character that has no case is in an identifier just if it is in the phrase. -/

section Caseless

variable {character : Char} (caseless : Caseless character)
include caseless

private theorem mem_lowerAfter_iff (before text : List Char) :
    character ∈ lowerAfter before text ↔ character ∈ text := by
  induction text generalizing before with
  | nil => rfl
  | cons other rest induction =>
      have first : character ∈ (if other = 'Σ' then [lowerSigma before rest]
          else lowerCharacter other) ↔ character = other := by
        split
        case isTrue sigma =>
          rcases caseless.ne_sigma with ⟨capital, middle, final⟩
          rw [List.mem_singleton, lowerSigma, sigma]
          split <;> simp [capital, middle, final]
        case isFalse => rw [caseless.mem_lowerCharacter_iff, eq_comm]
      rw [lowerAfter, List.mem_append, first, induction, List.mem_cons]

private theorem mem_recaseWord_iff {first : Char → List Char}
    (kept : ∀ {other}, character ∈ first other ↔ other = character) (word : List Char) :
    character ∈ recaseWord first word ↔ character ∈ word := by
  cases word with
  | nil => rfl
  | cons other rest =>
      rw [recaseWord, List.mem_append, kept, lowerText, mem_lowerAfter_iff caseless,
        List.mem_cons, eq_comm]

theorem mem_camelCase_iff (words : List (List Char)) :
    character ∈ camelCase words ↔ character ∈ words.flatten := by
  cases words with
  | nil => rfl
  | cons word others =>
      rw [camelCase, List.mem_append,
        mem_recaseWord_iff caseless caseless.mem_lowerCharacter_iff, List.flatten_cons,
        List.mem_append, List.mem_flatMap, List.mem_flatten]
      simp only [mem_recaseWord_iff caseless caseless.mem_upperCharacter_iff]

theorem mem_identifierCharacters_iff (visible : isWhitespace character = false)
    (phrase : List Char) :
    character ∈ identifierCharacters phrase ↔ character ∈ phrase := by
  rw [identifierCharacters, mem_camelCase_iff caseless, Text.mem_flatten_words_iff visible]

end Caseless

/-! ### What is in no identifier

Blanks are without case, so those of a phrase would have to be in one of its words. -/

theorem isVisible_identifierCharacters (phrase : List Char) :
    Text.IsVisible (identifierCharacters phrase) := by
  intro character member
  rw [Bool.eq_false_iff]
  intro blank
  rw [identifierCharacters, mem_camelCase_iff (caseless_of_isWhitespace blank),
    List.mem_flatten] at member
  rcases member with ⟨word, listed, member⟩
  rw [(Text.of_mem_words listed).2 character member] at blank
  cases blank

theorem isUpper_head_identifierCharacters (phrase : List Char) :
    ∀ character ∈ (identifierCharacters phrase).head?, character.isUpper = false := by
  rw [identifierCharacters]
  cases listed : Text.words phrase with
  | nil => simp [camelCase]
  | cons word others =>
      cases word with
      | nil => exact absurd rfl (Text.of_mem_words (listed ▸ List.mem_cons_self)).1
      | cons first rest =>
          rw [camelCase, recaseWord, List.append_assoc]
          cases lowered : lowerCharacter first with
          | nil => exact absurd lowered (lowerCharacter_ne_nil first)
          | cons head tail =>
              rintro character ⟨⟩
              exact isUpper_of_mem_lowerCharacter (lowered ▸ List.mem_cons_self)

/-! ### Words that keep their case -/

theorem recaseWord_cons_of_isLoweredText {rest : List Char} (lowered : IsLoweredText rest)
    (first : Char → List Char) (character : Char) :
    recaseWord first (character :: rest) = first character ++ rest := by
  rw [recaseWord, lowerText, lowerAfter_of_isLoweredText lowered]

theorem recaseWord_of_isLoweredText {word : List Char} (lowered : IsLoweredText word) :
    recaseWord lowerCharacter word = word := by
  cases word with
  | nil => rfl
  | cons first rest =>
      rw [IsLoweredText, List.forall_mem_cons] at lowered
      rw [recaseWord_cons_of_isLoweredText lowered.2, lowered.1]
      rfl

theorem isLoweredText_recaseWord (word : List Char) :
    IsLoweredText (recaseWord lowerCharacter word) := by
  cases word with
  | nil => simp [recaseWord, IsLoweredText]
  | cons first rest =>
      rw [recaseWord, IsLoweredText, List.forall_mem_append]
      exact ⟨fun _ member => isLowered_of_mem_lowerCharacter member,
        isLoweredText_lowerAfter [] rest⟩

/-! ### Identifiers read as phrases -/

theorem identifierCharacters_of_isVisible {word : List Char} (visible : Text.IsVisible word) :
    identifierCharacters word = recaseWord lowerCharacter word := by
  cases word with
  | nil => rfl
  | cons first rest =>
      have single : Text.words ((first :: rest) ++ []) = [first :: rest] :=
        Text.words_append_of_boundary (List.cons_ne_nil _ _) visible (by simp)
      rw [List.append_nil] at single
      rw [identifierCharacters, single, camelCase, List.flatMap_nil, List.append_nil]

/-- A second reading lowers all of an identifier. -/
theorem isLoweredText_identifierCharacters_twice (phrase : List Char) :
    IsLoweredText (identifierCharacters (identifierCharacters phrase)) := by
  rw [identifierCharacters_of_isVisible (isVisible_identifierCharacters phrase)]
  exact isLoweredText_recaseWord _

theorem identifierCharacters_of_isLoweredText {text : List Char}
    (visible : Text.IsVisible text) (lowered : IsLoweredText text) :
    identifierCharacters text = text := by
  rw [identifierCharacters_of_isVisible visible, recaseWord_of_isLoweredText lowered]

/-- No identifier holds a blank, and only that of a blank phrase is empty. The identifier of
an identifier is its own identifier. -/
theorem identifier_stabilizes (phrase : String) :
    (∀ character ∈ (identifierOfPhrase phrase).toList, isWhitespace character = false) ∧
    (identifierOfPhrase phrase = "" ↔
      ∀ character ∈ phrase.toList, isWhitespace character = true) ∧
    identifierOfPhrase (identifierOfPhrase (identifierOfPhrase phrase)) =
      identifierOfPhrase (identifierOfPhrase phrase) := by
  have visible := isVisible_identifierCharacters phrase.toList
  have lowered := isLoweredText_identifierCharacters_twice phrase.toList
  refine ⟨?_, ?_, ?_⟩
  · rw [identifierOfPhrase, String.toList_ofList]
    exact visible
  · rw [identifierOfPhrase, String.ofList_eq_empty_iff]
    exact identifierCharacters_eq_nil_iff
  · simp only [identifierOfPhrase, String.toList_ofList]
    rw [identifierCharacters_of_isLoweredText (isVisible_identifierCharacters _) lowered]

/-- The first reading leaves a capital that the second loses. -/
example : identifierCharacters "the balance".toList = "theBalance".toList ∧
    identifierCharacters "theBalance".toList = "thebalance".toList := by decide +kernel

end Acceptance.Sentence
