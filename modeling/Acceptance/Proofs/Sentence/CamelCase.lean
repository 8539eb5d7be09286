import Mathlib.Logic.ExistsUnique
import Acceptance.Proofs.Sentence.Spelling

namespace Acceptance.Sentence

open Acceptance.Unicode

/-! Camel case loses nothing of words that are written in plain letters: each capital marks
where a word begins, so the words can be read off the identifier again. -/

/-! ### Cutting what was joined -/

theorem cutAtCapitals_append {start : List Char} (small : IsSmall start) (rest : List Char) :
    cutAtCapitals (start ++ rest) =
      (start ++ (cutAtCapitals rest).1, (cutAtCapitals rest).2) := by
  induction start with
  | nil => rfl
  | cons character start induction =>
      rw [IsSmall, List.forall_mem_cons] at small
      rw [List.cons_append, cutAtCapitals, induction small.2, if_neg (by simp [small.1.2])]
      rfl

theorem cutAtCapitals_flatten {words : List (List Char)}
    (capitalized : ∀ word ∈ words, ∃ capital rest,
      word = capital :: rest ∧ capital.isUpper = true ∧ IsSmall rest) :
    cutAtCapitals words.flatten = ([], words) := by
  induction words with
  | nil => rfl
  | cons word others induction =>
      rw [List.forall_mem_cons] at capitalized
      rcases capitalized with ⟨⟨capital, rest, rfl, isCapital, small⟩, later⟩
      rw [List.flatten_cons, List.cons_append, cutAtCapitals, if_pos isCapital,
        cutAtCapitals_append small, induction later, List.append_nil]

/-! ### Plain words -/

/-- A word of small ASCII letters. -/
structure IsPlain (word : List Char) : Prop where
  nonempty : word ≠ []
  small : ∀ character ∈ word, character.isLower = true

def capitalize : List Char → List Char
  | [] => []
  | first :: rest => first.toUpper :: rest

theorem isSmall_of_isLower {text : List Char}
    (letters : ∀ character ∈ text, character.isLower = true) : IsSmall text := by
  intro character member
  have small := letters character member
  have code := isLower_iff.mp small
  exact ⟨by omega, isUpper_of_isLower small⟩

theorem IsPlain.isSmall {word : List Char} (plain : IsPlain word) : IsSmall word :=
  isSmall_of_isLower plain.small

namespace IsPlain

variable {word : List Char} (plain : IsPlain word)
include plain

theorem isVisible : Text.IsVisible word := by
  intro character member
  apply isWhitespace_of_isAlpha
  exact isAlpha_iff.mpr (.inr (plain.small character member))

theorem exists_capital : ∃ capital rest,
    capitalize word = capital :: rest ∧ capital.isUpper = true ∧ IsSmall rest := by
  cases word with
  | nil => exact absurd rfl plain.nonempty
  | cons first rest =>
      have small := List.forall_mem_cons.mp plain.small
      exact ⟨_, _, rfl, (toUpper_of_isLower small.1).1, isSmall_of_isLower small.2⟩

theorem recaseWord_upper : recaseWord upperCharacter word = capitalize word := by
  cases word with
  | nil => rfl
  | cons first rest =>
      have small := List.forall_mem_cons.mp plain.small
      have letter := toUpper_of_isLower small.1
      have raised : upperCharacter first = [first.toUpper] := by
        calc upperCharacter first
          _ = upperCharacter first.toUpper.toLower := by rw [letter.2]
          _ = upperCharacter first.toUpper := upperCharacter_toLower _
          _ = [first.toUpper] := upperCharacter_of_isUpper letter.1
      rw [recaseWord_cons_of_isLoweredText (isSmall_of_isLower small.2).isLoweredText, raised]
      rfl

theorem map_toLower : word.map Char.toLower = word := by
  have each : ∀ character ∈ word, character.toLower = id character := fun character member =>
    toLower_of_isUpper_eq_false (isUpper_of_isLower (plain.small character member))
  rw [List.map_congr_left each, List.map_id]

theorem map_toLower_capitalize : (capitalize word).map Char.toLower = word := by
  cases word with
  | nil => rfl
  | cons first rest =>
      have lowered := plain.map_toLower
      rw [List.map_cons, List.cons.injEq] at lowered
      have small := List.forall_mem_cons.mp plain.small
      rw [capitalize, List.map_cons, (toUpper_of_isLower small.1).2, lowered.2]

end IsPlain

theorem toNat_lt_of_isAlpha {text : List Char}
    (letters : ∀ character ∈ text, character.isAlpha = true) :
    ∀ character ∈ text, character.toNat < 128 :=
  fun character member =>
    Nat.lt_of_le_of_lt (toNat_of_isAlpha (letters character member)).2 (by decide)

/-- Lowering the letters of a word makes it plain. -/
theorem isPlain_map_toLower {word : List Char} (nonempty : word ≠ [])
    (letters : ∀ character ∈ word, character.isAlpha = true) :
    IsPlain (word.map Char.toLower) where
  nonempty := by simpa using nonempty
  small := List.forall_mem_map.mpr fun character member =>
    isLower_toLower (letters character member)

/-! ### Joining and reading back -/

/-- The words that an identifier is joined from, in small letters. -/
def joinedWords (text : List Char) : List (List Char) :=
  if text = [] then
    []
  else
    ((cutAtCapitals text).1 :: (cutAtCapitals text).2).map (List.map Char.toLower)

theorem camelCase_cons_of_isPlain {word : List Char} {others : List (List Char)}
    (plain : IsPlain word) (othersPlain : ∀ other ∈ others, IsPlain other) :
    camelCase (word :: others) = word ++ (others.map capitalize).flatten := by
  have raised : ∀ other ∈ others, recaseWord upperCharacter other = capitalize other :=
    fun other member => (othersPlain other member).recaseWord_upper
  rw [camelCase, recaseWord_of_isLoweredText plain.isSmall.isLoweredText, List.flatMap_def,
    List.map_congr_left raised]

theorem joinedWords_camelCase {words : List (List Char)}
    (plain : ∀ word ∈ words, IsPlain word) : joinedWords (camelCase words) = words := by
  cases words with
  | nil => rfl
  | cons word others =>
      rw [List.forall_mem_cons] at plain
      rcases plain with ⟨plain, othersPlain⟩
      have capitalized : ∀ other ∈ others.map capitalize, ∃ capital rest,
          other = capital :: rest ∧ capital.isUpper = true ∧ IsSmall rest :=
        List.forall_mem_map.mpr fun other member => (othersPlain other member).exists_capital
      have nonempty : word ++ (others.map capitalize).flatten ≠ [] := by
        simp [plain.nonempty]
      have lowered : ∀ other ∈ others, (capitalize other).map Char.toLower = id other :=
        fun other member => (othersPlain other member).map_toLower_capitalize
      rw [camelCase_cons_of_isPlain plain othersPlain, joinedWords, if_neg nonempty,
        cutAtCapitals_append plain.isSmall, cutAtCapitals_flatten capitalized,
        List.append_nil, List.map_cons, plain.map_toLower, List.map_map]
      exact congrArg _ ((List.map_congr_left lowered).trans (List.map_id _))

theorem camelCase_joinedWords {text : List Char}
    (letters : ∀ character ∈ text, character.isAlpha = true) :
    camelCase (joinedWords text) = text := by
  rw [joinedWords]
  split
  case isTrue empty => rw [empty]; rfl
  case isFalse =>
    rw [camelCase_map_toLower, camelCase_cutAtCapitals (toNat_lt_of_isAlpha letters)]

theorem isPlain_of_mem_joinedWords {text : List Char}
    (letters : ∀ character ∈ text, character.isAlpha = true)
    (small : ∀ character ∈ text.head?, character.isLower = true) :
    ∀ word ∈ joinedWords text, IsPlain word := by
  cases text with
  | nil => simp [joinedWords]
  | cons first rest =>
      have nonempty := ne_nil_of_mem_cutAtCapitals (List.cons_ne_nil first rest)
        (toNat_lt_of_isAlpha letters)
        (fun character member => isUpper_of_isLower (small character member))
      rw [joinedWords, if_neg (List.cons_ne_nil _ _), List.forall_mem_map]
      intro word member
      apply isPlain_map_toLower (nonempty word member)
      intro character inside
      exact letters character (mem_of_mem_cutAtCapitals member inside)

/-! ### Phrases of plain letters -/

theorem identifierOfPhrase_intercalate {words : List String}
    (plain : ∀ word ∈ words, IsPlain word.toList) :
    identifierOfPhrase (" ".intercalate words) =
      String.ofList (camelCase (words.map String.toList)) := by
  have written : ∀ word ∈ words.map String.toList, word ≠ [] ∧ Text.IsVisible word :=
    List.forall_mem_map.mpr fun word member =>
      ⟨(plain word member).nonempty, (plain word member).isVisible⟩
  have spaced : (" ".intercalate words).toList = [' '].intercalate (words.map String.toList) :=
    String.toList_intercalate
  rw [identifierOfPhrase, identifierCharacters, spaced, Text.words_intercalate_space written]

/-- Letters and blanks, and nothing else. -/
def IsLettered (phrase : String) : Prop :=
  ∀ character ∈ phrase.toList, character.isAlpha = true ∨ isWhitespace character = true

instance (phrase : String) : Decidable (IsLettered phrase) :=
  List.decidableBAll _ phrase.toList

/-- The words of a phrase in small letters. -/
def loweredWords (phrase : String) : List (List Char) :=
  (Text.words phrase.toList).map (List.map Char.toLower)

theorem identifierOfPhrase_eq_loweredWords (phrase : String) :
    identifierOfPhrase phrase = String.ofList (camelCase (loweredWords phrase)) := by
  rw [identifierOfPhrase, identifierCharacters, loweredWords, camelCase_map_toLower]

namespace IsLettered

variable {phrase : String} (lettered : IsLettered phrase)
include lettered

theorem isPlain_of_mem_loweredWords : ∀ word ∈ loweredWords phrase, IsPlain word := by
  rw [loweredWords, List.forall_mem_map]
  intro word member
  rcases Text.of_mem_words member with ⟨nonempty, visible⟩
  refine isPlain_map_toLower nonempty fun character inside => ?_
  have within : character ∈ phrase.toList :=
    (Text.mem_flatten_words_iff (visible character inside)).mp
      (List.mem_flatten.mpr ⟨word, member, inside⟩)
  refine (lettered character within).resolve_right fun blank => ?_
  rw [visible character inside] at blank
  cases blank

theorem identifier_eq_identifierOfPhrase : identifier phrase = identifierOfPhrase phrase := by
  have unopened : '[' ∉ phrase.toList := fun member =>
    absurd (lettered '[' member) (by decide)
  rw [identifier_eq, dropBracketed_of_unopened unopened, identifierOfPhrase]

end IsLettered

/-- Every name of letters that starts with a small one comes from just one list of plain
words. Phrases of letters and blanks have the same identifier if and only if they have the
same words, up to letter case; so have sentences, since nothing is stripped off them. -/
theorem camelCase_faithful :
    (∀ name : String, (∀ character ∈ name.toList, character.isAlpha = true) →
      (∃ first ∈ name.toList.head?, first.isLower = true) →
        ∃! words : List String, (∀ word ∈ words, IsPlain word.toList) ∧
          identifierOfPhrase (" ".intercalate words) = name) ∧
    ∀ left right : String, IsLettered left → IsLettered right →
      (identifierOfPhrase left = identifierOfPhrase right ↔
        loweredWords left = loweredWords right) ∧
      (identifier left = identifier right ↔ loweredWords left = loweredWords right) := by
  constructor
  · intro name letters starts
    have small : ∀ character ∈ name.toList.head?, character.isLower = true := by
      rcases starts with ⟨first, head, isSmall⟩
      intro character member
      rwa [← Option.mem_unique head member]
    have plain := isPlain_of_mem_joinedWords letters small
    refine ⟨(joinedWords name.toList).map String.ofList, ⟨?plain, ?joined⟩, ?unique⟩
    case plain => simpa using plain
    case joined =>
      rw [identifierOfPhrase_intercalate (by simpa using plain), List.map_map]
      simp [Function.comp_def, camelCase_joinedWords letters]
    case unique =>
      rintro words ⟨wordsPlain, rfl⟩
      have listed : ∀ word ∈ words.map String.toList, IsPlain word :=
        List.forall_mem_map.mpr wordsPlain
      rw [identifierOfPhrase_intercalate wordsPlain, String.toList_ofList,
        joinedWords_camelCase listed, List.map_map]
      simp [Function.comp_def]
  · intro left right leftLettered rightLettered
    have same : identifierOfPhrase left = identifierOfPhrase right ↔
        loweredWords left = loweredWords right := by
      rw [identifierOfPhrase_eq_loweredWords, identifierOfPhrase_eq_loweredWords,
        String.ofList_inj]
      refine ⟨fun joined => ?_, congrArg camelCase⟩
      rw [← joinedWords_camelCase leftLettered.isPlain_of_mem_loweredWords, joined,
        joinedWords_camelCase rightLettered.isPlain_of_mem_loweredWords]
    rw [leftLettered.identifier_eq_identifierOfPhrase,
      rightLettered.identifier_eq_identifierOfPhrase]
    exact ⟨same, same⟩

/-- Capitals side by side are words of one letter, and the blanks between words count. -/
theorem camelCase_faithful_log_in :
    (∃! words : List String, (∀ word ∈ words, IsPlain word.toList) ∧
      identifierOfPhrase (" ".intercalate words) = "userHasAnIBAN") ∧
    IsLettered "He  LOGS\tin" ∧ IsLettered "he logs\u00a0In " ∧ IsLettered "he login" ∧
    identifier "He  LOGS\tin" = identifier "he logs\u00a0In " ∧
    identifier "He  LOGS\tin" ≠ identifier "he login" := by
  have first : IsLettered "He  LOGS\tin" := by decide +kernel
  have second : IsLettered "he logs\u00a0In " := by decide +kernel
  have third : IsLettered "he login" := by decide +kernel
  have letters : "userHasAnIBAN".toList.all Char.isAlpha = true := by decide +kernel
  refine ⟨camelCase_faithful.1 _ (List.all_eq_true.mp letters) ⟨'u', rfl, by decide⟩,
    first, second, third, ?_, ?_⟩
  · exact (camelCase_faithful.2 _ _ first second).2.mpr (by decide +kernel)
  · rw [ne_eq, (camelCase_faithful.2 _ _ first third).2]
    decide +kernel

end Acceptance.Sentence
