import Acceptance.Proofs.Sentence.Layout
import Acceptance.Signature

namespace Acceptance.Sentence

open Acceptance.Unicode

/-! How to write a sentence for a step. An identifier in camel case is cut before each of its
capitals, and its words are written as they stand; every kind of the signature gets a
placeholder that holds something of that kind. -/

/-! ### Cutting before capitals -/

/-- The text before the first capital, and the words that begin with a capital. -/
def cutAtCapitals : List Char → List Char × List (List Char)
  | [] => ([], [])
  | character :: rest =>
      let later := cutAtCapitals rest
      if character.isUpper then
        ([], (character :: later.1) :: later.2)
      else
        (character :: later.1, later.2)

example : cutAtCapitals "joeHasA2ndIBAN".toList =
    ("joe".toList, ["Has", "A2nd", "I", "B", "A", "N"].map String.toList) := rfl

theorem append_flatten_cutAtCapitals (text : List Char) :
    (cutAtCapitals text).1 ++ (cutAtCapitals text).2.flatten = text := by
  induction text with
  | nil => rfl
  | cons character rest induction =>
      rw [cutAtCapitals]
      cases character.isUpper <;> simp [induction]

theorem mem_of_mem_cutAtCapitals {text word : List Char}
    (member : word ∈ (cutAtCapitals text).1 :: (cutAtCapitals text).2) {character : Char}
    (inside : character ∈ word) : character ∈ text := by
  rw [← append_flatten_cutAtCapitals text, ← List.flatten_cons]
  exact List.mem_flatten.mpr ⟨word, member, inside⟩

/-- Characters that lowering keeps. -/
def IsSmall (text : List Char) : Prop :=
  ∀ character ∈ text, character.toNat < 128 ∧ character.isUpper = false

theorem isSmall_cutAtCapitals {text : List Char}
    (ascii : ∀ character ∈ text, character.toNat < 128) :
    IsSmall (cutAtCapitals text).1 ∧
      ∀ word ∈ (cutAtCapitals text).2, ∃ capital rest,
        word = capital :: rest ∧ capital.isUpper = true ∧ IsSmall rest := by
  induction text with
  | nil => simp [cutAtCapitals, IsSmall]
  | cons character rest induction =>
      rw [List.forall_mem_cons] at ascii
      rcases induction ascii.2 with ⟨first, others⟩
      rw [cutAtCapitals]
      cases capital : character.isUpper with
      | true =>
          refine ⟨by simp [IsSmall], ?_⟩
          rintro word (_ | ⟨_, member⟩)
          · exact ⟨character, _, rfl, capital, first⟩
          · exact others word member
      | false => exact ⟨List.forall_mem_cons.mpr ⟨⟨ascii.1, capital⟩, first⟩, others⟩

/-- Unless a text starts with a capital, none of the words it is cut into is empty. -/
theorem ne_nil_of_mem_cutAtCapitals {text : List Char} (nonempty : text ≠ [])
    (ascii : ∀ character ∈ text, character.toNat < 128)
    (small : ∀ character ∈ text.head?, character.isUpper = false) :
    ∀ word ∈ (cutAtCapitals text).1 :: (cutAtCapitals text).2, word ≠ [] := by
  rw [List.forall_mem_cons]
  constructor
  · cases text with
    | nil => exact absurd rfl nonempty
    | cons first rest =>
        rw [cutAtCapitals, if_neg (by simp [small first rfl])]
        exact List.cons_ne_nil _ _
  · intro word member
    rcases (isSmall_cutAtCapitals ascii).2 word member with ⟨_, _, rfl, -, -⟩
    exact List.cons_ne_nil _ _

/-! ### Words that keep their case -/

theorem IsSmall.isLoweredText {text : List Char} (small : IsSmall text) :
    IsLoweredText text :=
  fun character member => lowerCharacter_of_ascii (small character member).1
    (small character member).2

theorem recaseWord_upper_of_capital {capital : Char} {rest : List Char}
    (isCapital : capital.isUpper = true) (small : IsSmall rest) :
    recaseWord upperCharacter (capital :: rest) = capital :: rest := by
  rw [recaseWord_cons_of_isLoweredText small.isLoweredText, upperCharacter_of_isUpper isCapital]
  rfl

theorem camelCase_cutAtCapitals {text : List Char}
    (ascii : ∀ character ∈ text, character.toNat < 128) :
    camelCase ((cutAtCapitals text).1 :: (cutAtCapitals text).2) = text := by
  rcases isSmall_cutAtCapitals ascii with ⟨first, others⟩
  have kept : ∀ word ∈ (cutAtCapitals text).2, recaseWord upperCharacter word = word := by
    intro word member
    rcases others word member with ⟨capital, rest, rfl, isCapital, small⟩
    exact recaseWord_upper_of_capital isCapital small
  rw [camelCase, recaseWord_of_isLoweredText first.isLoweredText, List.flatMap_def,
    List.map_congr_left kept, List.map_id', append_flatten_cutAtCapitals]

/-! ### Sentences -/

/-- An identifier that sentences can be written for: ASCII characters that stand in a word
outside of brackets, the first of which is no capital. -/
structure Spellable (identifier : String) : Prop where
  nonempty : identifier ≠ ""
  ascii : ∀ character ∈ identifier.toList, character.toNat < 128
  visible : Text.IsVisible identifier.toList
  unopened : '[' ∉ identifier.toList
  small : ∀ character ∈ identifier.toList.head?, character.isUpper = false

-- As for blanks, the search for instances is kept from trying every character there is.

instance (identifier : String) : Decidable (Spellable identifier) :=
  have : Decidable (∀ character ∈ identifier.toList, character.toNat < 128) :=
    List.decidableBAll _ _
  have : Decidable (∀ character ∈ identifier.toList.head?, character.isUpper = false) :=
    Option.decidableForallMem _
  decidable_of_iff
    (identifier ≠ "" ∧ (∀ character ∈ identifier.toList, character.toNat < 128) ∧
      Text.IsVisible identifier.toList ∧ '[' ∉ identifier.toList ∧
      ∀ character ∈ identifier.toList.head?, character.isUpper = false)
    ⟨fun ⟨nonempty, ascii, visible, unopened, small⟩ =>
        ⟨nonempty, ascii, visible, unopened, small⟩,
      fun ⟨nonempty, ascii, visible, unopened, small⟩ =>
        ⟨nonempty, ascii, visible, unopened, small⟩⟩

/-- The pieces with a space after each. -/
def Layout.spaced (pieces : List Piece) : Layout where
  before := { characters := [] }
  pieces := pieces.map fun piece => (piece, { characters := [' '] })
  separated := by
    intro piece member
    rcases List.mem_map.mp (List.dropLast_subset _ member) with ⟨_, _, rfl⟩
    exact List.cons_ne_nil _ _

/-- What a placeholder of this kind may hold. -/
def Value.ofKind : Kind → Value
  | .numeric => { characters := ['0'] }
  | .text => { characters := ['a'] }

theorem kind_infer_ofKind (kind : Kind) :
    (Argument.infer (String.ofList (Value.ofKind kind).characters)).kind = kind := by
  cases kind <;> decide +kernel

theorem Spellable.exists_words {identifier : String} (spellable : Spellable identifier) :
    ∃ words : List Word, words.map Word.characters =
      (cutAtCapitals identifier.toList).1 :: (cutAtCapitals identifier.toList).2 := by
  have nonempty := ne_nil_of_mem_cutAtCapitals
    (mt String.toList_eq_nil_iff.mp spellable.nonempty) spellable.ascii spellable.small
  have written : ∀ text ∈ (cutAtCapitals identifier.toList).1 ::
      (cutAtCapitals identifier.toList).2, text ≠ [] ∧ Text.IsVisible text ∧ '[' ∉ text :=
    fun text member => ⟨nonempty text member,
      fun character inside =>
        spellable.visible character (mem_of_mem_cutAtCapitals member inside),
      fun inside => spellable.unopened (mem_of_mem_cutAtCapitals member inside)⟩
  refine ⟨List.pmap (fun text facts => ⟨text, facts.1, facts.2.1, facts.2.2⟩) _ written, ?_⟩
  simp [List.map_pmap]

theorem Spellable.exists_sentence {identifier : String} (spellable : Spellable identifier)
    (signature : Signature) :
    ∃ sentence, Sentence.identifier sentence = identifier ∧
      Sentence.signature sentence = signature ∧
      placeholderCount sentence = (arguments sentence).length := by
  rcases spellable.exists_words with ⟨words, spelled⟩
  let layout := Layout.spaced (words.map .word ++
    signature.map fun kind => .placeholder (Value.ofKind kind))
  have sameWords : layout.words = words.map Word.characters := by
    simp [layout, Layout.words, Layout.spaced, Piece.word?, Function.comp_def]
  have sameValues : layout.values =
      signature.map fun kind => (Value.ofKind kind).characters := by
    simp [layout, Layout.values, Layout.spaced, Piece.value?, Function.comp_def]
  refine ⟨layout.sentence, ?_, ?_, layout.placeholderCount_sentence⟩
  · rw [layout.identifier_sentence, sameWords, spelled, camelCase_cutAtCapitals spellable.ascii,
      String.ofList_toList]
  · rw [Sentence.signature, layout.arguments_sentence, sameValues]
    simp [kind_infer_ofKind, Function.comp_def]

end Acceptance.Sentence
