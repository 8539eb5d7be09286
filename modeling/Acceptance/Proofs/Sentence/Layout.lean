import Acceptance.Proofs.Sentence.Stripped

namespace Acceptance.Sentence

open Acceptance.Unicode

/-! Sentences as people write them: words and placeholders with blanks between any two of
them. The words alone make the identifier and the placeholders alone the arguments. How
they are mingled and how far they stand apart makes no difference. -/

/-- A word of the phrase. A closing bracket may stray into it. -/
structure Word where
  characters : List Char
  nonempty : characters ≠ [] := by decide
  visible : Text.IsVisible characters := by decide
  unopened : '[' ∉ characters := by decide

/-- What a placeholder on a single line holds. -/
structure Value where
  characters : List Char
  isValue : Segments.IsValue characters := by decide
  oneLine : '\n' ∉ characters := by decide

structure Blanks where
  characters : List Char
  blank : Text.IsBlank characters := by decide

theorem Blanks.unopened (blanks : Blanks) : '[' ∉ blanks.characters :=
  Text.not_mem_of_isBlank blanks.blank (by decide)

inductive Piece where
  | word (word : Word)
  | placeholder (value : Value)

namespace Piece

def text : Piece → List Char
  | .word written => written.characters
  | .placeholder value => '[' :: value.characters ++ [']']

def word? : Piece → Option (List Char)
  | .word written => some written.characters
  | .placeholder _ => none

def value? : Piece → Option (List Char)
  | .word _ => none
  | .placeholder value => some value.characters

end Piece

/-- Pieces, each with the blanks after it, and the blanks before them all. Only the last
piece may have nothing after it. -/
structure Layout where
  before : Blanks
  pieces : List (Piece × Blanks)
  separated : ∀ piece ∈ pieces.dropLast, piece.2.characters ≠ [] := by decide

namespace Layout

def text (layout : Layout) : List Char :=
  layout.before.characters ++
    layout.pieces.flatMap fun piece => piece.1.text ++ piece.2.characters

def sentence (layout : Layout) : String :=
  String.ofList layout.text

def words (layout : Layout) : List (List Char) :=
  layout.pieces.filterMap fun piece => piece.1.word?

def values (layout : Layout) : List (List Char) :=
  layout.pieces.filterMap fun piece => piece.1.value?

end Layout

/-! ### The segments of a layout -/

/-- Words and blanks gather in the gaps. -/
def segmentsOfPieces : List (Piece × Blanks) → Segments
  | [] => .last []
  | (.word word, blanks) :: rest =>
      (segmentsOfPieces rest).prepend (word.characters ++ blanks.characters)
  | (.placeholder value, blanks) :: rest =>
      .placeholder [] value.characters ((segmentsOfPieces rest).prepend blanks.characters)

theorem text_segmentsOfPieces (pieces : List (Piece × Blanks)) :
    (segmentsOfPieces pieces).text =
      pieces.flatMap fun piece => piece.1.text ++ piece.2.characters := by
  induction pieces with
  | nil => rfl
  | cons piece rest induction =>
      rcases piece with ⟨word | value, blanks⟩ <;>
        simp [segmentsOfPieces, Segments.text, Piece.text, induction]

theorem values_segmentsOfPieces (pieces : List (Piece × Blanks)) :
    (segmentsOfPieces pieces).values = pieces.filterMap fun piece => piece.1.value? := by
  induction pieces with
  | nil => rfl
  | cons piece rest induction =>
      rcases piece with ⟨word | value, blanks⟩ <;>
        simp [segmentsOfPieces, Segments.values, Piece.value?, induction]

theorem wellFormed_segmentsOfPieces (pieces : List (Piece × Blanks)) :
    (segmentsOfPieces pieces).WellFormed := by
  induction pieces with
  | nil => simp [segmentsOfPieces, Segments.WellFormed]
  | cons piece rest induction =>
      rcases piece with ⟨word | value, blanks⟩
      · refine induction.prepend ?_
        rw [List.mem_append, not_or]
        exact ⟨word.unopened, blanks.unopened⟩
      · exact ⟨List.not_mem_nil, value.isValue, induction.prepend blanks.unopened⟩

/-- A word ends with its piece: a blank follows it or the sentence is over. -/
private theorem boundary_of_separated {piece : Piece × Blanks} {rest : List (Piece × Blanks)}
    (separated : ∀ other ∈ (piece :: rest).dropLast, other.2.characters ≠ []) :
    ∀ character ∈ (piece.2.characters ++ (segmentsOfPieces rest).outside).head?,
      isWhitespace character = true := by
  cases blanks : piece.2.characters with
  | nil =>
      cases rest with
      | nil => simp [segmentsOfPieces, Segments.outside]
      | cons next rest => exact absurd blanks (separated piece (by simp))
  | cons first others =>
      have blank := piece.2.blank first (by simp [blanks])
      simpa using blank

theorem words_outside_segmentsOfPieces {pieces : List (Piece × Blanks)}
    (separated : ∀ piece ∈ pieces.dropLast, piece.2.characters ≠ []) :
    Text.words (segmentsOfPieces pieces).outside =
      pieces.filterMap fun piece => piece.1.word? := by
  induction pieces with
  | nil => rfl
  | cons piece rest induction =>
      have boundary := boundary_of_separated separated
      have later := induction fun other member => separated other (by
        cases rest with
        | nil => cases member
        | cons next rest => exact List.mem_cons_of_mem _ member)
      rcases piece with ⟨word | value, blanks⟩
      · rw [segmentsOfPieces, Segments.outside_prepend, List.append_assoc,
          Text.words_append_of_boundary word.nonempty word.visible boundary,
          Text.words_append_left_of_blank blanks.blank, later]
        rfl
      · rw [segmentsOfPieces, Segments.outside, List.nil_append, Segments.outside_prepend,
          Text.words_append_left_of_blank blanks.blank, later]
        rfl

/-! ### The sentence of a layout -/

namespace Layout

variable (layout : Layout)

theorem segments_sentence :
    segments layout.sentence =
      (segmentsOfPieces layout.pieces).prepend layout.before.characters := by
  have wellFormed := (wellFormed_segmentsOfPieces layout.pieces).prepend layout.before.unopened
  refine segments_eq_of_text_eq wellFormed ?_
  rw [sentence, String.toList_ofList, Segments.text_prepend, text_segmentsOfPieces, text]

theorem wellFormed_segments_sentence : (segments layout.sentence).WellFormed := by
  rw [segments_sentence]
  exact (wellFormed_segmentsOfPieces layout.pieces).prepend layout.before.unopened

theorem values_segments_sentence : (segments layout.sentence).values = layout.values := by
  rw [segments_sentence, Segments.values_prepend, values_segmentsOfPieces, values]

theorem keepsToLines_segments_sentence : (segments layout.sentence).KeepsToLines := by
  rw [Segments.KeepsToLines, values_segments_sentence]
  intro characters member
  rcases List.mem_filterMap.mp member with ⟨⟨word | value, blanks⟩, _, found⟩
  · cases found
  · cases found
    exact value.oneLine

theorem identifier_sentence :
    identifier layout.sentence = String.ofList (camelCase layout.words) := by
  have outside : Text.words (segments layout.sentence).outside = layout.words := by
    rw [segments_sentence, Segments.outside_prepend,
      Text.words_append_left_of_blank layout.before.blank,
      words_outside_segmentsOfPieces layout.separated, words]
  rw [identifier_of_wellFormed layout.wellFormed_segments_sentence,
    Segments.leftover_eq_outside layout.keepsToLines_segments_sentence, identifierOfPhrase,
    String.toList_ofList, identifierCharacters, outside]

theorem arguments_sentence :
    arguments layout.sentence =
      layout.values.map fun value => Argument.infer (String.ofList value) := by
  rw [arguments, placeholders, values_segments_sentence, List.map_map]
  rfl

theorem placeholderCount_sentence :
    placeholderCount layout.sentence = (arguments layout.sentence).length :=
  placeholderCount_eq_length_arguments_iff.mpr layout.wellFormed_segments_sentence

end Layout

end Acceptance.Sentence
