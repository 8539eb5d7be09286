namespace Acceptance.Sentence

/-! A sentence cut at its placeholders.

A placeholder is a value in square brackets, as in `user [Alice] has [100.0] dollars`.
Its value is not empty and runs up to the first closing bracket, over line breaks and
over opening brackets alike. The text between placeholders is a gap. -/

inductive Segments where
  | last (gap : List Char)
  | placeholder (gap value : List Char) (rest : Segments)
deriving DecidableEq

namespace Segments

def text : Segments → List Char
  | .last gap => gap
  | .placeholder gap value rest => gap ++ '[' :: value ++ ']' :: rest.text

def values : Segments → List (List Char)
  | .last _ => []
  | .placeholder _ value rest => value :: rest.values

def outside : Segments → List Char
  | .last gap => gap
  | .placeholder gap _ rest => gap ++ rest.outside

def consGap (character : Char) : Segments → Segments
  | .last gap => .last (character :: gap)
  | .placeholder gap value rest => .placeholder (character :: gap) value rest

@[simp] theorem text_consGap (character : Char) (segments : Segments) :
    (segments.consGap character).text = character :: segments.text := by
  cases segments <;> rfl

@[simp] theorem values_consGap (character : Char) (segments : Segments) :
    (segments.consGap character).values = segments.values := by
  cases segments <;> rfl

@[simp] theorem outside_consGap (character : Char) (segments : Segments) :
    (segments.consGap character).outside = character :: segments.outside := by
  cases segments <;> rfl

end Segments

/-- Whether a bracket that opens before this text opens a placeholder. -/
def OpensPlaceholder (rest : List Char) : Prop :=
  rest.head? ≠ some ']' ∧ ']' ∈ rest

instance (rest : List Char) : Decidable (OpensPlaceholder rest) :=
  inferInstanceAs (Decidable (_ ∧ _))

/-! The sentence is read once from left to right. An opening bracket with no placeholder
after it is an ordinary character of its gap. -/

mutual

/-- Cut a text that starts in a gap. -/
def readGap : List Char → Segments
  | [] => .last []
  | character :: rest =>
      if character = '[' ∧ OpensPlaceholder rest then
        let later := readValue rest
        .placeholder [] later.1 later.2
      else
        (readGap rest).consGap character

/-- Cut a text that starts in a placeholder, into the value and what follows it. -/
def readValue : List Char → List Char × Segments
  | [] => ([], .last [])
  | character :: rest =>
      if character = ']' then
        ([], readGap rest)
      else
        let later := readValue rest
        (character :: later.1, later.2)

end

/-- Cutting loses nothing. After an opening bracket the closing one is put back, which is
there if the bracket opens a placeholder. -/
private theorem text_read (text : List Char) :
    (readGap text).text = text ∧
      (']' ∈ text → (readValue text).1 ++ ']' :: (readValue text).2.text = text) := by
  induction text with
  | nil => exact ⟨rfl, fun member => by cases member⟩
  | cons character rest induction =>
      constructor
      · rw [readGap]
        split
        · rename_i opening
          simp [Segments.text, induction.2 opening.2.2, opening.1]
        · rw [Segments.text_consGap, induction.1]
      · intro member
        rw [readValue]
        split
        · rename_i closing
          simp [closing, induction.1]
        · rename_i other
          have later : ']' ∈ rest := by
            simpa [Ne.symm other] using member
          simp [induction.2 later]

theorem text_readGap (text : List Char) : (readGap text).text = text :=
  (text_read text).1

def segments (sentence : String) : Segments :=
  readGap sentence.toList

def placeholders (sentence : String) : List String :=
  (segments sentence).values.map String.ofList

/-- The number of placeholders that were meant: one for every opening bracket. -/
def placeholderCount (sentence : String) : Nat :=
  sentence.toList.count '['

/-- An opening bracket inside a value belongs to the value. -/
example : (readGap "odd [a[b] one".toList).values = ["a[b".toList] := rfl

/-- An empty pair of brackets is no placeholder. -/
example : readGap "a [] b".toList = .last "a [] b".toList := rfl

end Acceptance.Sentence
