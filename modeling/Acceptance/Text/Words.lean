import Acceptance.Unicode.Whitespace

namespace Acceptance.Text

open Acceptance.Unicode

/-! Texts between blanks. -/

def trimStart (text : List Char) : List Char :=
  text.dropWhile isWhitespace

def trimEnd (text : List Char) : List Char :=
  (trimStart text.reverse).reverse

def trim (text : List Char) : List Char :=
  trimEnd (trimStart text)

def consWord (word : List Char) (words : List (List Char)) : List (List Char) :=
  if word = [] then words else word :: words

/-- The word that runs up to the first blank, empty if the text starts with one, and the
words after it. -/
def leadingWord : List Char → List Char × List (List Char)
  | [] => ([], [])
  | character :: rest =>
      let later := leadingWord rest
      if isWhitespace character then
        ([], consWord later.1 later.2)
      else
        (character :: later.1, later.2)

/-- The longest runs of characters without a blank, in order. -/
def words (text : List Char) : List (List Char) :=
  consWord (leadingWord text).1 (leadingWord text).2

private theorem visible_leadingWord (text : List Char) :
    (∀ character ∈ (leadingWord text).1, isWhitespace character = false) ∧
      ∀ word ∈ (leadingWord text).2,
        word ≠ [] ∧ ∀ character ∈ word, isWhitespace character = false := by
  induction text with
  | nil => simp [leadingWord]
  | cons character rest induction =>
      rw [leadingWord]
      split
      · simp only [consWord]
        split
        · simpa using induction.2
        · rename_i nonempty
          simpa [nonempty] using induction
      · rename_i visible
        simpa [visible] using induction

theorem of_mem_words {text word : List Char} (member : word ∈ words text) :
    word ≠ [] ∧ ∀ character ∈ word, isWhitespace character = false := by
  have facts := visible_leadingWord text
  simp only [words, consWord] at member
  split at member
  · exact facts.2 word member
  · rename_i nonempty
    rcases List.mem_cons.mp member with equal | member
    · subst equal
      exact ⟨nonempty, facts.1⟩
    · exact facts.2 word member

example : words "  user has\tdollars ".toList =
    ["user".toList, "has".toList, "dollars".toList] := rfl

end Acceptance.Text
