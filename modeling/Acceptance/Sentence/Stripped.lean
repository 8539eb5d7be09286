import Acceptance.Text.Words

namespace Acceptance.Sentence

/-! The part of a sentence that names its step: everything outside square brackets.

Brackets are matched more strictly and more loosely than placeholders are: they must
close on the line on which they open, but may enclose nothing. So a placeholder whose
value holds a line break is not removed. -/

/-- Whether a bracket that opens before this text closes on the same line: a closing
bracket comes before the first line break. -/
def closesOnLine : List Char → Bool
  | [] => false
  | character :: rest =>
      if character = ']' then
        true
      else if character = '\n' then
        false
      else
        closesOnLine rest

theorem closesOnLine_iff {rest : List Char} :
    closesOnLine rest = true ↔ ']' ∈ rest.takeWhile (· ≠ '\n') := by
  induction rest with
  | nil => simp [closesOnLine]
  | cons character rest induction =>
      by_cases closing : character = ']'
      · simp [closesOnLine, closing]
      · by_cases breaking : character = '\n'
        · simp [closesOnLine, breaking]
        · simp [closesOnLine, closing, breaking, induction, Ne.symm closing]

mutual

def dropBracketed : List Char → List Char
  | [] => []
  | character :: rest =>
      if character = '[' ∧ closesOnLine rest then
        dropThroughClosing rest
      else
        character :: dropBracketed rest

def dropThroughClosing : List Char → List Char
  | [] => []
  | character :: rest =>
      if character = ']' then
        dropBracketed rest
      else
        dropThroughClosing rest

end

def strippedCharacters (sentence : List Char) : List Char :=
  Text.trim (dropBracketed sentence)

def stripped (sentence : String) : String :=
  String.ofList (strippedCharacters sentence.toList)

example : strippedCharacters "user [Alice] logs in []".toList =
    "user  logs in".toList := rfl

/-- A pair of brackets with a line break inside is kept. -/
example : strippedCharacters "[a\nb] c".toList = "[a\nb] c".toList := rfl

end Acceptance.Sentence
