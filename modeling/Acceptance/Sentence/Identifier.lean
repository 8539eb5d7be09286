import Acceptance.Sentence.Stripped
import Acceptance.Unicode.Case

namespace Acceptance.Sentence

open Acceptance.Unicode

/-! The identifier of a step: the words of its phrase joined in camel case. Only letters
change. The capital of the first word is lowered and that of every later word raised;
the rest of each word is lowered as a text of its own. -/

/-- A word with its first character mapped and the rest lowered. -/
def recaseWord (first : Char → List Char) : List Char → List Char
  | [] => []
  | character :: rest => first character ++ lowerText rest

def camelCase : List (List Char) → List Char
  | [] => []
  | word :: others =>
      recaseWord lowerCharacter word ++ others.flatMap (recaseWord upperCharacter)

def identifierCharacters (phrase : List Char) : List Char :=
  camelCase (Text.words phrase)

/-- The identifier of a phrase without placeholders. -/
def identifierOfPhrase (phrase : String) : String :=
  String.ofList (identifierCharacters phrase.toList)

def identifier (sentence : String) : String :=
  String.ofList (identifierCharacters (strippedCharacters sentence.toList))

example : identifierCharacters "Joe wants to create a profile".toList =
    "joeWantsToCreateAProfile".toList := by decide +kernel

end Acceptance.Sentence
