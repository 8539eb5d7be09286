import Acceptance.Unicode.CaseTable
import Acceptance.Unicode.CasedTable

namespace Acceptance.Unicode

/-! Lower and upper case. The image of one character may be several characters, and
the image of a text is that of its characters one by one, except that a capital
sigma at the end of a word is lowered to the final form of the letter. -/

namespace CaseRange

def image? (range : CaseRange) (code : Nat) : Option Nat :=
  if range.first ≤ code ∧ code ≤ range.last ∧ (code - range.first) % range.stride = 0 then
    some (code + range.offset).toNat
  else
    none

end CaseRange

/-- The image of a character under a case mapping given by its two tables. -/
def caseImage (ranges : List CaseRange) (expansions : List (Nat × List Nat))
    (character : Char) : List Char :=
  match expansions.lookup character.toNat with
  | some codes => codes.map Char.ofNat
  | none =>
      match ranges.findSome? fun range => range.image? character.toNat with
      | some code => [Char.ofNat code]
      | none => [character]

def lowerCharacter : Char → List Char :=
  caseImage lowerRanges lowerExpansions

def upperCharacter : Char → List Char :=
  caseImage upperRanges upperExpansions

example : upperCharacter 'ß' = ['S', 'S'] := by decide +kernel

def isCased (character : Char) : Bool :=
  inRanges casedRanges character

def isCaseIgnorable (character : Char) : Bool :=
  inRanges caseIgnorableRanges character

/-- Whether a cased letter comes first in the text, once marks are passed over. -/
def meetsCased (text : List Char) : Bool :=
  match text.dropWhile isCaseIgnorable with
  | [] => false
  | character :: _ => isCased character

/-- The lower-case form of a capital sigma between the characters before it, the
nearest one first, and those after it: final if the word ends there. -/
def lowerSigma (before after : List Char) : Char :=
  if meetsCased before && !meetsCased after then 'ς' else 'σ'

/-- The lower-case form of a text that follows `before`, the nearest character first. -/
def lowerAfter (before : List Char) : List Char → List Char
  | [] => []
  | character :: rest =>
      (if character = 'Σ' then [lowerSigma before rest] else lowerCharacter character) ++
        lowerAfter (character :: before) rest

def lowerText (text : List Char) : List Char :=
  lowerAfter [] text

example : lowerText "ΟΔΟΣ".toList = "οδος".toList := by decide +kernel
example : lowerText "ΣΟΦΙΑ".toList = "σοφια".toList := by decide +kernel

end Acceptance.Unicode
