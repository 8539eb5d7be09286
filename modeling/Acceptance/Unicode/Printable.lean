import Acceptance.Unicode.PrintableTable

namespace Acceptance.Unicode

/-! Which characters can stand for themselves where a text is shown. -/

def isExtendingMark (character : Char) : Bool :=
  inRanges extendingMarkRanges character

def isFiller (character : Char) : Bool :=
  inRanges fillerRanges character

def isUnprintable (character : Char) : Bool :=
  inRanges unprintableRanges character

/-- A character that would be invisible, or would merge with the one before it. -/
def needsCodePoint (character : Char) : Bool :=
  isExtendingMark character || isFiller character || isUnprintable character

example : needsCodePoint '\u0301' = true := by decide +kernel

/-- The halfwidth voiced sound mark is a letter of its own width, so it stays. -/
example : needsCodePoint '\uff9e' = false := by decide +kernel

end Acceptance.Unicode
