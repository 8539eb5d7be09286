import Acceptance.Unicode.CodeRange

namespace Acceptance.Unicode

/-! Blank characters: the property `White_Space`. It holds the five ASCII controls
from tab to carriage return, the spaces, and the line and paragraph separators. -/

def whitespaceRanges : List CodeRange :=
  [⟨0x0009, 0x000D⟩, ⟨0x0020, 0x0020⟩, ⟨0x0085, 0x0085⟩, ⟨0x00A0, 0x00A0⟩, ⟨0x1680, 0x1680⟩,
   ⟨0x2000, 0x200A⟩, ⟨0x2028, 0x2029⟩, ⟨0x202F, 0x202F⟩, ⟨0x205F, 0x205F⟩, ⟨0x3000, 0x3000⟩]

def isWhitespace (character : Char) : Bool :=
  inRanges whitespaceRanges character

example : isWhitespace '\u00a0' = true := rfl
example : isWhitespace '\u200b' = false := rfl

end Acceptance.Unicode
