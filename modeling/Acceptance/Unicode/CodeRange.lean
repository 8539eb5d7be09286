namespace Acceptance.Unicode

/-! A property of characters is given as a list of code point intervals. -/

/-- The code points from `first` to `last`, both included. -/
structure CodeRange where
  first : Nat
  last : Nat

namespace CodeRange

def Contains (range : CodeRange) (code : Nat) : Prop :=
  range.first ≤ code ∧ code ≤ range.last

instance (range : CodeRange) (code : Nat) : Decidable (range.Contains code) :=
  inferInstanceAs (Decidable (_ ∧ _))

end CodeRange

def inRanges (ranges : List CodeRange) (character : Char) : Bool :=
  ranges.any fun range => range.Contains character.toNat

theorem inRanges_eq_true_iff {ranges : List CodeRange} {character : Char} :
    inRanges ranges character = true ↔
      ∃ range ∈ ranges, range.Contains character.toNat := by
  simp [inRanges]

end Acceptance.Unicode
