import Acceptance.Binary64.Basic

namespace Acceptance.Binary64

/-! Rounding an exact quotient to the nearest number, a tie going to the magnitude with
an even number. -/

/-- The whole number nearest to a quotient, the even one of two. -/
def roundHalfEven (numerator denominator : Nat) : Nat :=
  let quotient := numerator / denominator
  let remainder := numerator % denominator
  if 2 * remainder < denominator then
    quotient
  else if denominator < 2 * remainder then
    quotient + 1
  else
    quotient + quotient % 2

example : roundHalfEven 5 2 = 2 := rfl
example : roundHalfEven 7 2 = 4 := rfl

/-- The magnitude nearest to a quotient of units. The significand keeps 53 bits of the
whole part; one that rounds up to 54 bits is the first magnitude of the next exponent,
so no second normalisation is needed. The result may lie beyond the finite magnitudes. -/
def nearestMagnitude (numerator denominator : Nat) : Nat :=
  let exponent := Nat.log2 (numerator / denominator) - 52
  exponent * binade + roundHalfEven numerator (denominator * Nat.pow 2 exponent)

example : nearestMagnitude (units (1023 * binade + 1)) 1 = 1023 * binade + 1 := by
  decide +kernel

/-- The number nearest to a quotient of units. What rounds beyond the largest finite
magnitude is infinite. -/
def ofRatio (negative : Bool) (numerator denominator : Nat) : Binary64 :=
  let magnitude := nearestMagnitude numerator denominator
  if bounded : magnitude < finiteCount then
    .finite negative ⟨magnitude, bounded⟩
  else
    .infinite negative

end Acceptance.Binary64
