import Acceptance.Binary64.Basic

namespace Acceptance.Binary64

/-! The fewest decimal digits that read back as the same magnitude.

The numbers nearest to a magnitude reach halfway to its two neighbours, the ends
included if the magnitude is even. All of them are compared exactly, as whole multiples
of `10^-1074`: one unit is `5^1074` of these. -/

/-- One unit as a multiple of `10^-1074`. -/
def decimalUnit : Nat :=
  Nat.pow 5 1074

def scaled (magnitude : Nat) : Nat :=
  units magnitude * decimalUnit

/-- Whether the decimal `value * 10^-1074` reads back as the magnitude, which is not
zero: twice the value lies between the sums with either neighbour. -/
def ReadsBack (magnitude value : Nat) : Prop :=
  let low := (units (magnitude - 1) + units magnitude) * decimalUnit
  let high := (units magnitude + units (magnitude + 1)) * decimalUnit
  (low < 2 * value ∧ 2 * value < high) ∨
    (magnitude % 2 = 0 ∧ (2 * value = low ∨ 2 * value = high))

instance (magnitude value : Nat) : Decidable (ReadsBack magnitude value) :=
  inferInstanceAs (Decidable (_ ∨ _))

/-- The coefficient of the multiple of `10^place` that reads back, if there is one: the
nearest of the two multiples around the magnitude, the upper one of a tie. -/
def coefficientAt? (magnitude place : Nat) : Option Nat :=
  let step := Nat.pow 10 place
  let lower := scaled magnitude / step
  let remainder := scaled magnitude % step
  let lowerFits := ReadsBack magnitude (lower * step)
  let upperFits := ReadsBack magnitude ((lower + 1) * step)
  if upperFits ∧ (¬lowerFits ∨ step ≤ 2 * remainder) then
    some (lower + 1)
  else if lowerFits then
    some lower
  else
    none

/-- The coarsest place, from the given one downward, for which there is a coefficient, and this
coefficient. At place zero there always is one. -/
def coarsestPlace (coefficient? : Nat → Option Nat) (whole : Nat) : Nat → Nat × Nat
  | 0 => (whole, 0)
  | place + 1 =>
      match coefficient? (place + 1) with
      | some coefficient => (coefficient, place + 1)
      | none => coarsestPlace coefficient? whole place

/-- The coarsest place with a multiple that reads back. At place zero it is the magnitude
itself. -/
def coarsest (magnitude : Nat) : Nat → Nat × Nat :=
  coarsestPlace (coefficientAt? magnitude) (scaled magnitude)

/-- The digits of a coefficient without trailing zeros, and the power of ten of the last
one left. -/
def dropZeros (digits : List Char) (power : Int) : List Char × Int :=
  let kept := (digits.reverse.dropWhile (· = '0')).reverse
  (kept, power + (digits.length - kept.length))

/-- The shortest digits of a magnitude other than zero, and the power of ten of the last
one. No digit of a magnitude lies above the length of its exact decimal expansion. -/
def shortest (magnitude : Nat) : List Char × Int :=
  let found := coarsest magnitude (Nat.toDigits 10 (scaled magnitude)).length
  dropZeros (Nat.toDigits 10 found.1) (found.2 - 1074)

example : shortest 1 = (['5'], -324) := by decide +kernel
example : shortest (1023 * binade) = (['1'], 0) := by decide +kernel

end Acceptance.Binary64
