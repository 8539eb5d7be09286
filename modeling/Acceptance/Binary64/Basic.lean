namespace Acceptance

/-! Double-precision numbers as exact integers.

The finite magnitudes are numbered upward from zero in steps of one: the number of a
magnitude is its 63-bit pattern, an eleven-bit exponent field above a 52-bit fraction.
Neighbouring numbers are neighbouring magnitudes, so rounding, comparing and walking to
a neighbour need no case split on the exponent. Every magnitude is a whole number of
units of `2^-1074`, the smallest one above zero. -/

namespace Binary64

/-- The number of magnitudes that share an exponent: `2^52`. -/
def binade : Nat :=
  0x10000000000000

/-- The number of finite magnitudes, which is also the pattern of infinity: the exponent
field has 2047 values below that of infinity. -/
def finiteCount : Nat :=
  0x7ff0000000000000

/-- The place of the sign above the magnitude: `2^63`. -/
def signPlace : Nat :=
  0x8000000000000000

example : finiteCount = 2047 * binade := rfl

end Binary64

inductive Binary64 where
  | finite (negative : Bool) (magnitude : Fin Binary64.finiteCount)
  | infinite (negative : Bool)
  | nan
deriving DecidableEq

namespace Binary64

/-! ### Magnitudes -/

/-- The power of two that scales the significand. The two lowest exponent fields share
the power zero: the lower of them holds the magnitudes without a leading one. -/
def exponent (magnitude : Nat) : Nat :=
  magnitude / binade - 1

def significand (magnitude : Nat) : Nat :=
  magnitude - exponent magnitude * binade

/-- The exact size of a magnitude in units of `2^-1074`. -/
def units (magnitude : Nat) : Nat :=
  significand magnitude * Nat.pow 2 (exponent magnitude)

def unitsOfOne : Nat :=
  Nat.pow 2 1074

example : units 1 = 1 := rfl

example : units (1023 * binade) = unitsOfOne := by decide +kernel

/-! ### Numbers -/

def zero (negative : Bool) : Binary64 :=
  .finite negative ⟨0, by decide⟩

def isFinite : Binary64 → Bool
  | .finite _ _ => true
  | _ => false

def isNegative : Binary64 → Bool
  | .finite negative _ => negative
  | .infinite negative => negative
  | .nan => false

def negate : Binary64 → Binary64
  | .finite negative magnitude => .finite (!negative) magnitude
  | .infinite negative => .infinite (!negative)
  | .nan => .nan

/-- The size of a finite number in units of `2^-1074`, with its sign. -/
def signedUnits (negative : Bool) (magnitude : Nat) : Int :=
  if negative then -(units magnitude) else units magnitude

/-- Numeric equality: the two zeros are equal, and a number that is not a number is
equal to nothing, itself included. -/
def equal : Binary64 → Binary64 → Bool
  | .finite leftNegative left, .finite rightNegative right =>
      left = right && (leftNegative = rightNegative || left.val = 0)
  | .infinite left, .infinite right => left = right
  | _, _ => false

/-! ### Interchange patterns

A sign bit stands above the 63 bits of the magnitude. The pattern after the last finite
magnitude is infinity, and every pattern above it is not a number. -/

def ofBits (bits : Nat) : Binary64 :=
  let negative := bits / signPlace % 2 = 1
  let magnitude := bits % signPlace
  if bounded : magnitude < finiteCount then
    .finite negative ⟨magnitude, bounded⟩
  else if magnitude = finiteCount then
    .infinite negative
  else
    .nan

def signBit (negative : Bool) : Nat :=
  if negative then signPlace else 0

/-- The pattern of a number. Of the patterns that are not a number it is the first one
with the highest fraction bit. -/
def toBits : Binary64 → Nat
  | .finite negative magnitude => signBit negative + magnitude
  | .infinite negative => signBit negative + finiteCount
  | .nan => finiteCount + binade / 2

private theorem signBit_add_remainder {bits : Nat} (within : bits < 2 * signPlace) :
    signBit (bits / signPlace % 2 = 1) + bits % signPlace = bits := by
  simp only [signPlace] at within ⊢
  rw [signBit]
  rcases Nat.mod_two_eq_zero_or_one (bits / 0x8000000000000000) with positive | negative
  · rw [if_neg (by simp [positive])]
    omega
  · rw [if_pos (by simp [negative]), signPlace]
    omega

/-- Of the patterns that fit, those of finite numbers are the only ones for their number. -/
theorem toBits_ofBits {bits : Nat} (within : bits < 2 * signPlace)
    (finite : (ofBits bits).isFinite = true) : (ofBits bits).toBits = bits := by
  rw [ofBits] at finite ⊢
  split
  case isTrue => exact signBit_add_remainder within
  case isFalse beyond =>
    rw [dif_neg beyond] at finite
    split at finite <;> cases finite

end Binary64

end Acceptance
