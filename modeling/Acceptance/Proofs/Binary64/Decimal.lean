import Acceptance.Binary64.Literal
import Acceptance.Proofs.Binary64.Nearest
import Mathlib.Algebra.Order.Field.Power

namespace Acceptance.Binary64

/-! What the digits of a decimal stand for, and rounding it, whatever its exponent. Powers of ten
too large to matter are beyond the finite magnitudes anyway, and those too small are nearest to
zero. -/

/-! ### Digits -/

theorem digitsValue_append (earlier later : List Char) :
    digitsValue (earlier ++ later) =
      10 ^ later.length * digitsValue earlier + digitsValue later :=
  (Nat.ofDigitChars_append 0).trans Nat.ofDigitChars_eq_ofDigitChars_zero

theorem digitsValue_append_zeros (digits : List Char) (count : Nat) :
    digitsValue (digits ++ List.replicate count '0') = 10 ^ count * digitsValue digits :=
  (Nat.ofDigitChars_append 0).trans Nat.ofDigitChars_replicate_zero

theorem cast_digitsValue_append_zeros (digits : List Char) (count : Nat) :
    (digitsValue (digits ++ List.replicate count '0') : ℚ) =
      digitsValue digits * 10 ^ (count : ℤ) := by
  rw [digitsValue_append_zeros, Nat.cast_mul, Nat.cast_pow, Nat.cast_ofNat, zpow_natCast,
    mul_comm]

theorem digitsValue_zeros_append (count : Nat) (digits : List Char) :
    digitsValue (List.replicate count '0' ++ digits) = digitsValue digits :=
  (Nat.ofDigitChars_append 0).trans (congrArg _ Nat.ofDigitChars_replicate_zero)

/-! ### Powers -/

theorem cast_pow (base power : Nat) : ((Nat.pow base power : ℕ) : ℚ) = base ^ power :=
  Nat.cast_pow base power

theorem cast_unitsOfOne : ((unitsOfOne : ℕ) : ℚ) = 2 ^ 1074 := by
  have cast := cast_pow 2 1074
  rwa [Nat.cast_ofNat] at cast

/-! ### Beyond the finite magnitudes -/

/-- The least size that is not rounded to a finite number lies halfway between the largest
finite number, `2^1024 - 2^971`, and `2^1024`. -/
def overflow : ℚ :=
  2 ^ 1024 - 2 ^ 970

theorem lowerEnd_finiteCount : lowerEnd finiteCount = (2 ^ 54 - 1) * 2 ^ 2045 := by
  have below : finiteCount - 1 = 2045 * binade + (2 * binade - 1) := by decide
  have above : finiteCount = 2045 * binade + 2 * binade := by decide
  have largest : units (finiteCount - 1) = (2 * binade - 1) * 2 ^ 2045 := by
    rw [below]
    exact units_scaled (.inr (by decide)) (by decide)
  have infinity : units finiteCount = 2 * binade * 2 ^ 2045 := by
    rw [above]
    exact units_scaled (.inr (by decide)) (Nat.le_refl _)
  have sum : 2 * binade - 1 + 2 * binade = 2 ^ 54 - 1 := by decide
  rw [lowerEnd, largest, infinity, ← Nat.add_mul, sum]

/-- In units of `2^-1074` the overflow is the lower end of infinity. -/
theorem two_mul_lt_lowerEnd_finiteCount_iff {value : ℚ} :
    2 * (value * 2 ^ 1074) < lowerEnd finiteCount ↔ value < overflow := by
  have scale : (2 : ℚ) ^ 2045 = 2 * 2 ^ 1074 * 2 ^ 970 := by
    rw [← pow_succ', ← pow_add]
  have width : (2 : ℚ) ^ 1024 = 2 ^ 54 * 2 ^ 970 := by
    rw [← pow_add]
  have positive : (0 : ℚ) < 2 * 2 ^ 1074 := by positivity
  have ends : ((lowerEnd finiteCount : ℕ) : ℚ) = overflow * (2 * 2 ^ 1074) := by
    rw [lowerEnd_finiteCount, overflow, width, Nat.cast_mul, Nat.cast_pow, Nat.cast_ofNat, scale]
    generalize (2 : ℚ) ^ 970 = unit
    generalize (2 : ℚ) ^ 1074 = one
    norm_num
    ring
  rw [ends, mul_left_comm, mul_lt_mul_iff_of_pos_right positive]

theorem IsNearest.lt_finiteCount_iff {magnitude : Nat} {value : ℚ}
    (nearest : IsNearest magnitude (value * 2 ^ 1074)) :
    magnitude < finiteCount ↔ value < overflow := by
  rw [nearest.lt_iff_of_even rfl, two_mul_lt_lowerEnd_finiteCount_iff]

theorem isNearest_zero {size : ℚ} (nonnegative : 0 ≤ size) (small : 2 * size < 1) :
    IsNearest 0 size := by
  have low : lowerEnd 0 = 0 := rfl
  have high : upperEnd 0 = 1 := rfl
  constructor
  · rw [low, Nat.cast_zero]
    linarith
  · rw [high, Nat.cast_one]
    exact small.le
  · exact fun _ => rfl

namespace Decimal

/-- The number that a decimal stands for, without its sign. -/
def size (decimal : Decimal) : ℚ :=
  decimal.coefficient * 10 ^ decimal.exponent

theorem size_nonneg (decimal : Decimal) : 0 ≤ decimal.size := by
  rw [size]
  positivity

theorem size_eq_zero {decimal : Decimal} (none : decimal.coefficient = 0) : decimal.size = 0 := by
  rw [size, none, Nat.cast_zero, zero_mul]

/-! The two bounds on the exponent that spare `round` a power of ten. -/

theorem overflow_le_size {decimal : Decimal} (positive : decimal.coefficient ≠ 0)
    (large : 309 < decimal.exponent) : overflow ≤ decimal.size := by
  have power : (2 : ℚ) ^ 1024 ≤ 10 ^ 310 := by
    have natural : 2 ^ 1024 ≤ 10 ^ 310 := by decide +kernel
    exact_mod_cast natural
  have one : (1 : ℚ) ≤ decimal.coefficient := by
    exact_mod_cast Nat.one_le_iff_ne_zero.mpr positive
  calc overflow ≤ 2 ^ 1024 := by
        rw [overflow]
        exact sub_le_self _ (by positivity)
    _ ≤ 10 ^ (310 : ℤ) := power
    _ ≤ 10 ^ decimal.exponent := zpow_le_zpow_right₀ (by norm_num) large
    _ ≤ decimal.size := le_mul_of_one_le_left (by positivity) one

theorem size_lt_of_exponent_lt {decimal : Decimal}
    (small : decimal.exponent + decimal.coefficient.log2 < -324) :
    2 * (decimal.size * 2 ^ 1074) < 1 := by
  have digits : (decimal.coefficient : ℚ) ≤ 10 ^ ((decimal.coefficient.log2 : ℤ) + 1) := by
    have natural : decimal.coefficient ≤ 10 ^ (decimal.coefficient.log2 + 1) :=
      Nat.lt_log2_self.le.trans (Nat.pow_le_pow_left (by decide) _)
    exact_mod_cast natural
  have size : decimal.size ≤ 10 ^ (-324 : ℤ) := by
    calc decimal.size ≤ 10 ^ ((decimal.coefficient.log2 : ℤ) + 1) * 10 ^ decimal.exponent :=
          mul_le_mul_of_nonneg_right digits (by positivity)
      _ = 10 ^ ((decimal.coefficient.log2 : ℤ) + 1 + decimal.exponent) :=
          (zpow_add₀ (by norm_num) _ _).symm
      _ ≤ 10 ^ (-324 : ℤ) := zpow_le_zpow_right₀ (by norm_num) (by omega)
  have power : (2 : ℚ) * 2 ^ 1074 < 10 ^ 324 := by
    have natural : 2 * 2 ^ 1074 < 10 ^ 324 := by decide +kernel
    exact_mod_cast natural
  calc 2 * (decimal.size * 2 ^ 1074) ≤ 2 * (10 ^ (-324 : ℤ) * 2 ^ 1074) := by gcongr
    _ = 2 * 2 ^ 1074 / 10 ^ 324 := by
        rw [zpow_neg, mul_left_comm, mul_comm, ← div_eq_mul_inv]
        rfl
    _ < 1 := by
        rw [div_lt_iff₀ (by positivity), one_mul]
        exact power

/-! The quotients of units that `round` hands on. -/

theorem units_of_exponent_ofNat {decimal : Decimal} {power : Nat}
    (integral : decimal.exponent = .ofNat power) :
    ((decimal.coefficient * Nat.pow 10 power * unitsOfOne : ℕ) : ℚ) / (1 : ℕ) =
      decimal.size * 2 ^ 1074 := by
  rw [size, integral, Int.ofNat_eq_natCast, zpow_natCast, Nat.cast_one, div_one, Nat.cast_mul,
    Nat.cast_mul, cast_pow, cast_unitsOfOne, Nat.cast_ofNat]

theorem units_of_exponent_negSucc {decimal : Decimal} {power : Nat}
    (fractional : decimal.exponent = .negSucc power) :
    ((decimal.coefficient * unitsOfOne : ℕ) : ℚ) / (Nat.pow 10 (power + 1) : ℕ) =
      decimal.size * 2 ^ 1074 := by
  rw [size, fractional, zpow_negSucc, mul_right_comm, ← div_eq_mul_inv, Nat.cast_mul,
    cast_pow, cast_unitsOfOne, Nat.cast_ofNat]

/-- A decimal is rounded to its nearest magnitude. -/
theorem round_of_isNearest {decimal : Decimal} {magnitude : Nat}
    (nearest : IsNearest magnitude (decimal.size * 2 ^ 1074)) :
    decimal.round = ofMagnitude decimal.negative magnitude := by
  have nonnegative : 0 ≤ decimal.size * 2 ^ 1074 := by
    have size := decimal.size_nonneg
    positivity
  rw [round]
  split
  case isTrue none =>
    have zero : magnitude = 0 :=
      nearest.unique (isNearest_zero nonnegative (by rw [size_eq_zero none]; norm_num))
    rw [zero]
    rfl
  case isFalse positive =>
    split
    case isTrue large =>
      have beyond : ¬ magnitude < finiteCount := by
        rw [nearest.lt_finiteCount_iff, not_lt]
        exact overflow_le_size positive large
      rw [ofMagnitude, dif_neg beyond]
    case isFalse =>
      split
      case isTrue small =>
        have zero : magnitude = 0 :=
          nearest.unique (isNearest_zero nonnegative (size_lt_of_exponent_lt small))
        rw [zero]
        rfl
      case isFalse =>
        split
        case h_1 power integral =>
          rw [← units_of_exponent_ofNat integral] at nearest
          exact ofRatio_of_isNearest Nat.one_pos nearest
        case h_2 power fractional =>
          rw [← units_of_exponent_negSucc fractional] at nearest
          exact ofRatio_of_isNearest (Nat.pow_pos (by decide)) nearest

/-- There is a nearest magnitude for every decimal. -/
theorem exists_isNearest (decimal : Decimal) :
    ∃ magnitude, IsNearest magnitude (decimal.size * 2 ^ 1074) := by
  cases exponent : decimal.exponent with
  | ofNat power =>
      rw [← units_of_exponent_ofNat exponent]
      exact ⟨_, isNearest_nearestMagnitude _ Nat.one_pos⟩
  | negSucc power =>
      rw [← units_of_exponent_negSucc exponent]
      exact ⟨_, isNearest_nearestMagnitude _ (Nat.pow_pos (by decide))⟩

theorem isNearest_of_round {decimal : Decimal} {negative : Bool} {magnitude : Fin finiteCount}
    (rounded : decimal.round = .finite negative magnitude) :
    IsNearest magnitude (decimal.size * 2 ^ 1074) := by
  rcases decimal.exists_isNearest with ⟨other, nearest⟩
  rw [round_of_isNearest nearest, ofMagnitude] at rounded
  split at rounded
  case isTrue =>
    cases rounded
    exact nearest
  case isFalse => cases rounded

theorem isFinite_round_iff {decimal : Decimal} :
    decimal.round.isFinite = true ↔ decimal.size < overflow := by
  rcases decimal.exists_isNearest with ⟨magnitude, nearest⟩
  rw [round_of_isNearest nearest, ← nearest.lt_finiteCount_iff, ofMagnitude]
  split
  case isTrue bounded => exact ⟨fun _ => bounded, fun _ => rfl⟩
  case isFalse beyond => simp [isFinite, beyond]

end Decimal

end Acceptance.Binary64
