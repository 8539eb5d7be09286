import Acceptance.Binary64.Rounding
import Acceptance.Proofs.Binary64.Units
import Mathlib.Algebra.Order.Field.Rat
import Mathlib.Tactic.Linarith

namespace Acceptance.Binary64

/-! Rounding to the nearest magnitude. The sizes that round to a magnitude reach halfway to its
two neighbours. These intervals cover every size, and share no more than their ends. -/

/-- Twice the size halfway to the magnitude below; the lowest magnitude has none. -/
def lowerEnd (magnitude : Nat) : Nat :=
  units (magnitude - 1) + units magnitude

/-- Twice the size halfway to the magnitude above. -/
def upperEnd (magnitude : Nat) : Nat :=
  units magnitude + units (magnitude + 1)

/-- No magnitude is nearer to a size in units, and of two that are as near this is the even
one. -/
structure IsNearest (magnitude : Nat) (size : ℚ) : Prop where
  low : (lowerEnd magnitude : ℚ) ≤ 2 * size
  high : 2 * size ≤ upperEnd magnitude
  even_of_tie : 2 * size = lowerEnd magnitude ∨ 2 * size = upperEnd magnitude →
    magnitude % 2 = 0

theorem isNearest_div_iff {magnitude numerator denominator : Nat} (positive : 0 < denominator) :
    IsNearest magnitude (numerator / denominator) ↔
      lowerEnd magnitude * denominator ≤ 2 * numerator ∧
        2 * numerator ≤ upperEnd magnitude * denominator ∧
        (2 * numerator = lowerEnd magnitude * denominator ∨
          2 * numerator = upperEnd magnitude * denominator → magnitude % 2 = 0) := by
  have divisor : (0 : ℚ) < denominator := by exact_mod_cast positive
  have doubled : 2 * ((numerator : ℚ) / denominator) = (2 * numerator) / denominator :=
    (mul_div_assoc ..).symm
  have low : (lowerEnd magnitude : ℚ) ≤ 2 * (numerator / denominator) ↔
      lowerEnd magnitude * denominator ≤ 2 * numerator := by
    rw [doubled, le_div_iff₀ divisor]
    exact_mod_cast Iff.rfl
  have high : 2 * ((numerator : ℚ) / denominator) ≤ upperEnd magnitude ↔
      2 * numerator ≤ upperEnd magnitude * denominator := by
    rw [doubled, div_le_iff₀ divisor]
    exact_mod_cast Iff.rfl
  have tie (bound : Nat) : 2 * ((numerator : ℚ) / denominator) = bound ↔
      2 * numerator = bound * denominator := by
    rw [doubled, div_eq_iff divisor.ne']
    exact_mod_cast Iff.rfl
  rw [← low, ← high, ← tie, ← tie]
  exact ⟨fun nearest => ⟨nearest.low, nearest.high, nearest.even_of_tie⟩,
    fun ⟨low, high, even⟩ => ⟨low, high, even⟩⟩

theorem lowerEnd_mono : Monotone lowerEnd := fun _ _ below =>
  Nat.add_le_add (units_strictMono.monotone (Nat.sub_le_sub_right below 1))
    (units_strictMono.monotone below)

theorem upperEnd_le_lowerEnd {left right : Nat} (below : left < right) :
    upperEnd left ≤ lowerEnd right :=
  Nat.add_le_add (units_strictMono.monotone (Nat.le_sub_one_of_lt below))
    (units_strictMono.monotone below)

theorem upperEnd_lt_lowerEnd {left right : Nat} (apart : left + 1 < right) :
    upperEnd left < lowerEnd right :=
  Nat.add_lt_add (units_strictMono (Nat.lt_sub_of_add_lt apart)) (units_strictMono apart)

/-- Larger sizes round to larger magnitudes. At the end that two magnitudes share it is the even
one that is meant. -/
theorem IsNearest.mono {left right : Nat} {small large : ℚ} (below : IsNearest left small)
    (above : IsNearest right large) (order : small ≤ large) : left ≤ right := by
  by_contra crossed
  rw [Nat.not_le] at crossed
  have reach : (upperEnd right : ℚ) ≤ lowerEnd left := by
    exact_mod_cast upperEnd_le_lowerEnd crossed
  have low := below.low
  have high := above.high
  have tie : 2 * small = lowerEnd left := by linarith
  have otherTie : 2 * large = upperEnd right := by linarith
  have ends : upperEnd right = lowerEnd left := by
    exact_mod_cast (show (upperEnd right : ℚ) = lowerEnd left by linarith)
  have next : left = right + 1 := by
    by_contra different
    have apart := upperEnd_lt_lowerEnd (show right + 1 < left by omega)
    omega
  have even := below.even_of_tie (.inl tie)
  have otherEven := above.even_of_tie (.inr otherTie)
  omega

theorem IsNearest.unique {left right : Nat} {size : ℚ} (nearest : IsNearest left size)
    (other : IsNearest right size) : left = right :=
  Nat.le_antisymm (nearest.mono other le_rfl) (other.mono nearest le_rfl)

/-- The sizes that round to a magnitude have no gap. -/
theorem IsNearest.between {magnitude : Nat} {least size greatest : ℚ}
    (low : IsNearest magnitude least) (high : IsNearest magnitude greatest)
    (above : least ≤ size) (below : size ≤ greatest) : IsNearest magnitude size := by
  have lowest := low.low
  have highest := high.high
  refine ⟨by linarith, by linarith, ?_⟩
  rintro (tie | tie)
  · exact low.even_of_tie (.inl (by linarith))
  · exact high.even_of_tie (.inr (by linarith))

theorem isNearest_units (magnitude : Nat) : IsNearest magnitude (units magnitude) := by
  have before := units_strictMono.monotone (Nat.sub_le magnitude 1)
  have after := units_strictMono (Nat.lt_add_one magnitude)
  have low : lowerEnd magnitude ≤ 2 * units magnitude := by
    rw [lowerEnd]
    omega
  have high : 2 * units magnitude < upperEnd magnitude := by
    rw [upperEnd]
    omega
  refine ⟨by exact_mod_cast low, by exact_mod_cast high.le, ?_⟩
  rintro (tie | tie)
  · have same : 2 * units magnitude = lowerEnd magnitude := by exact_mod_cast tie
    rw [lowerEnd] at same
    have lowest : magnitude - 1 = magnitude := units_strictMono.injective (by omega)
    omega
  · have same : 2 * units magnitude = upperEnd magnitude := by exact_mod_cast tie
    omega

/-- Below a magnitude with an even number lies what falls short of its lower end. -/
theorem IsNearest.lt_iff_of_even {magnitude bound : Nat} {size : ℚ}
    (nearest : IsNearest magnitude size) (even : bound % 2 = 0) :
    magnitude < bound ↔ 2 * size < lowerEnd bound := by
  constructor
  · intro below
    have reach : (upperEnd magnitude : ℚ) ≤ lowerEnd bound := by
      exact_mod_cast upperEnd_le_lowerEnd below
    refine lt_of_le_of_ne (nearest.high.trans reach) fun tie => ?_
    have ends : upperEnd magnitude = lowerEnd bound := by
      exact_mod_cast le_antisymm reach (tie ▸ nearest.high)
    have parity := nearest.even_of_tie (.inr (tie.trans (by rw [ends])))
    have apart := upperEnd_lt_lowerEnd (show magnitude + 1 < bound by omega)
    omega
  · intro short
    by_contra beyond
    have reach : (lowerEnd bound : ℚ) ≤ lowerEnd magnitude := by
      exact_mod_cast lowerEnd_mono (Nat.not_lt.mp beyond)
    exact absurd short (not_lt.mpr (reach.trans nearest.low))

/-! ### Rounding a quotient -/

theorem roundHalfEven_spec (numerator : Nat) {denominator : Nat} (positive : 0 < denominator) :
    let rounded := roundHalfEven numerator denominator
    2 * (rounded * denominator) ≤ 2 * numerator + denominator ∧
      2 * numerator ≤ 2 * (rounded * denominator) + denominator ∧
      (2 * (rounded * denominator) = 2 * numerator + denominator ∨
        2 * numerator = 2 * (rounded * denominator) + denominator → rounded % 2 = 0) := by
  intro rounded
  have division := Nat.div_add_mod' numerator denominator
  have remainder := Nat.mod_lt numerator positive
  have up : (numerator / denominator + 1) * denominator =
      numerator / denominator * denominator + denominator := Nat.succ_mul _ _
  simp only [rounded, roundHalfEven]
  split
  case isTrue => refine ⟨?_, ?_, ?_⟩ <;> omega
  case isFalse =>
    split
    case isTrue => rw [up]; refine ⟨?_, ?_, ?_⟩ <;> omega
    case isFalse =>
      rcases Nat.mod_two_eq_zero_or_one (numerator / denominator) with even | odd
      · rw [even, Nat.add_zero]
        refine ⟨?_, ?_, ?_⟩ <;> omega
      · rw [odd, up]
        refine ⟨?_, ?_, ?_⟩ <;> omega

/-! A quotient is rounded to a whole significand on a scale that gives it 53 bits. -/

section

variable (numerator denominator : Nat)

def quotientScale : Nat :=
  Nat.log2 (numerator / denominator) - 52

/-- What the numerator has to reach for each unit of the significand. -/
def quotientStep : Nat :=
  denominator * 2 ^ quotientScale numerator denominator

def quotientSignificand : Nat :=
  roundHalfEven numerator (quotientStep numerator denominator)

theorem nearestMagnitude_eq :
    nearestMagnitude numerator denominator =
      quotientScale numerator denominator * binade +
        quotientSignificand numerator denominator := rfl

variable {denominator} (positive : 0 < denominator)
include positive

theorem quotientStep_pos : 0 < quotientStep numerator denominator :=
  Nat.mul_pos positive (Nat.two_pow_pos _)

theorem quotientSignificand_spec :
    let step := quotientStep numerator denominator
    let rounded := quotientSignificand numerator denominator
    2 * (rounded * step) ≤ 2 * numerator + step ∧
      2 * numerator ≤ 2 * (rounded * step) + step ∧
      (2 * (rounded * step) = 2 * numerator + step ∨
        2 * numerator = 2 * (rounded * step) + step → rounded % 2 = 0) :=
  roundHalfEven_spec numerator (quotientStep_pos numerator positive)

theorem lt_quotientStep : numerator < 2 * binade * quotientStep numerator denominator := by
  have below : numerator / denominator < 2 ^ (quotientScale numerator denominator + 53) := by
    refine Nat.lt_log2_self.trans_le (Nat.pow_le_pow_right (by decide) ?_)
    rw [quotientScale]
    omega
  rw [Nat.div_lt_iff_lt_mul positive] at below
  have width : 2 * binade = 2 ^ 53 := rfl
  calc numerator < 2 ^ (quotientScale numerator denominator + 53) * denominator := below
    _ = 2 * binade * quotientStep numerator denominator := by
        rw [width, quotientStep]
        ring

theorem quotientStep_le : quotientScale numerator denominator = 0 ∨
    binade * quotientStep numerator denominator ≤ numerator := by
  rcases Nat.eq_zero_or_pos (quotientScale numerator denominator) with lowest | higher
  · exact .inl lowest
  · right
    have large : numerator / denominator ≠ 0 := by
      intro small
      simp [quotientScale, small] at higher
    have logarithm : quotientScale numerator denominator + 52 =
        Nat.log2 (numerator / denominator) := by
      rw [quotientScale] at higher ⊢
      omega
    have above := Nat.log2_self_le large
    rw [← logarithm, Nat.le_div_iff_mul_le positive] at above
    have width : binade = 2 ^ 52 := rfl
    calc binade * quotientStep numerator denominator =
          2 ^ (quotientScale numerator denominator + 52) * denominator := by
          rw [width, quotientStep]
          ring
      _ ≤ numerator := above

theorem quotientSignificand_le : quotientSignificand numerator denominator ≤ 2 * binade := by
  have below := lt_quotientStep numerator positive
  have low := (quotientSignificand_spec numerator positive).1
  generalize quotientStep numerator denominator = step at low below
  generalize quotientSignificand numerator denominator = rounded at low
  have scaled : 2 * rounded * step < (4 * binade + 1) * step := by
    calc 2 * rounded * step ≤ 2 * numerator + step := by
          rw [Nat.mul_assoc]
          exact low
      _ < 2 * (2 * binade * step) + step := by omega
      _ = (4 * binade + 1) * step := by ring
  have significands := Nat.lt_of_mul_lt_mul_right scaled
  omega

theorem quotientSignificand_normal : quotientScale numerator denominator = 0 ∨
    binade ≤ quotientSignificand numerator denominator := by
  refine (quotientStep_le numerator positive).imp_right fun above => ?_
  have high := (quotientSignificand_spec numerator positive).2.1
  have stepPositive := quotientStep_pos numerator positive
  generalize quotientStep numerator denominator = step at above high stepPositive
  generalize quotientSignificand numerator denominator = rounded at high ⊢
  have scaled : 2 * binade * step < (2 * rounded + 2) * step := by
    calc 2 * binade * step ≤ 2 * numerator := by
          rw [Nat.mul_assoc]
          exact Nat.mul_le_mul_left 2 above
      _ < 2 * (rounded * step) + step + step := by omega
      _ = (2 * rounded + 2) * step := by ring
  have significands := Nat.lt_of_mul_lt_mul_right scaled
  omega

end

/-! The ends of a magnitude lie half a step of its scale away from it. Only the lower end of the
first magnitude of a scale is nearer, since a finer scale begins there. -/

section

variable {power coefficient : Nat} (bounded : coefficient ≤ 2 * binade)
include bounded

theorem lowerEnd_scaled (normal : power = 0 ∨ binade < coefficient) (positive : 0 < coefficient) :
    lowerEnd (power * binade + coefficient) + 2 ^ power = 2 * (coefficient * 2 ^ power) := by
  have before : power * binade + coefficient - 1 = power * binade + (coefficient - 1) := by omega
  have whole := units_scaled (normal.imp_right Nat.le_of_lt) bounded
  have less : units (power * binade + (coefficient - 1)) = _ :=
    units_scaled (normal.imp_right Nat.le_sub_one_of_lt) ((Nat.sub_le _ _).trans bounded)
  have step : coefficient * 2 ^ power = (coefficient - 1) * 2 ^ power + 2 ^ power := by
    rw [← Nat.succ_mul, Nat.succ_eq_add_one, Nat.sub_add_cancel positive]
  rw [lowerEnd, before, whole, less]
  omega

theorem lowerEnd_lt_scaled (normal : power = 0 ∨ binade ≤ coefficient)
    (positive : 0 < coefficient) :
    lowerEnd (power * binade + coefficient) < 2 * (coefficient * 2 ^ power) := by
  have less := units_strictMono (show power * binade + coefficient - 1 <
    power * binade + coefficient by omega)
  rw [lowerEnd, ← units_scaled normal bounded]
  omega

theorem le_upperEnd_scaled (normal : power = 0 ∨ binade ≤ coefficient) :
    2 * (coefficient * 2 ^ power) + 2 ^ power ≤ upperEnd (power * binade + coefficient) := by
  have scale : power ≤ exponent (power * binade + coefficient) := by
    simp only [exponent, binade] at normal bounded ⊢
    omega
  have gap : 2 ^ power ≤ 2 ^ exponent (power * binade + coefficient) :=
    Nat.pow_le_pow_right (by decide) scale
  rw [upperEnd, units_succ, units_scaled normal bounded]
  omega

end

section

variable (numerator : Nat) {denominator : Nat} (positive : 0 < denominator)
include positive

theorem lowerEnd_nearestMagnitude_le :
    let magnitude := nearestMagnitude numerator denominator
    lowerEnd magnitude * denominator ≤ 2 * numerator ∧
      (2 * numerator = lowerEnd magnitude * denominator → magnitude % 2 = 0) := by
  have bounded := quotientSignificand_le numerator positive
  have normal := quotientSignificand_normal numerator positive
  have above := quotientStep_le numerator positive
  have stepPositive := quotientStep_pos numerator positive
  rcases quotientSignificand_spec numerator positive with ⟨low, -, tie⟩
  rw [nearestMagnitude_eq]
  rw [quotientStep] at low tie above
  generalize quotientSignificand numerator denominator = rounded at *
  generalize quotientScale numerator denominator = power at *
  intro magnitude
  have parity : magnitude % 2 = rounded % 2 := by
    simp only [magnitude, binade]
    omega
  rcases Nat.eq_zero_or_pos rounded with zero | significant
  · have lowest : power = 0 := normal.resolve_right (by rw [zero]; decide)
    simp [magnitude, zero, lowest, lowerEnd]
  by_cases finer : power ≠ 0 ∧ rounded = binade
  · have strict : lowerEnd magnitude * denominator < 2 * numerator := by
      calc lowerEnd magnitude * denominator < 2 * (rounded * 2 ^ power) * denominator :=
            Nat.mul_lt_mul_of_pos_right (lowerEnd_lt_scaled bounded normal significant) positive
        _ = 2 * (binade * (denominator * 2 ^ power)) := by
            rw [finer.2]
            ring
        _ ≤ 2 * numerator := Nat.mul_le_mul_left 2 (above.resolve_left finer.1)
    exact ⟨strict.le, fun equal => absurd equal strict.ne'⟩
  · have inner : power = 0 ∨ binade < rounded := by omega
    have scaled : lowerEnd magnitude * denominator + denominator * 2 ^ power =
        2 * (rounded * (denominator * 2 ^ power)) := by
      calc lowerEnd magnitude * denominator + denominator * 2 ^ power =
            (lowerEnd magnitude + 2 ^ power) * denominator := by ring
        _ = 2 * (rounded * (denominator * 2 ^ power)) := by
            rw [lowerEnd_scaled bounded inner significant]
            ring
    refine ⟨by omega, fun equal => ?_⟩
    rw [parity]
    exact tie (.inl (by omega))

theorem le_upperEnd_nearestMagnitude :
    let magnitude := nearestMagnitude numerator denominator
    2 * numerator ≤ upperEnd magnitude * denominator ∧
      (2 * numerator = upperEnd magnitude * denominator → magnitude % 2 = 0) := by
  have bounded := quotientSignificand_le numerator positive
  have normal := quotientSignificand_normal numerator positive
  rcases quotientSignificand_spec numerator positive with ⟨-, high, tie⟩
  rw [nearestMagnitude_eq]
  rw [quotientStep] at high tie
  generalize quotientSignificand numerator denominator = rounded at *
  generalize quotientScale numerator denominator = power at *
  intro magnitude
  have parity : magnitude % 2 = rounded % 2 := by
    simp only [magnitude, binade]
    omega
  have scaled : 2 * (rounded * (denominator * 2 ^ power)) + denominator * 2 ^ power ≤
      upperEnd magnitude * denominator := by
    calc 2 * (rounded * (denominator * 2 ^ power)) + denominator * 2 ^ power =
          (2 * (rounded * 2 ^ power) + 2 ^ power) * denominator := by ring
      _ ≤ upperEnd magnitude * denominator :=
          Nat.mul_le_mul_right _ (le_upperEnd_scaled bounded normal)
  refine ⟨high.trans scaled, fun equal => ?_⟩
  rw [parity]
  exact tie (.inr (by omega))

/-- The magnitude that a quotient of units is rounded to is the nearest one. -/
theorem isNearest_nearestMagnitude :
    IsNearest (nearestMagnitude numerator denominator) (numerator / denominator) := by
  rcases lowerEnd_nearestMagnitude_le numerator positive with ⟨low, lowTie⟩
  rcases le_upperEnd_nearestMagnitude numerator positive with ⟨high, highTie⟩
  exact (isNearest_div_iff positive).mpr ⟨low, high, fun tie => tie.elim lowTie highTie⟩

end

/-- The number of a magnitude that may lie beyond the finite ones. -/
def ofMagnitude (negative : Bool) (magnitude : Nat) : Binary64 :=
  if bounded : magnitude < finiteCount then
    .finite negative ⟨magnitude, bounded⟩
  else
    .infinite negative

theorem ofRatio_of_isNearest {negative : Bool} {numerator denominator magnitude : Nat}
    (positive : 0 < denominator) (nearest : IsNearest magnitude (numerator / denominator)) :
    ofRatio negative numerator denominator = ofMagnitude negative magnitude := by
  rw [nearest.unique (isNearest_nearestMagnitude numerator positive)]
  rfl

end Acceptance.Binary64
