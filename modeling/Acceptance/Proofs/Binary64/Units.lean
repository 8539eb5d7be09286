import Acceptance.Binary64.Basic
import Mathlib.Algebra.Order.Ring.Nat
import Mathlib.Order.Monotone.Basic
import Mathlib.Tactic.Ring

namespace Acceptance.Binary64

/-! The sizes of the magnitudes. From one magnitude to the next the size grows by a power of
two, so the order of the magnitudes is that of their sizes. -/

theorem exponent_add_significand (magnitude : Nat) :
    exponent magnitude * binade + significand magnitude = magnitude := by
  simp only [exponent, significand, binade]
  omega

theorem significand_lt (magnitude : Nat) : significand magnitude < 2 * binade := by
  simp only [exponent, significand, binade]
  omega

/-- Only the magnitudes of the lowest scale lack a leading one. -/
theorem significand_normal (magnitude : Nat) :
    exponent magnitude = 0 ∨ binade ≤ significand magnitude := by
  simp only [exponent, significand, binade]
  omega

theorem exponent_scaled {power coefficient : Nat} (normal : power = 0 ∨ binade ≤ coefficient)
    (bounded : coefficient < 2 * binade) : exponent (power * binade + coefficient) = power := by
  simp only [exponent, binade] at normal bounded ⊢
  omega

/-- The magnitudes of one scale by their significands, up to the significand at which the next
scale takes over. -/
theorem units_scaled {power coefficient : Nat} (normal : power = 0 ∨ binade ≤ coefficient)
    (bounded : coefficient ≤ 2 * binade) :
    units (power * binade + coefficient) = coefficient * 2 ^ power := by
  rcases Nat.lt_or_eq_of_le bounded with within | next
  · rw [units, significand, exponent_scaled normal within, Nat.add_sub_cancel_left]
    rfl
  · have shifted : power * binade + coefficient = (power + 1) * binade + binade := by
      rw [next]
      ring
    have within : binade < 2 * binade := by decide
    rw [shifted, units, significand, exponent_scaled (.inr (Nat.le_refl _)) within,
      Nat.add_sub_cancel_left, next]
    change binade * 2 ^ (power + 1) = 2 * binade * 2 ^ power
    ring

@[simp] theorem units_zero : units 0 = 0 := rfl

theorem units_succ (magnitude : Nat) :
    units (magnitude + 1) = units magnitude + 2 ^ exponent magnitude := by
  have normal := significand_normal magnitude
  have bounded := significand_lt magnitude
  have next : units (exponent magnitude * binade + (significand magnitude + 1)) = _ :=
    units_scaled (normal.imp_right Nat.le_succ_of_le) bounded
  rw [← Nat.add_assoc, exponent_add_significand] at next
  rw [next, Nat.add_one_mul]
  rfl

theorem units_succ_le {magnitude : Nat} (positive : 0 < magnitude) :
    units (magnitude + 1) ≤ 2 * units magnitude := by
  have significant : 0 < significand magnitude := by
    simp only [significand, exponent, binade]
    omega
  have step : 2 ^ exponent magnitude ≤ units magnitude := Nat.le_mul_of_pos_left _ significant
  rw [units_succ]
  omega

theorem units_strictMono : StrictMono units := by
  apply strictMono_nat_of_lt_succ
  intro magnitude
  rw [units_succ]
  exact Nat.lt_add_of_pos_right (Nat.two_pow_pos _)

end Acceptance.Binary64
