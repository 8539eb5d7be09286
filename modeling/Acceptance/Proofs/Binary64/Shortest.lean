import Acceptance.Binary64.Shortest
import Acceptance.Proofs.Binary64.Decimal
import Mathlib.Tactic.FieldSimp

namespace Acceptance.Binary64

/-! The digits that a magnitude is shown with. They are rounded to this magnitude again, and no
fewer digits would do. -/

theorem decimalUnit_pos : 0 < decimalUnit :=
  Nat.pow_pos (by decide)

/-- Reading back is rounding to the magnitude, with all sizes counted in `10^-1074`. -/
theorem readsBack_iff {magnitude value : Nat} :
    ReadsBack magnitude value ↔ IsNearest magnitude (value / decimalUnit) := by
  rw [isNearest_div_iff decimalUnit_pos]
  have order : lowerEnd magnitude * decimalUnit ≤ upperEnd magnitude * decimalUnit :=
    Nat.mul_le_mul_right _ (Nat.add_le_add (units_strictMono.monotone (Nat.sub_le magnitude 1))
      (units_strictMono.monotone (Nat.le_add_right magnitude 1)))
  change (lowerEnd magnitude * decimalUnit < 2 * value ∧
      2 * value < upperEnd magnitude * decimalUnit) ∨
    (magnitude % 2 = 0 ∧ (2 * value = lowerEnd magnitude * decimalUnit ∨
      2 * value = upperEnd magnitude * decimalUnit)) ↔ _
  generalize lowerEnd magnitude * decimalUnit = low at *
  generalize upperEnd magnitude * decimalUnit = high at *
  omega

theorem readsBack_scaled (magnitude : Nat) : ReadsBack magnitude (scaled magnitude) := by
  have unit : ((decimalUnit : ℕ) : ℚ) ≠ 0 := Nat.cast_ne_zero.mpr decimalUnit_pos.ne'
  rw [readsBack_iff, scaled, Nat.cast_mul, mul_div_cancel_right₀ _ unit]
  exact isNearest_units magnitude

theorem ReadsBack.between {magnitude least value greatest : Nat}
    (low : ReadsBack magnitude least) (high : ReadsBack magnitude greatest)
    (above : least ≤ value) (below : value ≤ greatest) : ReadsBack magnitude value := by
  rw [readsBack_iff] at low high ⊢
  exact low.between high (div_le_div_of_nonneg_right (Nat.cast_le.mpr above) (Nat.cast_nonneg _))
    (div_le_div_of_nonneg_right (Nat.cast_le.mpr below) (Nat.cast_nonneg _))

/-! ### The coarsest place -/

theorem readsBack_of_coefficientAt? {magnitude place coefficient : Nat}
    (found : coefficientAt? magnitude place = some coefficient) :
    ReadsBack magnitude (coefficient * 10 ^ place) := by
  rw [coefficientAt?] at found
  split at found
  case isTrue upper =>
    cases found
    exact upper.1
  case isFalse =>
    split at found
    case isTrue lower =>
      cases found
      exact lower
    case isFalse => cases found

/-- Around the magnitude itself lie two multiples, and if any reads back then one of these. -/
theorem not_readsBack_of_coefficientAt? {magnitude place : Nat}
    (missing : coefficientAt? magnitude place = none) (coefficient : Nat) :
    ¬ ReadsBack magnitude (coefficient * 10 ^ place) := by
  intro fits
  have itself := readsBack_scaled magnitude
  have step : 0 < 10 ^ place := Nat.pow_pos (by decide)
  rw [coefficientAt?] at missing
  split at missing
  case isTrue => cases missing
  case isFalse notUpper =>
    split at missing
    case isTrue => cases missing
    case isFalse notLower =>
      rcases Nat.lt_or_ge (scaled magnitude) (coefficient * 10 ^ place) with above | below
      · refine notUpper ⟨itself.between fits ?_ ?_, .inl notLower⟩
        · rw [Nat.mul_comm]
          exact (Nat.lt_mul_div_succ _ step).le
        · exact Nat.mul_le_mul_right _ ((Nat.div_lt_iff_lt_mul step).mpr above)
      · refine notLower (fits.between itself ?_ (Nat.div_mul_le_self _ _))
        exact Nat.mul_le_mul_right _ ((Nat.le_div_iff_mul_le step).mpr below)

section

variable {coefficient? : Nat → Option Nat} {whole : Nat}

theorem coarsestPlace_of (Holds : Nat → Nat → Prop) (zero : Holds whole 0)
    (found : ∀ place coefficient, coefficient? place = some coefficient →
      Holds coefficient place) (fuel : Nat) :
    let result := coarsestPlace coefficient? whole fuel
    Holds result.1 result.2 := by
  induction fuel with
  | zero => exact zero
  | succ place induction =>
      rw [coarsestPlace]
      split
      case h_1 coefficient some => exact found _ _ some
      case h_2 => exact induction

theorem eq_none_of_coarsestPlace_lt {fuel place : Nat}
    (above : (coarsestPlace coefficient? whole fuel).2 < place) (within : place ≤ fuel) :
    coefficient? place = none := by
  induction fuel with
  | zero =>
      rw [Nat.le_zero.mp within] at above
      cases above
  | succ fuel induction =>
      rw [coarsestPlace] at above
      split at above
      case h_1 => omega
      case h_2 missing =>
        rcases Nat.lt_or_eq_of_le within with less | rfl
        · exact induction above (Nat.le_of_lt_succ less)
        · exact missing

end

theorem readsBack_coarsest (magnitude fuel : Nat) :
    let found := coarsest magnitude fuel
    ReadsBack magnitude (found.1 * 10 ^ found.2) := by
  refine coarsestPlace_of (fun coefficient place =>
    ReadsBack magnitude (coefficient * 10 ^ place)) ?_ (fun _ _ => readsBack_of_coefficientAt?) fuel
  rw [Nat.pow_zero, Nat.mul_one]
  exact readsBack_scaled magnitude

theorem ReadsBack.bounds {magnitude value : Nat} (positive : 0 < magnitude)
    (fits : ReadsBack magnitude value) : 0 < value ∧ 2 * value ≤ 3 * scaled magnitude := by
  rw [readsBack_iff, isNearest_div_iff decimalUnit_pos] at fits
  rcases fits with ⟨low, high, -⟩
  have significant : 0 < lowerEnd magnitude * decimalUnit :=
    Nat.mul_pos (Nat.add_pos_right _ (units_strictMono positive)) decimalUnit_pos
  have reach : upperEnd magnitude * decimalUnit ≤ 3 * scaled magnitude := by
    rw [scaled, ← Nat.mul_assoc]
    refine Nat.mul_le_mul_right _ ?_
    have next := units_succ_le positive
    rw [upperEnd]
    omega
  omega

theorem lt_pow_length_toDigits (value : Nat) : value < 10 ^ (Nat.toDigits 10 value).length :=
  (Nat.length_toDigits_le_iff (by decide) Nat.length_toDigits_pos).mp (Nat.le_refl _)

/-- The coefficient and the place that a magnitude is shown with, before zeros are dropped. -/
def coarsestFit (magnitude : Nat) : Nat × Nat :=
  coarsest magnitude (Nat.toDigits 10 (scaled magnitude)).length

theorem readsBack_coarsestFit (magnitude : Nat) :
    ReadsBack magnitude ((coarsestFit magnitude).1 * 10 ^ (coarsestFit magnitude).2) :=
  readsBack_coarsest _ _

theorem not_readsBack_of_coarsestFit_lt {magnitude place : Nat} (positive : 0 < magnitude)
    (above : (coarsestFit magnitude).2 < place) (coefficient : Nat) :
    ¬ ReadsBack magnitude (coefficient * 10 ^ place) := by
  rcases Nat.lt_or_ge (Nat.toDigits 10 (scaled magnitude)).length place with beyond | within
  · intro fits
    rcases fits.bounds positive with ⟨significant, bounded⟩
    have coefficientPositive : 0 < coefficient := Nat.pos_of_mul_pos_right significant
    have size := lt_pow_length_toDigits (scaled magnitude)
    have step : 10 * 10 ^ (Nat.toDigits 10 (scaled magnitude)).length ≤ coefficient * 10 ^ place :=
      calc 10 * 10 ^ (Nat.toDigits 10 (scaled magnitude)).length =
            10 ^ ((Nat.toDigits 10 (scaled magnitude)).length + 1) := (Nat.pow_succ' ..).symm
        _ ≤ 10 ^ place := Nat.pow_le_pow_right (by decide) beyond
        _ ≤ coefficient * 10 ^ place := Nat.le_mul_of_pos_left _ coefficientPositive
    omega
  · exact not_readsBack_of_coefficientAt? (eq_none_of_coarsestPlace_lt above within) coefficient

/-! ### The shortest digits -/

/-- Sizes in `10^-1074` as sizes in units. -/
theorem size_of_place (size : ℚ) (place : Int) :
    size * 10 ^ (place - 1074) * 2 ^ 1074 = size * 10 ^ place / decimalUnit := by
  have unit : ((decimalUnit : ℕ) : ℚ) = 5 ^ 1074 := by
    have cast := cast_pow 5 1074
    rwa [Nat.cast_ofNat] at cast
  have ten : (10 : ℚ) ^ (1074 : ℤ) = 5 ^ 1074 * 2 ^ 1074 := by
    rw [← mul_pow]
    norm_num
  rw [zpow_sub₀ (by norm_num), ten, unit]
  have five : (5 : ℚ) ^ 1074 ≠ 0 := by positivity
  have two : (2 : ℚ) ^ 1074 ≠ 0 := by positivity
  generalize (5 : ℚ) ^ 1074 = five at *
  generalize (2 : ℚ) ^ 1074 = two at *
  field_simp

theorem dropZeros_spec (digits : List Char) (power : Int) :
    ∃ zeros : Nat, digits = (dropZeros digits power).1 ++ List.replicate zeros '0' ∧
      (dropZeros digits power).2 = power + zeros := by
  have cut : digits = (digits.reverse.dropWhile (· = '0')).reverse ++
      (digits.reverse.takeWhile (· = '0')).reverse := by
    rw [← List.reverse_append, List.takeWhile_append_dropWhile, List.reverse_reverse]
  have zeros : (digits.reverse.takeWhile (· = '0')).reverse =
      List.replicate (digits.reverse.takeWhile (· = '0')).reverse.length '0' := by
    apply List.eq_replicate_of_mem
    intro character member
    exact of_decide_eq_true
      (List.all_eq_true.mp List.all_takeWhile character (List.mem_reverse.mp member))
  refine ⟨(digits.reverse.takeWhile (· = '0')).reverse.length, ?_, ?_⟩
  · rw [← zeros]
    exact cut
  · have lengths := congrArg List.length cut
    rw [List.length_append] at lengths
    rw [dropZeros]
    dsimp only
    omega

theorem shortest_spec (magnitude : Nat) :
    ∃ zeros : Nat,
      Nat.toDigits 10 (coarsestFit magnitude).1 =
        (shortest magnitude).1 ++ List.replicate zeros '0' ∧
      (shortest magnitude).2 = (coarsestFit magnitude).2 - 1074 + zeros :=
  dropZeros_spec (Nat.toDigits 10 (coarsestFit magnitude).1) ((coarsestFit magnitude).2 - 1074)

/-- The number that the shortest digits of a magnitude stand for. -/
def shortestSize (magnitude : Nat) : ℚ :=
  digitsValue (shortest magnitude).1 * 10 ^ (shortest magnitude).2

theorem shortestSize_eq (magnitude : Nat) :
    shortestSize magnitude =
      (coarsestFit magnitude).1 * 10 ^ (((coarsestFit magnitude).2 : ℤ) - 1074) := by
  rcases shortest_spec magnitude with ⟨zeros, cut, shifted⟩
  have value : ((coarsestFit magnitude).1 : ℚ) =
      digitsValue (shortest magnitude).1 * 10 ^ (zeros : ℤ) := by
    rw [← cast_digitsValue_append_zeros, ← cut]
    exact congrArg Nat.cast Nat.ofDigitChars_ten_toDigits.symm
  rw [shortestSize, value, shifted, mul_assoc, ← zpow_add₀ (by norm_num), add_comm (zeros : ℤ)]

/-- The shortest digits of a magnitude are rounded to it. -/
theorem isNearest_shortest (magnitude : Nat) :
    IsNearest magnitude (shortestSize magnitude * 2 ^ 1074) := by
  have fits := readsBack_iff.mp (readsBack_coarsestFit magnitude)
  rw [shortestSize_eq, size_of_place, zpow_natCast]
  exact_mod_cast fits

theorem isDigit_of_mem_shortest {magnitude : Nat} {character : Char}
    (member : character ∈ (shortest magnitude).1) : character.isDigit = true := by
  rcases shortest_spec magnitude with ⟨zeros, cut, -⟩
  apply Nat.isDigit_of_mem_toDigits (b := 10) (by decide) (by decide)
  rw [cut]
  exact List.mem_append_left _ member

theorem length_shortest_le_toDigits (magnitude : Nat) :
    (shortest magnitude).1.length ≤ (Nat.toDigits 10 (coarsestFit magnitude).1).length := by
  rcases shortest_spec magnitude with ⟨zeros, cut, -⟩
  rw [cut, List.length_append]
  exact Nat.le_add_right _ _

theorem shortest_ne_nil {magnitude : Nat} (positive : 0 < magnitude) :
    (shortest magnitude).1 ≠ [] := by
  intro none
  have nearest := isNearest_shortest magnitude
  rw [shortestSize, none, digitsValue, List.foldl_nil, Nat.cast_zero, zero_mul, zero_mul] at nearest
  exact positive.ne' (nearest.unique (isNearest_zero le_rfl (by norm_num)))

/-- No decimal with fewer digits is rounded to the magnitude. If it had the coarser place, it
would be the one that is shown. If it had a finer place, it would be smaller by a digit, and
there would be a power of ten in between: this would be the one that is shown. -/
theorem length_shortest_le {magnitude coefficient : Nat} {power : Int} (positive : 0 < magnitude)
    (nearest : IsNearest magnitude (coefficient * 10 ^ power * 2 ^ 1074)) :
    (shortest magnitude).1.length ≤ (Nat.toDigits 10 coefficient).length := by
  by_contra fewer
  have kept := length_shortest_le_toDigits magnitude
  have shown := readsBack_iff.mp (readsBack_coarsestFit magnitude)
  have maximal := @not_readsBack_of_coarsestFit_lt magnitude
  generalize coarsestFit magnitude = fit at kept shown maximal
  rcases fit with ⟨other, place⟩
  dsimp only at kept shown maximal
  have some : 0 < (Nat.toDigits 10 coefficient).length := Nat.length_toDigits_pos
  have small := lt_pow_length_toDigits coefficient
  have large : 10 ^ (Nat.toDigits 10 coefficient).length ≤ other := by
    by_contra less
    rw [Nat.not_le, ← Nat.length_toDigits_le_iff (by decide) some] at less
    omega
  generalize (Nat.toDigits 10 coefficient).length = length at *
  obtain ⟨offset, rfl⟩ : ∃ offset, power = offset - 1074 := ⟨power + 1074, by ring⟩
  rw [size_of_place] at nearest
  rcases Int.lt_or_le (place : ℤ) offset with coarser | finer
  · obtain ⟨natural, rfl⟩ := Int.eq_ofNat_of_zero_le (show 0 ≤ offset by omega)
    refine maximal positive (show place < natural by omega) coefficient (readsBack_iff.mpr ?_)
    exact_mod_cast nearest
  · have above : (coefficient : ℚ) * 10 ^ offset ≤ 1 * 10 ^ (place + length) := by
      calc (coefficient : ℚ) * 10 ^ offset ≤ 10 ^ length * 10 ^ (place : ℤ) :=
            mul_le_mul (by exact_mod_cast small.le)
              (zpow_le_zpow_right₀ (by norm_num) finer) (by positivity) (by positivity)
        _ = 1 * 10 ^ (place + length) := by
            rw [zpow_natCast, pow_add]
            ring
    have below : 1 * 10 ^ (place + length) ≤ other * 10 ^ place := by
      calc 1 * 10 ^ (place + length) = 10 ^ length * 10 ^ place := by
            rw [pow_add]
            ring
        _ ≤ other * 10 ^ place := Nat.mul_le_mul_right _ large
    refine maximal positive (show place < place + length by omega) 1
      (readsBack_iff.mpr (nearest.between shown ?_ ?_))
    · refine div_le_div_of_nonneg_right ?_ (Nat.cast_nonneg _)
      exact_mod_cast above
    · refine div_le_div_of_nonneg_right ?_ (Nat.cast_nonneg _)
      exact_mod_cast below

/-! ### The first digit -/

theorem pow_le_of_length_toDigits {value : Nat} (positive : 0 < value) :
    10 ^ ((Nat.toDigits 10 value).length - 1) ≤ value := by
  rcases Nat.eq_zero_or_pos ((Nat.toDigits 10 value).length - 1) with single | several
  · rw [single]
    exact positive
  · by_contra less
    rw [Nat.not_le, ← Nat.length_toDigits_le_iff (by decide) several] at less
    omega

/-- The power of ten of the first of the shortest digits. -/
def leading (magnitude : Nat) : Int :=
  (shortest magnitude).2 + (shortest magnitude).1.length - 1

theorem leading_eq (magnitude : Nat) :
    leading magnitude = ((Nat.toDigits 10 (coarsestFit magnitude).1).length - 1 : ℕ) +
      ((coarsestFit magnitude).2 - 1074) := by
  have some := @Nat.length_toDigits_pos 10 (coarsestFit magnitude).1
  rcases shortest_spec magnitude with ⟨zeros, cut, shifted⟩
  have lengths := congrArg List.length cut
  rw [List.length_append, List.length_replicate] at lengths
  rw [leading]
  omega

theorem shortestSize_lt_iff {magnitude : Nat} (positive : 0 < magnitude) (power : Int) :
    shortestSize magnitude < 10 ^ power ↔ leading magnitude < power := by
  have significant : 0 < (coarsestFit magnitude).1 :=
    Nat.pos_of_mul_pos_right ((readsBack_coarsestFit magnitude).bounds positive).1
  have least := pow_le_of_length_toDigits significant
  have greatest := lt_pow_length_toDigits (coarsestFit magnitude).1
  have some := @Nat.length_toDigits_pos 10 (coarsestFit magnitude).1
  rw [shortestSize_eq, leading_eq]
  generalize ((coarsestFit magnitude).2 : ℤ) - 1074 = place
  generalize (coarsestFit magnitude).1 = coefficient at *
  obtain ⟨length, digits⟩ : ∃ length, (Nat.toDigits 10 coefficient).length = length + 1 :=
    ⟨_, (Nat.sub_add_cancel some).symm⟩
  rw [digits] at greatest least ⊢
  rw [Nat.add_sub_cancel] at least ⊢
  have low : (10 : ℚ) ^ ((length : ℤ) + place) ≤ coefficient * 10 ^ place := by
    rw [zpow_add₀ (by norm_num), zpow_natCast]
    exact mul_le_mul_of_nonneg_right (by exact_mod_cast least) (by positivity)
  have high : coefficient * 10 ^ place < (10 : ℚ) ^ ((length : ℤ) + place + 1) := by
    rw [add_right_comm, zpow_add₀ (by norm_num)]
    exact mul_lt_mul_of_pos_right (by exact_mod_cast greatest) (by positivity)
  constructor
  · intro small
    by_contra beyond
    have power : (10 : ℚ) ^ power ≤ 10 ^ ((length : ℤ) + place) :=
      zpow_le_zpow_right₀ (by norm_num) (Int.not_lt.mp beyond)
    linarith
  · intro below
    exact high.trans_le (zpow_le_zpow_right₀ (by norm_num) below)

/-- If a power of ten is shown as such, exactly the smaller magnitudes are shown to be below
it. -/
theorem leading_lt_iff_units_lt {magnitude bound : Nat} {power : Int} (positive : 0 < magnitude)
    (shown : shortest bound = (['1'], power))
    (below : (units (bound - 1) : ℚ) < 10 ^ power * 2 ^ 1074)
    (above : 10 ^ power * 2 ^ 1074 ≤ (units bound : ℚ)) :
    leading magnitude < power ↔ (units magnitude : ℚ) < 10 ^ power * 2 ^ 1074 := by
  have size : shortestSize bound = 10 ^ power := by
    have one : digitsValue ['1'] = 1 := rfl
    rw [shortestSize, shown, one, Nat.cast_one, one_mul]
  rw [← shortestSize_lt_iff positive, ← size]
  rw [← size] at below above
  have nearest := isNearest_shortest magnitude
  have nearestBound := isNearest_shortest bound
  rcases Nat.lt_or_ge magnitude bound with less | more
  · have order : (units magnitude : ℚ) ≤ units (bound - 1) :=
      Nat.cast_le.mpr (units_strictMono.monotone (Nat.le_sub_one_of_lt less))
    refine iff_of_true ?_ (order.trans_lt below)
    by_contra beyond
    have crossed := nearestBound.mono nearest
      (mul_le_mul_of_nonneg_right (not_lt.mp beyond) (by positivity))
    omega
  · have order : (units bound : ℚ) ≤ units magnitude :=
      Nat.cast_le.mpr (units_strictMono.monotone more)
    refine iff_of_false ?_ (not_lt.mpr (above.trans order))
    intro small
    have crossed := nearest.mono nearestBound
      (mul_le_mul_of_nonneg_right small.le (by positivity))
    rw [Nat.le_antisymm crossed more] at small
    exact lt_irrefl _ small

/-- The exact size of a magnitude. -/
def size (magnitude : Nat) : ℚ :=
  units magnitude / 2 ^ 1074

theorem leading_lt_neg_four_iff {magnitude : Nat} (positive : 0 < magnitude) :
    leading magnitude < -4 ↔ size magnitude < 10 ^ (-4 : ℤ) := by
  have shown : shortest 0x3f1a36e2eb1c432d = (['1'], -4) := by decide +kernel
  have below : units (0x3f1a36e2eb1c432d - 1) * 10 ^ 4 < 2 ^ 1074 := by decide +kernel
  have above : 2 ^ 1074 ≤ units 0x3f1a36e2eb1c432d * 10 ^ 4 := by decide +kernel
  have scale : (10 : ℚ) ^ (-4 : ℤ) * 2 ^ 1074 = 2 ^ 1074 / 10 ^ 4 := by
    rw [zpow_neg, mul_comm, div_eq_mul_inv]
    rfl
  rw [size, div_lt_iff₀ (by positivity)]
  apply leading_lt_iff_units_lt positive shown
  · rw [scale, lt_div_iff₀ (by norm_num)]
    exact_mod_cast below
  · rw [scale, div_le_iff₀ (by norm_num)]
    exact_mod_cast above

theorem leading_lt_sixteen_iff {magnitude : Nat} (positive : 0 < magnitude) :
    leading magnitude < 16 ↔ size magnitude < 10 ^ (16 : ℤ) := by
  have shown : shortest 0x4341c37937e08000 = (['1'], 16) := by decide +kernel
  have below : units (0x4341c37937e08000 - 1) < 10 ^ 16 * 2 ^ 1074 := by decide +kernel
  have above : 10 ^ 16 * 2 ^ 1074 ≤ units 0x4341c37937e08000 := by decide +kernel
  rw [size, div_lt_iff₀ (by positivity)]
  apply leading_lt_iff_units_lt positive shown
  · exact_mod_cast below
  · exact_mod_cast above

end Acceptance.Binary64
