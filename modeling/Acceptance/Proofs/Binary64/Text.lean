import Acceptance.Binary64.Text
import Acceptance.Proofs.Binary64.Shortest
import Acceptance.Proofs.Binary64.Written
import Acceptance.Proofs.Text.Numbers

namespace Acceptance.Binary64

/-! The two written forms of a finite number are literals that are rounded to it. -/

/-- With any sign in front the text is a literal of the given size. -/
def Spells (text : List Char) (size : ℚ) : Prop :=
  ∀ sign, ∃ literal : Literal,
    literal.sign = sign ∧ literal.unsigned = text ∧ literal.size = size

theorem spells_parts (whole : Digits) (fraction : Option Digits) (exponent : Option Exponent)
    (nonempty : whole.characters ≠ [] ∨ ∃ digits ∈ fraction, digits.characters ≠ []) :
    Spells (whole.characters ++ (Digits.afterPoint fraction ++ Exponent.atEnd exponent))
      (digitsValue (whole.characters ++ (Digits.afterPoint fraction).tail) *
        10 ^ (Exponent.value exponent - (Digits.afterPoint fraction).tail.length)) := fun sign =>
  let literal : Literal := ⟨sign, whole, fraction, exponent, nonempty⟩
  ⟨literal, rfl, rfl, literal.size_decimal.symm⟩

/-! ### Digits and zeros -/

namespace Digits

def zeros (count : Nat) : Digits where
  characters := List.replicate count '0'
  decimal character member := by
    rw [List.eq_of_mem_replicate member]
    rfl

def append (left right : Digits) : Digits where
  characters := left.characters ++ right.characters
  decimal character member :=
    (List.mem_append.mp member).elim (left.decimal character) (right.decimal character)

def take (count : Nat) (digits : Digits) : Digits where
  characters := digits.characters.take count
  decimal character member := digits.decimal character (List.mem_of_mem_take member)

def drop (count : Nat) (digits : Digits) : Digits where
  characters := digits.characters.drop count
  decimal character member := digits.decimal character (List.mem_of_mem_drop member)

end Digits

/-! ### Layouts -/

section

variable (digits : Digits) (nonempty : digits.characters ≠ [])
include nonempty

theorem spells_whole (count : Nat) :
    Spells (digits.characters ++ List.replicate count '0')
      (digitsValue digits.characters * 10 ^ (count : ℤ)) := by
  have spelled := spells_parts (digits.append (.zeros count)) none none
    (.inl (List.append_ne_nil_of_left_ne_nil nonempty _))
  simp only [Digits.append, Digits.zeros, Digits.afterPoint, Exponent.atEnd, Exponent.value,
    List.append_nil, List.tail_nil, List.length_nil, Nat.cast_zero, sub_zero, zpow_zero,
    mul_one] at spelled
  rwa [cast_digitsValue_append_zeros] at spelled

theorem spells_whole_point (count : Nat) :
    Spells (digits.characters ++ List.replicate count '0' ++ ".0".toList)
      (digitsValue digits.characters * 10 ^ (count : ℤ)) := by
  have spelled := spells_parts (digits.append (.zeros count)) (some (.zeros 1)) none
    (.inl (List.append_ne_nil_of_left_ne_nil nonempty _))
  have tenth : ((1 : ℕ) : ℤ) + (0 - (1 : ℕ)) = 0 := by norm_num
  simp only [Digits.append, Digits.zeros, Digits.afterPoint, Exponent.atEnd, Exponent.value,
    List.append_nil, List.tail_cons, List.length_replicate] at spelled
  rwa [cast_digitsValue_append_zeros, cast_digitsValue_append_zeros, mul_assoc,
    ← zpow_add₀ (by norm_num), tenth, zpow_zero, mul_one] at spelled

theorem spells_point (count : Nat) :
    Spells (digits.characters.take count ++ '.' :: digits.characters.drop count)
      (digitsValue digits.characters * 10 ^ (-(digits.characters.length - count : ℕ) : ℤ)) := by
  have either : (digits.take count).characters ≠ [] ∨
      ∃ behind ∈ some (digits.drop count), behind.characters ≠ [] := by
    by_contra neither
    rw [not_or] at neither
    have behind : digits.characters.drop count = [] := by
      by_contra some
      exact neither.2 ⟨_, rfl, some⟩
    apply nonempty
    rw [← List.take_append_drop count digits.characters, behind, List.append_nil]
    exact not_not.mp neither.1
  have spelled := spells_parts (digits.take count) (some (digits.drop count)) none either
  simp only [Digits.take, Digits.drop, Digits.afterPoint, Exponent.atEnd, Exponent.value,
    List.append_nil, List.tail_cons, List.take_append_drop, List.length_drop, zero_sub] at spelled
  exact spelled

omit nonempty in
theorem spells_fraction (count : Nat) :
    Spells ('0' :: '.' :: List.replicate count '0' ++ digits.characters)
      (digitsValue digits.characters * 10 ^ (-(count + digits.characters.length : ℕ) : ℤ)) := by
  have spelled := spells_parts (.zeros 1) (some (.append (.zeros count) digits)) none
    (.inl (by simp [Digits.zeros]))
  simp only [Digits.append, Digits.zeros, Digits.afterPoint, Exponent.atEnd, Exponent.value,
    List.append_nil, List.tail_cons, digitsValue_zeros_append, List.length_append,
    List.length_replicate, zero_sub] at spelled
  exact spelled

theorem spells_positional (power : Int) :
    Spells (positional digits.characters power) (digitsValue digits.characters * 10 ^ power) := by
  cases power with
  | ofNat count => exact spells_whole digits nonempty count
  | negSucc places =>
      have exponent : Int.negSucc places = -(places + 1 : ℕ) := rfl
      rw [positional, exponent]
      split
      case isTrue inside =>
        have spelled := spells_point digits nonempty (digits.characters.length - (places + 1))
        rwa [Nat.sub_sub_self inside.le] at spelled
      case isFalse outside =>
        have spelled := spells_fraction digits (places + 1 - digits.characters.length)
        rwa [Nat.sub_add_cancel (Nat.not_lt.mp outside)] at spelled

theorem spells_positional_point {power : Int} (integral : 0 ≤ power) :
    Spells (positional digits.characters power ++ ".0".toList)
      (digitsValue digits.characters * 10 ^ power) := by
  obtain ⟨count, rfl⟩ := Int.eq_ofNat_of_zero_le integral
  exact spells_whole_point digits nonempty count

end

/-- The exponent that ends a text in scientific layout. -/
def Exponent.ofPower (power : Int) : Exponent where
  mark := 'e'
  sign := if power < 0 then .minus else .absent
  digits := ⟨Nat.toDigits 10 power.natAbs, fun _ =>
    Nat.isDigit_of_mem_toDigits (by decide) (by decide)⟩
  isMark := .inl rfl
  nonempty := Nat.toDigits_ne_nil

theorem Exponent.characters_ofPower (power : Int) :
    (Exponent.ofPower power).characters = 'e' :: (toString power).toList := by
  rw [characters, ofPower]
  dsimp only
  rcases Int.lt_or_le power 0 with negative | natural
  · rw [if_pos negative, Text.toList_toString_of_neg negative]
    rfl
  · rw [if_neg (Int.not_lt.mpr natural), Text.toList_toString_of_nonneg natural]
    rfl

theorem Exponent.value_ofPower (power : Int) :
    Exponent.value (some (.ofPower power)) = power := by
  have digits : (ofPower power).digits.value = power.natAbs := Nat.ofDigitChars_ten_toDigits
  rw [value, digits, ofPower]
  dsimp only
  rcases Int.lt_or_le power 0 with negative | natural
  · rw [if_pos negative, Sign.isNegative, if_pos rfl]
    omega
  · rw [if_neg (Int.not_lt.mpr natural), Sign.isNegative, if_neg Bool.false_ne_true]
    · omega
    · exact nofun

theorem spells_scientific (digits : Digits) (nonempty : digits.characters ≠ []) (leading : Int) :
    Spells (scientific digits.characters leading) (digitsValue digits.characters *
      10 ^ (leading - (digits.characters.length - 1 : ℕ) : ℤ)) := by
  rcases digits with ⟨characters, decimal⟩
  have marked := Exponent.characters_ofPower leading
  match characters with
  | [] => exact absurd rfl nonempty
  | [digit] =>
      have spelled := spells_parts ⟨[digit], decimal⟩ none (some (.ofPower leading)) (.inl nonempty)
      rw [Exponent.value_ofPower] at spelled
      simpa [scientific, Digits.afterPoint, Exponent.atEnd, marked] using spelled
  | digit :: next :: rest =>
      have spelled := spells_parts ⟨[digit], by simp [decimal]⟩
        (some ⟨next :: rest, fun character member => decimal character (.tail _ member)⟩)
        (some (.ofPower leading)) (.inl (by simp))
      rw [Exponent.value_ofPower] at spelled
      simpa [scientific, Digits.afterPoint, Exponent.atEnd, marked] using spelled

/-! ### Written forms -/

def signOf (negative : Bool) : Sign :=
  if negative then .minus else .absent

theorem Spells.writes {text : List Char} {size : ℚ} (spelled : Spells text size)
    (negative : Bool) {magnitude : Fin finiteCount}
    (nearest : IsNearest magnitude (size * 2 ^ 1074)) :
    Writes (signText negative ++ text) (.finite negative magnitude) := by
  rcases spelled (signOf negative) with ⟨literal, sign, rfl, rfl⟩
  have written := Writes.literal literal magnitude nearest
  rw [Literal.characters, sign] at written
  cases negative <;> exact written

def shortestDigits (magnitude : Nat) : Digits :=
  ⟨(shortest magnitude).1, fun _ => isDigit_of_mem_shortest⟩

theorem isNearest_zeros (count : Nat) :
    IsNearest 0 (digitsValue (Digits.zeros count).characters * 10 ^ (0 : ℤ) * 2 ^ 1074) := by
  have value : digitsValue (List.replicate count '0') = 0 := Nat.ofDigitChars_replicate_zero
  rw [Digits.zeros, value, Nat.cast_zero, zero_mul, zero_mul]
  exact isNearest_zero le_rfl (by norm_num)

theorem writes_plainCharacters (negative : Bool) (magnitude : Fin finiteCount) :
    Writes (plainCharacters (.finite negative magnitude)) (.finite negative magnitude) := by
  rw [plainCharacters, plainMagnitude]
  split
  case isTrue zero =>
    refine (spells_positional (.zeros 1) (List.cons_ne_nil _ _) 0).writes negative ?_
    rw [zero]
    exact isNearest_zeros 1
  case isFalse positive =>
    have nonempty := shortest_ne_nil (Nat.pos_of_ne_zero positive)
    exact (spells_positional (shortestDigits magnitude) nonempty _).writes negative
      (isNearest_shortest magnitude)

theorem writes_literalCharacters (negative : Bool) (magnitude : Fin finiteCount) :
    Writes (literalCharacters (.finite negative magnitude)) (.finite negative magnitude) := by
  rw [literalCharacters, literalMagnitude]
  split
  case isTrue zero =>
    refine (spells_positional_point (.zeros 1) (List.cons_ne_nil _ _) le_rfl).writes negative ?_
    rw [zero]
    exact isNearest_zeros 1
  case isFalse positive =>
    have nonempty := shortest_ne_nil (Nat.pos_of_ne_zero positive)
    have nearest := isNearest_shortest magnitude
    dsimp only
    split
    case isTrue =>
      refine (spells_scientific (shortestDigits magnitude) nonempty _).writes negative ?_
      have last : (shortest magnitude).2 + (shortest magnitude).1.length - 1 -
          ((shortest magnitude).1.length - 1 : ℕ) = (shortest magnitude).2 := by
        have length := List.length_pos_iff.mpr nonempty
        omega
      rw [shortestDigits, last]
      exact nearest
    case isFalse =>
      split
      case isTrue integral =>
        exact (spells_positional_point (shortestDigits magnitude) nonempty integral).writes
          negative nearest
      case isFalse =>
        exact (spells_positional (shortestDigits magnitude) nonempty _).writes negative nearest

end Acceptance.Binary64
