import Acceptance.Proofs.Binary64.Decimal
import Acceptance.Proofs.Text.Delimited
import Mathlib.Algebra.Order.Ring.Abs
import Mathlib.Tactic.FieldSimp

namespace Acceptance.Binary64

/-! Literals, and that exactly these are read as decimals. A literal has digits before or after
a point that may be left out, and it may have a sign and an exponent. -/

structure Digits where
  characters : List Char
  decimal : ∀ character ∈ characters, character.isDigit = true

namespace Digits

def value (digits : Digits) : Nat :=
  Nat.ofDigitChars 10 digits.characters 0

def afterPoint : Option Digits → List Char
  | none => []
  | some digits => '.' :: digits.characters

/-- The digits after a point count tenths, hundredths and so on. -/
def fractionValue : Option Digits → ℚ
  | none => 0
  | some digits => digits.value / 10 ^ digits.characters.length

end Digits

inductive Sign where
  | absent
  | plus
  | minus
deriving DecidableEq

namespace Sign

def characters : Sign → List Char
  | .absent => []
  | .plus => ['+']
  | .minus => ['-']

def isNegative : Sign → Bool
  | .minus => true
  | _ => false

end Sign

/-- The power of ten at the end of a literal, as in `e-5`. -/
structure Exponent where
  mark : Char
  sign : Sign
  digits : Digits
  isMark : mark = 'e' ∨ mark = 'E'
  nonempty : digits.characters ≠ []

namespace Exponent

def characters (exponent : Exponent) : List Char :=
  exponent.mark :: (exponent.sign.characters ++ exponent.digits.characters)

def atEnd : Option Exponent → List Char
  | none => []
  | some exponent => exponent.characters

def value : Option Exponent → Int
  | none => 0
  | some exponent =>
      if exponent.sign.isNegative then -exponent.digits.value else exponent.digits.value

end Exponent

structure Literal where
  sign : Sign
  whole : Digits
  /-- The digits after the point, if there is one. -/
  fraction : Option Digits
  exponent : Option Exponent
  nonempty : whole.characters ≠ [] ∨ ∃ digits ∈ fraction, digits.characters ≠ []

namespace Literal

def unsigned (literal : Literal) : List Char :=
  literal.whole.characters ++
    (Digits.afterPoint literal.fraction ++ Exponent.atEnd literal.exponent)

def characters (literal : Literal) : List Char :=
  literal.sign.characters ++ literal.unsigned

/-- The exact value of a literal without its sign. -/
def size (literal : Literal) : ℚ :=
  (literal.whole.value + Digits.fractionValue literal.fraction) *
    10 ^ Exponent.value literal.exponent

def value (literal : Literal) : ℚ :=
  if literal.sign.isNegative then -literal.size else literal.size

theorem size_nonneg (literal : Literal) : 0 ≤ literal.size := by
  have fraction : 0 ≤ Digits.fractionValue literal.fraction := by
    cases literal.fraction with
    | none => exact le_refl _
    | some digits =>
        exact div_nonneg (Nat.cast_nonneg _) (by positivity)
  exact mul_nonneg (add_nonneg (Nat.cast_nonneg _) fraction) (by positivity)

theorem abs_value (literal : Literal) : |literal.value| = literal.size := by
  rw [value]
  split
  · rw [abs_neg, abs_of_nonneg literal.size_nonneg]
  · rw [abs_of_nonneg literal.size_nonneg]

end Literal

/-! ### Reading signs and digits -/

theorem readSign_append (sign : Sign) {rest : List Char}
    (plain : ∀ character ∈ rest.head?, character ≠ '+' ∧ character ≠ '-') :
    readSign (sign.characters ++ rest) = (sign.isNegative, rest) := by
  cases sign with
  | absent =>
      rw [Sign.characters, List.nil_append, readSign.eq_def]
      split
      · exact absurd rfl (plain '-' rfl).2
      · exact absurd rfl (plain '+' rfl).1
      · rfl
  | plus => rfl
  | minus => rfl

theorem exists_sign (text : List Char) :
    ∃ sign : Sign, text = sign.characters ++ (readSign text).2 ∧
      sign.isNegative = (readSign text).1 := by
  rw [readSign.eq_def]
  split
  · exact ⟨.minus, rfl, rfl⟩
  · exact ⟨.plus, rfl, rfl⟩
  · exact ⟨.absent, rfl, rfl⟩

section

variable (digits : Digits) {rest : List Char}
  (stop : ∀ character ∈ rest.head?, character.isDigit = false)
include stop

theorem takeWhile_digits :
    (digits.characters ++ rest).takeWhile Char.isDigit = digits.characters :=
  Text.takeWhile_run digits.decimal stop

theorem dropWhile_digits : (digits.characters ++ rest).dropWhile Char.isDigit = rest :=
  Text.dropWhile_run digits.decimal stop

end

theorem Digits.isDigit_of_head {digits : Digits} {character : Char}
    (head : character ∈ digits.characters.head?) : character.isDigit = true :=
  digits.decimal character (List.mem_of_mem_head? head)

/-! ### Reading exponents and fractions -/

theorem Exponent.head_atEnd {exponent : Option Exponent} {character : Char}
    (head : character ∈ (atEnd exponent).head?) : character = 'e' ∨ character = 'E' := by
  cases exponent with
  | none => cases head
  | some exponent =>
      cases head
      exact exponent.isMark

theorem readExponent_atEnd (exponent : Option Exponent) :
    readExponent (Exponent.atEnd exponent) = some (Exponent.value exponent) := by
  cases exponent with
  | none => rfl
  | some exponent =>
      have plain : ∀ character ∈ exponent.digits.characters.head?,
          character ≠ '+' ∧ character ≠ '-' := by
        intro character head
        have digit := Digits.isDigit_of_head head
        constructor <;> rintro rfl <;> cases digit
      have digits : exponent.digits.characters.all Char.isDigit = true :=
        List.all_eq_true.mpr exponent.digits.decimal
      rw [Exponent.atEnd, Exponent.characters, readExponent, if_pos exponent.isMark,
        readSign_append exponent.sign plain, if_pos ⟨exponent.nonempty, digits⟩]
      rfl

theorem exists_exponent {text : List Char} {value : Int}
    (read : readExponent text = some value) :
    ∃ exponent : Option Exponent, text = Exponent.atEnd exponent := by
  cases text with
  | nil => exact ⟨none, rfl⟩
  | cons mark rest =>
      rw [readExponent] at read
      split at read
      case isFalse => cases read
      case isTrue isMark =>
        dsimp only at read
        split at read
        case isFalse => cases read
        case isTrue digits =>
          rcases exists_sign rest with ⟨sign, cut, -⟩
          refine ⟨some ⟨mark, sign, ⟨(readSign rest).2, List.all_eq_true.mp digits.2⟩, isMark,
            digits.1⟩, ?_⟩
          rw [Exponent.atEnd, Exponent.characters, ← cut]

theorem readFraction_afterPoint (fraction : Option Digits) (exponent : Option Exponent) :
    readFraction (Digits.afterPoint fraction ++ Exponent.atEnd exponent) =
      ((Digits.afterPoint fraction).tail, Exponent.atEnd exponent) := by
  cases fraction with
  | none =>
      rw [Digits.afterPoint, List.nil_append, readFraction.eq_def]
      split
      case h_1 rest point =>
        have head : '.' ∈ (Exponent.atEnd exponent).head? := by
          rw [point]
          rfl
        rcases Exponent.head_atEnd head with mark | mark <;> cases mark
      case h_2 => rfl
  | some digits =>
      have stop : ∀ character ∈ (Exponent.atEnd exponent).head?, character.isDigit = false := by
        intro character head
        rcases Exponent.head_atEnd head with rfl | rfl <;> rfl
      rw [Digits.afterPoint, List.cons_append, readFraction, takeWhile_digits digits stop,
        dropWhile_digits digits stop, List.tail_cons]

/-- The digits that stop where `takeWhile` stops. -/
def Digits.leading (text : List Char) : Digits :=
  ⟨text.takeWhile Char.isDigit, List.all_eq_true.mp List.all_takeWhile⟩

theorem exists_fraction (text : List Char) :
    ∃ fraction : Option Digits,
      text = Digits.afterPoint fraction ++ (readFraction text).2 ∧
        (readFraction text).1 = (Digits.afterPoint fraction).tail := by
  rw [readFraction.eq_def]
  split
  case h_1 rest =>
    refine ⟨some (Digits.leading rest), ?_, rfl⟩
    exact congrArg ('.' :: ·) List.takeWhile_append_dropWhile.symm
  case h_2 => exact ⟨none, rfl, rfl⟩

/-! ### Reading literals -/

namespace Literal

/-- The decimal that a literal writes: all of its digits, scaled down by those after the
point. -/
def decimal (literal : Literal) : Decimal where
  negative := literal.sign.isNegative
  coefficient := digitsValue (literal.whole.characters ++ (Digits.afterPoint literal.fraction).tail)
  exponent := Exponent.value literal.exponent - (Digits.afterPoint literal.fraction).tail.length

theorem size_decimal (literal : Literal) : literal.decimal.size = literal.size := by
  rw [Decimal.size, size, decimal]
  dsimp only
  cases literal.fraction with
  | none =>
      have whole : digitsValue (literal.whole.characters ++ []) = literal.whole.value := by
        rw [List.append_nil]
        rfl
      rw [Digits.afterPoint, List.tail_nil, whole, Digits.fractionValue, add_zero,
        List.length_nil, Nat.cast_zero, sub_zero]
  | some digits =>
      have all : digitsValue (literal.whole.characters ++ digits.characters) =
          10 ^ digits.characters.length * literal.whole.value + digits.value :=
        digitsValue_append _ _
      have scale : (10 : ℚ) ^ digits.characters.length ≠ 0 := by positivity
      rw [Digits.afterPoint, List.tail_cons, all, Digits.fractionValue,
        zpow_sub₀ (by norm_num), zpow_natCast]
      push_cast
      field_simp

theorem readDecimal_unsigned (literal : Literal) :
    readDecimal literal.sign.isNegative literal.unsigned = some literal.decimal := by
  have stop : ∀ character ∈ (Digits.afterPoint literal.fraction ++
      Exponent.atEnd literal.exponent).head?, character.isDigit = false := by
    cases literal.fraction with
    | none =>
        intro character head
        rcases Exponent.head_atEnd head with rfl | rfl <;> rfl
    | some digits =>
        rintro character ⟨⟩
        rfl
  have significant : ¬ (literal.whole.characters = [] ∧
      (Digits.afterPoint literal.fraction).tail = []) := by
    rintro ⟨whole, fraction⟩
    rcases literal.nonempty with nonempty | ⟨digits, member, nonempty⟩
    · exact nonempty whole
    · rw [Option.mem_def] at member
      rw [member] at fraction
      exact nonempty fraction
  rw [readDecimal, unsigned]
  simp only [takeWhile_digits literal.whole stop, dropWhile_digits literal.whole stop,
    readFraction_afterPoint, if_neg significant, readExponent_atEnd, Option.map_some]
  rfl

/-- A literal starts with a digit or with its point. -/
theorem head_unsigned {literal : Literal} {character : Char}
    (head : character ∈ literal.unsigned.head?) : character.isDigit = true ∨ character = '.' := by
  rw [unsigned] at head
  cases whole : literal.whole.characters with
  | cons first rest =>
      rw [whole] at head
      cases head
      exact .inl (literal.whole.decimal character (by simp [whole]))
  | nil =>
      rw [whole, List.nil_append] at head
      rcases literal.nonempty with nonempty | ⟨digits, member, -⟩
      · exact absurd whole nonempty
      · rw [Option.mem_def] at member
        rw [member] at head
        cases head
        exact .inr rfl

theorem readSign_characters (literal : Literal) :
    readSign literal.characters = (literal.sign.isNegative, literal.unsigned) := by
  apply readSign_append
  intro character head
  constructor <;> rintro rfl <;> rcases head_unsigned head with digit | point
  · cases digit
  · cases point
  · cases digit
  · cases point

theorem ofDecimalText_characters (literal : Literal) :
    ofDecimalText literal.characters = some literal.decimal.round := by
  rw [ofDecimalText, readSign_characters]
  exact congrArg (Option.map Decimal.round) literal.readDecimal_unsigned

end Literal

theorem exists_unsigned {negative : Bool} {text : List Char} {decimal : Decimal}
    (read : readDecimal negative text = some decimal) (sign : Sign) :
    ∃ literal : Literal, literal.sign = sign ∧ text = literal.unsigned := by
  rw [readDecimal] at read
  split at read
  case isTrue => cases read
  case isFalse significant =>
    rcases Option.map_eq_some_iff.mp read with ⟨value, readExponent, -⟩
    rcases exists_fraction (text.dropWhile Char.isDigit) with ⟨fraction, cut, behindPoint⟩
    rcases exists_exponent readExponent with ⟨exponent, atEnd⟩
    rw [atEnd] at cut
    rw [behindPoint] at significant
    have nonempty : (Digits.leading text).characters ≠ [] ∨
        ∃ digits ∈ fraction, digits.characters ≠ [] := by
      rw [not_and_or] at significant
      refine significant.imp_right fun behind => ?_
      cases fraction with
      | none => exact absurd rfl behind
      | some digits => exact ⟨digits, rfl, behind⟩
    refine ⟨⟨sign, Digits.leading text, fraction, exponent, nonempty⟩, rfl, ?_⟩
    rw [Literal.unsigned, ← cut]
    exact List.takeWhile_append_dropWhile.symm

/-- What is read as a decimal is a literal. -/
theorem exists_literal {text : List Char} {number : Binary64}
    (read : ofDecimalText text = some number) :
    ∃ literal : Literal, text = literal.characters ∧ literal.decimal.round = number := by
  rcases exists_sign text with ⟨sign, signed, negative⟩
  rcases Option.map_eq_some_iff.mp read with ⟨decimal, readDecimal, rounded⟩
  rcases exists_unsigned readDecimal sign with ⟨literal, rfl, unsigned⟩
  have written : text = literal.characters := by
    rw [Literal.characters, ← unsigned]
    exact signed
  refine ⟨literal, written, ?_⟩
  rw [written, literal.ofDecimalText_characters] at read
  exact Option.some.inj read

end Acceptance.Binary64
