import Acceptance.Proofs.Binary64.Literal
import Acceptance.Proofs.Text.Words
import Acceptance.Proofs.Unicode.Case

namespace Acceptance.Binary64

/-! The written forms of numbers, and that exactly these are read: literals, and the names of
the numbers that are not finite. -/

/-- What the written forms stand for: those of literals for the number nearest to their exact
value, if it is finite. -/
inductive Writes : List Char → Binary64 → Prop where
  | nan (sign : Sign) : Writes (sign.characters ++ "NaN".toList) .nan
  | infinity (sign : Sign) :
      Writes (sign.characters ++ "Infinity".toList) (.infinite sign.isNegative)
  | literal (literal : Literal) (magnitude : Fin finiteCount)
      (nearest : IsNearest magnitude (literal.size * 2 ^ 1074)) :
      Writes literal.characters (.finite literal.sign.isNegative magnitude)

/-- A literal writes the number that its decimal is rounded to, if this is finite. -/
theorem Literal.writes_iff {literal : Literal} {number : Binary64} :
    literal.decimal.round = number ∧ number.isFinite = true ↔
      ∃ magnitude : Fin finiteCount, IsNearest magnitude (literal.size * 2 ^ 1074) ∧
        number = .finite literal.sign.isNegative magnitude := by
  rcases literal.decimal.exists_isNearest with ⟨magnitude, nearest⟩
  have rounded := Decimal.round_of_isNearest nearest
  rw [literal.size_decimal] at nearest
  rw [rounded]
  constructor
  · rintro ⟨rfl, finite⟩
    rw [ofMagnitude] at finite ⊢
    split
    case isTrue bounded => exact ⟨⟨magnitude, bounded⟩, nearest, rfl⟩
    case isFalse beyond => simp [isFinite, beyond] at finite
  · rintro ⟨other, otherNearest, rfl⟩
    have same : magnitude = other := nearest.unique otherNearest
    rw [same, ofMagnitude, dif_pos other.isLt]
    exact ⟨rfl, rfl⟩

/-- A literal starts with a digit or a point, so it is no word in any letter case. -/
theorem Literal.isWord_unsigned (literal : Literal) {word : String} {first : Char}
    {rest : List Char} (letters : word.toList = first :: rest) (letter : first.isLower = true) :
    isWord word literal.unsigned = false := by
  rw [isWord, letters, decide_eq_false_iff_not]
  intro same
  cases characters : literal.unsigned with
  | nil =>
      rw [characters] at same
      cases same
  | cons character characterRest =>
      rw [characters, List.map_cons, List.cons.injEq] at same
      have head : character ∈ literal.unsigned.head? := by
        rw [characters]
        rfl
      have plain : character.isUpper = false ∧ character.isLower = false := by
        rcases head_unsigned head with digit | point
        · rw [Unicode.isDigit_iff] at digit
          rw [Bool.eq_false_iff, Bool.eq_false_iff, ne_eq, ne_eq, Unicode.isUpper_iff,
            Unicode.isLower_iff]
          omega
        · rw [point]
          decide
      rw [← same.1, Unicode.toLower_of_isUpper_eq_false plain.1, plain.2] at letter
      cases letter

theorem isNonFiniteLiteral_iff {text : List Char} :
    isNonFiniteLiteral text = true ↔
      (readSign text).2 = "NaN".toList ∨ (readSign text).2 = "Infinity".toList := by
  rw [isNonFiniteLiteral, Bool.or_eq_true, decide_eq_true_iff, decide_eq_true_iff]

/-- A number is read from exactly its written forms, if one that is not finite is only read from
its one spelling. -/
theorem writes_iff_ofText {text : List Char} {number : Binary64} :
    Writes text number ↔
      ofText text = some number ∧
        (number.isFinite = true ∨ isNonFiniteLiteral text = true) := by
  constructor
  · intro written
    cases written with
    | nan sign =>
        rw [ofText, isNonFiniteLiteral, readSign_append sign (by simp)]
        exact ⟨rfl, .inr rfl⟩
    | infinity sign =>
        rw [ofText, isNonFiniteLiteral, readSign_append sign (by simp)]
        exact ⟨rfl, .inr rfl⟩
    | literal literal magnitude nearest =>
        rcases Literal.writes_iff.mpr ⟨magnitude, nearest, rfl⟩ with ⟨rounded, finite⟩
        have notNan : isWord "nan" literal.unsigned = false := literal.isWord_unsigned rfl rfl
        have notInf : isWord "inf" literal.unsigned = false := literal.isWord_unsigned rfl rfl
        have notInfinity : isWord "infinity" literal.unsigned = false :=
          literal.isWord_unsigned rfl rfl
        rw [ofText, literal.readSign_characters]
        simp only [notNan, notInf, notInfinity, Bool.or_self, Bool.false_eq_true, if_false]
        rw [literal.ofDecimalText_characters, rounded]
        exact ⟨rfl, .inl finite⟩
  · intro parts
    rcases parts with ⟨read, guarded⟩
    rcases exists_sign text with ⟨sign, cut, negative⟩
    rw [isNonFiniteLiteral_iff] at guarded
    rw [ofText] at read
    split at read
    case isTrue word =>
      cases read
      rcases guarded with finite | spelled | spelled
      · cases finite
      · rw [cut, spelled]
        exact .nan sign
      · rw [spelled] at word
        exact absurd word (by decide)
    case isFalse notNan =>
      split at read
      case isTrue word =>
        cases read
        rcases guarded with finite | spelled | spelled
        · cases finite
        · rw [spelled] at notNan
          exact absurd (by decide) notNan
        · rw [← negative, cut, spelled]
          exact .infinity sign
      case isFalse notInfinity =>
        rcases guarded with finite | spelled | spelled
        · rcases exists_literal read with ⟨literal, rfl, rounded⟩
          rcases Literal.writes_iff.mp ⟨rounded, finite⟩ with ⟨magnitude, nearest, rfl⟩
          exact .literal literal magnitude nearest
        · rw [spelled] at notNan
          exact absurd (by decide) notNan
        · rw [spelled] at notInfinity
          exact absurd (by decide) notInfinity

/-- A text names a number if it spells one out or if it is a literal of a value that is
rounded to a finite number. -/
def IsNumeral (text : List Char) : Prop :=
  (∃ sign : Sign, text = sign.characters ++ "NaN".toList) ∨
    (∃ sign : Sign, text = sign.characters ++ "Infinity".toList) ∨
    ∃ literal : Literal, text = literal.characters ∧ |literal.value| < 2 ^ 1024 - 2 ^ 970

theorem isNumeral_iff {text : List Char} : IsNumeral text ↔ ∃ number, Writes text number := by
  constructor
  · rintro (⟨sign, rfl⟩ | ⟨sign, rfl⟩ | ⟨literal, rfl, below⟩)
    · exact ⟨_, .nan sign⟩
    · exact ⟨_, .infinity sign⟩
    · rw [literal.abs_value, ← overflow, ← literal.size_decimal, ← Decimal.isFinite_round_iff]
        at below
      rcases Literal.writes_iff.mp ⟨rfl, below⟩ with ⟨magnitude, nearest, -⟩
      exact ⟨_, .literal literal magnitude nearest⟩
  · rintro ⟨number, ⟨sign⟩ | ⟨sign⟩ | ⟨literal, magnitude, nearest⟩⟩
    · exact .inl ⟨sign, rfl⟩
    · exact .inr (.inl ⟨sign, rfl⟩)
    · refine .inr (.inr ⟨literal, rfl, ?_⟩)
      rw [literal.abs_value, ← overflow, ← nearest.lt_finiteCount_iff]
      exact magnitude.isLt

/-! ### No blanks -/

theorem isWhitespace_of_isDigit {character : Char} (digit : character.isDigit = true) :
    Unicode.isWhitespace character = false := by
  have bounds := Unicode.isDigit_iff.mp digit
  rw [← Bool.not_eq_true, Unicode.isWhitespace, Unicode.inRanges_eq_true_iff]
  simp only [Unicode.whitespaceRanges, Unicode.CodeRange.Contains, List.mem_cons,
    List.not_mem_nil, or_false, exists_eq_or_imp, exists_eq_left]
  omega

theorem Digits.isVisible (digits : Digits) : Text.IsVisible digits.characters :=
  fun character member => isWhitespace_of_isDigit (digits.decimal character member)

theorem Sign.isVisible (sign : Sign) : Text.IsVisible sign.characters := by
  cases sign <;> decide

theorem Digits.isVisible_afterPoint (fraction : Option Digits) :
    Text.IsVisible (afterPoint fraction) := by
  cases fraction with
  | none => decide
  | some digits => exact List.forall_mem_cons.mpr ⟨by decide, digits.isVisible⟩

theorem Exponent.isVisible_atEnd (exponent : Option Exponent) :
    Text.IsVisible (atEnd exponent) := by
  cases exponent with
  | none => decide
  | some exponent =>
      have mark : Unicode.isWhitespace exponent.mark = false := by
        rcases exponent.isMark with equal | equal <;> rw [equal] <;> decide
      exact List.forall_mem_cons.mpr
        ⟨mark, exponent.sign.isVisible.append exponent.digits.isVisible⟩

theorem Literal.isVisible (literal : Literal) : Text.IsVisible literal.characters :=
  literal.sign.isVisible.append (literal.whole.isVisible.append
    ((Digits.isVisible_afterPoint _).append (Exponent.isVisible_atEnd _)))

theorem Writes.isVisible {text : List Char} {number : Binary64} (written : Writes text number) :
    Text.IsVisible text := by
  cases written with
  | nan sign => exact sign.isVisible.append (by decide)
  | infinity sign => exact sign.isVisible.append (by decide)
  | literal literal => exact literal.isVisible

end Acceptance.Binary64
