import Acceptance.Proofs.Binary64.Text
import Mathlib.Data.List.TakeWhile

namespace Acceptance.Binary64

/-! The layouts of written forms: which of them have an exponent, and which digits they show. -/

/-! ### Exponents -/

theorem mark_not_mem_digits {magnitude : Nat} : 'e' ∉ (shortest magnitude).1 := by
  intro member
  cases isDigit_of_mem_shortest member

theorem mark_not_mem_positional {digits : List Char} (plain : 'e' ∉ digits) (power : Int) :
    'e' ∉ positional digits power := by
  cases power with
  | ofNat count => simp [positional, plain]
  | negSucc places =>
      rw [positional]
      split <;> simp [plain, mt List.mem_of_mem_take plain, mt List.mem_of_mem_drop plain]

theorem mark_mem_scientific (digits : List Char) (leading : Int) :
    'e' ∈ scientific digits leading :=
  List.mem_append_right _ (List.mem_cons_self ..)

theorem size_eq_zero_iff {magnitude : Nat} : size magnitude = 0 ↔ magnitude = 0 := by
  have scale : (2 : ℚ) ^ 1074 ≠ 0 := by positivity
  rw [size, div_eq_zero_iff, or_iff_left scale, Nat.cast_eq_zero]
  exact units_strictMono.injective.eq_iff' units_zero

theorem mark_mem_literalMagnitude_iff (magnitude : Nat) :
    'e' ∈ literalMagnitude magnitude ↔
      size magnitude ≠ 0 ∧ (size magnitude < 10 ^ (-4 : ℤ) ∨ 10 ^ (16 : ℤ) ≤ size magnitude) := by
  rw [ne_eq, size_eq_zero_iff, literalMagnitude]
  split
  case isTrue zero => simp [zero]
  case isFalse nonzero =>
    have positive := Nat.pos_of_ne_zero nonzero
    rw [and_iff_right nonzero, ← leading_lt_neg_four_iff positive, ← not_lt,
      ← leading_lt_sixteen_iff positive, not_lt]
    have plain := mark_not_mem_positional (@mark_not_mem_digits magnitude) (shortest magnitude).2
    change 'e' ∈ (if leading magnitude < -4 ∨ 16 ≤ leading magnitude then _ else _) ↔ _
    split
    case isTrue small_or_large => exact iff_of_true (mark_mem_scientific _ _) small_or_large
    case isFalse medium =>
      refine iff_of_false ?_ medium
      split
      case isTrue => simp [plain]
      case isFalse => exact plain

theorem mark_not_mem_plainMagnitude (magnitude : Nat) : 'e' ∉ plainMagnitude magnitude := by
  rw [plainMagnitude]
  split
  case isTrue => simp
  case isFalse => exact mark_not_mem_positional mark_not_mem_digits _

theorem mark_not_mem_signText (negative : Bool) : 'e' ∉ signText negative := by
  cases negative <;> simp [signText]

/-! ### Significant digits -/

/-- The digits of a text up to its exponent. -/
def coefficientDigits (text : List Char) : List Char :=
  (text.takeWhile (· ≠ 'e')).filter Char.isDigit

/-- The digits of a text up to its exponent, without the zeros at either end. -/
def significantDigits (text : List Char) : List Char :=
  (((coefficientDigits text).dropWhile (· = '0')).reverse.dropWhile (· = '0')).reverse

/-- The digits of a text up to its exponent are the given ones between zeros. -/
def Shows (text digits : List Char) : Prop :=
  ∃ before after, coefficientDigits text =
    List.replicate before '0' ++ (digits ++ List.replicate after '0')

theorem dropWhile_zeros_append (count : Nat) (digits : List Char) :
    (List.replicate count '0' ++ digits).dropWhile (· = '0') = digits.dropWhile (· = '0') :=
  List.dropWhile_append_of_pos fun _ member => decide_eq_true (List.eq_of_mem_replicate member)

theorem Shows.length_significantDigits_le {text digits : List Char}
    (shown : Shows text digits) : (significantDigits text).length ≤ digits.length := by
  rcases shown with ⟨before, after, equal⟩
  rw [significantDigits, equal, dropWhile_zeros_append, List.dropWhile_append]
  split
  case isTrue =>
    have none : (List.replicate after '0').dropWhile (· = '0') = [] := by
      have zeros := dropWhile_zeros_append after []
      rwa [List.append_nil] at zeros
    rw [none]
    exact Nat.zero_le _
  case isFalse =>
    rw [List.reverse_append, List.reverse_replicate, dropWhile_zeros_append, List.length_reverse]
    calc ((digits.dropWhile (· = '0')).reverse.dropWhile (· = '0')).length ≤
          (digits.dropWhile (· = '0')).reverse.length := (List.dropWhile_sublist _).length_le
      _ = (digits.dropWhile (· = '0')).length := List.length_reverse
      _ ≤ digits.length := (List.dropWhile_sublist _).length_le

theorem coefficientDigits_of_plain {text : List Char} (plain : 'e' ∉ text) :
    coefficientDigits text = text.filter Char.isDigit := by
  rw [coefficientDigits, List.takeWhile_eq_self_iff.mpr]
  intro character member
  exact decide_eq_true fun mark => plain (mark ▸ member)

theorem coefficientDigits_of_marked {text : List Char} (plain : 'e' ∉ text)
    (exponent : List Char) :
    coefficientDigits (text ++ 'e' :: exponent) = text.filter Char.isDigit := by
  rw [coefficientDigits, List.takeWhile_append_of_pos, List.takeWhile_cons_of_neg (by decide),
    List.append_nil]
  intro character member
  exact decide_eq_true fun mark => plain (mark ▸ member)

theorem coefficientDigits_signText_append (negative : Bool) (text : List Char) :
    coefficientDigits (signText negative ++ text) = coefficientDigits text := by
  cases negative <;> simp [signText, coefficientDigits]

section

variable {digits : List Char} (decimal : ∀ digit ∈ digits, digit.isDigit = true)
include decimal

theorem filter_positional (power : Int) :
    ∃ before after, (positional digits power).filter Char.isDigit =
      List.replicate before '0' ++ (digits ++ List.replicate after '0') := by
  have kept := List.filter_eq_self.mpr decimal
  cases power with
  | ofNat count =>
      refine ⟨0, count, ?_⟩
      rw [positional, List.filter_append, kept]
      exact congrArg _ (List.filter_eq_self.mpr (Digits.zeros count).decimal)
  | negSucc places =>
      rw [positional]
      split
      case isTrue =>
        refine ⟨0, 0, ?_⟩
        rw [List.filter_append, List.filter_cons_of_neg (by decide), ← List.filter_append,
          List.take_append_drop, kept]
        simp
      case isFalse =>
        refine ⟨places + 1 - digits.length + 1, 0, ?_⟩
        simp [kept, List.replicate_succ]

theorem coefficientDigits_scientific (power : Int) :
    coefficientDigits (scientific digits power) = digits := by
  have plain : 'e' ∉ digits := fun member => by cases decimal 'e' member
  have kept := List.filter_eq_self.mpr decimal
  match digits with
  | [] => exact coefficientDigits_of_marked plain _
  | [digit] => exact (coefficientDigits_of_marked plain _).trans kept
  | digit :: next :: rest =>
      have pointed : 'e' ∉ digit :: '.' :: next :: rest := by simpa using plain
      refine (coefficientDigits_of_marked pointed _).trans ?_
      rw [List.filter_cons_of_pos (decimal digit (List.mem_cons_self ..))] at kept ⊢
      rw [List.filter_cons_of_neg (by decide), kept]

end

/-- The digits that a magnitude is shown with, none of them for zero. -/
def shownDigits (magnitude : Nat) : List Char :=
  if magnitude = 0 then [] else (shortest magnitude).1

theorem shows_plainMagnitude (magnitude : Nat) :
    Shows (plainMagnitude magnitude) (shownDigits magnitude) := by
  rw [Shows, coefficientDigits_of_plain (mark_not_mem_plainMagnitude magnitude), plainMagnitude,
    shownDigits]
  split
  case isTrue => exact ⟨1, 0, rfl⟩
  case isFalse => exact filter_positional (fun _ => isDigit_of_mem_shortest) _

theorem shows_literalMagnitude (magnitude : Nat) :
    Shows (literalMagnitude magnitude) (shownDigits magnitude) := by
  have decimal := @isDigit_of_mem_shortest magnitude
  have plain := mark_not_mem_positional (@mark_not_mem_digits magnitude) (shortest magnitude).2
  rw [literalMagnitude, shownDigits]
  generalize shortest magnitude = shown at *
  rcases shown with ⟨digits, power⟩
  dsimp only at *
  split
  case isTrue => exact ⟨2, 0, rfl⟩
  case isFalse =>
    split
    case isTrue =>
      refine ⟨0, 0, ?_⟩
      rw [coefficientDigits_scientific fun _ => decimal]
      exact (List.append_nil _).symm
    case isFalse =>
      rcases filter_positional (fun _ => decimal) power with ⟨before, after, digits⟩
      split
      case isTrue =>
        refine ⟨before, after + 1, ?_⟩
        rw [coefficientDigits_of_plain (by simp [plain]), List.filter_append, digits,
          List.replicate_succ', List.append_assoc, List.append_assoc]
        rfl
      case isFalse => exact ⟨before, after, (coefficientDigits_of_plain plain).trans digits⟩

/-! ### Numbers -/

section

variable (negative : Bool) (magnitude : Fin finiteCount)

theorem mark_mem_literalCharacters_iff :
    'e' ∈ literalCharacters (.finite negative magnitude) ↔
      size magnitude ≠ 0 ∧ (size magnitude < 10 ^ (-4 : ℤ) ∨ 10 ^ (16 : ℤ) ≤ size magnitude) := by
  rw [literalCharacters, List.mem_append, or_iff_right (mark_not_mem_signText negative),
    mark_mem_literalMagnitude_iff]

theorem mark_not_mem_plainCharacters : 'e' ∉ plainCharacters (.finite negative magnitude) := by
  rw [plainCharacters, List.mem_append, or_iff_right (mark_not_mem_signText negative)]
  exact mark_not_mem_plainMagnitude _

theorem shows_plainCharacters :
    Shows (plainCharacters (.finite negative magnitude)) (shownDigits magnitude) := by
  rw [plainCharacters, Shows, coefficientDigits_signText_append]
  exact shows_plainMagnitude magnitude

theorem shows_literalCharacters :
    Shows (literalCharacters (.finite negative magnitude)) (shownDigits magnitude) := by
  rw [literalCharacters, Shows, coefficientDigits_signText_append]
  exact shows_literalMagnitude magnitude

variable {negative magnitude}

/-- No decimal that is rounded to a number has fewer digits than the number is shown with. -/
theorem Shows.length_le {text : List Char} (shown : Shows text (shownDigits magnitude))
    {decimal : Decimal} (rounded : decimal.round = .finite negative magnitude) :
    (significantDigits text).length ≤ (Nat.toDigits 10 decimal.coefficient).length := by
  refine shown.length_significantDigits_le.trans ?_
  rw [shownDigits]
  split
  case isTrue => exact Nat.zero_le _
  case isFalse nonzero =>
    exact length_shortest_le (Nat.pos_of_ne_zero nonzero) (Decimal.isNearest_of_round rounded)

end

end Acceptance.Binary64
