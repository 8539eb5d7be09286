import Acceptance.Proofs.Text.Delimited

namespace Acceptance.Text

/-! Numbers that are read from a text: the one that it starts with, which ends before anything
but a digit, and all that stand in it. -/

/-! ### The leading number -/

/-- The number whose digits a text starts with. -/
def leadingNumber (text : List Char) : Nat :=
  Nat.ofDigitChars 10 (text.takeWhile Char.isDigit) 0

theorem isDigit_of_mem_toDigits (value : Nat) :
    ∀ character ∈ Nat.toDigits 10 value, character.isDigit = true :=
  fun _ => Nat.isDigit_of_mem_toDigits (by decide) (by decide)

theorem leadingNumber_append (value : Nat) {rest : List Char}
    (stop : StartsWithStop (fun character => character.isDigit = false) rest) :
    leadingNumber (Nat.toDigits 10 value ++ rest) = value := by
  rw [leadingNumber, takeWhile_run (isDigit_of_mem_toDigits value) stop,
    Nat.ofDigitChars_ten_toDigits]

theorem exists_toDigits_cons (value : Nat) :
    ∃ first others, Nat.toDigits 10 value = first :: others ∧ first.isDigit = true := by
  have digits := isDigit_of_mem_toDigits value
  cases written : Nat.toDigits 10 value with
  | nil => exact absurd written Nat.toDigits_ne_nil
  | cons first others =>
      rw [written, List.forall_mem_cons] at digits
      exact ⟨first, others, rfl, digits.1⟩

theorem toList_toString_of_nonneg {value : Int} (natural : 0 ≤ value) :
    (toString value).toList = Nat.toDigits 10 value.natAbs := by
  have size : value.toNat = value.natAbs := by omega
  rw [Int.toString_eq_repr, Int.repr_eq_if, if_pos natural, size, Nat.toList_repr]

theorem toList_toString_of_neg {value : Int} (negative : value < 0) :
    (toString value).toList = '-' :: Nat.toDigits 10 value.natAbs := by
  have size : (-value).toNat = value.natAbs := by omega
  rw [Int.toString_eq_repr, Int.repr_eq_if, if_neg (Int.not_le.mpr negative), size,
    String.toList_append, Nat.toList_repr]
  rfl

/-- The number that a text starts with, which may be negative. -/
def leadingInteger (text : List Char) : Int :=
  if text.head? = some '-' then -leadingNumber text.tail else leadingNumber text

theorem leadingInteger_append (value : Int) {rest : List Char}
    (stop : StartsWithStop (fun character => character.isDigit = false) rest) :
    leadingInteger ((toString value).toList ++ rest) = value := by
  have size := leadingNumber_append value.natAbs stop
  rcases Int.lt_or_le value 0 with negative | natural
  · rw [toList_toString_of_neg negative, List.cons_append, leadingInteger, List.head?_cons,
      if_pos rfl, List.tail_cons, size]
    omega
  · rcases exists_toDigits_cons value.natAbs with ⟨first, others, written, digit⟩
    have unsigned : ¬ (Nat.toDigits 10 value.natAbs ++ rest).head? = some '-' := by
      rw [written]
      intro head
      cases head
      cases digit
    rw [toList_toString_of_nonneg natural, leadingInteger, if_neg unsigned, size]
    omega

/-! ### All numbers -/

/-- The longest runs of digits in a text, each as a number. -/
def numbers (text : List Char) : List Nat :=
  ((text.splitOnP fun character => !character.isDigit).filter (· ≠ [])).map
    fun digits => Nat.ofDigitChars 10 digits 0

theorem numbers_cons {character : Char} (plain : character.isDigit = false) (rest : List Char) :
    numbers (character :: rest) = numbers rest := by
  rw [numbers, List.splitOnP_cons_eq_if_modifyHead, if_pos (by simp [plain]),
    List.filter_cons_of_neg (by simp)]
  rfl

theorem numbers_append {text : List Char} (plain : ∀ character ∈ text, character.isDigit = false)
    (rest : List Char) : numbers (text ++ rest) = numbers rest := by
  induction text with
  | nil => rfl
  | cons character text induction =>
      rw [List.forall_mem_cons] at plain
      rw [List.cons_append, numbers_cons plain.1, induction plain.2]

theorem numbers_eq_nil {text : List Char} (plain : ∀ character ∈ text, character.isDigit = false) :
    numbers text = [] := by
  rw [← List.append_nil text, numbers_append plain]
  rfl

theorem numbers_toDigits_append (value : Nat) {rest : List Char}
    (stop : StartsWithStop (fun character => character.isDigit = false) rest) :
    numbers (Nat.toDigits 10 value ++ rest) = value :: numbers rest := by
  have digits : ∀ character ∈ Nat.toDigits 10 value, (!character.isDigit) = false := by
    intro character member
    rw [isDigit_of_mem_toDigits value character member]
    rfl
  cases rest with
  | nil =>
      rw [List.append_nil, numbers, List.splitOnP_eq_singleton digits,
        List.filter_cons_of_pos (by simp), List.map_cons, Nat.ofDigitChars_ten_toDigits]
      rfl
  | cons character rest =>
      have plain := stop character rfl
      rw [numbers_cons plain, numbers,
        List.splitOnP_append_cons_of_forall_mem digits character (by simp [plain]),
        List.filter_cons_of_pos (by simp), List.map_cons, Nat.ofDigitChars_ten_toDigits]
      rfl

example : numbers "3 steps (1 passed, 20 failed)".toList = [3, 1, 20] := by decide +kernel

end Acceptance.Text
