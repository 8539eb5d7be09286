import Acceptance.Proofs.Text.Delimited
import Acceptance.Text.Quoted

namespace Acceptance.Text

/-! Quoted text says just one text. Each character is written so that it is seen where it ends:
a backslash opens an escape, its second character tells which one, and a code point ends at its
brace. So a look-alike of an escape is not taken for one, its backslash being escaped itself. -/

/-! ### Hexadecimal digits -/

theorem eq_digitChar_of_mem_toDigits {value : Nat} {character : Char}
    (member : character ∈ Nat.toDigits 16 value) :
    ∃ digit < 16, character = Nat.digitChar digit := by
  induction value using Nat.strongRecOn with
  | ind value induction =>
      rw [Nat.toDigits_eq_if (by decide)] at member
      split at member
      case isTrue small => exact ⟨value, small, List.mem_singleton.mp member⟩
      case isFalse large =>
        rw [List.mem_append, List.mem_singleton] at member
        rcases member with earlier | last
        · exact induction (value / 16) (by omega) earlier
        · exact ⟨value % 16, by omega, last⟩

theorem brace_not_mem_toDigits (value : Nat) : '\x7d' ∉ Nat.toDigits 16 value := by
  intro member
  rcases eq_digitChar_of_mem_toDigits member with ⟨digit, _, same⟩
  exact Nat.digitChar_ne '\x7d' (by decide) same.symm

/-- The value of a hexadecimal digit in small letters. -/
def hexadecimalDigit (character : Char) : Nat :=
  if character.isDigit then character.toNat - '0'.toNat else character.toNat - 'a'.toNat + 10

def hexadecimal (digits : List Char) : Nat :=
  digits.foldl (fun value character => 16 * value + hexadecimalDigit character) 0

theorem hexadecimalDigit_digitChar :
    ∀ digit < 16, hexadecimalDigit (Nat.digitChar digit) = digit := by
  decide

theorem hexadecimal_toDigits (value : Nat) : hexadecimal (Nat.toDigits 16 value) = value := by
  induction value using Nat.strongRecOn with
  | ind value induction =>
      rw [Nat.toDigits_eq_if (by decide)]
      split
      case isTrue small =>
        rw [hexadecimal, List.foldl_cons, List.foldl_nil, hexadecimalDigit_digitChar _ small]
        omega
      case isFalse large =>
        have earlier := induction (value / 16) (by omega)
        rw [hexadecimal] at earlier
        rw [hexadecimal, List.foldl_append, earlier, List.foldl_cons, List.foldl_nil,
          hexadecimalDigit_digitChar _ (Nat.mod_lt _ (by decide))]
        omega

/-! ### Reading a character -/

/-- The character that is escaped by a backslash before another one. -/
def unescaped : Char → Char
  | '0' => '\x00'
  | 't' => '\t'
  | 'r' => '\r'
  | 'n' => '\n'
  | mark => mark

/-- The character that an escape stands for, read behind its backslash. -/
def leadingEscape : List Char → Char
  | [] => '\\'
  | mark :: rest =>
      if mark = 'u' then
        .ofNat (hexadecimal (rest.tail.takeWhile (· ≠ '\x7d')))
      else
        unescaped mark

/-- The character that the text between two quotes starts with. -/
def leadingCharacter : List Char → Char
  | [] => '"'
  | character :: rest => if character = '\\' then leadingEscape rest else character

theorem leadingCharacter_codePointEscape (character : Char) (rest : List Char) :
    leadingCharacter (codePointEscape character ++ rest) = character := by
  have digits : ∀ digit ∈ Nat.toDigits 16 character.toNat, decide (digit ≠ '\x7d') = true := by
    intro digit member
    apply decide_eq_true
    intro brace
    rw [brace] at member
    exact brace_not_mem_toDigits _ member
  have brace : StartsWithStop (fun digit => decide (digit ≠ '\x7d') = false) ('\x7d' :: rest) := by
    apply startsWithStop_cons
    rfl
  have written : codePointEscape character ++ rest =
      '\\' :: 'u' :: '\x7b' :: (Nat.toDigits 16 character.toNat ++ '\x7d' :: rest) := by
    simp [codePointEscape]
  rw [written, leadingCharacter, if_pos rfl, leadingEscape, if_pos rfl, List.tail_cons,
    takeWhile_run digits brace, hexadecimal_toDigits, Char.ofNat_toNat]

theorem leadingCharacter_quotedCharacter (character : Char) (rest : List Char) :
    leadingCharacter (quotedCharacter character ++ rest) = character := by
  rw [quotedCharacter.eq_def]
  split
  case h_7 visible =>
    split
    case isTrue => exact leadingCharacter_codePointEscape character rest
    case isFalse => rw [List.singleton_append, leadingCharacter, if_neg visible]
  all_goals rfl

/-! ### Reading a quoted text -/

theorem exists_quotedCharacter_cons (character : Char) :
    ∃ first others, quotedCharacter character = first :: others ∧ first ≠ '"' := by
  rw [quotedCharacter.eq_def]
  split
  case h_7 unquoted _ =>
    split
    case isTrue => exact ⟨'\\', _, rfl, by decide⟩
    case isFalse => exact ⟨character, [], rfl, unquoted⟩
  all_goals exact ⟨'\\', _, rfl, by decide⟩

/-- A quoted text ends by itself, at its closing quote. -/
theorem toldApart_quotedCharacters (left right : List Char) :
    ToldApart (fun _ => True) quotedCharacters left right := by
  intro leftRest rightRest _ _ same
  have apart (first second : Char) : ToldApart (fun _ => True) quotedCharacter first second :=
    toldApart_of_read (fun value rest _ => leadingCharacter_quotedCharacter value rest) first second
  have written (text rest : List Char) : quotedCharacters text ++ rest =
      '"' :: (text.flatMap quotedCharacter ++ '"' :: rest) := by
    simp [quotedCharacters]
  rw [written, written, List.cons_inj_right] at same
  apply eq_of_flatMap trivial _ (fun first _ second _ => apart first second) same
  simpa only [true_and] using exists_quotedCharacter_cons

/-- A text that looks like the escape of a combining accent has its own backslash escaped. -/
example : quotedCharacters "\\u\x7b301\x7d".toList = "\"\\\\u\x7b301\x7d\"".toList ∧
    quotedCharacters "\u0301".toList = "\"\\u\x7b301\x7d\"".toList := by
  decide +kernel

end Acceptance.Text
