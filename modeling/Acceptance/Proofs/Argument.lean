import Acceptance.Argument
import Acceptance.Proofs.Binary64.Layout

namespace Acceptance.Argument

/-! Which values are numbers: exactly the numerals, blanks at their ends aside. What an argument
is shown as is such a value again, and the argument can be inferred from it. -/

/-! ### Numerals and other texts -/

theorem infer_eq_numeric_iff {raw : String} {number : Binary64} :
    infer raw = .numeric number ↔ Binary64.Writes (Text.trim raw.toList) number := by
  rw [Binary64.writes_iff_ofText, infer]
  cases read : Binary64.ofText (Text.trim raw.toList) with
  | none => simp
  | some other =>
      dsimp only
      rw [← Bool.or_eq_true, Option.some_inj]
      split
      case isTrue guarded =>
        rw [Argument.numeric.injEq]
        constructor
        · intro same
          exact ⟨same, same ▸ guarded⟩
        · intro parts
          exact parts.1
      case isFalse unguarded =>
        constructor
        · intro isNumber
          cases isNumber
        · intro parts
          exact absurd (parts.1 ▸ parts.2) unguarded

theorem exists_infer_eq_numeric_iff {raw : String} :
    (∃ number, infer raw = .numeric number) ↔ Binary64.IsNumeral (Text.trim raw.toList) := by
  rw [Binary64.isNumeral_iff]
  exact exists_congr fun _ => infer_eq_numeric_iff

/-- What is not a number is the text that it was. -/
theorem infer_cases (raw : String) :
    (∃ number, infer raw = .numeric number) ∨ infer raw = .text raw := by
  rw [infer]
  split
  case h_1 number read =>
    split
    case isTrue => exact .inl ⟨number, rfl⟩
    case isFalse => exact .inr rfl
  case h_2 => exact .inr rfl

theorem infer_eq_text_iff {raw : String} :
    infer raw = .text raw ↔ ¬ Binary64.IsNumeral (Text.trim raw.toList) := by
  rw [← exists_infer_eq_numeric_iff]
  constructor
  · rintro isText ⟨number, isNumber⟩
    rw [isText] at isNumber
    cases isNumber
  · exact (infer_cases raw).resolve_left

/-- Without the blanks at its ends a value is exactly one text. The value is a number exactly
if this is a numeral, and then it is the number that the numeral writes. Any other value stays
the text that it is, its blanks included. -/
theorem infer_classifies (raw : String) :
    ∃ text, (∀ other, Text.IsTrimOf raw.toList other ↔ other = text) ∧
      ((∃ number, infer raw = .numeric number) ↔ Binary64.IsNumeral text) ∧
      (∀ number, infer raw = .numeric number ↔ Binary64.Writes text number) ∧
      (infer raw = .text raw ↔ ¬ Binary64.IsNumeral text) :=
  ⟨Text.trim raw.toList, fun _ => Text.isTrimOf_iff, exists_infer_eq_numeric_iff,
    fun _ => infer_eq_numeric_iff, infer_eq_text_iff⟩

example : infer " -.5 " = .numeric (.ofBits 0xbfe0000000000000) := by decide +kernel
example : infer " -inf " = .text " -inf " := by decide +kernel

/-! ### Shown and read again -/

theorem infer_of_writes {text : List Char} {number : Binary64}
    (written : Binary64.Writes text number) {before after : String}
    (blankBefore : Text.IsBlank before.toList) (blankAfter : Text.IsBlank after.toList) :
    infer (before ++ String.ofList text ++ after) = .numeric number := by
  rw [infer_eq_numeric_iff, String.toList_append, String.toList_append, String.toList_ofList,
    List.append_assoc, Text.trim_of_isTrimmed blankBefore written.isVisible.isTrimmed blankAfter]
  exact written

theorem infer_ofList_of_writes {text : List Char} {number : Binary64}
    (written : Binary64.Writes text number) : infer (String.ofList text) = .numeric number := by
  have blank : Text.IsBlank "".toList := by decide
  have inferred := infer_of_writes written blank blank
  rwa [String.empty_append, String.append_empty] at inferred

/-- Infinities alone are not shown in a form that is read. -/
theorem infer_literalText_iff (number : Binary64) :
    infer number.literalText = .numeric number ↔ ∀ negative, number ≠ .infinite negative := by
  cases number with
  | finite negative magnitude =>
      exact iff_of_true (infer_ofList_of_writes (Binary64.writes_literalCharacters _ _)) nofun
  | infinite negative =>
      refine iff_of_false ?_ (fun all => all negative rfl)
      cases negative <;> decide
  | nan => exact iff_of_true (infer_ofList_of_writes (.nan .absent)) nofun

theorem infer_display_iff (raw : String) :
    infer (infer raw).display = infer raw ↔
      ∀ negative, infer raw ≠ .numeric (.infinite negative) := by
  rcases infer_cases raw with ⟨number, isNumber⟩ | isText
  · rw [isNumber, display, infer_literalText_iff]
    simp
  · rw [isText, display]
    exact iff_of_true isText nofun

/-- What a text keeps of the finite number with the given bits: it is inferred to be the number
with these bits, whatever blanks are around it, and no decimal with fewer digits is rounded to
this number. -/
structure Keeps (text : String) (bits : BitVec 64) : Prop where
  inferred : ∀ before after : String,
    Text.IsBlank before.toList → Text.IsBlank after.toList →
      ∃ number, infer (before ++ text ++ after) = .numeric number ∧ number.toBits = bits.toNat
  shortest : ∀ decimal : Binary64.Decimal, decimal.round = .ofBits bits.toNat →
    (Binary64.significantDigits text.toList).length ≤
      (Nat.toDigits 10 decimal.coefficient).length

theorem keeps_of_writes {text : List Char} {bits : BitVec 64} {negative : Bool}
    {magnitude : Fin Binary64.finiteCount}
    (pattern : Binary64.ofBits bits.toNat = .finite negative magnitude)
    (written : Binary64.Writes text (.finite negative magnitude))
    (shown : Binary64.Shows text (Binary64.shownDigits magnitude)) :
    Keeps (String.ofList text) bits where
  inferred before after blankBefore blankAfter := by
    refine ⟨_, infer_of_writes written blankBefore blankAfter, ?_⟩
    rw [← pattern]
    exact Binary64.toBits_ofBits bits.isLt (by rw [pattern]; rfl)
  shortest decimal rounded := by
    rw [String.toList_ofList]
    exact shown.length_le (rounded.trans pattern)

/-- Showing an argument and inferring it again changes nothing, infinities aside. Each finite
number is kept by both of its texts, of which the plain one has no exponent, and the literal one
has one below `10^-4` and from `10^16` on. -/
theorem infer_display_inverse :
    (∀ raw : String, infer (infer raw).display = infer raw ↔
      ∀ negative, infer raw ≠ .numeric (.infinite negative)) ∧
    ∀ (bits : BitVec 64) (negative : Bool) (magnitude : Fin Binary64.finiteCount),
      Binary64.ofBits bits.toNat = .finite negative magnitude →
        let number := Binary64.ofBits bits.toNat
        let size := Binary64.size magnitude
        Keeps number.literalText bits ∧ Keeps number.plainText bits ∧
          ('e' ∈ number.literalText.toList ↔
            size ≠ 0 ∧ (size < 10 ^ (-4 : ℤ) ∨ 10 ^ (16 : ℤ) ≤ size)) ∧
          'e' ∉ number.plainText.toList := by
  refine ⟨infer_display_iff, fun bits negative magnitude pattern => ?_⟩
  dsimp only
  rw [pattern, Binary64.literalText, Binary64.plainText, String.toList_ofList,
    String.toList_ofList]
  exact ⟨keeps_of_writes pattern (Binary64.writes_literalCharacters negative magnitude)
      (Binary64.shows_literalCharacters negative magnitude),
    keeps_of_writes pattern (Binary64.writes_plainCharacters negative magnitude)
      (Binary64.shows_plainCharacters negative magnitude),
    Binary64.mark_mem_literalCharacters_iff negative magnitude,
    Binary64.mark_not_mem_plainCharacters negative magnitude⟩

theorem infer_display_inverse_of_least :
    ∃ number, infer " -5e-324\t" = .numeric number ∧ number.toBits = 0x8000000000000001 := by
  have least : Binary64.ofBits (0x8000000000000001#64).toNat = .finite true ⟨1, by decide⟩ := by
    decide
  have shown : (Binary64.ofBits (0x8000000000000001#64).toNat).literalText = "-5e-324" := by
    decide +kernel
  have kept := (infer_display_inverse.2 _ _ _ least).1
  have inferred := kept.inferred " " "\t" (by decide) (by decide)
  rw [shown] at inferred
  exact inferred

end Acceptance.Argument
