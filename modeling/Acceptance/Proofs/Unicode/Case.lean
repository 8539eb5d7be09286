import Acceptance.Unicode.Case
import Acceptance.Unicode.Whitespace

namespace Acceptance.Unicode

/-! What the case mappings make of single characters. The case of an ASCII letter makes no
difference to any of them, and a character that no entry of the tables leads to comes out
only where it went in. -/

/-! ### ASCII letters -/

theorem isUpper_iff {character : Char} :
    character.isUpper = true ↔ 65 ≤ character.toNat ∧ character.toNat ≤ 90 :=
  decide_eq_true_iff

/-- What holds of the capitals one by one. -/
theorem of_isUpper (Holds : Char → Prop) (each : ∀ index < 26, Holds (Char.ofNat (65 + index)))
    {character : Char} (capital : character.isUpper = true) : Holds character := by
  rcases isUpper_iff.mp capital with ⟨first, last⟩
  have holds := each (character.toNat - 65) (by omega)
  rwa [Nat.add_sub_cancel' first, Char.ofNat_toNat] at holds

theorem toLower_of_isUpper_eq_false {character : Char} (small : character.isUpper = false) :
    character.toLower = character :=
  dif_neg fun within => Bool.eq_false_iff.mp small (decide_eq_true within)

theorem isLower_iff {character : Char} :
    character.isLower = true ↔ 97 ≤ character.toNat ∧ character.toNat ≤ 122 :=
  (Bool.and_eq_true_iff ..).trans (and_congr decide_eq_true_iff decide_eq_true_iff)

theorem isDigit_iff {character : Char} :
    character.isDigit = true ↔ 48 ≤ character.toNat ∧ character.toNat ≤ 57 :=
  (Bool.and_eq_true_iff ..).trans (and_congr decide_eq_true_iff decide_eq_true_iff)

theorem isDigit_of_isLower {character : Char} (small : character.isLower = true) :
    character.isDigit = false := by
  rw [isLower_iff] at small
  rw [← Bool.not_eq_true, isDigit_iff]
  omega

theorem isAlpha_iff {character : Char} :
    character.isAlpha = true ↔ character.isUpper = true ∨ character.isLower = true :=
  Bool.or_eq_true_iff ..

theorem isUpper_of_isLower {character : Char} (small : character.isLower = true) :
    character.isUpper = false := by
  rw [isLower_iff] at small
  rw [Bool.eq_false_iff, ne_eq, isUpper_iff]
  omega

/-- A small letter is a capital lowered. -/
theorem toUpper_of_isLower {character : Char} (small : character.isLower = true) :
    character.toUpper.isUpper = true ∧ character.toUpper.toLower = character := by
  have letters : ∀ index < 26, (Char.ofNat (97 + index)).toUpper.isUpper = true ∧
      (Char.ofNat (97 + index)).toUpper.toLower = Char.ofNat (97 + index) := by decide
  rcases isLower_iff.mp small with ⟨first, last⟩
  have letter := letters (character.toNat - 97) (by omega)
  rwa [Nat.add_sub_cancel' first, Char.ofNat_toNat] at letter

theorem isLower_toLower {character : Char} (letter : character.isAlpha = true) :
    character.toLower.isLower = true := by
  rcases isAlpha_iff.mp letter with capital | small
  · exact of_isUpper (fun letter => letter.toLower.isLower = true) (by decide) capital
  · rwa [toLower_of_isUpper_eq_false (isUpper_of_isLower small)]

theorem toNat_of_isAlpha {character : Char} (letter : character.isAlpha = true) :
    65 ≤ character.toNat ∧ character.toNat ≤ 122 := by
  rw [isAlpha_iff, isUpper_iff, isLower_iff] at letter
  omega

theorem isWhitespace_of_isAlpha {character : Char} (letter : character.isAlpha = true) :
    isWhitespace character = false := by
  have apart : ∀ range ∈ whitespaceRanges, range.last < 65 ∨ 122 < range.first := by decide
  rw [isWhitespace, Bool.eq_false_iff, ne_eq, inRanges_eq_true_iff]
  rintro ⟨range, listed, first, last⟩
  have away := apart range listed
  have code := toNat_of_isAlpha letter
  omega

private theorem apply_toLower_of_capitals {α : Type} (transform : Char → α)
    (capitals : ∀ index < 26, transform (Char.ofNat (65 + index)).toLower =
      transform (Char.ofNat (65 + index)))
    (character : Char) : transform character.toLower = transform character := by
  by_cases capital : character.isUpper = true
  · exact of_isUpper (fun letter => transform letter.toLower = transform letter) capitals capital
  · rw [toLower_of_isUpper_eq_false (Bool.eq_false_iff.mpr capital)]

theorem lowerCharacter_toLower (character : Char) :
    lowerCharacter character.toLower = lowerCharacter character :=
  apply_toLower_of_capitals lowerCharacter (by decide +kernel) character

theorem upperCharacter_toLower (character : Char) :
    upperCharacter character.toLower = upperCharacter character :=
  apply_toLower_of_capitals upperCharacter (by decide +kernel) character

theorem isCased_toLower (character : Char) :
    isCased character.toLower = isCased character :=
  apply_toLower_of_capitals isCased (by decide +kernel) character

/-- The table is gone through once for all letters, not once for each. -/
private theorem isCaseIgnorable_of_letter {character : Char}
    (letter : 65 ≤ character.toNat ∧ character.toNat ≤ 90 ∨
      97 ≤ character.toNat ∧ character.toNat ≤ 122) :
    isCaseIgnorable character = false := by
  have apart : ∀ range ∈ caseIgnorableRanges,
      range.last < 65 ∨ 90 < range.first ∧ range.last < 97 ∨ 122 < range.first := by
    decide +kernel
  rw [isCaseIgnorable, Bool.eq_false_iff, ne_eq, inRanges_eq_true_iff]
  rintro ⟨range, listed, first, last⟩
  have away := apart range listed
  omega

theorem isCaseIgnorable_toLower (character : Char) :
    isCaseIgnorable character.toLower = isCaseIgnorable character := by
  refine apply_toLower_of_capitals isCaseIgnorable (fun index small => ?_) character
  have codes : ∀ index < 26, (Char.ofNat (65 + index)).toNat = 65 + index ∧
      (Char.ofNat (65 + index)).toLower.toNat = 97 + index := by decide
  have code := codes index small
  rw [isCaseIgnorable_of_letter (by omega), isCaseIgnorable_of_letter (by omega)]

theorem toLower_eq_sigma_iff (character : Char) :
    character.toLower = 'Σ' ↔ character = 'Σ' := by
  have same := apply_toLower_of_capitals (fun other => decide (other = 'Σ'))
    (by decide +kernel) character
  simpa using same

/-! ### Codes that the tables leave alone -/

namespace CodeRange

/-- No entry of the tables leads into the range. -/
def Unreached (codes : CodeRange) (ranges : List CaseRange)
    (expansions : List (Nat × List Nat)) : Prop :=
  (∀ range ∈ ranges,
    range.last + range.offset < codes.first ∨ codes.last < range.first + range.offset) ∧
  ∀ expansion ∈ expansions, ∀ code ∈ expansion.2, ¬ codes.Contains code

/-- No entry of the tables leads out of the range. -/
def Unmoved (codes : CodeRange) (ranges : List CaseRange)
    (expansions : List (Nat × List Nat)) : Prop :=
  (∀ range ∈ ranges, range.last < codes.first ∨ codes.last < range.first) ∧
  ∀ expansion ∈ expansions, ¬ codes.Contains expansion.1

variable (codes : CodeRange) (ranges : List CaseRange) (expansions : List (Nat × List Nat))

instance : Decidable (codes.Unreached ranges expansions) :=
  inferInstanceAs (Decidable (_ ∧ _))

instance : Decidable (codes.Unmoved ranges expansions) :=
  inferInstanceAs (Decidable (_ ∧ _))

end CodeRange

/-- Only the NUL character is also written by numbers that are no code point. -/
theorem eq_toNat_of_ofNat_eq {code : Nat} {character : Char}
    (positive : 0 < character.toNat) (equal : Char.ofNat code = character) :
    code = character.toNat := by
  by_cases valid : code.isValidChar
  · have written : Char.ofNat code = Char.ofNatAux code valid := dif_pos valid
    exact congrArg Char.toNat (written.symm.trans equal)
  · have nul : Char.ofNat code = '\x00' := dif_neg valid
    rw [← equal, nul] at positive
    exact absurd positive (by decide)

section CaseImage

variable {codes : CodeRange} {ranges : List CaseRange} {expansions : List (Nat × List Nat)}
  {character : Char}

theorem eq_of_mem_caseImage (unreached : codes.Unreached ranges expansions)
    (positive : 0 < codes.first) (contained : codes.Contains character.toNat) {other : Char}
    (member : character ∈ caseImage ranges expansions other) : other = character := by
  have visible : 0 < character.toNat := Nat.lt_of_lt_of_le positive contained.1
  rw [caseImage] at member
  split at member
  case h_1 expanded found =>
    rcases List.mem_map.mp member with ⟨code, codeMember, equal⟩
    rcases List.lookup_eq_some_iff.mp found with ⟨before, after, cut, _⟩
    have listed : (other.toNat, expanded) ∈ expansions := by simp [cut]
    rw [eq_toNat_of_ofNat_eq visible equal] at codeMember
    exact absurd contained (unreached.2 _ listed _ codeMember)
  case h_2 =>
    split at member
    case h_1 code found =>
      rcases List.exists_of_findSome?_eq_some found with ⟨range, listed, moved⟩
      have equal := eq_toNat_of_ofNat_eq visible (List.mem_singleton.mp member).symm
      rw [CaseRange.image?, Option.ite_none_right_eq_some, Option.some_inj, equal] at moved
      rcases moved with ⟨⟨first, last, _⟩, moved⟩
      have away := unreached.1 range listed
      rw [CodeRange.Contains] at contained
      omega
    case h_2 => exact (List.mem_singleton.mp member).symm

theorem caseImage_of_unmoved (unmoved : codes.Unmoved ranges expansions)
    (contained : codes.Contains character.toNat) :
    caseImage ranges expansions character = [character] := by
  have unexpanded : expansions.lookup character.toNat = none := by
    rw [List.lookup_eq_none_iff]
    intro expansion listed
    refine bne_iff_ne.mpr fun same => unmoved.2 expansion listed ?_
    rwa [← same]
  have kept : (ranges.findSome? fun range => range.image? character.toNat) = none := by
    rw [List.findSome?_eq_none_iff]
    intro range listed
    rw [CaseRange.image?, if_neg]
    rintro ⟨first, last, -⟩
    have away := unmoved.1 range listed
    rw [CodeRange.Contains] at contained
    omega
  rw [caseImage, unexpanded, kept]

end CaseImage

/-! ### Characters without case -/

/-- A character that a case mapping yields for itself and for no other. -/
structure Caseless (character : Char) : Prop where
  mem_lowerCharacter_iff : ∀ {other}, character ∈ lowerCharacter other ↔ other = character
  mem_upperCharacter_iff : ∀ {other}, character ∈ upperCharacter other ↔ other = character

/-- No form of the letter sigma is without case. -/
theorem Caseless.ne_sigma {character : Char} (caseless : Caseless character) :
    character ≠ 'Σ' ∧ character ≠ 'σ' ∧ character ≠ 'ς' := by
  refine ⟨?_, ?_, ?_⟩
  · rintro rfl
    exact absurd (caseless.mem_upperCharacter_iff.mp (by decide +kernel : _ ∈ upperCharacter 'σ'))
      (by decide)
  · rintro rfl
    exact absurd (caseless.mem_lowerCharacter_iff.mp (by decide +kernel : _ ∈ lowerCharacter 'Σ'))
      (by decide)
  · rintro rfl
    exact absurd (caseless.mem_upperCharacter_iff.mpr rfl) (by decide +kernel)

/-- A range of codes that neither case mapping leads into or out of. -/
def CodeRange.IsCaseless (codes : CodeRange) : Prop :=
  0 < codes.first ∧
    codes.Unreached lowerRanges lowerExpansions ∧ codes.Unmoved lowerRanges lowerExpansions ∧
    codes.Unreached upperRanges upperExpansions ∧ codes.Unmoved upperRanges upperExpansions

instance (codes : CodeRange) : Decidable codes.IsCaseless :=
  inferInstanceAs (Decidable (_ ∧ _))

theorem CodeRange.IsCaseless.caseless {codes : CodeRange} (caseless : codes.IsCaseless)
    {character : Char} (contained : codes.Contains character.toNat) : Caseless character where
  mem_lowerCharacter_iff := by
    rcases caseless with ⟨positive, unreached, unmoved, -, -⟩
    refine ⟨eq_of_mem_caseImage unreached positive contained, ?_⟩
    rintro rfl
    rw [lowerCharacter, caseImage_of_unmoved unmoved contained]
    exact List.mem_singleton_self _
  mem_upperCharacter_iff := by
    rcases caseless with ⟨positive, -, -, unreached, unmoved⟩
    refine ⟨eq_of_mem_caseImage unreached positive contained, ?_⟩
    rintro rfl
    rw [upperCharacter, caseImage_of_unmoved unmoved contained]
    exact List.mem_singleton_self _

theorem caseless_opening : Caseless '[' :=
  have caseless : (CodeRange.mk 0x5B 0x5B).IsCaseless := by decide +kernel
  caseless.caseless (by decide)

theorem caseless_of_isWhitespace {character : Char} (blank : isWhitespace character = true) :
    Caseless character := by
  have caseless : ∀ codes ∈ whitespaceRanges, codes.IsCaseless := by decide +kernel
  rcases inRanges_eq_true_iff.mp blank with ⟨codes, listed, contained⟩
  exact (caseless codes listed).caseless contained

/-! ### Characters with the case that is asked for -/

theorem lowerCharacter_of_ascii {character : Char} (ascii : character.toNat < 128)
    (small : character.isUpper = false) : lowerCharacter character = [character] := by
  have before : (CodeRange.mk 0 64).Unmoved lowerRanges lowerExpansions := by decide +kernel
  have after : (CodeRange.mk 91 127).Unmoved lowerRanges lowerExpansions := by decide +kernel
  rw [Bool.eq_false_iff, ne_eq, isUpper_iff, not_and] at small
  rcases Nat.lt_or_ge character.toNat 65 with below | above
  · exact caseImage_of_unmoved before ⟨Nat.zero_le _, Nat.le_of_lt_succ below⟩
  · exact caseImage_of_unmoved after ⟨Nat.lt_of_not_le (small above), Nat.le_of_lt_succ ascii⟩

theorem upperCharacter_of_isUpper {character : Char} (capital : character.isUpper = true) :
    upperCharacter character = [character] := by
  have unmoved : (CodeRange.mk 65 90).Unmoved upperRanges upperExpansions := by decide +kernel
  exact caseImage_of_unmoved unmoved (isUpper_iff.mp capital)

theorem lowerCharacter_ne_nil (character : Char) : lowerCharacter character ≠ [] := by
  have expanded : ∀ expansion ∈ lowerExpansions, expansion.2 ≠ [] := by decide
  rw [lowerCharacter, caseImage]
  split
  case h_1 codes found =>
    rcases List.lookup_eq_some_iff.mp found with ⟨before, after, cut, _⟩
    have listed : (character.toNat, codes) ∈ lowerExpansions := by simp [cut]
    simpa using expanded _ listed
  case h_2 => split <;> simp

end Acceptance.Unicode
