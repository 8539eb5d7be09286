import Acceptance.Proofs.Unicode.Case

namespace Acceptance.Unicode

/-! Lowering settles a text at once. No entry of the tables leads to a code that an entry
leads away from, so what lowering yields it leaves as it is. -/

/-! ### Codes that are moved once -/

namespace CaseRange

def target (range : CaseRange) (code : Nat) : Nat :=
  (code + range.offset).toNat

/-- A test that no code between `low` and `high`, at steps of the range from `low`, is moved
by the other range: all are outside of it, or all pass between its steps. The tests of
numbers are those that are quickest on a long table. -/
def leadsPast (low high : Nat) (range other : CaseRange) : Bool :=
  Nat.blt high other.first || Nat.blt other.last low ||
    (Nat.beq range.first range.last || Nat.beq (range.stride % other.stride) 0) &&
      !Nat.beq (low % other.stride) (other.first % other.stride)

/-- At whole steps from the same code numbers have the same remainder. -/
private theorem mod_eq_of_steps {first code stride : Nat} (above : first ≤ code)
    (steps : stride ∣ code - first) : code % stride = first % stride := by
  rcases steps with ⟨count, difference⟩
  rw [show code = first + stride * count by omega, Nat.add_mul_mod_self_left]

theorem image?_eq_none_of_leadsPast {range other : CaseRange}
    (natural : 0 ≤ range.first + range.offset)
    (past : leadsPast (range.target range.first) (range.target range.last) range other = true)
    {code moved : Nat} (found : range.image? code = some moved) :
    other.image? moved = none := by
  rw [image?, Option.ite_none_right_eq_some, Option.some_inj] at found
  rcases found with ⟨⟨first, last, steps⟩, equal⟩
  simp only [leadsPast, target, Bool.or_eq_true, Bool.and_eq_true, Bool.not_eq_true',
    Nat.blt_eq, Nat.beq_eq, Bool.eq_false_iff, ne_eq] at past
  rw [image?, if_neg]
  rintro ⟨otherFirst, otherLast, otherSteps⟩
  rcases past with (below | above) | ⟨along, between⟩
  · omega
  · omega
  · -- If the other range moved the code as well, it would be whole steps of that range away from
    -- its first code, and so would the first code that this range yields.
    apply between
    have whole : other.stride ∣ code - range.first := by
      rcases along with single | multiple
      · rw [show code - range.first = 0 by omega]
        exact Nat.dvd_zero _
      · exact Nat.dvd_trans (Nat.dvd_of_mod_eq_zero multiple) (Nat.dvd_of_mod_eq_zero steps)
    have shifted : code - range.first = moved - (range.first + range.offset).toNat := by omega
    rw [shifted] at whole
    rw [← mod_eq_of_steps (by omega) whole,
      mod_eq_of_steps otherFirst (Nat.dvd_of_mod_eq_zero otherSteps)]

end CaseRange

/-! ### Lowered characters -/

/-- A character that lowering leaves as it is. -/
def IsLowered (character : Char) : Prop :=
  lowerCharacter character = [character]

instance (character : Char) : Decidable (IsLowered character) :=
  inferInstanceAs (Decidable (_ = _))

theorem IsLowered.ne_sigma {character : Char} (lowered : IsLowered character) :
    character ≠ 'Σ' := by
  rintro rfl
  exact absurd lowered (by decide +kernel)

theorem isLowered_lowerSigma (before after : List Char) :
    IsLowered (lowerSigma before after) := by
  rw [lowerSigma]
  split <;> decide +kernel

/-- What a range yields is moved by no range. -/
private theorem isLowered_of_image? {range : CaseRange} (listed : range ∈ lowerRanges)
    {code : Nat} {character : Char} (found : range.image? code = some character.toNat) :
    IsLowered character := by
  have natural : ∀ range ∈ lowerRanges, 0 ≤ range.first + range.offset := by decide +kernel
  have past : (lowerRanges.all fun range => lowerRanges.all
      (CaseRange.leadsPast (range.target range.first) (range.target range.last) range)) =
        true := by
    decide +kernel
  have unexpanded : ∀ range ∈ lowerRanges, ∀ expansion ∈ lowerExpansions,
      range.last + range.offset < expansion.1 ∨ expansion.1 < range.first + range.offset := by
    decide +kernel
  have single : lowerExpansions.lookup character.toNat = none := by
    rw [List.lookup_eq_none_iff]
    intro expansion expansionListed
    refine bne_iff_ne.mpr fun same => ?_
    have away := unexpanded range listed expansion expansionListed
    have positive := natural range listed
    rw [CaseRange.image?, Option.ite_none_right_eq_some, Option.some_inj] at found
    omega
  have kept : (lowerRanges.findSome? fun other => other.image? character.toNat) = none := by
    rw [List.findSome?_eq_none_iff]
    intro other otherListed
    exact CaseRange.image?_eq_none_of_leadsPast (natural range listed)
      (List.all_eq_true.mp (List.all_eq_true.mp past range listed) other otherListed) found
  rw [IsLowered, lowerCharacter, caseImage, single, kept]

theorem isLowered_of_mem_lowerCharacter {character other : Char}
    (member : character ∈ lowerCharacter other) : IsLowered character := by
  have nul : IsLowered '\x00' := by decide +kernel
  have expanded : ∀ expansion ∈ lowerExpansions, ∀ code ∈ expansion.2,
      IsLowered (Char.ofNat code) := by
    decide +kernel
  rw [lowerCharacter, caseImage] at member
  split at member
  case h_1 codes found =>
    rcases List.mem_map.mp member with ⟨code, codeMember, rfl⟩
    rcases List.lookup_eq_some_iff.mp found with ⟨before, after, cut, _⟩
    have listed : (other.toNat, codes) ∈ lowerExpansions := by simp [cut]
    exact expanded _ listed code codeMember
  case h_2 single =>
    split at member
    case h_1 code found =>
      rcases List.exists_of_findSome?_eq_some found with ⟨range, listed, moved⟩
      have equal : Char.ofNat code = character := (List.mem_singleton.mp member).symm
      rcases Nat.eq_zero_or_pos character.toNat with zero | positive
      · rw [← Char.ofNat_toNat character, zero]
        exact nul
      · rw [eq_toNat_of_ofNat_eq positive equal] at moved
        exact isLowered_of_image? listed moved
    case h_2 kept =>
      obtain rfl := List.mem_singleton.mp member
      rw [IsLowered, lowerCharacter, caseImage, single, kept]

theorem isUpper_of_mem_lowerCharacter {character other : Char}
    (member : character ∈ lowerCharacter other) : character.isUpper = false := by
  have moved : ∀ index < 26, ¬ IsLowered (Char.ofNat (65 + index)) := by decide +kernel
  rw [Bool.eq_false_iff]
  intro capital
  exact of_isUpper (fun letter => ¬ IsLowered letter) moved capital
    (isLowered_of_mem_lowerCharacter member)

/-! ### Lowered texts -/

def IsLoweredText (text : List Char) : Prop :=
  ∀ character ∈ text, IsLowered character

theorem isLoweredText_lowerAfter (before text : List Char) :
    IsLoweredText (lowerAfter before text) := by
  induction text generalizing before with
  | nil => simp [lowerAfter, IsLoweredText]
  | cons character rest induction =>
      rw [lowerAfter, IsLoweredText, List.forall_mem_append]
      refine ⟨?_, induction _⟩
      split
      · exact List.forall_mem_singleton.mpr (isLowered_lowerSigma before rest)
      · exact fun _ member => isLowered_of_mem_lowerCharacter member

theorem lowerAfter_of_isLoweredText {text : List Char} (lowered : IsLoweredText text)
    (before : List Char) : lowerAfter before text = text := by
  induction text generalizing before with
  | nil => rfl
  | cons character rest induction =>
      rw [IsLoweredText, List.forall_mem_cons] at lowered
      rw [lowerAfter, if_neg lowered.1.ne_sigma, lowered.1, induction lowered.2]
      rfl

end Acceptance.Unicode
