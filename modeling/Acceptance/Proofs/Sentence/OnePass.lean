import Acceptance.Proofs.Sentence.Stripped

namespace Acceptance.Sentence

open Acceptance.Unicode

/-! Taking brackets out glues texts together, and still it makes no new pair: where a bracket
stays, nothing closes on the rest of its line, and no pair is taken out of this rest. So a
sentence is stripped completely in one pass. -/

/-- No opening bracket is followed by a closing one on its line. -/
def Unpaired (text : List Char) : Prop :=
  ∀ before rest, text = before ++ '[' :: rest → ']' ∉ rest.takeWhile (· ≠ '\n')

theorem unpaired_cons_iff {character : Char} {rest : List Char} :
    Unpaired (character :: rest) ↔
      (character = '[' → closesOnLine rest = false) ∧ Unpaired rest := by
  rw [Bool.eq_false_iff, Ne, closesOnLine_iff]
  exact behindOpenings_cons_iff

theorem closesOnLine_append {text : List Char} (closes : closesOnLine text = true)
    (after : List Char) : closesOnLine (text ++ after) = true := by
  rw [closesOnLine_iff] at closes ⊢
  rw [List.takeWhile_append]
  split
  case isTrue => exact List.mem_append_left _ (List.takeWhile_subset _ closes)
  case isFalse => exact closes

/-- A part of a text has no more pairs than the text. -/
theorem Unpaired.of_append {before text after : List Char}
    (unpaired : Unpaired (before ++ (text ++ after))) : Unpaired text := by
  intro earlier rest cut
  have unclosed := unpaired (before ++ earlier) (rest ++ after)
    (by simp only [cut, List.append_assoc, List.cons_append])
  rw [← closesOnLine_iff] at unclosed ⊢
  exact fun closes => unclosed (closesOnLine_append closes after)

/-! ### Searching -/

/-- A text starts with a bracket pair on one line. There may be other brackets inside. -/
structure StartsWithPair (text inside rest : List Char) : Prop where
  cut : text = '[' :: (inside ++ ']' :: rest)
  unbroken : '\n' ∉ inside

/-- What a search leaves that tries one place after the other. It takes out the shortest pair
that starts at a place and goes on behind it. A character stays where no pair starts. -/
inductive Leaves : List Char → List Char → Prop where
  | nothing : Leaves [] []
  | pair {text inside rest left : List Char} (starts : StartsWithPair text inside rest)
      (shortest : ∀ other later, StartsWithPair text other later → inside.length ≤ other.length)
      (goesOn : Leaves rest left) : Leaves text left
  | further {character : Char} {rest left : List Char}
      (none : ∀ inside later, ¬ StartsWithPair (character :: rest) inside later)
      (goesOn : Leaves rest left) : Leaves (character :: rest) (character :: left)

theorem StartsWithPair.closesOnLine {character : Char} {text inside rest : List Char}
    (starts : StartsWithPair (character :: text) inside rest) :
    character = '[' ∧ closesOnLine text = true := by
  rcases starts with ⟨cut, unbroken⟩
  cases cut
  have inLine : ∀ character ∈ inside, decide (character ≠ '\n') = true := by
    intro character member
    rw [decide_eq_true_iff]
    intro breaking
    exact unbroken (breaking ▸ member)
  rw [closesOnLine_iff, List.takeWhile_append_of_pos inLine]
  simp

/-- The shortest pair ends at the first closing bracket. -/
theorem StartsWithPair.unclosed {text inside rest : List Char}
    (starts : StartsWithPair text inside rest)
    (shortest : ∀ other later, StartsWithPair text other later → inside.length ≤ other.length) :
    ']' ∉ inside := by
  intro closing
  rcases List.append_of_mem closing with ⟨earlier, later, insideCut⟩
  have unbroken := starts.unbroken
  rw [insideCut, List.mem_append, not_or] at unbroken
  have shorter : StartsWithPair text earlier (later ++ ']' :: rest) := by
    refine ⟨?_, unbroken.1⟩
    rw [starts.cut, insideCut, List.append_assoc, List.cons_append]
  have bound := shortest earlier _ shorter
  rw [insideCut, List.length_append, List.length_cons] at bound
  omega

theorem length_le_of_unclosed {inside rest : List Char} (unclosed : ']' ∉ inside)
    (other later : List Char)
    (starts : StartsWithPair ('[' :: (inside ++ ']' :: rest)) other later) :
    inside.length ≤ other.length := by
  have same := (List.cons.inj starts.cut).2
  rcases List.append_eq_append_iff.mp same with ⟨between, cut, _⟩ | ⟨between, cut, closing⟩
  · rw [cut, List.length_append]
    omega
  · cases between with
    | nil =>
        have equal := cut.trans (List.append_nil other)
        exact Nat.le_of_eq (congrArg List.length equal)
    | cons character between =>
        rw [List.cons_append, List.cons.injEq] at closing
        rw [cut, ← closing.1] at unclosed
        simp at unclosed

theorem exists_pair_of_closesOnLine {text : List Char} (closes : closesOnLine text = true) :
    ∃ inside rest, text = inside ++ ']' :: rest ∧ ']' ∉ inside ∧ '\n' ∉ inside := by
  induction text with
  | nil => cases closes
  | cons character text induction =>
      rw [Sentence.closesOnLine] at closes
      split at closes
      case isTrue closing =>
        rw [closing]
        exact ⟨[], text, rfl, List.not_mem_nil, List.not_mem_nil⟩
      case isFalse other =>
        split at closes
        case isTrue => cases closes
        case isFalse inLine =>
          rcases induction closes with ⟨inside, rest, cut, unclosed, unbroken⟩
          refine ⟨character :: inside, rest, by rw [cut, List.cons_append], ?_, ?_⟩
          · rw [List.mem_cons, not_or]
            exact ⟨Ne.symm other, unclosed⟩
          · rw [List.mem_cons, not_or]
            exact ⟨Ne.symm inLine, unbroken⟩

theorem dropBracketed_pair {inside : List Char} (unclosed : ']' ∉ inside)
    (unbroken : '\n' ∉ inside) (rest : List Char) :
    dropBracketed ('[' :: (inside ++ ']' :: rest)) = dropBracketed rest := by
  have closes := (closesOnLine_append_iff unclosed rest).mpr unbroken
  rw [dropBracketed, if_pos ⟨rfl, closes⟩, dropThroughClosing_append unclosed]

/-- By induction on the length, since the search goes on behind a whole pair. -/
theorem leaves_dropBracketed (text : List Char) : Leaves text (dropBracketed text) := by
  induction length : text.length using Nat.strongRecOn generalizing text with
  | ind _ induction =>
      cases text with
      | nil => exact .nothing
      | cons character rest =>
          subst length
          by_cases opening : character = '[' ∧ closesOnLine rest = true
          · rcases exists_pair_of_closesOnLine opening.2 with
              ⟨inside, later, cut, unclosed, unbroken⟩
            have shorter : later.length < (character :: rest).length := by
              rw [cut]
              simp only [List.length_cons, List.length_append]
              omega
            have goesOn := induction _ shorter later rfl
            rw [opening.1, cut, dropBracketed_pair unclosed unbroken]
            exact .pair ⟨rfl, unbroken⟩ (length_le_of_unclosed unclosed) goesOn
          · rw [dropBracketed, if_neg opening]
            apply Leaves.further
            · intro inside later starts
              exact opening starts.closesOnLine
            · exact induction _ (Nat.lt_succ_self _) rest rfl

/-- The scan takes out what the search takes out. -/
theorem leaves_iff {text left : List Char} : Leaves text left ↔ left = dropBracketed text := by
  constructor
  · intro leaves
    induction leaves with
    | nothing => rfl
    | pair starts shortest _ induction =>
        rw [starts.cut, dropBracketed_pair (starts.unclosed shortest) starts.unbroken, induction]
    | @further character rest left none _ induction =>
        have stays : ¬ (character = '[' ∧ closesOnLine rest = true) := by
          intro opening
          rcases exists_pair_of_closesOnLine opening.2 with ⟨inside, later, cut, _, unbroken⟩
          exact none inside later ⟨by rw [opening.1, cut], unbroken⟩
        rw [dropBracketed, if_neg stays, induction]
  · intro same
    rw [same]
    exact leaves_dropBracketed text

/-! ### One pass -/

/-- What stays of a text when bracket pairs that keep to one line are taken out. -/
inductive Sheds : List Char → List Char → Prop where
  | nil : Sheds [] []
  | keep (character : Char) {text rest : List Char} (sheds : Sheds text rest) :
      Sheds (character :: text) (character :: rest)
  | pair {inside text rest : List Char} (unclosed : ']' ∉ inside) (unbroken : '\n' ∉ inside)
      (sheds : Sheds text rest) : Sheds ('[' :: (inside ++ ']' :: text)) rest

theorem Leaves.sheds {text left : List Char} (leaves : Leaves text left) : Sheds text left := by
  induction leaves with
  | nothing => exact .nil
  | pair starts shortest _ induction =>
      rw [starts.cut]
      exact .pair (starts.unclosed shortest) starts.unbroken induction
  | further _ _ induction => exact .keep _ induction

/-- Nothing is taken out of the rest of a line on which nothing closes. -/
theorem closesOnLine_dropBracketed {text : List Char} (unclosed : closesOnLine text = false) :
    closesOnLine (dropBracketed text) = false := by
  induction text with
  | nil => rfl
  | cons character text induction =>
      rw [closesOnLine] at unclosed
      split at unclosed
      case isTrue => cases unclosed
      case isFalse other =>
        by_cases breaking : character = '\n'
        · rw [breaking, dropBracketed, if_neg (by simp)]
          rfl
        · rw [if_neg breaking] at unclosed
          rw [dropBracketed, if_neg (by simp [unclosed]), closesOnLine, if_neg other,
            if_neg breaking, induction unclosed]

private theorem unpaired_drop (text : List Char) :
    Unpaired (dropBracketed text) ∧ Unpaired (dropThroughClosing text) := by
  have empty : Unpaired [] := fun _ _ cut => by simp at cut
  induction text with
  | nil => exact ⟨empty, empty⟩
  | cons character text induction =>
      rcases induction with ⟨outside, inside⟩
      constructor
      · rw [dropBracketed]
        split
        case isTrue => exact inside
        case isFalse stays =>
          rw [unpaired_cons_iff]
          refine ⟨fun opening => closesOnLine_dropBracketed ?_, outside⟩
          exact Bool.eq_false_iff.mpr fun closes => stays ⟨opening, closes⟩
      · rw [dropThroughClosing]
        split
        case isTrue => exact outside
        case isFalse => exact inside

theorem unpaired_dropBracketed (text : List Char) : Unpaired (dropBracketed text) :=
  (unpaired_drop text).1

theorem dropBracketed_of_unpaired {text : List Char} (unpaired : Unpaired text) :
    dropBracketed text = text := by
  induction text with
  | nil => rfl
  | cons character text induction =>
      rw [unpaired_cons_iff] at unpaired
      rcases unpaired with ⟨unclosed, unpaired⟩
      have stays : ¬ (character = '[' ∧ closesOnLine text = true) := fun opening => by
        rw [unclosed opening.1] at opening
        cases opening.2
      rw [dropBracketed, if_neg stays, induction unpaired]

/-! ### One pass is enough -/

theorem unpaired_strippedCharacters (text : List Char) : Unpaired (strippedCharacters text) := by
  rcases Text.exists_trim (dropBracketed text) with ⟨before, after, _, _, cut⟩
  have unpaired := unpaired_dropBracketed text
  rw [cut] at unpaired
  exact unpaired.of_append

theorem strippedCharacters_eq_self_iff {text : List Char} :
    strippedCharacters text = text ↔ Text.IsTrimmed text ∧ Unpaired text := by
  constructor
  · intro same
    rw [← same]
    exact ⟨Text.isTrimmed_trim _, unpaired_strippedCharacters text⟩
  · rintro ⟨trimmed, unpaired⟩
    rw [strippedCharacters, dropBracketed_of_unpaired unpaired, Text.trim_eq_self_iff.mpr trimmed]

/-- Stripping takes out bracket pairs that keep to one line, and blanks at either end, and it
leaves none of them. So it keeps just those texts that have none, and with them whatever was
stripped before. -/
theorem stripped_complete (sentence : String) :
    let phrase := stripped sentence
    (∃ rest, Sheds sentence.toList rest ∧ phrase.toList = Text.trim rest) ∧
    Text.IsTrimmed phrase.toList ∧
    Unpaired phrase.toList ∧
    (phrase = sentence ↔ Text.IsTrimmed sentence.toList ∧ Unpaired sentence.toList) ∧
    stripped phrase = phrase := by
  intro phrase
  have characters : phrase.toList = strippedCharacters sentence.toList := String.toList_ofList
  have trimmed : Text.IsTrimmed phrase.toList := by
    rw [characters]
    exact Text.isTrimmed_trim _
  have unpaired : Unpaired phrase.toList := by
    rw [characters]
    exact unpaired_strippedCharacters _
  have kept (text : String) :
      stripped text = text ↔ Text.IsTrimmed text.toList ∧ Unpaired text.toList := by
    rw [← strippedCharacters_eq_self_iff, ← String.toList_inj, stripped, String.toList_ofList]
  exact ⟨⟨_, (leaves_dropBracketed _).sheds, characters⟩, trimmed, unpaired, kept sentence,
    (kept phrase).mpr ⟨trimmed, unpaired⟩⟩

/-- An opening bracket may stay, with a pair of its own on a later line. -/
example : strippedCharacters "[a\n[b] c] [d ".toList = "[a\n c] [d".toList := rfl

end Acceptance.Sentence
