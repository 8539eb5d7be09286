import Acceptance.Proofs.Text.Numbers
import Acceptance.Proofs.Text.Quoted
import Acceptance.Verdict

namespace Acceptance

/-! An asserted equality compares its values and shows them. The literals that it shows differ
just if the values do, so a failure always shows two different texts. This holds of texts,
integers and truth values, and of lists and options of whatever it holds of. -/

/-- What may stand behind a value inside a list or an option. -/
def ClosesValue (character : Char) : Prop :=
  character = ',' ∨ character = ']' ∨ character = ')'

namespace Comparable

def characters {α : Type} [Comparable α] (value : α) : List Char :=
  (literal value).toList

end Comparable

open Comparable Text

/-- Values that agree only with themselves and that can be read from their literals, alone or
inside a list. -/
class Decipherable (α : Type) [Comparable α] : Prop where
  agree_iff (left right : α) : agree left right = true ↔ left = right
  starts (value : α) : ∃ first others, characters value = first :: others ∧ ¬ ClosesValue first
  apart (left right : α) : ToldApart ClosesValue characters left right

/-! ### Single values -/

instance : Decipherable String where
  agree_iff left right := decide_eq_true_iff
  starts value := ⟨'"', _, String.toList_ofList, by simp [ClosesValue]⟩
  apart left right := by
    intro leftRest rightRest _ _ same
    simp only [characters, literal, quoted, String.toList_ofList] at same
    have free (rest : List Char) : StartsWithStop (fun _ => True) rest := fun _ _ => trivial
    exact String.toList_inj.mp
      (toldApart_quotedCharacters _ _ _ _ (free leftRest) (free rightRest) same)

theorem isDigit_of_closesValue {character : Char} (closes : ClosesValue character) :
    character.isDigit = false := by
  rcases closes with rfl | rfl | rfl <;> rfl

instance : Decipherable Int where
  agree_iff left right := decide_eq_true_iff
  starts value := by
    rcases exists_toDigits_cons value.natAbs with ⟨first, others, written, digit⟩
    rcases Int.lt_or_le value 0 with negative | natural
    · exact ⟨'-', _, toList_toString_of_neg negative, by simp [ClosesValue]⟩
    · refine ⟨first, others, (toList_toString_of_nonneg natural).trans written, ?_⟩
      intro closes
      rw [isDigit_of_closesValue closes] at digit
      cases digit
  apart := toldApart_of_read fun value _ stop =>
    leadingInteger_append value (stop.imp fun _ => isDigit_of_closesValue)

instance : Decipherable Bool where
  agree_iff left right := decide_eq_true_iff
  starts value := by
    cases value with
    | false => exact ⟨'f', "alse".toList, rfl, by simp [ClosesValue]⟩
    | true => exact ⟨'t', "rue".toList, rfl, by simp [ClosesValue]⟩
  apart left right := by
    intro leftRest rightRest _ _ same
    cases left <;> cases right <;> first | rfl | cases (List.cons.inj same).1

/-! ### Lists and options -/

section

variable {α : Type} [Comparable α]

theorem characters_list (values : List α) :
    characters values = '[' :: (listed characters values ++ [']']) := by
  change ("[" ++ ", ".intercalate (values.map literal) ++ "]").toList = _
  rw [String.toList_append, String.toList_append, String.toList_intercalate, List.map_map]
  rfl

theorem characters_none : characters (none : Option α) = 'N' :: "one".toList := by
  change "None".toList = _
  decide +kernel

theorem characters_some (value : α) :
    characters (some value) = 'S' :: ("ome(".toList ++ (characters value ++ [')'])) := by
  change ("Some(" ++ literal value ++ ")").toList = _
  rw [String.toList_append, String.toList_append, List.append_assoc]
  rfl

theorem characters_none_append_ne_some (value : α) (rest others : List Char) :
    characters (none : Option α) ++ rest ≠ characters (some value) ++ others := by
  rw [characters_none, characters_some]
  intro same
  cases (List.cons.inj same).1

end

section

variable {α : Type} [Comparable α] [Decipherable α]

theorem agreeLists_iff (left right : List α) : agreeLists left right = true ↔ left = right := by
  induction left generalizing right with
  | nil => cases right <;> simp [agreeLists]
  | cons first left induction =>
      cases right with
      | nil => simp [agreeLists]
      | cons second right =>
          rw [agreeLists, Bool.and_eq_true, Decipherable.agree_iff, induction, List.cons.injEq]

instance : Decipherable (List α) where
  agree_iff := agreeLists_iff
  starts values := ⟨'[', _, characters_list values, by simp [ClosesValue]⟩
  apart left right := by
    intro leftRest rightRest _ _ same
    simp only [characters_list, List.cons_append, List.append_assoc, List.nil_append,
      List.cons_inj_right] at same
    exact eq_of_listed (.inl rfl) (.inr (.inl rfl)) (by decide) Decipherable.starts
      (fun first _ second _ => Decipherable.apart first second) same

instance : Decipherable (Option α) where
  agree_iff left right := by
    cases left <;> cases right <;> simp [agree, agreeOptions, Decipherable.agree_iff]
  starts value := by
    cases value with
    | none => exact ⟨'N', _, characters_none, by simp [ClosesValue]⟩
    | some value => exact ⟨'S', _, characters_some value, by simp [ClosesValue]⟩
  apart left right := by
    intro leftRest rightRest _ _ same
    cases left with
    | none =>
        cases right with
        | none => rfl
        | some right => exact absurd same (characters_none_append_ne_some right _ _)
    | some left =>
        cases right with
        | none => exact absurd same.symm (characters_none_append_ne_some left _ _)
        | some right =>
            have stop (rest : List Char) : StartsWithStop ClosesValue (')' :: rest) :=
              startsWithStop_cons (.inr (.inr rfl)) rest
            simp only [characters_some, List.cons_append, List.append_assoc, List.nil_append,
              List.cons_inj_right, List.append_cancel_left_eq] at same
            exact congrArg some (Decipherable.apart left right _ _ (stop _) (stop _) same)

theorem literal_inj {left right : α} : literal left = literal right ↔ left = right := by
  constructor
  · intro same
    exact (Decipherable.apart left right).eq_of_write_eq (congrArg String.toList same)
  · exact congrArg literal

theorem literal_nonempty (value : α) : literal value ≠ "" := by
  intro empty
  rcases Decipherable.starts value with ⟨first, others, written, _⟩
  rw [characters, empty] at written
  cases written

end

/-! ### Asserted equalities -/

/-- What an asserted equality says of its values, it shows: they are equal just if their texts
are, and if they are not, both texts stand in the message. -/
def TellsOneStory (α : Type) [Comparable α] : Prop :=
  ∀ (expected actual : α) (sentence : String),
    let assertion := Assertion.equals expected actual
    (assertion.passed = true ↔ expected = actual) ∧
    (assertion.passed = true ↔ assertion.expected = assertion.actual) ∧
    (assertion.passed = true → Verdict.classify sentence assertion = .pass) ∧
    (assertion.passed = false → ∃ expectedText actualText,
      assertion.expected = some expectedText ∧ assertion.actual = some actualText ∧
      expectedText ≠ actualText ∧
      Verdict.classify sentence assertion = .fail (some
        (sentence ++ " (expected: " ++ expectedText ++ ", actual: " ++ actualText ++ ")")))

theorem Verdict.classify_explained (sentence : String) {expected actual : String}
    (expectedNonempty : expected ≠ "") (actualNonempty : actual ≠ "") :
    classify sentence ⟨false, some expected, some actual⟩ = .fail (some
      (sentence ++ " (expected: " ++ expected ++ ", actual: " ++ actual ++ ")")) := by
  have kept {text : String} (nonempty : text ≠ "") : nonempty? (some text) = some text :=
    Option.filter_some_pos (decide_eq_true nonempty)
  have opening : " (expected: " = " (" ++ "expected: " := by decide +kernel
  have between : ", actual: " = ", " ++ "actual: " := by decide +kernel
  rw [classify, if_neg Bool.false_ne_true]
  dsimp only
  rw [kept expectedNonempty, kept actualNonempty, opening, between]
  simp only [String.append_assoc]

theorem tellsOneStory_of_decipherable (α : Type) [Comparable α] [Decipherable α] :
    TellsOneStory α := by
  intro expected actual sentence assertion
  have passedIff : assertion.passed = true ↔ expected = actual :=
    Decipherable.agree_iff expected actual
  have shown : assertion.expected = assertion.actual ↔ expected = actual :=
    (Option.some_inj).trans literal_inj
  refine ⟨passedIff, passedIff.trans shown.symm, fun passed => if_pos passed, ?_⟩
  intro failed
  have different : expected ≠ actual := fun equal => by
    rw [passedIff.mpr equal] at failed
    cases failed
  refine ⟨literal expected, literal actual, rfl, rfl, literal_inj.not.mpr different, ?_⟩
  have fields : assertion = ⟨false, some (literal expected), some (literal actual)⟩ := by
    rw [← failed]
    rfl
  rw [fields]
  exact Verdict.classify_explained sentence (literal_nonempty expected) (literal_nonempty actual)

/-- Asserted equalities of texts, lists of texts, optional texts, integers and truth values. -/
theorem equality_tells_one_story :
    TellsOneStory String ∧ TellsOneStory (List String) ∧ TellsOneStory (Option String) ∧
      TellsOneStory Int ∧ TellsOneStory Bool :=
  ⟨tellsOneStory_of_decipherable _, tellsOneStory_of_decipherable _,
    tellsOneStory_of_decipherable _, tellsOneStory_of_decipherable _,
    tellsOneStory_of_decipherable _⟩

end Acceptance
