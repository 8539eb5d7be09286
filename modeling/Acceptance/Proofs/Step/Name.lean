import Mathlib.Data.List.Lex
import Mathlib.Data.String.Basic
import Acceptance.Step.Registry

namespace Acceptance

/-! The text of a signature tells the signature, and the name that a step is listed by tells
its identifier as well. So what is put in the order of such texts has one order only. -/

/-! ### Signatures in order -/

def Kind.Before (left right : Kind) : Prop :=
  left = .numeric ∧ right = .text

instance : Std.Trichotomous Kind.Before where
  trichotomous left right := by
    cases left <;> cases right <;> simp [Kind.Before]

namespace Signature

/-- Numbers come before texts, and a signature before its extensions. -/
abbrev Before : Signature → Signature → Prop :=
  List.Lex Kind.Before

/-- What stands between the parentheses of a signature's text. -/
def listing (signature : Signature) : List Char :=
  [',', ' '].intercalate (signature.map fun kind => kind.name.toList)

theorem toList_text (signature : Signature) :
    signature.text.toList = '(' :: (signature.listing ++ [')']) := by
  rw [text, String.toList_append, String.toList_append, String.toList_intercalate,
    List.map_map]
  rfl

theorem listing_cons_cons (kind next : Kind) (rest : Signature) :
    listing (kind :: next :: rest) =
      kind.name.toList ++ ',' :: ' ' :: listing (next :: rest) := by
  simp [listing, List.intercalate_cons_cons]

theorem listing_singleton (kind : Kind) : listing [kind] = kind.name.toList := by
  simp [listing]

theorem opening_not_mem_listing (signature : Signature) : '(' ∉ signature.listing := by
  induction signature with
  | nil => simp [listing]
  | cons kind rest induction =>
      have plain : '(' ∉ kind.name.toList := by cases kind <;> decide
      cases rest with
      | nil => rwa [listing_singleton]
      | cons next rest =>
          rw [listing_cons_cons, List.mem_append, List.mem_cons, List.mem_cons]
          simp [plain, induction]

/-- Every listing starts with the letters of its first kind. -/
theorem exists_listing_cons (kind : Kind) (rest : Signature) :
    ∃ others, listing (kind :: rest) = kind.name.toList ++ others := by
  cases rest with
  | nil => exact ⟨[], by rw [listing_singleton, List.append_nil]⟩
  | cons next rest => exact ⟨_, listing_cons_cons kind next rest⟩

/-- The parenthesis that closes a listing comes before the comma that continues it, and the
comma before the letters of a kind. -/
theorem listing_lt_of_before {left right : Signature} (before : left.Before right) :
    left.listing ++ [')'] < right.listing ++ [')'] := by
  induction before with
  | @nil kind rest =>
      rcases exists_listing_cons kind rest with ⟨others, starts⟩
      rw [starts]
      cases kind <;> exact .rel (by decide)
  | @cons kind left right later induction =>
      cases later with
      | nil =>
          rw [listing_singleton, listing_cons_cons, List.append_assoc]
          exact .append_left _ (.rel (by decide)) _
      | _ =>
          rw [listing_cons_cons, listing_cons_cons, List.append_assoc, List.append_assoc]
          exact .append_left _ (.cons (.cons induction)) _
  | @rel left leftRest right rightRest less =>
      rcases less with ⟨rfl, rfl⟩
      rcases exists_listing_cons .numeric leftRest with ⟨leftOthers, leftStarts⟩
      rcases exists_listing_cons .text rightRest with ⟨rightOthers, rightStarts⟩
      rw [leftStarts, rightStarts]
      exact .rel (by decide)

theorem text_lt_of_before {left right : Signature} (before : left.Before right) :
    left.text < right.text := by
  rw [String.lt_iff_toList_lt, toList_text, toList_text]
  exact .cons (listing_lt_of_before before)

theorem text_injective : Function.Injective text := by
  intro left right same
  rcases trichotomous_of Before left right with before | equal | after
  · exact absurd same (ne_of_lt (text_lt_of_before before))
  · exact equal
  · exact absurd same.symm (ne_of_lt (text_lt_of_before after))

end Signature

/-! ### Names of steps -/

def StepKey.name (key : StepKey) : String :=
  key.1 ++ key.2.text

/-- A parenthesis that none opens after is found from the end. -/
private theorem eq_of_last_opening {left right leftRest rightRest : List Char}
    (leftLast : '(' ∉ leftRest) (rightLast : '(' ∉ rightRest)
    (same : left ++ '(' :: leftRest = right ++ '(' :: rightRest) : left = right := by
  rcases List.append_eq_append_iff.mp same with
    ⟨between, cut, rest⟩ | ⟨between, cut, rest⟩ <;> cases between
  case inl.nil => rw [cut, List.append_nil]
  case inr.nil => rw [cut, List.append_nil]
  case inl.cons first between =>
    rw [List.cons_append, List.cons.injEq] at rest
    exact absurd (by simp [rest.2]) leftLast
  case inr.cons first between =>
    rw [List.cons_append, List.cons.injEq] at rest
    exact absurd (by simp [rest.2]) rightLast

theorem StepKey.name_injective : Function.Injective StepKey.name := by
  rintro ⟨leftIdentifier, leftSignature⟩ ⟨rightIdentifier, rightSignature⟩ same
  have last (signature : Signature) : '(' ∉ signature.listing ++ [')'] := by
    simp [signature.opening_not_mem_listing]
  have characters := congrArg String.toList same
  simp only [name, String.toList_append, Signature.toList_text] at characters
  have identifiers : leftIdentifier = rightIdentifier :=
    String.toList_inj.mp (eq_of_last_opening (last _) (last _) characters)
  subst identifiers
  have texts : leftSignature.text = rightSignature.text := by
    simpa [name] using same
  rw [Signature.text_injective texts]

/-! ### Sorting by text -/

section Sorting

variable {α : Type} {key : α → String}

theorem pairwise_mergeSort_text (members : List α) :
    (members.mergeSort fun left right => key left ≤ key right).Pairwise
      fun left right => key left ≤ key right := by
  have sorted := @List.pairwise_mergeSort α (fun left right => key left ≤ key right)
    (by simpa using fun _ _ _ => String.le_trans) (by simpa using fun _ _ => String.le_total ..)
    members
  simpa using sorted

theorem mergeSort_text_congr (injective : Function.Injective key) {left right : List α}
    (perm : left.Perm right) :
    (left.mergeSort fun first second => key first ≤ key second) =
      right.mergeSort fun first second => key first ≤ key second := by
  refine List.Perm.eq_of_pairwise ?_ (pairwise_mergeSort_text left)
    (pairwise_mergeSort_text right) ?_
  · intro first second _ _ below above
    exact injective (String.le_antisymm below above)
  · exact (List.mergeSort_perm ..).trans (perm.trans (List.mergeSort_perm ..).symm)

theorem pairwise_lt_mergeSort_text (injective : Function.Injective key) {members : List α}
    (nodup : members.Nodup) :
    (members.mergeSort fun left right => key left ≤ key right).Pairwise
      fun left right => key left < key right := by
  have different := (List.mergeSort_perm members
    fun left right => key left ≤ key right).nodup_iff.mpr nodup
  refine (pairwise_mergeSort_text members).imp₂ ?_ different
  intro left right below different
  exact lt_of_le_of_ne below (injective.ne different)

end Sorting

theorem Signature.sortByText_congr {left right : List Signature} (perm : left.Perm right) :
    sortByText left = sortByText right :=
  mergeSort_text_congr text_injective perm

end Acceptance
