import Acceptance.Sentence.Arguments

namespace Acceptance.Sentence

/-! How a sentence is cut, whatever its brackets. An opening bracket stays in a gap only if
it is closed at once or nowhere: any other opens a placeholder. One cut of the sentence alone
is like this, and the scan makes it. A search for one placeholder after the other finds the
same values. -/

/-- The condition holds of what follows each opening bracket of the text. -/
def BehindOpenings (condition : List Char → Prop) (text : List Char) : Prop :=
  ∀ before rest, text = before ++ '[' :: rest → condition rest

theorem behindOpenings_of_not_mem {condition : List Char → Prop} {text : List Char}
    (plain : '[' ∉ text) : BehindOpenings condition text := by
  intro before rest cut
  have opening : '[' ∈ text := by simp [cut]
  exact absurd opening plain

theorem behindOpenings_cons_iff {condition : List Char → Prop} {character : Char}
    {text : List Char} :
    BehindOpenings condition (character :: text) ↔
      (character = '[' → condition text) ∧ BehindOpenings condition text := by
  constructor
  · intro holds
    constructor
    · intro opening
      subst opening
      exact holds [] text rfl
    · intro before rest cut
      exact holds (character :: before) rest (congrArg _ cut)
  · intro holds before rest cut
    cases before with
    | nil =>
        rw [List.nil_append, List.cons.injEq] at cut
        exact cut.2 ▸ holds.1 cut.1
    | cons first before =>
        rw [List.cons_append, List.cons.injEq] at cut
        exact holds.2 before rest cut.2

/-! ### Opening brackets -/

theorem not_opensPlaceholder_iff {rest : List Char} :
    ¬ OpensPlaceholder rest ↔ rest.head? = some ']' ∨ ']' ∉ rest := by
  rw [OpensPlaceholder, Decidable.not_and_iff_not_or_not, Decidable.not_not]

/-- What a placeholder can hold: anything up to a closing bracket, but not nothing. -/
def IsHeld (value : List Char) : Prop :=
  value ≠ [] ∧ ']' ∉ value

theorem opensPlaceholder_iff {rest : List Char} :
    OpensPlaceholder rest ↔ ∃ value later, IsHeld value ∧ rest = value ++ ']' :: later := by
  constructor
  · intro opens
    rcases List.eq_append_cons_of_mem opens.2 with ⟨value, later, cut, unclosed⟩
    have nonempty : value ≠ [] := by
      intro empty
      apply opens.1
      rw [cut, empty]
      rfl
    exact ⟨value, later, ⟨nonempty, unclosed⟩, cut⟩
  · intro held
    rcases held with ⟨value, later, ⟨nonempty, unclosed⟩, cut⟩
    subst cut
    constructor
    · cases value with
      | nil => exact absurd rfl nonempty
      | cons character value =>
          rw [List.mem_cons, not_or] at unclosed
          simpa using Ne.symm unclosed.1
    · exact List.mem_append_right _ (List.mem_cons_self ..)

namespace Segments

/-- Every opening bracket in a gap is closed at once there. In the last gap it may also be
closed nowhere. A value is not empty and holds no closing bracket. -/
def IsCut : Segments → Prop
  | .last gap => BehindOpenings (fun rest => rest.head? = some ']' ∨ ']' ∉ rest) gap
  | .placeholder gap value rest =>
      BehindOpenings (fun rest => rest.head? = some ']') gap ∧ IsHeld value ∧ rest.IsCut

/-- Pieces are made from the end of the text: of nothing, with a placeholder in front, or
with one more character in the first gap. The scan recurs in the same way. -/
@[elab_as_elim]
theorem consInduction {motive : Segments → Prop} (empty : motive (.last []))
    (placeholder : ∀ value rest, motive rest → motive (.placeholder [] value rest))
    (consGap : ∀ character pieces, motive pieces → motive (pieces.consGap character))
    (pieces : Segments) : motive pieces := by
  induction pieces with
  | last gap =>
      induction gap with
      | nil => exact empty
      | cons character gap shorter => exact consGap character (.last gap) shorter
  | placeholder gap value rest later =>
      induction gap with
      | nil => exact placeholder value rest later
      | cons character gap shorter =>
          exact consGap character (.placeholder gap value rest) shorter

theorem isCut_last_nil : (last []).IsCut :=
  behindOpenings_of_not_mem List.not_mem_nil

theorem isCut_placeholder_nil_iff {value : List Char} {rest : Segments} :
    (placeholder [] value rest).IsCut ↔ IsHeld value ∧ rest.IsCut :=
  and_iff_right (behindOpenings_of_not_mem List.not_mem_nil)

/-- Something closes behind an opening bracket in front of a placeholder. So that bracket opens
none only if it is closed at once, and then in the gap: what follows the gap is a bracket. -/
private theorem head_gap_iff {gap after : List Char} (closes : ']' ∈ after) :
    gap.head? = some ']' ↔ ¬ OpensPlaceholder (gap ++ '[' :: after) := by
  have closesBehind : ']' ∈ gap ++ '[' :: after :=
    List.mem_append_right _ (List.mem_cons_of_mem _ closes)
  rw [not_opensPlaceholder_iff, or_iff_left (not_not_intro closesBehind)]
  cases gap with
  | nil => simp
  | cons character gap => rfl

/-- A character can be put in front just if it is no bracket that opens a placeholder there. -/
theorem isCut_consGap_iff {character : Char} {pieces : Segments} :
    (pieces.consGap character).IsCut ↔
      (character = '[' → ¬ OpensPlaceholder pieces.text) ∧ pieces.IsCut := by
  cases pieces with
  | last gap =>
      rw [consGap, IsCut, behindOpenings_cons_iff, text, not_opensPlaceholder_iff, IsCut]
  | placeholder gap value rest =>
      have closes : ']' ∈ value ++ ']' :: rest.text :=
        List.mem_append_right _ (List.mem_cons_self ..)
      rw [consGap, IsCut, behindOpenings_cons_iff, text, List.append_assoc, List.cons_append,
        ← head_gap_iff closes, IsCut, and_assoc]

theorem IsCut.isHeld {pieces : Segments} (cut : pieces.IsCut) :
    ∀ value ∈ pieces.values, IsHeld value := by
  induction pieces with
  | last gap => exact List.forall_mem_nil _
  | placeholder gap value rest induction =>
      rw [values, List.forall_mem_cons]
      exact ⟨cut.2.1, induction cut.2.2⟩

end Segments

/-! ### The scan -/

theorem readValue_append {value : List Char} (unclosed : ']' ∉ value) (rest : List Char) :
    readValue (value ++ ']' :: rest) = (value, readGap rest) := by
  induction value with
  | nil => simp [readValue]
  | cons character value induction =>
      rw [List.mem_cons, not_or] at unclosed
      rw [List.cons_append, readValue, if_neg (Ne.symm unclosed.1), induction unclosed.2]

theorem readGap_of_held {value : List Char} (held : IsHeld value) (rest : List Char) :
    readGap ('[' :: (value ++ ']' :: rest)) = .placeholder [] value (readGap rest) := by
  have opens : OpensPlaceholder (value ++ ']' :: rest) :=
    opensPlaceholder_iff.mpr ⟨value, rest, held, rfl⟩
  rw [readGap, if_pos ⟨rfl, opens⟩, readValue_append held.2]

/-- Pieces that are cut like this are read back as they were put together. -/
theorem readGap_text_of_isCut {pieces : Segments} (cut : pieces.IsCut) :
    readGap pieces.text = pieces := by
  induction pieces using Segments.consInduction with
  | empty => rfl
  | placeholder value rest induction =>
      have parts := Segments.isCut_placeholder_nil_iff.mp cut
      rw [Segments.text, List.nil_append, List.cons_append, readGap_of_held parts.1,
        induction parts.2]
  | consGap character pieces induction =>
      have parts := Segments.isCut_consGap_iff.mp cut
      have noOpening : ¬ (character = '[' ∧ OpensPlaceholder pieces.text) :=
        fun opening => parts.1 opening.1 opening.2
      rw [Segments.text_consGap, readGap, if_neg noOpening, induction parts.2]

theorem readValue_nonempty {rest : List Char} (opens : OpensPlaceholder rest) :
    (readValue rest).1 ≠ [] := by
  cases rest with
  | nil => simp [OpensPlaceholder] at opens
  | cons character rest =>
      have other : character ≠ ']' := by simpa using opens.1
      simp [readValue, other]

/-- Both states of the scan hold their own part of this, and each part needs the other's. -/
private theorem isCut_read (text : List Char) :
    (readGap text).IsCut ∧ ']' ∉ (readValue text).1 ∧ (readValue text).2.IsCut := by
  induction text with
  | nil => exact ⟨Segments.isCut_last_nil, List.not_mem_nil, Segments.isCut_last_nil⟩
  | cons character rest induction =>
      rcases induction with ⟨gapCut, unclosed, laterCut⟩
      constructor
      · rw [readGap]
        split
        case isTrue opening =>
          apply Segments.isCut_placeholder_nil_iff.mpr
          exact ⟨⟨readValue_nonempty opening.2, unclosed⟩, laterCut⟩
        case isFalse noOpening =>
          rw [Segments.isCut_consGap_iff, text_readGap]
          exact ⟨fun bracket opens => noOpening ⟨bracket, opens⟩, gapCut⟩
      · rw [readValue]
        split
        case isTrue => exact ⟨List.not_mem_nil, gapCut⟩
        case isFalse other =>
          have unclosedCons : ']' ∉ character :: (readValue rest).1 := by
            rw [List.mem_cons, not_or]
            exact ⟨Ne.symm other, unclosed⟩
          exact ⟨unclosedCons, laterCut⟩

theorem isCut_readGap (text : List Char) : (readGap text).IsCut :=
  (isCut_read text).1

/-! ### Searching -/

/-- What a search finds that tries one place after the other. Behind a placeholder it goes on,
and where none starts it tries one character further. -/
inductive Finds : List Char → List (List Char) → Prop where
  | nothing : Finds [] []
  | here {value later : List Char} {values : List (List Char)} (held : IsHeld value)
      (goesOn : Finds later values) : Finds ('[' :: (value ++ ']' :: later)) (value :: values)
  | further {character : Char} {rest : List Char} {values : List (List Char)}
      (none : ∀ value later, IsHeld value → character :: rest ≠ '[' :: (value ++ ']' :: later))
      (goesOn : Finds rest values) : Finds (character :: rest) values

theorem Segments.IsCut.finds {pieces : Segments} (cut : pieces.IsCut) :
    Finds pieces.text pieces.values := by
  induction pieces using Segments.consInduction with
  | empty => exact .nothing
  | placeholder value rest induction =>
      have parts := isCut_placeholder_nil_iff.mp cut
      exact .here parts.1 (induction parts.2)
  | consGap character pieces induction =>
      have parts := isCut_consGap_iff.mp cut
      rw [text_consGap, values_consGap]
      apply Finds.further _ (induction parts.2)
      intro value later held starts
      rw [List.cons.injEq] at starts
      exact parts.1 starts.1 (opensPlaceholder_iff.mpr ⟨value, later, held, starts.2⟩)

/-- The scan reads on in a gap or a value, and the search starts anew. They find the same. -/
theorem finds_iff {text : List Char} {values : List (List Char)} :
    Finds text values ↔ values = (readGap text).values := by
  constructor
  · intro finds
    induction finds with
    | nothing => rfl
    | here held _ induction => rw [readGap_of_held held, Segments.values, induction]
    | @further character rest _ none _ induction =>
        have noOpening : ¬ (character = '[' ∧ OpensPlaceholder rest) := by
          intro opening
          rcases opensPlaceholder_iff.mp opening.2 with ⟨value, later, held, cut⟩
          apply none value later held
          rw [opening.1, cut]
        rw [readGap, if_neg noOpening, Segments.values_consGap, induction]
  · intro same
    have finds := (isCut_readGap text).finds
    rwa [text_readGap, ← same] at finds

/-! ### Sentences -/

/-- Of the ways to cut a sentence one alone leaves no opening bracket in a gap but those that
are closed at once or, in the last gap, nowhere. Its values are the placeholders of the
sentence, in their order, and what a search finds. -/
theorem placeholders_of_only_cut (sentence : String) :
    ∃ pieces : Segments,
      (∀ other : Segments, other.text = sentence.toList ∧ other.IsCut ↔ other = pieces) ∧
        placeholders sentence = pieces.values.map String.ofList ∧
          ∀ values, Finds sentence.toList values ↔ values = pieces.values := by
  refine ⟨segments sentence, ?_, rfl, fun values => finds_iff⟩
  intro other
  constructor
  · intro made
    rw [segments, ← made.1, readGap_text_of_isCut made.2]
  · intro same
    subst same
    exact ⟨text_readGap sentence.toList, isCut_readGap sentence.toList⟩

/-- Empty brackets stay in the gap before a placeholder. A bracket that nothing closes stays
in the last gap. -/
example : segments "[][a[b] [c" =
    .placeholder "[]".toList "a[b".toList (.last " [c".toList) := rfl

end Acceptance.Sentence
