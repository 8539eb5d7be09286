import Acceptance.Proofs.Sentence.Cut

namespace Acceptance.Sentence

/-! Sentences whose brackets pair up. Such a sentence is cut in one way only, and its
placeholders are as many as its opening brackets. In every other sentence some opening
bracket is left over: the scan puts it into a gap or into a value. -/

namespace Segments

/-- A value that its brackets enclose without doubt. -/
def IsValue (value : List Char) : Prop :=
  value ≠ [] ∧ '[' ∉ value ∧ ']' ∉ value

instance (value : List Char) : Decidable (IsValue value) :=
  inferInstanceAs (Decidable (_ ∧ _ ∧ _))

/-- No gap opens a bracket. A closing bracket may stray into one. -/
def WellFormed : Segments → Prop
  | .last gap => '[' ∉ gap
  | .placeholder gap value rest => '[' ∉ gap ∧ IsValue value ∧ rest.WellFormed

theorem wellFormed_iff {segments : Segments} :
    segments.WellFormed ↔
      '[' ∉ segments.outside ∧ ∀ value ∈ segments.values, IsValue value := by
  induction segments with
  | last gap => simp [WellFormed, outside, values]
  | placeholder gap value rest induction =>
      simp only [WellFormed, outside, values, induction, List.mem_append, not_or,
        List.forall_mem_cons, and_assoc, and_left_comm]

/-- Put a text in front of the first gap. -/
def prepend (gap : List Char) : Segments → Segments
  | .last later => .last (gap ++ later)
  | .placeholder later value rest => .placeholder (gap ++ later) value rest

@[simp] theorem text_prepend (gap : List Char) (segments : Segments) :
    (segments.prepend gap).text = gap ++ segments.text := by
  cases segments <;> simp [prepend, text]

@[simp] theorem values_prepend (gap : List Char) (segments : Segments) :
    (segments.prepend gap).values = segments.values := by
  cases segments <;> rfl

@[simp] theorem outside_prepend (gap : List Char) (segments : Segments) :
    (segments.prepend gap).outside = gap ++ segments.outside := by
  cases segments <;> simp [prepend, outside]

theorem WellFormed.prepend {gap : List Char} {segments : Segments} (plain : '[' ∉ gap)
    (wellFormed : segments.WellFormed) : (segments.prepend gap).WellFormed := by
  rw [wellFormed_iff] at wellFormed ⊢
  simpa [plain] using wellFormed

theorem WellFormed.isCut {segments : Segments} (wellFormed : segments.WellFormed) :
    segments.IsCut := by
  induction segments with
  | last gap => exact behindOpenings_of_not_mem wellFormed
  | placeholder gap value rest induction =>
      rcases wellFormed with ⟨plain, ⟨nonempty, _, unclosed⟩, restWellFormed⟩
      exact ⟨behindOpenings_of_not_mem plain, ⟨nonempty, unclosed⟩, induction restWellFormed⟩

/-- The opening brackets of a text are those of its placeholders, those in the gaps and
those in the values. -/
theorem count_text (segments : Segments) :
    segments.text.count '[' =
      segments.values.length + segments.outside.count '[' +
        segments.values.flatten.count '[' := by
  induction segments with
  | last gap => simp [text, values, outside]
  | placeholder gap value rest induction =>
      have closing : (']' == '[') = false := by decide
      simp only [text, values, outside, List.count_append, List.count_cons, List.flatten_cons,
        List.length_cons, induction, closing, beq_self_eq_true]
      simp
      omega

end Segments

/-! ### What a scan finds -/

theorem count_opening_eq (text : List Char) :
    text.count '[' =
      (readGap text).values.length + (readGap text).outside.count '[' +
        (readGap text).values.flatten.count '[' := by
  rw [← Segments.count_text, text_readGap]

theorem wellFormed_readGap_iff {text : List Char} :
    (readGap text).WellFormed ↔ text.count '[' = (readGap text).values.length := by
  have held := (isCut_readGap text).isHeld
  rw [count_opening_eq, Segments.wellFormed_iff]
  constructor
  · rintro ⟨gaps, plain⟩
    have gapCount := List.count_eq_zero.mpr gaps
    have valueCount : (readGap text).values.flatten.count '[' = 0 := by
      rw [List.count_eq_zero, List.mem_flatten]
      rintro ⟨value, member, opening⟩
      exact (plain value member).2.1 opening
    omega
  · intro counted
    have gaps : (readGap text).outside.count '[' = 0 := by omega
    have plain : (readGap text).values.flatten.count '[' = 0 := by omega
    rw [List.count_eq_zero] at gaps plain
    refine ⟨gaps, fun value member => ?_⟩
    have unopened : '[' ∉ value := fun opening =>
      plain (List.mem_flatten.mpr ⟨value, member, opening⟩)
    exact ⟨(held value member).1, unopened, (held value member).2⟩

/-- Well-formed pieces are read back as they were put together. -/
theorem readGap_text {segments : Segments} (wellFormed : segments.WellFormed) :
    readGap segments.text = segments :=
  readGap_text_of_isCut wellFormed.isCut

theorem Segments.WellFormed.eq_of_text_eq {left right : Segments}
    (leftWellFormed : left.WellFormed) (rightWellFormed : right.WellFormed)
    (same : left.text = right.text) : left = right := by
  rw [← readGap_text leftWellFormed, same, readGap_text rightWellFormed]

/-! ### Sentences -/

theorem segments_eq_of_text_eq {sentence : String} {pieces : Segments}
    (wellFormed : pieces.WellFormed) (text : pieces.text = sentence.toList) :
    segments sentence = pieces := by
  rw [segments, ← text, readGap_text wellFormed]

theorem wellFormed_segments_iff {sentence : String} :
    (segments sentence).WellFormed ↔
      ∃ pieces : Segments, pieces.WellFormed ∧ pieces.text = sentence.toList := by
  constructor
  · intro wellFormed
    exact ⟨segments sentence, wellFormed, text_readGap sentence.toList⟩
  · rintro ⟨pieces, wellFormed, text⟩
    rwa [segments_eq_of_text_eq wellFormed text]

theorem length_arguments (sentence : String) :
    (arguments sentence).length = (segments sentence).values.length := by
  rw [arguments, placeholders, List.length_map, List.length_map]

theorem length_arguments_le (sentence : String) :
    (arguments sentence).length ≤ placeholderCount sentence := by
  rw [length_arguments, placeholderCount, count_opening_eq, segments]
  omega

theorem placeholderCount_eq_length_arguments_iff {sentence : String} :
    placeholderCount sentence = (arguments sentence).length ↔
      (segments sentence).WellFormed := by
  rw [length_arguments, placeholderCount, segments, wellFormed_readGap_iff]

end Acceptance.Sentence
