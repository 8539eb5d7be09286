import Acceptance.Text.Words

namespace Acceptance.Text

open Acceptance.Unicode

/-! The words of a text that is put together from words and blanks. Blanks at either end of
a text are part of no word, so trimming leaves the words as they are. -/

def IsBlank (text : List Char) : Prop :=
  ∀ character ∈ text, isWhitespace character = true

def IsVisible (text : List Char) : Prop :=
  ∀ character ∈ text, isWhitespace character = false

-- Both go through the text. Left to itself, instance search may try every character there is.

instance (text : List Char) : Decidable (IsBlank text) :=
  List.decidableBAll _ text

instance (text : List Char) : Decidable (IsVisible text) :=
  List.decidableBAll _ text

theorem IsVisible.append {earlier later : List Char} (visible : IsVisible earlier)
    (visibleLater : IsVisible later) : IsVisible (earlier ++ later) :=
  List.forall_mem_append.mpr ⟨visible, visibleLater⟩

theorem not_mem_of_isBlank {text : List Char} (blank : IsBlank text) {character : Char}
    (visible : isWhitespace character = false) : character ∉ text := by
  intro member
  rw [blank character member] at visible
  cases visible

/-! ### Blanks before, between and after words -/

theorem words_cons_of_blank {character : Char} (blank : isWhitespace character = true)
    (text : List Char) : words (character :: text) = words text := by
  rw [words, leadingWord, if_pos blank]
  rfl

theorem words_append_left_of_blank {blanks : List Char} (blank : IsBlank blanks)
    (text : List Char) : words (blanks ++ text) = words text := by
  induction blanks with
  | nil => rfl
  | cons character blanks induction =>
      rw [IsBlank, List.forall_mem_cons] at blank
      rw [List.cons_append, words_cons_of_blank blank.1, induction blank.2]

theorem leadingWord_append {word : List Char} (visible : IsVisible word) (rest : List Char) :
    leadingWord (word ++ rest) = (word ++ (leadingWord rest).1, (leadingWord rest).2) := by
  induction word with
  | nil => rfl
  | cons character word induction =>
      rw [IsVisible, List.forall_mem_cons] at visible
      rw [List.cons_append, leadingWord, induction visible.2, if_neg (by simp [visible.1])]
      rfl

/-- At a boundary, where a blank or the end of the text follows, no word goes on. -/
theorem leadingWord_of_boundary {rest : List Char}
    (boundary : ∀ character ∈ rest.head?, isWhitespace character = true) :
    leadingWord rest = ([], words rest) := by
  cases rest with
  | nil => rfl
  | cons character rest =>
      have blank := boundary character (by simp)
      rw [words_cons_of_blank blank, leadingWord, if_pos blank]
      rfl

theorem words_append_of_boundary {word rest : List Char} (nonempty : word ≠ [])
    (visible : IsVisible word)
    (boundary : ∀ character ∈ rest.head?, isWhitespace character = true) :
    words (word ++ rest) = word :: words rest := by
  rw [words, leadingWord_append visible, leadingWord_of_boundary boundary, consWord]
  simp [nonempty]

/-- Words that are joined by spaces are the words of the text. -/
theorem words_intercalate_space {listed : List (List Char)}
    (written : ∀ word ∈ listed, word ≠ [] ∧ IsVisible word) :
    words ([' '].intercalate listed) = listed := by
  induction listed with
  | nil => rfl
  | cons word others induction =>
      rw [List.forall_mem_cons] at written
      rcases written with ⟨⟨nonempty, visible⟩, othersWritten⟩
      cases others with
      | nil =>
          have single : words (word ++ []) = [word] :=
            words_append_of_boundary nonempty visible (by simp)
          rw [List.append_nil] at single
          rw [List.intercalate_singleton, single]
      | cons next others =>
          rw [List.intercalate_cons_cons, List.append_assoc,
            words_append_of_boundary nonempty visible (by simp; decide), List.singleton_append,
            words_cons_of_blank (by decide), induction othersWritten]

private theorem leadingWord_append_right_of_blank {blanks : List Char}
    (blank : IsBlank blanks) (text : List Char) :
    leadingWord (text ++ blanks) = leadingWord text := by
  induction text with
  | nil =>
      have boundary : ∀ character ∈ blanks.head?, isWhitespace character = true :=
        fun character member => blank character (List.mem_of_mem_head? member)
      have wordless := words_append_left_of_blank blank []
      rw [List.append_nil] at wordless
      rw [List.nil_append, leadingWord_of_boundary boundary, wordless]
      rfl
  | cons character text induction =>
      rw [List.cons_append, leadingWord, leadingWord, induction]

theorem words_append_right_of_blank {blanks : List Char} (blank : IsBlank blanks)
    (text : List Char) : words (text ++ blanks) = words text := by
  rw [words, words, leadingWord_append_right_of_blank blank]

/-! ### Trimming -/

private theorem exists_trimStart (text : List Char) :
    ∃ blanks, IsBlank blanks ∧ text = blanks ++ trimStart text :=
  ⟨text.takeWhile isWhitespace, List.all_eq_true.mp List.all_takeWhile,
    List.takeWhile_append_dropWhile.symm⟩

private theorem exists_trimEnd (text : List Char) :
    ∃ blanks, IsBlank blanks ∧ text = trimEnd text ++ blanks := by
  rcases exists_trimStart text.reverse with ⟨blanks, blank, cut⟩
  refine ⟨blanks.reverse, fun character member => ?_, ?_⟩
  · exact blank character (List.mem_reverse.mp member)
  · rw [trimEnd, ← List.reverse_append, ← cut, List.reverse_reverse]

/-- What is trimmed off a text is blank. -/
theorem exists_trim (text : List Char) :
    ∃ before after, IsBlank before ∧ IsBlank after ∧ text = before ++ (trim text ++ after) := by
  rcases exists_trimStart text with ⟨before, blankBefore, cutBefore⟩
  rcases exists_trimEnd (trimStart text) with ⟨after, blankAfter, cutAfter⟩
  exact ⟨before, after, blankBefore, blankAfter, cutBefore.trans (congrArg _ cutAfter)⟩

@[simp] theorem words_trim (text : List Char) : words (trim text) = words text := by
  rcases exists_trim text with ⟨before, after, blankBefore, blankAfter, cut⟩
  rw [cut, words_append_left_of_blank blankBefore, words_append_right_of_blank blankAfter,
    ← cut]

theorem trim_eq_nil_iff {text : List Char} : trim text = [] ↔ IsBlank text := by
  constructor
  · intro empty
    rcases exists_trim text with ⟨before, after, blankBefore, blankAfter, cut⟩
    rw [cut, empty, List.nil_append, IsBlank, List.forall_mem_append]
    exact ⟨blankBefore, blankAfter⟩
  · intro blank
    have start : trimStart (text ++ []) = trimStart [] := List.dropWhile_append_of_pos blank
    rw [List.append_nil] at start
    rw [trim, start]
    rfl

private theorem trimStart_append_of_visible {blanks rest : List Char} (blank : IsBlank blanks)
    (visible : ∀ character ∈ rest.head?, isWhitespace character = false) :
    trimStart (blanks ++ rest) = rest := by
  rw [trimStart, List.dropWhile_append_of_pos blank]
  cases rest with
  | nil => rfl
  | cons character rest => rw [List.dropWhile_cons_of_neg (by simp [visible character rfl])]

/-- No blank at either end. -/
structure IsTrimmed (text : List Char) : Prop where
  head : ∀ character ∈ text.head?, isWhitespace character = false
  last : ∀ character ∈ text.getLast?, isWhitespace character = false

theorem IsVisible.isTrimmed {text : List Char} (visible : IsVisible text) : IsTrimmed text where
  head character member := visible character (List.mem_of_mem_head? member)
  last character member := visible character (List.mem_of_mem_getLast? member)

/-- Of a trimmed text between blanks just the blanks are trimmed off. -/
theorem trim_of_isTrimmed {before text after : List Char} (blankBefore : IsBlank before)
    (trimmed : IsTrimmed text) (blankAfter : IsBlank after) :
    trim (before ++ (text ++ after)) = text := by
  have blankBehind : IsBlank after.reverse := fun character member =>
    blankAfter character (List.mem_reverse.mp member)
  have last : ∀ character ∈ text.reverse.head?, isWhitespace character = false := by
    rw [List.head?_reverse]
    exact trimmed.last
  cases text with
  | nil =>
      rw [trim_eq_nil_iff, List.nil_append, IsBlank, List.forall_mem_append]
      exact ⟨blankBefore, blankAfter⟩
  | cons first rest =>
      have start : trimStart (before ++ (first :: rest ++ after)) = first :: rest ++ after :=
        trimStart_append_of_visible blankBefore trimmed.head
      rw [trim, start, trimEnd, List.reverse_append,
        trimStart_append_of_visible blankBehind last, List.reverse_reverse]

private theorem visible_head_trimStart (text : List Char) :
    ∀ character ∈ (trimStart text).head?, isWhitespace character = false := by
  intro character member
  have visible := List.head?_dropWhile_not isWhitespace text
  rw [trimStart] at member
  rwa [Option.mem_def.mp member] at visible

theorem isTrimmed_trim (text : List Char) : IsTrimmed (trim text) where
  head character member := by
    rcases exists_trimEnd (trimStart text) with ⟨after, _, cut⟩
    rw [← trim] at cut
    apply visible_head_trimStart text character
    rw [cut, List.head?_append, Option.mem_def.mp member]
    rfl
  last character member := by
    rw [trim, trimEnd, List.getLast?_reverse] at member
    exact visible_head_trimStart _ character member

/-- A text is what another one is without the blanks at its ends. -/
structure IsTrimOf (raw text : List Char) : Prop where
  between : ∃ before after, IsBlank before ∧ IsBlank after ∧ raw = before ++ (text ++ after)
  trimmed : IsTrimmed text

theorem isTrimOf_iff {raw text : List Char} : IsTrimOf raw text ↔ text = trim raw := by
  constructor
  · intro isTrim
    rcases isTrim.between with ⟨before, after, blankBefore, blankAfter, rfl⟩
    exact (trim_of_isTrimmed blankBefore isTrim.trimmed blankAfter).symm
  · intro equal
    rw [equal]
    exact ⟨exists_trim raw, isTrimmed_trim raw⟩

theorem trim_eq_self_iff {text : List Char} : trim text = text ↔ IsTrimmed text := by
  constructor
  · intro same
    rw [← same]
    exact isTrimmed_trim text
  · intro trimmed
    have same := trim_of_isTrimmed (List.forall_mem_nil _) trimmed (List.forall_mem_nil _)
    rwa [List.nil_append, List.append_nil] at same

theorem mem_trim_iff {character : Char} (visible : isWhitespace character = false)
    {text : List Char} : character ∈ trim text ↔ character ∈ text := by
  rcases exists_trim text with ⟨before, after, blankBefore, blankAfter, cut⟩
  have notBefore := not_mem_of_isBlank blankBefore visible
  have notAfter := not_mem_of_isBlank blankAfter visible
  rw [cut, List.mem_append, List.mem_append, or_iff_right notBefore, or_iff_left notAfter,
    ← cut]

/-! ### The characters of the words -/

private theorem flatten_consWord (word : List Char) (others : List (List Char)) :
    (consWord word others).flatten = word ++ others.flatten := by
  rw [consWord]
  split
  case isTrue empty => rw [empty, List.nil_append]
  case isFalse => rw [List.flatten_cons]

private theorem flatten_leadingWord (text : List Char) :
    (leadingWord text).1 ++ (leadingWord text).2.flatten =
      text.filter fun character => !isWhitespace character := by
  induction text with
  | nil => rfl
  | cons character text induction =>
      rw [leadingWord]
      cases blank : isWhitespace character with
      | true => simp [blank, flatten_consWord, induction]
      | false => simp [blank, induction]

theorem flatten_words (text : List Char) :
    (words text).flatten = text.filter fun character => !isWhitespace character := by
  rw [words, flatten_consWord, flatten_leadingWord]

theorem mem_flatten_words_iff {character : Char} (visible : isWhitespace character = false)
    {text : List Char} : character ∈ (words text).flatten ↔ character ∈ text := by
  rw [flatten_words, List.mem_filter, visible]
  simp

theorem words_eq_nil_iff {text : List Char} : words text = [] ↔ IsBlank text := by
  constructor
  · intro wordless
    have visible := flatten_words text
    rw [wordless, List.flatten_nil, eq_comm, List.filter_eq_nil_iff] at visible
    intro character member
    simpa using visible character member
  · intro blank
    have wordless := words_append_left_of_blank blank []
    rwa [List.append_nil] at wordless

end Acceptance.Text
