import Mathlib.Data.List.Basic
import Mathlib.Data.String.Basic

namespace Acceptance.Text

/-! Texts that stand one after another can be told apart again, if it can be seen of each where
it ends. Some end by themselves, as quoted texts do; others end where certain characters follow,
as numbers do before anything but a digit. -/

/-- A rest starts with one of the characters that end a text, if it is not empty. -/
def StartsWithStop (stops : Char → Prop) (rest : List Char) : Prop :=
  ∀ character ∈ rest.head?, stops character

theorem startsWithStop_nil (stops : Char → Prop) : StartsWithStop stops [] :=
  nofun

theorem startsWithStop_cons {stops : Char → Prop} {character : Char} (stop : stops character)
    (rest : List Char) : StartsWithStop stops (character :: rest) := by
  intro first head
  cases head
  exact stop

theorem StartsWithStop.imp {stops others : Char → Prop} {rest : List Char}
    (starts : StartsWithStop stops rest) (weaker : ∀ character, stops character → others character) :
    StartsWithStop others rest :=
  fun character member => weaker character (starts character member)

/-- Two values are told apart by their texts, whatever stops and goes on behind these. -/
def ToldApart {α : Type} (stops : Char → Prop) (write : α → List Char) (left right : α) : Prop :=
  ∀ leftRest rightRest, StartsWithStop stops leftRest → StartsWithStop stops rightRest →
    write left ++ leftRest = write right ++ rightRest → left = right

theorem ToldApart.eq_of_write_eq {α : Type} {stops : Char → Prop} {write : α → List Char}
    {left right : α} (apart : ToldApart stops write left right) (same : write left = write right) :
    left = right := by
  apply apart [] [] (startsWithStop_nil stops) (startsWithStop_nil stops)
  rw [same]

/-- Values are told apart by a reader that gets each of them back from the front of a text. -/
theorem toldApart_of_read {α : Type} {stops : Char → Prop} {write : α → List Char}
    {read : List Char → α}
    (reads : ∀ value rest, StartsWithStop stops rest → read (write value ++ rest) = value)
    (left right : α) : ToldApart stops write left right := by
  intro leftRest rightRest stopLeft stopRight same
  calc left
    _ = read (write left ++ leftRest) := (reads left leftRest stopLeft).symm
    _ = read (write right ++ rightRest) := congrArg read same
    _ = right := reads right rightRest stopRight

/-! ### Runs of characters -/

theorem takeWhile_run {within : Char → Bool} {run rest : List Char}
    (inside : ∀ character ∈ run, within character = true)
    (stop : StartsWithStop (fun character => within character = false) rest) :
    (run ++ rest).takeWhile within = run := by
  rw [List.takeWhile_append_of_pos inside]
  cases rest with
  | nil => exact List.append_nil _
  | cons character rest =>
      rw [List.takeWhile_cons_of_neg (by simp [stop character rfl]), List.append_nil]

theorem dropWhile_run {within : Char → Bool} {run rest : List Char}
    (inside : ∀ character ∈ run, within character = true)
    (stop : StartsWithStop (fun character => within character = false) rest) :
    (run ++ rest).dropWhile within = rest := by
  rw [List.dropWhile_append_of_pos inside]
  cases rest with
  | nil => rfl
  | cons character rest => rw [List.dropWhile_cons_of_neg (by simp [stop character rfl])]

theorem eq_of_run {within : Char → Bool} {left right leftRest rightRest : List Char}
    (insideLeft : ∀ character ∈ left, within character = true)
    (insideRight : ∀ character ∈ right, within character = true)
    (stopLeft : StartsWithStop (fun character => within character = false) leftRest)
    (stopRight : StartsWithStop (fun character => within character = false) rightRest)
    (same : left ++ leftRest = right ++ rightRest) : left = right := by
  rw [← takeWhile_run insideLeft stopLeft, same, takeWhile_run insideRight stopRight]

/-! ### Texts in a row -/

section

variable {α : Type} {stops : Char → Prop} {write : α → List Char}

/-- A row of values is read from its texts up to a character that closes it, if it is seen of
each text where it ends and none starts like the end of the row. -/
theorem eq_of_flatMap {closing : Char} (closes : stops closing) {left right : List α}
    (starts : ∀ value, ∃ first others,
      write value = first :: others ∧ stops first ∧ first ≠ closing)
    (apart : ∀ first ∈ left, ∀ second ∈ right, ToldApart stops write first second)
    {leftRest rightRest : List Char}
    (same : left.flatMap write ++ closing :: leftRest =
      right.flatMap write ++ closing :: rightRest) : left = right := by
  have stop (values : List α) (rest : List Char) :
      StartsWithStop stops (values.flatMap write ++ closing :: rest) := by
    cases values with
    | nil => exact startsWithStop_cons closes rest
    | cons value values =>
        rcases starts value with ⟨first, others, written, stop, -⟩
        rw [List.flatMap_cons, written]
        exact startsWithStop_cons stop _
  have begin_ne (value : α) (values : List α) (rest others : List Char) :
      (value :: values).flatMap write ++ rest ≠ closing :: others := by
    rcases starts value with ⟨first, others, written, -, different⟩
    rw [List.flatMap_cons, written]
    exact fun same => different (List.cons.inj same).1
  induction left generalizing right with
  | nil =>
      cases right with
      | nil => rfl
      | cons second right => exact absurd same.symm (begin_ne second right _ _)
  | cons first left induction =>
      cases right with
      | nil => exact absurd same (begin_ne first left _ _)
      | cons second right =>
          rw [List.flatMap_cons, List.flatMap_cons, List.append_assoc, List.append_assoc] at same
          have equal := apart first (List.mem_cons_self ..) second (List.mem_cons_self ..) _ _
            (stop left leftRest) (stop right rightRest) same
          subst equal
          rw [List.append_right_inj] at same
          rw [induction (fun first member second other =>
            apart first (List.mem_cons_of_mem _ member) second (List.mem_cons_of_mem _ other)) same]

/-- Texts that are joined by commas. -/
def listed (write : α → List Char) (values : List α) : List Char :=
  [',', ' '].intercalate (values.map write)

theorem listed_cons (write : α → List Char) (value : α) (values : List α) :
    listed write (value :: values) =
      write value ++ values.flatMap fun other => ',' :: ' ' :: write other := by
  rw [listed]
  induction values generalizing value with
  | nil => simp
  | cons next values induction =>
      rw [List.map_cons, List.map_cons, List.intercalate_cons_cons, ← List.map_cons, induction,
        List.flatMap_cons, List.append_assoc]
      rfl

/-- What is listed up to a closing bracket is read from its text, if every text in the list is
seen to end before a comma and before this bracket, and none starts with either. -/
theorem eq_of_listed {closing : Char} (comma : stops ',') (closes : stops closing)
    (different : ',' ≠ closing) {left right : List α}
    (starts : ∀ value, ∃ first others, write value = first :: others ∧ ¬ stops first)
    (apart : ∀ first ∈ left, ∀ second ∈ right, ToldApart stops write first second)
    {leftRest rightRest : List Char}
    (same : listed write left ++ closing :: leftRest =
      listed write right ++ closing :: rightRest) : left = right := by
  have begin_ne (value : α) (values : List α) (rest others : List Char) :
      listed write (value :: values) ++ rest ≠ closing :: others := by
    rcases starts value with ⟨first, _, written, unstopped⟩
    rw [listed_cons, written]
    exact fun same => unstopped ((List.cons.inj same).1 ▸ closes)
  have commaApart : ∀ first ∈ left, ∀ second ∈ right,
      ToldApart stops (fun value => ',' :: ' ' :: write value) first second := by
    intro first member second other leftRest rightRest stopLeft stopRight same
    apply apart first member second other leftRest rightRest stopLeft stopRight
    exact (List.cons.inj (List.cons.inj same).2).2
  cases left with
  | nil =>
      cases right with
      | nil => rfl
      | cons second right => exact absurd same.symm (begin_ne second right _ _)
  | cons first left =>
      cases right with
      | nil => exact absurd same (begin_ne first left _ _)
      | cons second right =>
          -- With a comma before each, the texts are a row like any other.
          apply eq_of_flatMap closes (fun value => ⟨',', _, rfl, comma, different⟩) commaApart
          rw [listed_cons, listed_cons] at same
          exact congrArg (fun text => ',' :: ' ' :: text) same

end

end Acceptance.Text
