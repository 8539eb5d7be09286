import Mathlib.Data.String.Basic
import Acceptance.Run.Dispatch

namespace Acceptance

/-! The two cells that show a verdict can be read back, if the markers of the configuration
keep the verdicts apart. The prefix of errors plays no part in this: only an error fills the
diagnostic cell, if it says anything at all. -/

universe u

/-- Markers that can be told from a blank cell and from each other, also when a message follows
the marker of failures. -/
structure Config.IsLegible (config : Config) : Prop where
  pass_nonempty : config.passMarker ≠ ""
  fail_nonempty : config.failMarker ≠ ""
  different : config.passMarker ≠ config.failMarker
  not_explained : ¬ (config.failMarker ++ ":").toList <+: config.passMarker.toList

instance (config : Config) : Decidable config.IsLegible :=
  decidable_of_iff
    (config.passMarker ≠ "" ∧ config.failMarker ≠ "" ∧ config.passMarker ≠ config.failMarker ∧
      ¬ (config.failMarker ++ ":").toList <+: config.passMarker.toList)
    ⟨fun ⟨pass, fail, different, notExplained⟩ => ⟨pass, fail, different, notExplained⟩,
      fun legible => ⟨legible.1, legible.2, legible.3, legible.4⟩⟩

example : Config.IsLegible {} := by decide +kernel

namespace Verdict

/-- An error says something. A verdict of any other kind may do without a message. -/
def IsExplained (verdict : Verdict) : Prop :=
  verdict ≠ .error ""

/-! ### The verdicts of dispatched sentences -/

theorem isExplained_ofError (sentence detail : String) :
    (ofError sentence detail).IsExplained := by
  intro unexplained
  have message : sentence ++ " Exception: " ++ detail = "" := Verdict.error.inj unexplained
  simp at message

theorem isExplained_classify (sentence : String) (assertion : Assertion) :
    (classify sentence assertion).IsExplained := by
  rw [classify]
  split
  · nofun
  · split <;> nofun

theorem isExplained_ofCompletion (sentence : String) (completion : Completion Outcome) :
    (ofCompletion sentence completion).IsExplained := by
  cases completion with
  | returned outcome =>
      cases outcome with
      | action => nofun
      | assertion assertion => exact isExplained_classify sentence assertion
      | failed message => exact isExplained_ofError sentence _
  | panicked payload => exact isExplained_ofError sentence _

theorem isExplained_dispatch {State : Type u} (registry : Registry State) (sentence : String)
    (session : Session State) : (session.dispatch registry sentence).2.IsExplained := by
  rw [Session.dispatch]
  split
  · exact isExplained_ofError sentence _
  · exact isExplained_ofCompletion sentence _

/-! ### Reading cells -/

/-- What is left of a text behind its first characters. -/
def behind (start text : String) : String :=
  String.ofList (text.toList.drop start.toList.length)

theorem behind_append (start text : String) : behind start (start ++ text) = text := by
  rw [behind, String.toList_append, List.drop_left, String.ofList_toList]

def readCells (config : Config) (cells : String × String) : Verdict :=
  if cells.2 ≠ "" then
    .error (behind config.errorPrefix cells.2)
  else if cells.1 = "" then
    .unmarked
  else if cells.1 = config.passMarker then
    .pass
  else if cells.1 = config.failMarker then
    .fail none
  else
    .fail (some (behind (config.failMarker ++ ":") cells.1))

theorem diagnosticCell_nonempty_iff (config : Config) {verdict : Verdict}
    (explained : verdict.IsExplained) :
    (verdict.cells config).2 ≠ "" ↔ verdict.isError = true := by
  cases verdict with
  | pass => simp [cells, isError]
  | fail message => cases message <;> simp [cells, isError]
  | error message =>
      have nonempty : message ≠ "" := fun empty => explained (congrArg _ empty)
      simp [cells, isError, nonempty]
  | unmarked => simp [cells, isError]

theorem failMarker_append_ne (config : Config) (message : String) :
    config.failMarker ++ ":" ++ message ≠ config.failMarker := by
  intro same
  rw [String.append_assoc, String.append_eq_left_iff] at same
  simp at same

theorem readCells_cells {config : Config} (legible : config.IsLegible) {verdict : Verdict}
    (explained : verdict.IsExplained) : readCells config (verdict.cells config) = verdict := by
  cases verdict with
  | pass => simp [readCells, cells, legible.pass_nonempty]
  | fail message =>
      cases message with
      | none => simp [readCells, cells, legible.fail_nonempty, legible.different.symm]
      | some message =>
          have notPass : config.failMarker ++ ":" ++ message ≠ config.passMarker := by
            intro same
            have starts : (config.failMarker ++ ":" ++ message).toList =
                (config.failMarker ++ ":").toList ++ message.toList := String.toList_append
            apply legible.not_explained
            rw [← same, starts]
            exact List.prefix_append ..
          have notBare := failMarker_append_ne config message
          have nonempty : config.failMarker ++ ":" ++ message ≠ "" := by
            simp [legible.fail_nonempty]
          rw [cells, readCells, if_neg (by simp), if_neg nonempty, if_neg notPass, if_neg notBare,
            behind_append]
  | error message =>
      have filled := (diagnosticCell_nonempty_iff config explained).mpr rfl
      rw [readCells, if_pos filled, cells, behind_append]
  | unmarked => rfl

/-! ### Collisions -/

/-- For every way in which a marker can be illegible there are two verdicts with the same
cells. -/
theorem isLegible_of_cells_injective {config : Config}
    (apart : ∀ left right : Verdict, left.IsExplained → right.IsExplained →
      left.cells config = right.cells config → left = right) : config.IsLegible where
  pass_nonempty empty :=
    Verdict.noConfusion (apart .pass .unmarked nofun nofun (Prod.ext empty rfl))
  fail_nonempty empty :=
    Verdict.noConfusion (apart (.fail none) .unmarked nofun nofun (Prod.ext empty rfl))
  different same :=
    Verdict.noConfusion (apart .pass (.fail none) nofun nofun (Prod.ext same rfl))
  not_explained := by
    rintro ⟨message, same⟩
    have cells : config.passMarker = config.failMarker ++ ":" ++ String.ofList message := by
      rw [← String.toList_inj, String.toList_append, String.toList_ofList, same]
    exact Verdict.noConfusion
      (apart .pass (.fail (some (String.ofList message))) nofun nofun (Prod.ext cells rfl))

/-- The cells tell the verdict just if the markers are legible, whatever the prefix of errors.
Under every configuration a filled diagnostic cell tells an error. Both are said of errors with
a message, which those of dispatched sentences have. -/
theorem cells_tell_verdict (config : Config) :
    (Function.Injective (fun verdict : { verdict : Verdict // verdict.IsExplained } =>
        verdict.val.cells config) ↔ config.IsLegible) ∧
    (∀ verdict : { verdict : Verdict // verdict.IsExplained },
      (verdict.val.cells config).2 ≠ "" ↔ verdict.val.isError = true) ∧
    ∀ (State : Type u) (registry : Registry State) (sentence : String)
      (session : Session State), (session.dispatch registry sentence).2.IsExplained := by
  refine ⟨⟨?_, ?_⟩, fun verdict => diagnosticCell_nonempty_iff config verdict.property,
    fun _ => isExplained_dispatch⟩
  · intro injective
    apply isLegible_of_cells_injective
    intro left right leftExplained rightExplained same
    have equal : (⟨left, leftExplained⟩ : { verdict : Verdict // verdict.IsExplained }) =
        ⟨right, rightExplained⟩ := injective same
    exact congrArg Subtype.val equal
  · intro legible left right same
    apply Subtype.ext
    calc left.val
      _ = readCells config (left.val.cells config) := (readCells_cells legible left.2).symm
      _ = readCells config (right.val.cells config) := congrArg _ same
      _ = right.val := readCells_cells legible right.2

/-- A marker of passed steps that a failure can spell. -/
example : cells ⟨"AND", "no:1", "no", "error:"⟩ .pass =
    cells ⟨"AND", "no:1", "no", "error:"⟩ (.fail (some "1")) := by decide +kernel

end Verdict

end Acceptance
