import Acceptance.Binary64.Text
import Acceptance.Text.Quoted

namespace Acceptance

/-! What a step asserts: whether it holds, and the values that were compared, as text. -/

structure Assertion where
  passed : Bool
  expected : Option String := none
  actual : Option String := none
deriving DecidableEq

/-- Values that an assertion can compare and show by a literal that tells different
values apart. -/
class Comparable (α : Type) where
  agree : α → α → Bool
  literal : α → String

/-- Values that an assertion can compare and show as they are read. -/
class Displayable (α : Type) extends Comparable α where
  display : α → String

instance : Displayable Binary64 where
  agree := Binary64.equal
  literal := Binary64.literalText
  display := Binary64.plainText

instance : Displayable String where
  agree left right := left = right
  literal := Text.quoted
  display text := text

instance : Displayable Int where
  agree left right := left = right
  literal := toString
  display := toString

instance : Displayable Bool where
  agree left right := left = right
  literal value := if value then "true" else "false"
  display value := if value then "true" else "false"

def agreeLists {α : Type} [Comparable α] : List α → List α → Bool
  | [], [] => true
  | left :: lefts, right :: rights => Comparable.agree left right && agreeLists lefts rights
  | _, _ => false

instance {α : Type} [Comparable α] : Comparable (List α) where
  agree := agreeLists
  literal values := "[" ++ ", ".intercalate (values.map Comparable.literal) ++ "]"

def agreeOptions {α : Type} [Comparable α] : Option α → Option α → Bool
  | none, none => true
  | some left, some right => Comparable.agree left right
  | _, _ => false

instance {α : Type} [Comparable α] : Comparable (Option α) where
  agree := agreeOptions
  literal
    | none => "None"
    | some value => "Some(" ++ Comparable.literal value ++ ")"

namespace Assertion

/-- An assertion that shows no values. -/
def that (passed : Bool) : Assertion :=
  ⟨passed, none, none⟩

/-- Assert that two values agree, and show them by their literals. -/
def equals {α : Type} [Comparable α] (expected actual : α) : Assertion :=
  ⟨Comparable.agree expected actual, some (Comparable.literal expected),
    some (Comparable.literal actual)⟩

/-- Assert that two values agree, and show them as they are read. -/
def equalsDisplayed {α : Type} [Displayable α] (expected actual : α) : Assertion :=
  ⟨Comparable.agree expected actual, some (Displayable.display expected),
    some (Displayable.display actual)⟩

def withExpected {α : Type} [Displayable α] (assertion : Assertion) (value : α) : Assertion :=
  { assertion with expected := some (Displayable.display value) }

def withActual {α : Type} [Displayable α] (assertion : Assertion) (value : α) : Assertion :=
  { assertion with actual := some (Displayable.display value) }

end Assertion

end Acceptance
