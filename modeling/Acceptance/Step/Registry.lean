import Acceptance.Step.Error
import Acceptance.Step.Handler

namespace Acceptance

/-! The steps of a fixture, by identifier and signature. One identifier may have steps of
several signatures. A step registered again under the same two replaces the former. -/

abbrev StepKey := String × Signature

structure Registry (State : Type u) where
  entries : List (StepKey × Step State)

namespace Registry

variable {State : Type u}

def empty : Registry State :=
  ⟨[]⟩

/-- Store a step under a key in place of the one that was there. -/
def insert (registry : Registry State) (key : StepKey) (step : Step State) :
    Registry State :=
  ⟨registry.entries.filter (fun entry => entry.1 ≠ key) ++ [(key, step)]⟩

def register (registry : Registry State) (identifier : String) (handler : Handler State) :
    Registry State :=
  registry.insert (identifier, handler.signature) handler.invoke

/-- Register the steps of another registry over those of this one. -/
def merge (registry other : Registry State) : Registry State :=
  other.entries.foldl (fun merged entry => merged.insert entry.1 entry.2) registry

def find? (registry : Registry State) (identifier : String) (signature : Signature) :
    Option (Step State) :=
  registry.entries.lookup (identifier, signature)

theorem find?_insert_self (registry : Registry State) (identifier : String)
    (signature : Signature) (step : Step State) :
    (registry.insert (identifier, signature) step).find? identifier signature =
      some step := by
  have absent : (registry.entries.filter fun entry =>
      entry.1 ≠ (identifier, signature)).lookup (identifier, signature) = none := by
    rw [List.lookup_eq_none_iff]
    intro entry member
    have different := of_decide_eq_true (List.mem_filter.mp member).2
    exact bne_iff_ne.mpr (Ne.symm different)
  rw [find?, insert, List.lookup_append, absent, List.lookup_cons, beq_self_eq_true]
  rfl

theorem find?_insert_of_ne (registry : Registry State) {key : StepKey}
    {identifier : String} {signature : Signature} (step : Step State)
    (different : (identifier, signature) ≠ key) :
    (registry.insert key step).find? identifier signature =
      registry.find? identifier signature := by
  have kept : ∀ entries : List (StepKey × Step State),
      (entries.filter fun entry => entry.1 ≠ key).lookup (identifier, signature) =
        entries.lookup (identifier, signature) := by
    intro entries
    induction entries with
    | nil => rfl
    | cons entry rest induction =>
        by_cases equal : entry.1 = key
        · subst equal
          have skipped : ((identifier, signature) == entry.1) = false := by
            simpa using different
          rw [List.filter_cons_of_neg (by simp), induction, List.lookup_cons, skipped]
        · rw [List.filter_cons_of_pos (by simpa using equal), List.lookup_cons,
            List.lookup_cons, induction]
  have last : [(key, step)].lookup (identifier, signature) = none := by
    have skipped : ((identifier, signature) == key) = false := by simpa using different
    rw [List.lookup_cons, skipped]
    rfl
  simp only [find?, insert, List.lookup_append, kept, last, Option.or_none]

def signatures (registry : Registry State) (identifier : String) : List Signature :=
  (registry.entries.filter fun entry => entry.1.1 = identifier).map fun entry => entry.1.2

/-- The step under an identifier and a signature. Where there is none, the error names
the signatures that the identifier does have, in the order of their texts. -/
def find (registry : Registry State) (identifier : String) (signature : Signature) :
    Except StepError (Step State) :=
  match registry.find? identifier signature with
  | some step => .ok step
  | none =>
      .error (.notFound identifier signature
        (Signature.sortByText (registry.signatures identifier)))

def size (registry : Registry State) : Nat :=
  registry.entries.length

def isEmpty (registry : Registry State) : Bool :=
  registry.size = 0

/-- The steps by name and signature, in the order of these texts. -/
def names (registry : Registry State) : List String :=
  (registry.entries.map fun entry => entry.1.1 ++ entry.1.2.text).mergeSort
    fun left right => left ≤ right

def display (registry : Registry State) : String :=
  "Collection \x7b steps: " ++ Comparable.literal registry.names ++ " \x7d"

end Registry

end Acceptance
