import Mathlib.Algebra.GroupWithZero.Nat
import Mathlib.Data.List.Dedup
import Acceptance.Proofs.Lookup
import Acceptance.Proofs.Step.Keys

namespace Acceptance

/-! A registry as a hash map of hash maps: from the identifiers to their signatures, and from
these to the steps. All that can be seen of it is what can be seen of the plain registry, in
whatever order the hash maps list what they hold. -/

universe u

deriving instance Hashable for Kind

structure NestedRegistry (State : Type u) where
  steps : Std.HashMap String (Std.HashMap Signature (Step State))

namespace NestedRegistry

variable {State : Type u}

def empty : NestedRegistry State :=
  ⟨∅⟩

/-- The steps of an identifier, none if it has none yet. -/
def stepsOf (nested : NestedRegistry State) (identifier : String) :
    Std.HashMap Signature (Step State) :=
  nested.steps.getD identifier ∅

def register (nested : NestedRegistry State) (identifier : String) (handler : Handler State) :
    NestedRegistry State :=
  ⟨nested.steps.insert identifier
    ((nested.stepsOf identifier).insert handler.signature handler.invoke)⟩

/-- Extend the steps of an identifier. Of two steps with the same signature the new one
stays. -/
def extend (nested : NestedRegistry State)
    (entry : String × Std.HashMap Signature (Step State)) : NestedRegistry State :=
  ⟨nested.steps.insert entry.1 (nested.stepsOf entry.1 ∪ entry.2)⟩

/-- Extend the steps of each identifier of another registry. -/
def merge (nested other : NestedRegistry State) : NestedRegistry State :=
  other.steps.toList.foldl extend nested

def find? (nested : NestedRegistry State) (identifier : String) (signature : Signature) :
    Option (Step State) :=
  nested.steps[identifier]?.bind fun steps => steps[signature]?

def find (nested : NestedRegistry State) (identifier : String) (signature : Signature) :
    Except StepError (Step State) :=
  match nested.find? identifier signature with
  | some step => .ok step
  | none =>
      .error (.notFound identifier signature
        ((nested.steps[identifier]?.map fun steps => Signature.sortByText steps.keys).getD []))

def signatures (nested : NestedRegistry State) (identifier : String) : List Signature :=
  nested.steps[identifier]?.toList.flatMap Std.HashMap.keys

def size (nested : NestedRegistry State) : Nat :=
  (nested.steps.toList.map fun entry => entry.2.size).sum

def isEmpty (nested : NestedRegistry State) : Bool :=
  nested.size = 0

def names (nested : NestedRegistry State) : List String :=
  (nested.steps.toList.flatMap fun entry =>
    entry.2.keys.map fun signature => entry.1 ++ signature.text).mergeSort
      fun left right => left ≤ right

def display (nested : NestedRegistry State) : String :=
  "Collection \x7b steps: " ++ Comparable.literal nested.names ++ " \x7d"

/-! ### Lookups -/

theorem getElem?_stepsOf (nested : NestedRegistry State) (identifier : String)
    (signature : Signature) :
    (nested.stepsOf identifier)[signature]? = nested.find? identifier signature := by
  rw [stepsOf, Std.HashMap.getD_eq_getD_getElem?, find?]
  cases nested.steps[identifier]? with
  | none => exact Std.HashMap.getElem?_empty
  | some steps => rfl

theorem find?_register (nested : NestedRegistry State) (registered identifier : String)
    (handler : Handler State) (signature : Signature) :
    (nested.register registered handler).find? identifier signature =
      if (identifier, signature) = (registered, handler.signature) then
        some handler.invoke
      else
        nested.find? identifier signature := by
  rw [register, find?, Std.HashMap.getElem?_insert]
  by_cases same : registered = identifier
  · subst same
    rw [beq_self_eq_true, if_pos rfl, Option.bind_some, Std.HashMap.getElem?_insert,
      getElem?_stepsOf]
    by_cases sameSignature : handler.signature = signature
    · rw [if_pos (beq_iff_eq.mpr sameSignature), if_pos (by rw [sameSignature])]
    · rw [if_neg (mt beq_iff_eq.mp sameSignature), if_neg]
      intro equal
      exact sameSignature (Prod.mk.inj equal).2.symm
  · rw [if_neg (mt beq_iff_eq.mp same), if_neg]
    · rfl
    · intro equal
      exact same (Prod.mk.inj equal).1.symm

theorem find?_extend (nested : NestedRegistry State)
    (entry : String × Std.HashMap Signature (Step State)) (identifier : String)
    (signature : Signature) :
    (nested.extend entry).find? identifier signature =
      if entry.1 = identifier then
        entry.2[signature]?.or (nested.find? identifier signature)
      else
        nested.find? identifier signature := by
  rw [extend, find?, Std.HashMap.getElem?_insert]
  by_cases same : entry.1 = identifier
  · rw [same, beq_self_eq_true, if_pos rfl, if_pos rfl, Option.bind_some,
      Std.HashMap.getElem?_union, getElem?_stepsOf]
  · rw [if_neg (mt beq_iff_eq.mp same), if_neg same]
    rfl

/-- Each identifier is extended once, in whatever order. -/
theorem find?_foldl_extend (nested : NestedRegistry State)
    (entries : List (String × Std.HashMap Signature (Step State)))
    (distinct : (entries.map Prod.fst).Nodup) (identifier : String) (signature : Signature) :
    (entries.foldl extend nested).find? identifier signature =
      ((entries.lookup identifier).bind fun steps => steps[signature]?).or
        (nested.find? identifier signature) := by
  induction entries generalizing nested with
  | nil => rfl
  | cons entry rest induction =>
      rw [List.map_cons, List.nodup_cons] at distinct
      rw [List.foldl_cons, induction _ distinct.2, find?_extend, List.lookup_cons]
      by_cases same : entry.1 = identifier
      · have absent : rest.lookup identifier = none :=
          lookup_eq_none_iff.mpr (same ▸ distinct.1)
        rw [absent, if_pos same, same, beq_self_eq_true]
        rfl
      · have skipped : (identifier == entry.1) = false :=
          beq_eq_false_iff_ne.mpr (Ne.symm same)
        rw [if_neg same, skipped]

theorem find?_merge (nested other : NestedRegistry State) (identifier : String)
    (signature : Signature) :
    (nested.merge other).find? identifier signature =
      (other.find? identifier signature).or (nested.find? identifier signature) := by
  have distinct : (other.steps.toList.map Prod.fst).Nodup := by
    rw [Std.HashMap.map_fst_toList_eq_keys]
    exact Std.HashMap.nodup_keys
  have lookup : other.steps.toList.lookup identifier = other.steps[identifier]? := by
    apply Option.ext
    intro steps
    rw [lookup_eq_some_iff distinct, Std.HashMap.mem_toList_iff_getElem?_eq_some]
  rw [merge, find?_foldl_extend _ _ distinct, lookup]
  rfl

/-! ### Keys -/

def keys (nested : NestedRegistry State) : List StepKey :=
  nested.steps.toList.flatMap fun entry =>
    entry.2.keys.map fun signature => (entry.1, signature)

theorem mem_keys_iff (nested : NestedRegistry State) (identifier : String)
    (signature : Signature) :
    (identifier, signature) ∈ nested.keys ↔
      (nested.find? identifier signature).isSome = true := by
  rw [keys, List.mem_flatMap, find?]
  constructor
  · intro member
    rcases member with ⟨⟨listed, steps⟩, listedMember, signatureMember⟩
    rcases List.mem_map.mp signatureMember with ⟨other, otherMember, equal⟩
    cases equal
    rw [Std.HashMap.mem_toList_iff_getElem?_eq_some.mp listedMember, Option.bind_some,
      ← Std.HashMap.mem_iff_isSome_getElem?]
    exact Std.HashMap.mem_keys.mp otherMember
  · intro found
    cases listed : nested.steps[identifier]? with
    | none =>
        rw [listed] at found
        cases found
    | some steps =>
        rw [listed, Option.bind_some, ← Std.HashMap.mem_iff_isSome_getElem?,
          ← Std.HashMap.mem_keys] at found
        exact ⟨(identifier, steps), Std.HashMap.mem_toList_iff_getElem?_eq_some.mpr listed,
          List.mem_map_of_mem found⟩

theorem nodup_keys (nested : NestedRegistry State) : nested.keys.Nodup := by
  rw [keys, List.nodup_flatMap]
  constructor
  · intro entry _
    apply Std.HashMap.nodup_keys.map
    intro left right same
    exact (Prod.mk.inj same).2
  · apply Std.HashMap.distinct_keys_toList.imp
    intro left right different key leftMember rightMember
    rcases List.mem_map.mp leftMember with ⟨_, _, rfl⟩
    rcases List.mem_map.mp rightMember with ⟨_, _, same⟩
    rw [(Prod.mk.inj same).1, beq_self_eq_true] at different
    cases different

theorem size_eq_length_keys (nested : NestedRegistry State) :
    nested.size = nested.keys.length := by
  rw [size, keys, List.length_flatMap]
  simp only [List.length_map, Std.HashMap.length_keys]

theorem names_eq_mergeSort_keys (nested : NestedRegistry State) :
    nested.names =
      (nested.keys.map StepKey.name).mergeSort fun left right => left ≤ right := by
  rw [names, keys, List.map_flatMap]
  simp only [List.map_map]
  rfl

theorem mem_signatures_iff (nested : NestedRegistry State) (identifier : String)
    (signature : Signature) :
    signature ∈ nested.signatures identifier ↔ (identifier, signature) ∈ nested.keys := by
  rw [mem_keys_iff, signatures, find?]
  cases nested.steps[identifier]? with
  | none => simp
  | some steps => simp

theorem nodup_signatures (nested : NestedRegistry State) (identifier : String) :
    (nested.signatures identifier).Nodup := by
  rw [signatures]
  cases nested.steps[identifier]? with
  | none => exact List.nodup_nil
  | some steps => simp [Std.HashMap.nodup_keys]

/-- The signatures that a failed lookup names are all that the identifier has. -/
theorem find_eq (nested : NestedRegistry State) (identifier : String) (signature : Signature) :
    nested.find identifier signature =
      match nested.find? identifier signature with
      | some step => .ok step
      | none =>
          .error (.notFound identifier signature
            (Signature.sortByText (nested.signatures identifier))) := by
  rw [find, signatures]
  cases nested.steps[identifier]? <;> simp [Signature.sortByText]

/-! ### The plain registry -/

/-- All that can be seen of the two registries is the same. The signatures of an identifier
have no order. -/
structure Shows (nested : NestedRegistry State) (registry : Registry State) : Prop where
  find : ∀ identifier signature,
    nested.find identifier signature = registry.find identifier signature
  signatures : ∀ identifier,
    (nested.signatures identifier).Perm (registry.signatures identifier)
  size : nested.size = registry.size
  isEmpty : nested.isEmpty = registry.isEmpty
  display : nested.display = registry.display

theorem Shows.of_find? {nested : NestedRegistry State} {registry : Registry State}
    (distinct : registry.Distinct)
    (same : ∀ identifier signature,
      nested.find? identifier signature = registry.find? identifier signature) :
    nested.Shows registry := by
  have present : ∀ key, key ∈ nested.keys ↔ key ∈ registry.keys := by
    intro key
    rw [nested.mem_keys_iff, same, ← not_iff_not, ← Registry.find?_eq_none_iff,
      Option.not_isSome_iff_eq_none]
  have perm : nested.keys.Perm registry.keys :=
    (List.perm_ext_iff_of_nodup nested.nodup_keys distinct).mpr present
  have signatures : ∀ identifier,
      (nested.signatures identifier).Perm (registry.signatures identifier) := by
    intro identifier
    apply (List.perm_ext_iff_of_nodup (nested.nodup_signatures identifier)
      (distinct.nodup_signatures identifier)).mpr
    intro signature
    rw [mem_signatures_iff, Registry.mem_signatures_iff, present]
  have size : nested.size = registry.size := by
    rw [size_eq_length_keys, Registry.size_eq_length_keys, perm.length_eq]
  have names : nested.names = registry.names := by
    rw [names_eq_mergeSort_keys, Registry.names_eq_mergeSort_keys]
    exact mergeSort_text_congr Function.injective_id (perm.map _)
  constructor
  case find =>
    intro identifier signature
    have sorted := Signature.sortByText_congr (signatures identifier)
    cases found : registry.find? identifier signature with
    | none => simp only [find_eq, Registry.find, same, found, sorted]
    | some step => simp only [find_eq, Registry.find, same, found]
  case signatures => exact signatures
  case size => exact size
  case isEmpty => exact congrArg (fun count => decide (count = 0)) size
  case display =>
    unfold NestedRegistry.display Registry.display
    rw [names]

end NestedRegistry

/-! ### Assemblies -/

namespace Assembly

variable {State : Type u}

def nested : Assembly State → NestedRegistry State
  | .empty => NestedRegistry.empty
  | .register assembly identifier handler => assembly.nested.register identifier handler
  | .merge assembly other => assembly.nested.merge other.nested

theorem find?_nested (assembly : Assembly State) (identifier : String)
    (signature : Signature) :
    assembly.nested.find? identifier signature =
      assembly.registry.find? identifier signature := by
  rw [find?_registry]
  induction assembly with
  | empty =>
      rw [nested, NestedRegistry.empty, NestedRegistry.find?, Std.HashMap.getElem?_empty]
      rfl
  | register assembly registered handler induction =>
      rw [nested, NestedRegistry.find?_register, latest?_register, induction]
      split
      case isTrue => rfl
      case isFalse => rfl
  | merge assembly other induction otherInduction =>
      rw [nested, NestedRegistry.find?_merge, latest?_merge, induction, otherInduction,
        Option.map_or]

/-- However it is assembled, a map of maps shows what the plain registry shows. -/
theorem nested_shows_registry (assembly : Assembly State) :
    assembly.nested.Shows assembly.registry :=
  .of_find? assembly.distinct_registry assembly.find?_nested

end Assembly

end Acceptance
