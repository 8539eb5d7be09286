import Acceptance.Step.Registry
import Acceptance.Proofs.Lookup

namespace Acceptance

/-! Registries as they are assembled: from the empty registry, by registering handlers and
by merging registries that were assembled in the same way. A registry finds the handler
that was registered last, where the registrations of a merge are read from left to right. -/

namespace Registry

variable {State : Type u}

/-! ### Merging -/

def Distinct (registry : Registry State) : Prop :=
  (registry.entries.map Prod.fst).Nodup

theorem distinct_empty : (empty : Registry State).Distinct := by
  simp [Distinct, empty]

theorem Distinct.insert {registry : Registry State} (distinct : registry.Distinct)
    (key : StepKey) (step : Step State) : (registry.insert key step).Distinct := by
  have kept : ((registry.entries.filter fun entry => entry.1 ≠ key).map Prod.fst).Nodup :=
    distinct.sublist (List.filter_sublist.map Prod.fst)
  have fresh : key ∉ (registry.entries.filter fun entry => entry.1 ≠ key).map Prod.fst := by
    intro member
    rcases List.mem_map.mp member with ⟨entry, kept, rfl⟩
    simp at kept
  rw [Distinct, Registry.insert, List.map_append, List.map_singleton]
  refine List.nodup_append.mpr ⟨kept, by simp, ?_⟩
  intro left leftMember right rightMember equal
  rw [List.mem_singleton] at rightMember
  subst right left
  exact fresh leftMember

theorem Distinct.merge {registry : Registry State} (distinct : registry.Distinct)
    (other : Registry State) : (registry.merge other).Distinct := by
  rw [Registry.merge]
  induction other.entries generalizing registry with
  | nil => exact distinct
  | cons entry rest induction => exact induction (distinct.insert entry.1 entry.2)

private theorem find?_foldl_insert (registry : Registry State)
    (entries : List (StepKey × Step State)) (distinct : (entries.map Prod.fst).Nodup)
    (identifier : String) (signature : Signature) :
    (entries.foldl (fun merged entry => merged.insert entry.1 entry.2) registry).find?
        identifier signature =
      (entries.lookup (identifier, signature)).or (registry.find? identifier signature) := by
  induction entries generalizing registry with
  | nil => rfl
  | cons entry rest induction =>
      have parts := List.nodup_cons.mp distinct
      rw [List.foldl_cons, induction _ parts.2]
      by_cases equal : (identifier, signature) = entry.1
      · have absent : rest.lookup (identifier, signature) = none :=
          lookup_eq_none_iff.mpr (equal ▸ parts.1)
        rw [absent, List.lookup_cons, ← equal, find?_insert_self]
        simp
      · have skipped : ((identifier, signature) == entry.1) = false := by
          simpa using equal
        rw [find?_insert_of_ne _ _ equal, List.lookup_cons, skipped]

theorem find?_merge (registry : Registry State) {other : Registry State}
    (distinct : other.Distinct) (identifier : String) (signature : Signature) :
    (registry.merge other).find? identifier signature =
      (other.find? identifier signature).or (registry.find? identifier signature) :=
  find?_foldl_insert registry other.entries distinct identifier signature

end Registry

/-! ### Assemblies -/

inductive Assembly (State : Type u) where
  | empty
  | register (assembly : Assembly State) (identifier : String) (handler : Handler State)
  | merge (assembly other : Assembly State)

namespace Assembly

variable {State : Type u}

def registry : Assembly State → Registry State
  | .empty => Registry.empty
  | .register assembly identifier handler => assembly.registry.register identifier handler
  | .merge assembly other => assembly.registry.merge other.registry

/-- The handlers in the order of their registration. What is merged into a registry comes
after all that the registry had before. -/
def registrations : Assembly State → List (String × Handler State)
  | .empty => []
  | .register assembly identifier handler =>
      assembly.registrations ++ [(identifier, handler)]
  | .merge assembly other => assembly.registrations ++ other.registrations

/-- The last of the handlers that were registered under an identifier with a signature. -/
def latest? (assembly : Assembly State) (identifier : String) (signature : Signature) :
    Option (Handler State) :=
  (assembly.registrations.filter fun registration =>
    registration.1 = identifier ∧ registration.2.signature = signature).getLast?.map Prod.snd

theorem distinct_registry (assembly : Assembly State) : assembly.registry.Distinct := by
  induction assembly with
  | empty => exact Registry.distinct_empty
  | register _ identifier handler induction => exact induction.insert _ _
  | merge _ other induction _ => exact induction.merge _

theorem latest?_register (assembly : Assembly State) (identifier other : String)
    (handler : Handler State) (signature : Signature) :
    (assembly.register identifier handler).latest? other signature =
      if (other, signature) = (identifier, handler.signature) then
        some handler
      else
        assembly.latest? other signature := by
  by_cases equal : (other, signature) = (identifier, handler.signature)
  · rcases Prod.mk.inj equal with ⟨rfl, rfl⟩
    simp [latest?, registrations]
  · have different : ¬ (identifier = other ∧ handler.signature = signature) := by
      rintro ⟨rfl, rfl⟩
      exact equal rfl
    rw [if_neg equal, latest?, registrations, List.filter_append,
      List.filter_cons_of_neg (by simpa using different)]
    simp [latest?]

theorem latest?_merge (assembly other : Assembly State) (identifier : String)
    (signature : Signature) :
    (assembly.merge other).latest? identifier signature =
      (other.latest? identifier signature).or (assembly.latest? identifier signature) := by
  simp only [latest?, registrations, List.filter_append, List.getLast?_append, Option.map_or]

theorem signature_of_latest? {assembly : Assembly State} {identifier : String}
    {signature : Signature} {handler : Handler State}
    (found : assembly.latest? identifier signature = some handler) :
    handler.signature = signature := by
  rw [latest?, Option.map_eq_some_iff] at found
  rcases found with ⟨registration, last, rfl⟩
  have member := List.mem_filter.mp (List.mem_of_getLast? last)
  exact (of_decide_eq_true member.2).2

theorem find?_registry (assembly : Assembly State) (identifier : String)
    (signature : Signature) :
    assembly.registry.find? identifier signature =
      (assembly.latest? identifier signature).map Handler.invoke := by
  induction assembly with
  | empty => rfl
  | register assembly registered handler induction =>
      rw [latest?_register, registry, Registry.register]
      by_cases equal : (identifier, signature) = (registered, handler.signature)
      · rcases Prod.mk.inj equal with ⟨rfl, rfl⟩
        rw [if_pos rfl, Registry.find?_insert_self, Option.map_some]
      · rw [if_neg equal, Registry.find?_insert_of_ne _ _ equal, induction]
  | merge assembly other induction otherInduction =>
      rw [latest?_merge, registry, Registry.find?_merge _ other.distinct_registry,
        induction, otherInduction, Option.map_or]

end Assembly

end Acceptance
