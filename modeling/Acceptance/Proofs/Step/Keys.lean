import Mathlib.Data.List.Dedup
import Acceptance.Proofs.Step.Assembly
import Acceptance.Proofs.Step.Name

namespace Acceptance

/-! The keys of a registry, and all that they decide: which lookups succeed, which signatures
an identifier has, how many steps there are and what they are called. -/

universe u

variable {State : Type u}

namespace Registry

def keys (registry : Registry State) : List StepKey :=
  registry.entries.map Prod.fst

variable {registry : Registry State}

theorem find?_eq_none_iff {identifier : String} {signature : Signature} :
    registry.find? identifier signature = none ↔ (identifier, signature) ∉ registry.keys :=
  lookup_eq_none_iff

theorem signatures_eq_map_keys (identifier : String) :
    registry.signatures identifier =
      (registry.keys.filter fun key => key.1 = identifier).map Prod.snd := by
  rw [signatures, keys, List.filter_map, List.map_map]
  rfl

theorem mem_signatures_iff {identifier : String} {signature : Signature} :
    signature ∈ registry.signatures identifier ↔ (identifier, signature) ∈ registry.keys := by
  rw [signatures_eq_map_keys]
  simp

theorem Distinct.nodup_signatures (distinct : registry.Distinct) (identifier : String) :
    (registry.signatures identifier).Nodup := by
  rw [signatures_eq_map_keys]
  refine (distinct.filter _).map_on ?_
  rintro ⟨left, _⟩ leftMember ⟨right, _⟩ rightMember rfl
  have leftEqual := of_decide_eq_true (List.mem_filter.mp leftMember).2
  have rightEqual := of_decide_eq_true (List.mem_filter.mp rightMember).2
  exact congrArg (·, _) (leftEqual.trans rightEqual.symm)

theorem size_eq_length_keys : registry.size = registry.keys.length :=
  (List.length_map _).symm

theorem names_eq_mergeSort_keys :
    registry.names =
      (registry.keys.map StepKey.name).mergeSort fun left right => left ≤ right := by
  rw [names, keys, List.map_map]
  rfl

theorem Distinct.pairwise_lt_names (distinct : registry.Distinct) :
    registry.names.Pairwise (· < ·) := by
  rw [names_eq_mergeSort_keys]
  exact pairwise_lt_mergeSort_text Function.injective_id (distinct.map StepKey.name_injective)

/-! ### Registries with the same lookups -/

section SameLookups

variable {left right : Registry State}

theorem keys_perm_of_find?_eq (leftDistinct : left.Distinct) (rightDistinct : right.Distinct)
    (same : ∀ identifier signature,
      left.find? identifier signature = right.find? identifier signature) :
    left.keys.Perm right.keys := by
  refine (List.perm_ext_iff_of_nodup leftDistinct rightDistinct).mpr ?_
  rintro ⟨identifier, signature⟩
  have absent : (identifier, signature) ∉ left.keys ↔ (identifier, signature) ∉ right.keys := by
    rw [← find?_eq_none_iff, ← find?_eq_none_iff, same]
  exact not_iff_not.mp absent

theorem signatures_perm_of_keys_perm (perm : left.keys.Perm right.keys) (identifier : String) :
    (left.signatures identifier).Perm (right.signatures identifier) := by
  rw [signatures_eq_map_keys, signatures_eq_map_keys]
  exact (perm.filter _).map _

theorem names_eq_of_keys_perm (perm : left.keys.Perm right.keys) : left.names = right.names := by
  rw [names_eq_mergeSort_keys, names_eq_mergeSort_keys]
  exact mergeSort_text_congr Function.injective_id (perm.map _)

theorem find_eq_of_keys_perm (perm : left.keys.Perm right.keys) {identifier : String}
    {signature : Signature}
    (same : left.find? identifier signature = right.find? identifier signature) :
    left.find identifier signature = right.find identifier signature := by
  rw [find, find, same,
    Signature.sortByText_congr (signatures_perm_of_keys_perm perm identifier)]

end SameLookups

/-! ### What a merge stores -/

private theorem entries_foldl_insert (registry : Registry State)
    (others : List (StepKey × Step State)) (distinct : (others.map Prod.fst).Nodup) :
    (others.foldl (fun merged entry => merged.insert entry.1 entry.2) registry).entries =
      registry.entries.filter (fun entry => entry.1 ∉ others.map Prod.fst) ++ others := by
  induction others generalizing registry with
  | nil => simp
  | cons first rest induction =>
      have parts := List.nodup_cons.mp distinct
      rw [List.foldl_cons, induction _ parts.2, insert, List.filter_append, List.filter_filter,
        List.filter_cons_of_pos (by simpa using parts.1), List.append_assoc]
      congr 2
      funext entry
      simp only [List.map_cons, List.mem_cons, not_or, Bool.decide_and]
      exact Bool.and_comm ..

/-- A merge drops what the other registry redefines and appends all of the other. -/
theorem entries_merge (registry : Registry State) {other : Registry State}
    (distinct : other.Distinct) :
    (registry.merge other).entries =
      registry.entries.filter (fun entry => entry.1 ∉ other.keys) ++ other.entries :=
  entries_foldl_insert registry other.entries distinct

theorem keys_merge (registry : Registry State) {other : Registry State}
    (distinct : other.Distinct) :
    (registry.merge other).keys =
      registry.keys.filter (fun key => key ∉ other.keys) ++ other.keys := by
  rw [keys, entries_merge registry distinct, List.map_append, keys, keys, List.filter_map]
  rfl

theorem merge_assoc (first : Registry State) {second third : Registry State}
    (secondDistinct : second.Distinct) (thirdDistinct : third.Distinct) :
    (first.merge second).merge third = first.merge (second.merge third) := by
  have entries : ((first.merge second).merge third).entries =
      (first.merge (second.merge third)).entries := by
    rw [entries_merge _ thirdDistinct, entries_merge _ secondDistinct,
      entries_merge _ (secondDistinct.merge third), entries_merge _ thirdDistinct,
      keys_merge _ thirdDistinct, List.filter_append, List.filter_filter, List.append_assoc]
    congr 2
    funext entry
    by_cases later : entry.1 ∈ third.keys <;> simp [later]
  exact congrArg Registry.mk entries

theorem merge_empty (registry : Registry State) : registry.merge empty = registry := rfl

theorem empty_merge (distinct : registry.Distinct) : empty.merge registry = registry :=
  congrArg Registry.mk (entries_merge empty distinct)

end Registry

/-! ### The keys of an assembly -/

namespace Assembly

/-- What the registrations of an assembly are for, with repetitions. -/
def keys (assembly : Assembly State) : List StepKey :=
  assembly.registrations.map fun registration => (registration.1, registration.2.signature)

theorem latest?_eq_none_iff {assembly : Assembly State} {identifier : String}
    {signature : Signature} :
    assembly.latest? identifier signature = none ↔ (identifier, signature) ∉ assembly.keys := by
  rw [latest?, Option.map_eq_none_iff, List.getLast?_eq_none_iff, List.filter_eq_nil_iff, keys,
    List.mem_map, not_exists]
  simp

theorem mem_keys_registry_iff (assembly : Assembly State) (key : StepKey) :
    key ∈ assembly.registry.keys ↔ key ∈ assembly.keys := by
  rw [← not_iff_not, ← Registry.find?_eq_none_iff, ← latest?_eq_none_iff, find?_registry,
    Option.map_eq_none_iff]

theorem keys_registry_perm (assembly : Assembly State) :
    assembly.registry.keys.Perm assembly.keys.dedup := by
  refine (List.perm_ext_iff_of_nodup assembly.distinct_registry assembly.keys.nodup_dedup).mpr ?_
  intro key
  rw [List.mem_dedup]
  exact assembly.mem_keys_registry_iff key

theorem size_registry (assembly : Assembly State) :
    assembly.registry.size = assembly.keys.dedup.length := by
  rw [Registry.size_eq_length_keys, assembly.keys_registry_perm.length_eq]

theorem names_registry_perm (assembly : Assembly State) :
    assembly.registry.names.Perm (assembly.keys.dedup.map StepKey.name) := by
  rw [Registry.names_eq_mergeSort_keys]
  exact (List.mergeSort_perm ..).trans (assembly.keys_registry_perm.map _)

theorem isEmpty_registry_iff (assembly : Assembly State) :
    assembly.registry.isEmpty = true ↔ assembly.registrations = [] := by
  rw [Registry.isEmpty, decide_eq_true_iff, size_registry, List.length_eq_zero_iff,
    List.dedup_eq_nil, keys, List.map_eq_nil_iff]

end Assembly

end Acceptance
