import Acceptance.Proofs.Run.Dispatch
import Acceptance.Proofs.Step.Keys
import Acceptance.Proofs.Text.Bytes

namespace Acceptance

/-! However a registry was assembled, it is the map from keys to the handlers that were
registered for them last. Nothing that can be seen of it tells more than that map. -/

universe u

variable {State : Type u}

namespace Registry

/-- What can be seen of a registry is what the last registrations of an assembly say. -/
structure IsMapOf (registry : Registry State) (assembly : Assembly State) : Prop where
  find : ∀ identifier signature, registry.find identifier signature =
    match assembly.latest? identifier signature with
    | some handler => .ok handler.invoke
    | none =>
        .error (.notFound identifier signature
          (Signature.sortByText (registry.signatures identifier)))
  unregistered : ∀ identifier signature,
    assembly.latest? identifier signature = none ↔ (identifier, signature) ∉ assembly.keys
  signatures_nodup : ∀ identifier, (registry.signatures identifier).Nodup
  mem_signatures : ∀ identifier signature,
    signature ∈ registry.signatures identifier ↔ (identifier, signature) ∈ assembly.keys
  size : registry.size = assembly.keys.dedup.length
  isEmpty : registry.isEmpty = true ↔ assembly.registrations = []
  /-- The steps are listed by name, each key once. -/
  display : ∃ names : List String,
    registry.display = "Collection \x7b steps: " ++ Comparable.literal names ++ " \x7d" ∧
    names.Perm (assembly.keys.dedup.map fun key => key.1 ++ key.2.text) ∧
    (names.map Text.bytes).Pairwise (· < ·)

/-- Registries that nothing tells apart: no lookup, no listing, no count, no text and no
sentence that is dispatched to them. The signatures of an identifier have no order. -/
structure Indistinct (left right : Registry State) : Prop where
  find : ∀ identifier signature, left.find identifier signature = right.find identifier signature
  signatures : ∀ identifier, (left.signatures identifier).Perm (right.signatures identifier)
  size : left.size = right.size
  isEmpty : left.isEmpty = right.isEmpty
  display : left.display = right.display
  dispatch : ∀ (sentence : String) (session : Session State),
    session.dispatch left sentence = session.dispatch right sentence

theorem resolve_congr_of_find {left right : Registry State}
    (same : ∀ identifier signature,
      left.find identifier signature = right.find identifier signature)
    (sentence : String) : left.resolve sentence = right.resolve sentence := by
  rw [resolve, resolve, same]

theorem Indistinct.of_find? {left right : Registry State} (leftDistinct : left.Distinct)
    (rightDistinct : right.Distinct)
    (same : ∀ identifier signature,
      left.find? identifier signature = right.find? identifier signature) :
    left.Indistinct right := by
  have perm := keys_perm_of_find?_eq leftDistinct rightDistinct same
  have find := fun identifier signature =>
    find_eq_of_keys_perm perm (same identifier signature)
  have size : left.size = right.size := by
    rw [size_eq_length_keys, size_eq_length_keys, perm.length_eq]
  have names := names_eq_of_keys_perm perm
  constructor
  case find => exact find
  case signatures => exact signatures_perm_of_keys_perm perm
  case size => exact size
  case isEmpty => rw [Registry.isEmpty, Registry.isEmpty, size]
  case display =>
    unfold Registry.display
    rw [names]
  case dispatch =>
    intro sentence session
    rw [Session.dispatch, Session.dispatch, resolve_congr_of_find find]

end Registry

namespace Assembly

theorem isMapOf_registry (assembly : Assembly State) : assembly.registry.IsMapOf assembly := by
  have distinct := assembly.distinct_registry
  constructor
  case find =>
    intro identifier signature
    rw [Registry.find, assembly.find?_registry]
    cases assembly.latest? identifier signature <;> rfl
  case unregistered => exact fun identifier signature => latest?_eq_none_iff
  case signatures_nodup => exact distinct.nodup_signatures
  case mem_signatures =>
    intro identifier signature
    rw [Registry.mem_signatures_iff, assembly.mem_keys_registry_iff]
  case size => exact assembly.size_registry
  case isEmpty => exact assembly.isEmpty_registry_iff
  case display =>
    refine ⟨assembly.registry.names, rfl, assembly.names_registry_perm, ?_⟩
    rw [List.pairwise_map]
    exact distinct.pairwise_lt_names.imp Text.bytes_lt_of_lt

/-- An assembled registry is the map in which the last registration of each key counts.
Merging is associative, the empty registry is neutral on both sides, and of an identifier a
merge keeps the steps whose signatures the other registry does not redefine. Assemblies with
the same last registrations cannot be told apart. -/
theorem last_writer_wins (assembly : Assembly State) :
    assembly.registry.IsMapOf assembly ∧
    (∀ second third : Assembly State,
      ((assembly.merge second).merge third).registry =
        (assembly.merge (second.merge third)).registry) ∧
    (assembly.merge .empty).registry = assembly.registry ∧
    (merge .empty assembly).registry = assembly.registry ∧
    (∀ (other : Assembly State) (identifier : String) (signature : Signature),
      (identifier, signature) ∉ other.keys →
        (assembly.merge other).registry.find? identifier signature =
          assembly.registry.find? identifier signature) ∧
    ∀ other : Assembly State,
      (∀ identifier signature,
        other.latest? identifier signature = assembly.latest? identifier signature) →
      other.registry.Indistinct assembly.registry := by
  refine ⟨assembly.isMapOf_registry, ?_, Registry.merge_empty _,
    Registry.empty_merge assembly.distinct_registry, ?_, ?_⟩
  · intro second third
    exact Registry.merge_assoc _ second.distinct_registry third.distinct_registry
  · intro other identifier signature kept
    rw [find?_registry, latest?_merge, latest?_eq_none_iff.mpr kept, Option.none_or,
      find?_registry]
  · intro other same
    refine .of_find? other.distinct_registry assembly.distinct_registry ?_
    intro identifier signature
    rw [find?_registry, find?_registry, same]

end Assembly

end Acceptance
