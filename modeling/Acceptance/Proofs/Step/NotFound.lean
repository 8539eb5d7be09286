import Acceptance.Proofs.Step.Keys
import Acceptance.Proofs.Text.Bytes

namespace Acceptance

/-! What a lookup that finds no step reports: all the signatures that its identifier has, in
one order. They are sorted by their texts, and texts of signatures are in the order of the
signatures themselves, so the order in which they were stored leaves no mark. -/

universe u

variable {State : Type u}

namespace Signature

theorem text_lt_iff_before {left right : Signature} :
    left.text < right.text ↔ left.Before right := by
  refine ⟨fun less => ?_, text_lt_of_before⟩
  rcases trichotomous_of Before left right with before | rfl | after
  · exact before
  · exact absurd less (lt_irrefl _)
  · exact absurd less (lt_asymm (text_lt_of_before after))

theorem mem_sortByText_iff {signature : Signature} {signatures : List Signature} :
    signature ∈ sortByText signatures ↔ signature ∈ signatures :=
  (List.mergeSort_perm ..).mem_iff

theorem pairwise_before_sortByText {signatures : List Signature} (nodup : signatures.Nodup) :
    (sortByText signatures).Pairwise Before :=
  (pairwise_lt_mergeSort_text text_injective nodup).imp text_lt_iff_before.mp

end Signature

theorem Registry.find_of_not_mem_keys {registry : Registry State} {identifier : String}
    {signature : Signature} (absent : (identifier, signature) ∉ registry.keys) :
    registry.find identifier signature =
      .error (.notFound identifier signature
        (Signature.sortByText (registry.signatures identifier))) := by
  rw [find, find?_eq_none_iff.mpr absent]

/-- The signatures of an identifier in increasing order are what every lookup of it reports
that finds no step, however the steps are stored and in whatever order the signatures are
met. The order is that of the kinds, the first that differs deciding, and it is also the
order of the texts byte by byte. -/
theorem Assembly.not_found_lists_known (assembly : Assembly State) (identifier : String) :
    (∃ known : List Signature,
      (∀ signature, (identifier, signature) ∉ assembly.keys →
        ∀ stored : Registry State, stored.entries.Perm assembly.registry.entries →
          stored.find identifier signature = .error (.notFound identifier signature known)) ∧
      (∀ met : List Signature, met.Perm (assembly.registry.signatures identifier) →
        Signature.sortByText met = known) ∧
      (∀ signature, signature ∈ known ↔ (identifier, signature) ∈ assembly.keys) ∧
      known.Nodup ∧ known.Pairwise Signature.Before) ∧
    ∀ left right : Signature,
      (Text.bytes left.text < Text.bytes right.text ↔ left.Before right) ∧
      (left.text = right.text ↔ left = right) := by
  have nodup := assembly.distinct_registry.nodup_signatures identifier
  constructor
  · refine ⟨Signature.sortByText (assembly.registry.signatures identifier),
      ?reported, ?unordered, ?complete, ?once, ?increasing⟩
    case reported =>
      intro signature unregistered stored perm
      have keys : stored.keys.Perm assembly.registry.keys := perm.map Prod.fst
      have absent : (identifier, signature) ∉ stored.keys := by
        rwa [keys.mem_iff, assembly.mem_keys_registry_iff]
      rw [Registry.find_of_not_mem_keys absent, Signature.sortByText_congr
        (Registry.signatures_perm_of_keys_perm keys identifier)]
    case unordered => exact fun met perm => Signature.sortByText_congr perm
    case complete =>
      intro signature
      rw [Signature.mem_sortByText_iff, Registry.mem_signatures_iff,
        assembly.mem_keys_registry_iff]
    case once => exact (List.mergeSort_perm ..).nodup_iff.mpr nodup
    case increasing => exact Signature.pairwise_before_sortByText nodup
  · intro left right
    rw [Text.bytes_lt_iff, Signature.text_lt_iff_before]
    exact ⟨Iff.rfl, Signature.text_injective.eq_iff⟩

/-- The overloads come in the order of their kinds, also if they were registered and are
stored in another; the steps of other identifiers are left out. -/
theorem not_found_lists_known_balance :
    let check (signature : Signature) : Handler Nat := .check signature fun _ _ => .flag true
    let assembly := (((Assembly.empty.register "balance" (check [.text])).register
      "balance" (check [.numeric, .text])).register
      "owner" (check [.text, .text])).register "balance" (check [.numeric])
    let other : Registry Nat := ⟨assembly.registry.entries.reverse⟩
    ("balance", [.text, .text]) ∉ assembly.keys ∧
    other.find "balance" [.text, .text] = .error (.notFound "balance" [.text, .text]
      [[.numeric], [.numeric, .text], [.text]]) := by
  intro check assembly other
  have unregistered : ("balance", [.text, .text]) ∉ assembly.keys := by decide +kernel
  rcases assembly.not_found_lists_known "balance" with ⟨⟨known, reported, unordered, -⟩, -⟩
  have sorted : Signature.sortByText [[.numeric], [.numeric, .text], [.text]] =
      [[.numeric], [.numeric, .text], [.text]] :=
    List.mergeSort_of_pairwise (by decide +kernel)
  have listed : known = [[.numeric], [.numeric, .text], [.text]] := by
    rw [← sorted]
    exact (unordered _ (by decide +kernel)).symm
  refine ⟨unregistered, ?_⟩
  rw [← listed]
  exact reported _ unregistered other (List.reverse_perm _)

end Acceptance
