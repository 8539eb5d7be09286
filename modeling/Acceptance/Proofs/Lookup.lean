import Mathlib.Data.List.Nodup

namespace Acceptance

/-! Entries of a list looked up by their keys, and items by their names. Where these are
distinct, each is found wherever it stands. -/

section

variable {Key : Type u} {Value : Type v} [BEq Key] [LawfulBEq Key] {entries : List (Key × Value)}
  {key : Key}

theorem lookup_eq_none_iff : entries.lookup key = none ↔ key ∉ entries.map Prod.fst := by
  rw [List.lookup_eq_none_iff, List.mem_map]
  constructor
  · intro other member
    rcases member with ⟨entry, member, same⟩
    exact absurd same.symm (bne_iff_ne.mp (other entry member))
  · intro absent entry member
    rw [bne_iff_ne]
    intro same
    exact absent ⟨entry, member, same.symm⟩

theorem lookup_eq_some_iff (distinct : (entries.map Prod.fst).Nodup) {value : Value} :
    entries.lookup key = some value ↔ (key, value) ∈ entries := by
  rw [List.lookup_eq_some_iff]
  constructor
  · intro found
    rcases found with ⟨earlier, later, cut, _⟩
    rw [cut]
    exact List.mem_append_right _ (List.mem_cons_self ..)
  · intro member
    rcases List.append_of_mem member with ⟨earlier, later, cut⟩
    rw [cut, List.map_append, List.nodup_append] at distinct
    refine ⟨earlier, later, cut, ?_⟩
    intro entry entryMember
    rw [bne_iff_ne]
    intro same
    exact distinct.2.2 _ (List.mem_map_of_mem entryMember) key (List.mem_cons_self ..) same.symm

theorem find?_of_mem {Item : Type u} {Name : Type v} [DecidableEq Name] {name : Item → Name}
    {items : List Item} (distinct : (items.map name).Nodup) {item : Item}
    (member : item ∈ items) : (items.find? fun other => name other = name item) = some item := by
  have found : (items.find? fun other => name other = name item).isSome = true := by
    rw [List.find?_isSome]
    exact ⟨item, member, decide_eq_true rfl⟩
  rcases Option.isSome_iff_exists.mp found with ⟨other, equal⟩
  have same := List.find?_some equal
  rw [equal, List.inj_on_of_nodup_map distinct (List.mem_of_find?_eq_some equal) member
    (of_decide_eq_true same)]

end

end Acceptance
