import JsonQuery.Proofs.Evaluation.Preorder
import Mathlib.Data.List.Perm.Subperm

/-!
# Keys

In an object without a repeated key a look-up finds every member, and its keys are as many as its
members. That no key is repeated holds of everything below a node where it holds of the node.
-/

namespace JsonQuery

namespace Json

section

variable {members as bs : List (String × Json)} {key : String} {v : Json}

theorem lookup_eq_some_iff_mem (h : (members.map Prod.fst).Nodup) :
    members.lookup key = some v ↔ (key, v) ∈ members := by
  refine ⟨mem_of_lookup, fun hmem => ?_⟩
  induction members with
  | nil => cases hmem
  | cons m members ih =>
    obtain ⟨hkey, hrest⟩ := List.nodup_cons.1 h
    obtain rfl | hmem := List.mem_cons.1 hmem
    · rw [List.lookup_cons, beq_self_eq_true]
    · have hne : key ≠ m.1 := by
        rintro rfl
        exact hkey (List.mem_map.2 ⟨_, hmem, rfl⟩)
      rw [List.lookup_cons, beq_false_of_ne hne]
      exact ih hrest hmem

theorem mem_keys_iff : key ∈ members.map Prod.fst ↔ ∃ v, members.lookup key = some v := by
  rw [← Option.isSome_iff_exists, List.lookup_isSome_iff, List.mem_map]
  simp only [beq_iff_eq, @eq_comm _ key]

/-- As many keys on the other side leave no room for one more. -/
theorem keys_subset_of_length (h : (as.map Prod.fst).Nodup) (hlength : as.length = bs.length)
    (hsubset : as.map Prod.fst ⊆ bs.map Prod.fst) : bs.map Prod.fst ⊆ as.map Prod.fst := by
  have hsubperm := List.subperm_of_subset h hsubset
  have hle : (bs.map Prod.fst).length ≤ (as.map Prod.fst).length := by
    rw [List.length_map, List.length_map]
    exact Nat.le_of_eq hlength.symm
  exact (hsubperm.perm_of_length_le hle).symm.subset

theorem uniqueKeysList_iff {items : List Json} :
    UniqueKeysList items ↔ ∀ v ∈ items, v.UniqueKeys := by
  induction items with
  | nil => simp [UniqueKeysList]
  | cons v items ih => rw [UniqueKeysList, ih, List.forall_mem_cons]

theorem uniqueKeysMembers_iff : UniqueKeysMembers members ↔ ∀ m ∈ members, m.2.UniqueKeys := by
  induction members with
  | nil => simp [UniqueKeysMembers]
  | cons m members ih => rw [UniqueKeysMembers, ih, List.forall_mem_cons]

end

end Json

namespace Node

theorem inherited_uniqueKeys : Inherited fun n => n.value.UniqueKeys := by
  intro n h c hc
  obtain ⟨items, i, v, hvalue, hv, rfl⟩ | ⟨members, name, v, hvalue, hv, rfl⟩ := mem_children hc
  · rw [hvalue] at h
    exact Json.uniqueKeysList_iff.1 h v hv
  · rw [hvalue] at h
    exact Json.uniqueKeysMembers_iff.1 h.2 _ hv

end Node

end JsonQuery
