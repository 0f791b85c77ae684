import JsonQuery.Proofs.Evaluation.Slice
import JsonQuery.Proofs.Evaluation.Walk

/-!
# Below a node

What is found at a node by names, positions or a slice are children of the node. One name, one
position and a slice that goes forwards find them in their order. What a walk visits stands in the
subtree.
-/

namespace JsonQuery

open scoped List

namespace Node

theorem child_mem_of_lookup {n : Node} {members : List (String × Json)} {name : String} {v : Json}
    (h : n.value = .obj members) (hv : members.lookup name = some v) :
    n.child (.key name) v ∈ n.children := by
  rw [children, h]
  have hmember : (name, n.child (.key name) v) ∈ n.members members :=
    List.mem_map.2 ⟨(name, v), Json.mem_of_lookup hv, rfl⟩
  exact List.mem_map.2 ⟨_, hmember, rfl⟩

theorem child_mem_of_getElem? {n : Node} {items : List Json} {i : Nat} {v : Json}
    (h : n.value = .arr items) (hv : items[i]? = some v) :
    n.child (.position i) v ∈ n.children := by
  rw [children, h]
  exact List.mem_map.2 ⟨(v, i), List.mem_zipIdx_iff_getElem?.2 hv, rfl⟩

theorem map_zipIdx_eq {α β : Type} (f : α → Nat → β) (items : List α) :
    (items.zipIdx.map fun (v, i) => f v i) =
      (List.range items.length).filterMap fun i => items[i]?.map fun v => f v i := by
  induction items generalizing f with
  | nil => rfl
  | cons v vs ih =>
    have hrest := ih fun w i => f w (i + 1)
    rw [List.zipIdx_cons, List.map_cons, List.zipIdx_succ, List.map_map, List.length_cons,
      List.range_succ_eq_map, List.filterMap_cons, List.filterMap_map]
    exact congrArg (f v 0 :: ·) hrest

/-- What a selection finds at a node is some of its children in their order. -/
def FindsChildren (select : Node → Except SelectError (List Node)) : Prop :=
  ∀ n found, select n = .ok found → found <+ n.children

theorem sublist_of_missing {strict : Bool} {e : SelectError} {found : List Node}
    (h : missing strict e = .ok found) (nodes : List Node) : found <+ nodes := by
  cases strict with
  | false =>
    cases h
    exact List.nil_sublist nodes
  | true => cases h

theorem findsChildren_fieldOf (strict : Bool) (name : Option String) :
    FindsChildren (fieldOf strict name) := by
  intro n found h
  unfold fieldOf at h
  split at h
  · next members name hvalue =>
    cases hv : members.lookup name with
    | none =>
      rw [hv] at h
      exact sublist_of_missing h _
    | some v =>
      rw [hv] at h
      cases h
      exact List.singleton_sublist.2 (child_mem_of_lookup hvalue hv)
  · cases h
    exact List.Sublist.refl _
  · exact sublist_of_missing h _

theorem findsChildren_indexOf (strict : Bool) (position : Int) :
    FindsChildren (indexOf strict position) := by
  intro n found h
  unfold indexOf at h
  split at h
  · next items hvalue =>
    split at h
    · next v hv =>
      cases h
      by_cases hnonneg : 0 ≤ position
      · rw [if_pos hnonneg] at hv
        exact List.singleton_sublist.2 (child_mem_of_getElem? hvalue hv)
      · rw [if_neg hnonneg] at hv
        cases hv
    · exact sublist_of_missing h _
  · exact sublist_of_missing h _

theorem findsChildren_elementsOf (strict : Bool) : FindsChildren (elementsOf strict) := by
  intro n found h
  unfold elementsOf at h
  split at h
  · cases h
    exact List.Sublist.refl _
  · exact sublist_of_missing h _

/-- With a step above zero. -/
theorem findsChildren_sliceOf (strict : Bool) (start stop : Option Int) {step : Int}
    (hstep : 0 < step) : FindsChildren (sliceOf strict start stop step) := by
  intro n found h
  unfold sliceOf at h
  split at h
  · next items hvalue =>
    split at h
    · exact sublist_of_missing h _
    · cases h
      have hchildren : n.children = (List.range items.length).filterMap fun i =>
          items[i]?.map fun v => n.child (.position i) v := by
        rw [children, hvalue]
        exact map_zipIdx_eq (fun v i => n.child (.position i) v) items
      rw [hchildren]
      exact (Slice.positions_sublist hstep _ start stop).filterMap _
  · exact sublist_of_missing h _

/-- What a selection finds at a node are children of it, in any order and maybe more than once. -/
def FindsBelow (select : Node → Except SelectError (List Node)) : Prop :=
  ∀ n found, select n = .ok found → found ⊆ n.children

theorem FindsChildren.findsBelow {select : Node → Except SelectError (List Node)}
    (h : FindsChildren select) : FindsBelow select :=
  fun n found hfound => (h n found hfound).subset

theorem findsBelow_fieldsOf (strict : Bool) (names : List String) :
    FindsBelow (fieldsOf strict names) := by
  intro n found h
  unfold fieldsOf at h
  split at h
  · next members hvalue =>
    have hfound : found = names.filterMap fun name =>
        (members.lookup name).map fun v => n.child (.key name) v := by
      dsimp only at h
      split at h
      · split at h
        · exact (Except.ok.inj h).symm
        · cases h
        · cases h
      · exact (Except.ok.inj h).symm
    rw [hfound]
    intro m hm
    obtain ⟨name, -, hname⟩ := List.mem_filterMap.1 hm
    obtain ⟨v, hv, rfl⟩ := Option.map_eq_some_iff.1 hname
    exact child_mem_of_lookup hvalue hv
  · exact (sublist_of_missing h _).subset

theorem findsBelow_indexesOf (strict : Bool) (positions : List Int) :
    FindsBelow (indexesOf strict positions) := by
  intro n found h
  induction positions generalizing found with
  | nil =>
    cases h
    exact List.nil_subset _
  | cons position positions ih =>
    rw [indexesOf] at h
    obtain ⟨here, hhere, h⟩ := bind_eq_ok.1 h
    obtain ⟨there, hthere, h⟩ := bind_eq_ok.1 h
    cases h
    exact List.append_subset.2
      ⟨(findsChildren_indexOf strict position).findsBelow n here hhere, ih there hthere⟩

theorem findsBelow_sliceOf (strict : Bool) (start stop : Option Int) (step : Int) :
    FindsBelow (sliceOf strict start stop step) := by
  intro n found h
  unfold sliceOf at h
  split at h
  · next items hvalue =>
    split at h
    · exact (sublist_of_missing h _).subset
    · cases h
      intro m hm
      obtain ⟨i, -, hi⟩ := List.mem_filterMap.1 hm
      obtain ⟨v, hv, rfl⟩ := Option.map_eq_some_iff.1 hi
      exact child_mem_of_getElem? hvalue hv
  · exact (sublist_of_missing h _).subset

theorem node_mem_subtree {n : Node} {visit : Visit} (h : visit ∈ n.walk) :
    visit.node ∈ n.subtree := by
  have hscan : visit.node ∈ n.scanFor visit.name :=
    List.mem_map.2 ⟨visit, List.mem_filter.2 ⟨h, beq_self_eq_true _⟩, rfl⟩
  exact (n.scanFor_sublist visit.name).subset hscan

end Node

end JsonQuery
