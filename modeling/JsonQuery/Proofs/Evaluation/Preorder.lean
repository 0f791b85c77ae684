import JsonQuery.Proofs.Evaluation.Place
import Mathlib.Data.List.Nodup

/-!
# The nodes of a document in order

All nodes of a document, each before what it contains, elements by their positions and members as
they are declared. No location comes twice, and the nodes are exactly what the locations lead to.
-/

namespace JsonQuery

mutual

/-- The nodes of a document in pre-order. -/
def Json.nodes : Json → List Node
  | .arr items => Node.root (.arr items) :: Json.nodesOfItems 0 items
  | .obj members => Node.root (.obj members) :: Json.nodesOfMembers members
  | v => [Node.root v]

def Json.nodesOfItems (i : Nat) : List Json → List Node
  | [] => []
  | v :: vs => v.nodes.map (Node.under [.position i]) ++ Json.nodesOfItems (i + 1) vs

def Json.nodesOfMembers : List (String × Json) → List Node
  | [] => []
  | (key, v) :: ms => v.nodes.map (Node.under [.key key]) ++ Json.nodesOfMembers ms

end

/-! ## Locations -/

theorem Node.ext {m n : Node} (hl : m.location = n.location) (hv : m.value = n.value) : m = n := by
  cases m
  cases n
  cases hl
  cases hv
  rfl

namespace Json

theorem starts_of_mem_nodesOfItems {items : List Json} {i : Nat} {n : Node}
    (h : n ∈ nodesOfItems i items) : ∃ j rest, i ≤ j ∧ n.location = .position j :: rest := by
  induction items generalizing i with
  | nil => cases h
  | cons v vs ih =>
    obtain hv | hvs := List.mem_append.1 h
    · obtain ⟨m, -, rfl⟩ := List.mem_map.1 hv
      exact ⟨i, m.location, Nat.le_refl i, rfl⟩
    · obtain ⟨j, rest, hj, hlocation⟩ := ih hvs
      exact ⟨j, rest, by omega, hlocation⟩

theorem starts_of_mem_nodesOfMembers {members : List (String × Json)} {n : Node}
    (h : n ∈ nodesOfMembers members) :
    ∃ key rest, key ∈ members.map Prod.fst ∧ n.location = .key key :: rest := by
  induction members with
  | nil => cases h
  | cons m ms ih =>
    obtain ⟨key, v⟩ := m
    obtain hv | hms := List.mem_append.1 h
    · obtain ⟨n', -, rfl⟩ := List.mem_map.1 hv
      exact ⟨key, n'.location, List.mem_cons_self, rfl⟩
    · obtain ⟨key', rest, hkey, hlocation⟩ := ih hms
      exact ⟨key', rest, List.mem_cons_of_mem _ hkey, hlocation⟩

theorem nodup_root (v : Json) {nodes : List Node} (h : (nodes.map Node.location).Nodup)
    (hbelow : ∀ n ∈ nodes, n.location ≠ []) :
    ((Node.root v :: nodes).map Node.location).Nodup := by
  refine List.nodup_cons.2 ⟨?_, h⟩
  intro hroot
  obtain ⟨n, hn, hlocation⟩ := List.mem_map.1 hroot
  exact hbelow n hn hlocation

/-- Nodes below one step stand apart from each other, and from what stands below other steps. -/
theorem nodup_append_under {nodes rest : List Node} {step : Step}
    (h : (nodes.map Node.location).Nodup) (hrest : (rest.map Node.location).Nodup)
    (hapart : ∀ n ∈ rest, ∀ below, n.location ≠ step :: below) :
    ((nodes.map (Node.under [step]) ++ rest).map Node.location).Nodup := by
  have hlocation : (nodes.map (Node.under [step])).map Node.location =
      (nodes.map Node.location).map (step :: ·) := by
    rw [List.map_map, List.map_map]
    rfl
  rw [List.map_append, hlocation]
  refine List.nodup_append.2 ⟨h.map List.cons_injective, hrest, ?_⟩
  intro l hl m hm heq
  obtain ⟨below, -, rfl⟩ := List.mem_map.1 hl
  obtain ⟨n, hn, rfl⟩ := List.mem_map.1 hm
  exact hapart n hn below heq.symm

mutual

theorem nodup_nodes : ∀ {v : Json}, v.UniqueKeys → (v.nodes.map Node.location).Nodup
  | .arr items, h => by
    apply nodup_root _ (nodup_nodesOfItems h 0)
    intro n hn hlocation
    obtain ⟨j, rest, -, hstarts⟩ := starts_of_mem_nodesOfItems hn
    cases hstarts.symm.trans hlocation
  | .obj members, h => by
    apply nodup_root _ (nodup_nodesOfMembers h.1 h.2)
    intro n hn hlocation
    obtain ⟨key, rest, -, hstarts⟩ := starts_of_mem_nodesOfMembers hn
    cases hstarts.symm.trans hlocation
  | .null, _ | .bool _, _ | .num _, _ | .str _, _ => by
    simp [nodes]

theorem nodup_nodesOfItems : ∀ {items : List Json}, UniqueKeysList items → ∀ i,
    ((nodesOfItems i items).map Node.location).Nodup
  | [], _, _ => List.nodup_nil
  | v :: vs, h, i => by
    apply nodup_append_under (nodup_nodes h.1) (nodup_nodesOfItems h.2 (i + 1))
    intro n hn below hlocation
    obtain ⟨j, rest, hj, hstarts⟩ := starts_of_mem_nodesOfItems hn
    cases hstarts.symm.trans hlocation
    omega

theorem nodup_nodesOfMembers : ∀ {members : List (String × Json)}, (members.map Prod.fst).Nodup →
    UniqueKeysMembers members → ((nodesOfMembers members).map Node.location).Nodup
  | [], _, _ => List.nodup_nil
  | (key, v) :: ms, hkeys, h => by
    obtain ⟨hkey, hkeys⟩ := List.nodup_cons.1 hkeys
    apply nodup_append_under (nodup_nodes h.1) (nodup_nodesOfMembers hkeys h.2)
    intro n hn below hlocation
    obtain ⟨key', rest, hkey', hstarts⟩ := starts_of_mem_nodesOfMembers hn
    cases hstarts.symm.trans hlocation
    exact hkey hkey'

end

mutual

/-- The nodes are what the locations lead to. -/
theorem mem_nodes_iff : ∀ {v : Json}, v.UniqueKeys → ∀ {n : Node},
    n ∈ v.nodes ↔ v.at? n.location = some n.value
  | .arr items, h, ⟨location, w⟩ => by
    rw [nodes, List.mem_cons, mem_nodesOfItems_iff h]
    cases location with
    | nil => simpa [at?, Node.root] using eq_comm
    | cons step rest => cases step <;> simp [at?, child?, Node.root]
  | .obj members, h, ⟨location, w⟩ => by
    rw [nodes, List.mem_cons, mem_nodesOfMembers_iff h.1 h.2]
    cases location with
    | nil => simpa [at?, Node.root] using eq_comm
    | cons step rest => cases step <;> simp [at?, child?, Node.root]
  | .null, _, ⟨location, w⟩ | .bool _, _, ⟨location, w⟩ | .num _, _, ⟨location, w⟩
  | .str _, _, ⟨location, w⟩ => by
    cases location <;> simp [nodes, at?, child?, Node.root, eq_comm]

theorem mem_nodesOfItems_iff : ∀ {items : List Json}, UniqueKeysList items → ∀ {i : Nat} {n : Node},
    n ∈ nodesOfItems i items ↔ ∃ j rest, n.location = .position (i + j) :: rest ∧
      (items[j]?).bind (·.at? rest) = some n.value
  | [], _, _, _ => by simp [nodesOfItems]
  | v :: vs, h, i, n => by
    rw [nodesOfItems, List.mem_append, mem_nodesOfItems_iff h.2]
    constructor
    · rintro (hv | ⟨j, rest, hlocation, hvs⟩)
      · obtain ⟨m, hm, rfl⟩ := List.mem_map.1 hv
        exact ⟨0, m.location, rfl, (mem_nodes_iff h.1).1 hm⟩
      · exact ⟨j + 1, rest, by rw [hlocation]; congr 2; omega, hvs⟩
    · rintro ⟨j, rest, hlocation, hvalue⟩
      cases j with
      | zero =>
        refine .inl (List.mem_map.2 ⟨⟨rest, n.value⟩, (mem_nodes_iff h.1).2 hvalue, ?_⟩)
        exact Node.ext hlocation.symm rfl
      | succ j => exact .inr ⟨j, rest, by rw [hlocation]; congr 2; omega, hvalue⟩

theorem mem_nodesOfMembers_iff : ∀ {members : List (String × Json)},
    (members.map Prod.fst).Nodup → UniqueKeysMembers members → ∀ {n : Node},
    n ∈ nodesOfMembers members ↔ ∃ key rest, n.location = .key key :: rest ∧
      (members.lookup key).bind (·.at? rest) = some n.value
  | [], _, _, _ => by simp [nodesOfMembers]
  | (key, v) :: ms, hkeys, h, n => by
    obtain ⟨hkey, hkeys⟩ := List.nodup_cons.1 hkeys
    rw [nodesOfMembers, List.mem_append, mem_nodesOfMembers_iff hkeys h.2]
    constructor
    · rintro (hv | ⟨key', rest, hlocation, hms⟩)
      · obtain ⟨m, hm, rfl⟩ := List.mem_map.1 hv
        refine ⟨key, m.location, rfl, ?_⟩
        rw [List.lookup_cons, beq_self_eq_true]
        exact (mem_nodes_iff h.1).1 hm
      · refine ⟨key', rest, hlocation, ?_⟩
        obtain ⟨w, hw, -⟩ := Option.bind_eq_some_iff.1 hms
        have hne : key' ≠ key := by
          rintro rfl
          exact hkey (List.mem_map.2 ⟨(key', w), mem_of_lookup hw, rfl⟩)
        rw [List.lookup_cons, beq_false_of_ne hne]
        exact hms
    · rintro ⟨key', rest, hlocation, hvalue⟩
      rw [List.lookup_cons] at hvalue
      split at hvalue
      · next heq =>
        obtain rfl := eq_of_beq heq
        refine .inl (List.mem_map.2 ⟨⟨rest, n.value⟩, (mem_nodes_iff h.1).2 hvalue, ?_⟩)
        exact Node.ext hlocation.symm rfl
      · exact .inr ⟨key', rest, hlocation, hvalue⟩

end

end Json

/-! ## Children -/

namespace Node

theorem children_arr {n : Node} {items : List Json} (h : n.value = .arr items) :
    n.children = n.elements items := by
  rw [children, h]

theorem children_obj {n : Node} {members : List (String × Json)} (h : n.value = .obj members) :
    n.children = (n.members members).map Prod.snd := by
  rw [children, h]

theorem children_plain {n : Node} (harr : ∀ items, n.value ≠ .arr items)
    (hobj : ∀ members, n.value ≠ .obj members) : n.children = [] := by
  unfold children
  split
  · next items h => exact absurd h (harr items)
  · next members h => exact absurd h (hobj members)
  · rfl

/-- A child is an element or the value of a member. -/
theorem mem_children {n c : Node} (h : c ∈ n.children) :
    (∃ items i v, n.value = .arr items ∧ v ∈ items ∧ c = n.child (.position i) v) ∨
    (∃ members name v, n.value = .obj members ∧ (name, v) ∈ members ∧
      c = n.child (.key name) v) := by
  unfold children at h
  split at h
  · next items hvalue =>
    obtain ⟨⟨v, i⟩, hv, rfl⟩ := List.mem_map.1 h
    exact .inl ⟨items, i, v, hvalue, List.fst_mem_of_mem_zipIdx hv, rfl⟩
  · next members hvalue =>
    obtain ⟨m, hm, rfl⟩ := List.mem_map.1 h
    obtain ⟨⟨name, v⟩, hv, rfl⟩ := List.mem_map.1 hm
    exact .inr ⟨members, name, v, hvalue, hv, rfl⟩
  · cases h

/-! ## Subtrees -/

/-- A node and everything below it, where they stand. -/
def subtree (n : Node) : List Node := n.value.nodes.map (Node.under n.location)

theorem subtree_root (document : Json) : (root document).subtree = document.nodes := by
  have hunder : Node.under (root document).location = id := by
    funext n
    rfl
  rw [subtree, hunder, List.map_id]
  rfl

theorem map_under_under (base : Location) (step : Step) (nodes : List Node) :
    (nodes.map (Node.under [step])).map (Node.under base) =
      nodes.map (Node.under (base ++ [step])) := by
  simp [Node.under]

theorem subtree_elements (n : Node) (items : List Json) (i : Nat) :
    (Json.nodesOfItems i items).map (Node.under n.location) =
      ((items.zipIdx i).map fun (value, j) => n.child (.position j) value).flatMap subtree := by
  induction items generalizing i with
  | nil => rfl
  | cons v vs ih =>
    rw [Json.nodesOfItems, List.map_append, map_under_under, ih]
    rfl

theorem subtree_members (n : Node) (members : List (String × Json)) :
    (Json.nodesOfMembers members).map (Node.under n.location) =
      ((n.members members).map Prod.snd).flatMap subtree := by
  induction members with
  | nil => rfl
  | cons m ms ih =>
    rw [Json.nodesOfMembers, List.map_append, map_under_under, ih]
    rfl

theorem subtree_eq (n : Node) : n.subtree = n :: n.children.flatMap subtree := by
  have hroot := n.root_under
  unfold subtree children
  cases hvalue : n.value with
  | arr items =>
    rw [hvalue] at hroot
    rw [Json.nodes, List.map_cons, hroot, subtree_elements]
    rfl
  | obj members =>
    rw [hvalue] at hroot
    rw [Json.nodes, List.map_cons, hroot, subtree_members]
    rfl
  | null | bool | num | str =>
    rw [hvalue] at hroot
    exact congrArg (fun m => [m]) hroot

theorem sizeOf_child {n c : Node} (h : c ∈ n.children) : sizeOf c.value < sizeOf n.value := by
  obtain ⟨items, i, v, hvalue, hv, rfl⟩ | ⟨members, name, v, hvalue, hv, rfl⟩ := mem_children h
  · have hmem : sizeOf v < sizeOf items := List.sizeOf_lt_of_mem hv
    simp only [child, hvalue, Json.arr.sizeOf_spec]
    omega
  · have hmem := List.sizeOf_lt_of_mem hv
    simp only [child, hvalue, Json.obj.sizeOf_spec, Prod.mk.sizeOf_spec] at hmem ⊢
    omega

/-- What passes from the children of a node to it holds of every node. -/
theorem induction_children {motive : Node → Prop}
    (step : ∀ n, (∀ c ∈ n.children, motive c) → motive n) (n : Node) : motive n :=
  step n fun c _ => induction_children step c
termination_by sizeOf n.value
decreasing_by exact sizeOf_child ‹_›

/-- Passes from a node to its children. -/
def Inherited (p : Node → Prop) : Prop := ∀ n, p n → ∀ c ∈ n.children, p c

theorem Inherited.subtree {p : Node → Prop} (hp : Inherited p) {n m : Node} (hn : p n)
    (hm : m ∈ n.subtree) : p m := by
  induction n using induction_children with
  | step n ih =>
    rw [subtree_eq] at hm
    obtain rfl | hm := List.mem_cons.1 hm
    · exact hn
    · obtain ⟨c, hc, hm⟩ := List.mem_flatMap.1 hm
      exact ih c hc (hp n hn c hc) hm

end Node

end JsonQuery
