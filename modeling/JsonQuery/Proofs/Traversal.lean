import JsonQuery.Proofs.Evaluation.Walk
import JsonQuery.Regex.Builtin.Matching
import Mathlib.Data.List.Perm.Basic

/-!
# Traversal

A walk visits every node of a subtree without a name, in pre-order, and every member in it once more
under its name. The members come in another order than object by object, since the walk goes on
below one before it gets to the next.
-/

namespace JsonQuery

open scoped List

/-- The members of a node with their names. Only an object has any. -/
def Node.entries (n : Node) : List (String × Node) :=
  match n.value with
  | .obj members => n.members members
  | _ => []

def Visit.entry? (visit : Visit) : Option (String × Node) := visit.name.map (·, visit.node)

namespace Node

/-- The visits with a name are the members of all objects. -/
theorem entries_walk (n : Node) : n.walk.filterMap Visit.entry? ~ n.subtree.flatMap entries := by
  induction n using induction_children with
  | step n ih =>
    rw [subtree_eq, List.flatMap_cons, List.flatMap_assoc]
    cases hvalue : n.value with
    | arr items =>
      have hentries : n.entries = [] := by rw [entries, hvalue]
      rw [children_arr hvalue] at ih ⊢
      rw [hentries, walk_arr hvalue, List.filterMap_cons_none rfl, List.filterMap_flatMap]
      exact List.Perm.flatMap_left _ ih
    | obj members =>
      have hentries : n.entries = n.members members := by rw [entries, hvalue]
      rw [children_obj hvalue] at ih ⊢
      rw [hentries, walk_obj hvalue, List.filterMap_cons_none rfl, List.filterMap_flatMap,
        List.flatMap_map]
      -- member by member the visit under the name comes first, and here all the names do
      calc (n.members members).flatMap (fun m => m :: m.2.walk.filterMap Visit.entry?)
          ~ (n.members members).map id ++
              (n.members members).flatMap fun m => m.2.walk.filterMap Visit.entry? :=
            (List.map_append_flatMap_perm _ _ _).symm
        _ ~ n.members members ++
              (n.members members).flatMap fun m => m.2.subtree.flatMap entries := by
            rw [List.map_id]
            apply List.Perm.append_left
            apply List.Perm.flatMap_left
            intro m hm
            exact ih m.2 (List.mem_map_of_mem hm)
    | null | bool | num | str =>
      have hentries : n.entries = [] := by rw [entries, hvalue]
      have harr : ∀ items, n.value ≠ .arr items := by simp [hvalue]
      have hobj : ∀ members, n.value ≠ .obj members := by simp [hvalue]
      rw [hentries, children_plain harr hobj, walk_plain harr hobj]
      rfl

theorem unnamed_walk (n : Node) :
    (n.walk.filter fun visit => visit.name.isNone).map Visit.node = n.subtree := by
  have hname : (fun visit : Visit => visit.name.isNone) = fun visit => visit.name == none := by
    funext ⟨name, _⟩
    cases name <;> rfl
  rw [hname]
  exact n.scanFor_none

/-- A walk makes a visit for every node and one more for every member. -/
theorem length_walk (n : Node) :
    n.walk.length = n.subtree.length + (n.subtree.flatMap entries).length := by
  have hunnamed : (n.walk.filter fun visit => visit.name.isNone).length = n.subtree.length := by
    rw [← n.unnamed_walk, List.length_map]
  have hnamed : (n.walk.filter fun visit => !visit.name.isNone).length =
      (n.subtree.flatMap entries).length := by
    rw [← n.entries_walk.length_eq, List.length_filterMap_eq_countP, List.countP_eq_length_filter]
    simp [Visit.entry?]
  rw [List.length_eq_length_filter_add fun visit => visit.name.isNone, hunnamed, hnamed]

theorem nodup_subtree {n : Node} (h : n.value.UniqueKeys) :
    (n.subtree.map location).Nodup := by
  have hlocation : n.subtree.map location =
      (n.value.nodes.map location).map (n.location ++ ·) := by
    rw [subtree, List.map_map, List.map_map]
    rfl
  rw [hlocation]
  exact (Json.nodup_nodes h).map (List.append_right_injective n.location)

theorem mem_subtree_iff {n m : Node} (h : n.value.UniqueKeys) : m ∈ n.subtree ↔
    ∃ below, m.location = n.location ++ below ∧ n.value.at? below = some m.value := by
  constructor
  · intro hm
    obtain ⟨below, hbelow, rfl⟩ := List.mem_map.1 hm
    exact ⟨below.location, rfl, (Json.mem_nodes_iff h).1 hbelow⟩
  · rintro ⟨below, hlocation, hvalue⟩
    have hbelow : ⟨below, m.value⟩ ∈ n.value.nodes := (Json.mem_nodes_iff h).2 hvalue
    exact List.mem_map.2 ⟨_, hbelow, Node.ext hlocation.symm rfl⟩

theorem select_scan_none [Regex.Engine] (strict : Bool) (document : Json) (input : List Node) :
    (Selector.scan none).select strict document input = .ok (input.flatMap subtree) := by
  rw [Selector.select, funext scanFor_none]

/-- However many rounds it is given, the stack of a walk makes the visits that recursion lists, one
for every node below and one more for every member there, and then no more. Those without a name are
the nodes in pre-order, none of them twice, and they are what a scan for everything selects. -/
theorem walk_by_recursion [Regex.Engine] (n : Node) :
    (∀ rounds, Walk.run rounds [⟨⟨none, n⟩, true⟩] = n.visits.take rounds) ∧
    n.walk = n.visits ∧
    n.visits.length = n.subtree.length + (n.subtree.flatMap entries).length ∧
    (n.visits.filter fun visit => visit.name.isNone).map Visit.node = n.subtree ∧
    n.subtree = n :: n.children.flatMap subtree ∧
    (n.value.UniqueKeys → (n.subtree.map location).Nodup ∧ ∀ m, m ∈ n.subtree ↔
      ∃ below, m.location = n.location ++ below ∧ n.value.at? below = some m.value) ∧
    ∀ strict document input,
      (Selector.scan none).select strict document input = .ok (input.flatMap subtree) := by
  have hwalk := n.walk_eq_visits
  refine ⟨?_, hwalk, ?_, ?_, n.subtree_eq, ?_, select_scan_none⟩
  · intro rounds
    rw [Walk.run_eq_take, upcoming_start]
  · rw [← hwalk, length_walk]
  · rw [← hwalk, unnamed_walk]
  · intro hunique
    exact ⟨nodup_subtree hunique, fun _ => mem_subtree_iff hunique⟩

open scoped Regex.Builtin

/-- Objects in an array and in an object, each with a member of the same name. -/
theorem walk_by_recursion_nested :
    let inner : Json := .obj [("Name", .arr [.bool true])]
    let document : Json := .arr [.obj [("Name", .null)], .obj [("Name", inner)]]
    let locations : List Location := [[], [.position 0], [.position 0, .key "Name"],
      [.position 1], [.position 1, .key "Name"], [.position 1, .key "Name", .key "Name"],
      [.position 1, .key "Name", .key "Name", .position 0]]
    document.UniqueKeys ∧
      (∀ rounds, (Walk.run (10 + rounds) [⟨⟨none, root document⟩, true⟩]).map Visit.name =
        [none, none, some "Name", none, none, some "Name", none, some "Name", none, none]) ∧
      (root document).subtree.map location = locations ∧ locations.Nodup := by
  intro inner document locations
  have hunique : document.UniqueKeys := by
    simp [document, inner, Json.UniqueKeys, Json.UniqueKeysList, Json.UniqueKeysMembers]
  have hlocations : (root document).subtree.map location = locations := rfl
  obtain ⟨hrun, -, -, -, -, hnodes, -⟩ := walk_by_recursion (root document)
  refine ⟨hunique, fun rounds => ?_, hlocations, hlocations ▸ (hnodes hunique).1⟩
  have hall : (root document).visits.length ≤ 10 + rounds := Nat.le_add_right 10 rounds
  rw [hrun, List.take_of_length_le hall]
  rfl

end Node

end JsonQuery
