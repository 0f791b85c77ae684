import JsonQuery.Proofs.Evaluation.Preorder
import Mathlib.Data.List.Flatten

/-!
# Walks as recursion

A walk is driven by a stack. What is still to come are the visits of the pending ones in turn, and
one step takes the first of them off, so a run makes as many of them as it has rounds. The walk of
a node is then the node followed by the walks of what it contains, each member under its name first.
The visits without a name are the nodes below in order, and so are, some of them left out, those
under a name.
-/

namespace JsonQuery

open scoped List

mutual

/-- The visits of a walk, by recursion on the value and not by a stack. -/
def Json.visits (location : Location) : Json → List Visit
  | .arr items => ⟨none, ⟨location, .arr items⟩⟩ :: Json.visitsOfItems location 0 items
  | .obj members => ⟨none, ⟨location, .obj members⟩⟩ :: Json.visitsOfMembers location members
  | v => [⟨none, ⟨location, v⟩⟩]

def Json.visitsOfItems (location : Location) (i : Nat) : List Json → List Visit
  | [] => []
  | v :: vs => v.visits (location ++ [.position i]) ++ Json.visitsOfItems location (i + 1) vs

def Json.visitsOfMembers (location : Location) : List (String × Json) → List Visit
  | [] => []
  | (name, v) :: ms =>
    ⟨some name, ⟨location ++ [.key name], v⟩⟩ ::
      (v.visits (location ++ [.key name]) ++ Json.visitsOfMembers location ms)

end

namespace Node

def visits (n : Node) : List Visit := n.value.visits n.location

theorem visitsOfItems_eq (n : Node) (items : List Json) (i : Nat) :
    Json.visitsOfItems n.location i items =
      ((items.zipIdx i).map fun (value, j) => n.child (.position j) value).flatMap visits := by
  induction items generalizing i with
  | nil => rfl
  | cons v vs ih =>
    rw [Json.visitsOfItems, ih]
    rfl

theorem visitsOfMembers_eq (n : Node) (members : List (String × Json)) :
    Json.visitsOfMembers n.location members =
      (n.members members).flatMap fun (name, child) => ⟨some name, child⟩ :: child.visits := by
  induction members with
  | nil => rfl
  | cons m ms ih =>
    rw [Json.visitsOfMembers, ih]
    rfl

theorem visits_arr {n : Node} {items : List Json} (h : n.value = .arr items) :
    n.visits = ⟨none, n⟩ :: (n.elements items).flatMap visits := by
  obtain ⟨location, value⟩ := n
  obtain rfl : value = .arr items := h
  exact congrArg (_ :: ·) (visitsOfItems_eq _ items 0)

theorem visits_obj {n : Node} {members : List (String × Json)} (h : n.value = .obj members) :
    n.visits = ⟨none, n⟩ ::
      (n.members members).flatMap fun (name, child) => ⟨some name, child⟩ :: child.visits := by
  obtain ⟨location, value⟩ := n
  obtain rfl : value = .obj members := h
  exact congrArg (_ :: ·) (visitsOfMembers_eq _ members)

theorem visits_plain {n : Node} (harr : ∀ items, n.value ≠ .arr items)
    (hobj : ∀ members, n.value ≠ .obj members) : n.visits = [⟨none, n⟩] := by
  obtain ⟨location, value⟩ := n
  cases value with
  | arr items => exact absurd rfl (harr items)
  | obj members => exact absurd rfl (hobj members)
  | null | bool | num | str => rfl

theorem visits_eq_cons (n : Node) : n.visits = ⟨none, n⟩ :: n.visits.tail := by
  obtain ⟨location, value⟩ := n
  cases value <;> rfl

end Node

/-! ## Stacks -/

namespace Walk

/-- The visits that a pending visit leads to. -/
def Pending.visits (p : Pending) : List Visit :=
  p.visit :: if p.descend then p.visit.node.visits.tail else []

/-- The visits still to come. -/
def upcoming (stack : List Pending) : List Visit := stack.flatMap Pending.visits

/-- What a node adds to the stack are the visits below it. -/
theorem upcoming_below (n : Node) : upcoming (below n) = n.visits.tail := by
  unfold upcoming below
  split
  · next items h =>
    rw [Node.visits_arr h, List.flatMap_map]
    exact List.flatMap_congr fun child _ => child.visits_eq_cons.symm
  · next members h =>
    rw [Node.visits_obj h, List.flatMap_assoc]
    apply List.flatMap_congr
    rintro ⟨name, child⟩ -
    have hchild := child.visits_eq_cons
    simp [Pending.visits, ← hchild]
  · next harr hobj =>
    rw [Node.visits_plain harr hobj]
    rfl

/-- A step makes the first of the visits still to come and leaves the others. -/
theorem upcoming_step {stack rest : List Pending} {visit : Visit}
    (h : step stack = some (visit, rest)) : upcoming stack = visit :: upcoming rest := by
  cases stack with
  | nil => cases h
  | cons next stack =>
    cases h
    cases hdescend : next.descend with
    | false => simp [upcoming, Pending.visits, hdescend]
    | true =>
      have hbelow := upcoming_below next.visit.node
      unfold upcoming at hbelow ⊢
      simp [Pending.visits, hdescend, hbelow]

theorem run_eq_take (rounds : Nat) (stack : List Pending) :
    run rounds stack = (upcoming stack).take rounds := by
  induction rounds generalizing stack with
  | zero => rfl
  | succ rounds ih =>
    rw [run]
    cases hstep : step stack with
    | none =>
      cases stack with
      | nil => rfl
      | cons next rest => cases hstep
    | some taken =>
      obtain ⟨visit, rest⟩ := taken
      rw [upcoming_step hstep, List.take_succ_cons, ← ih]

end Walk

/-! ## The walk of a node -/

mutual

theorem Json.length_visits (location : Location) :
    ∀ v : Json, (v.visits location).length = v.visitCount
  | .arr items => by
    rw [visits, List.length_cons, length_visitsOfItems, visitCount, Nat.add_comm]
  | .obj members => by
    rw [visits, List.length_cons, length_visitsOfMembers, visitCount, Nat.add_comm]
  | .null | .bool _ | .num _ | .str _ => rfl

theorem Json.length_visitsOfItems (location : Location) (i : Nat) :
    ∀ items : List Json, (visitsOfItems location i items).length = visitCountItems items
  | [] => rfl
  | v :: vs => by
    rw [visitsOfItems, List.length_append, v.length_visits, length_visitsOfItems, visitCountItems]

theorem Json.length_visitsOfMembers (location : Location) :
    ∀ members : List (String × Json),
      (visitsOfMembers location members).length = visitCountMembers members
  | [] => rfl
  | (name, v) :: ms => by
    rw [visitsOfMembers, List.length_cons, List.length_append, v.length_visits,
      length_visitsOfMembers, visitCountMembers]
    omega

end

namespace Node

theorem upcoming_start (n : Node) : Walk.upcoming [⟨⟨none, n⟩, true⟩] = n.visits := by
  rw [n.visits_eq_cons]
  exact List.append_nil _

theorem walk_eq_visits (n : Node) : n.walk = n.visits := by
  have hlength : n.visits.length = n.value.visitCount := n.value.length_visits n.location
  rw [walk, Walk.run_eq_take, upcoming_start, ← hlength, List.take_length]

theorem walk_arr {n : Node} {items : List Json} (h : n.value = .arr items) :
    n.walk = ⟨none, n⟩ :: (n.elements items).flatMap walk := by
  rw [funext walk_eq_visits, visits_arr h]

theorem walk_obj {n : Node} {members : List (String × Json)} (h : n.value = .obj members) :
    n.walk = ⟨none, n⟩ ::
      (n.members members).flatMap fun (name, child) => ⟨some name, child⟩ :: child.walk := by
  rw [funext walk_eq_visits, visits_obj h]

theorem walk_plain {n : Node} (harr : ∀ items, n.value ≠ .arr items)
    (hobj : ∀ members, n.value ≠ .obj members) : n.walk = [⟨none, n⟩] := by
  rw [walk_eq_visits, visits_plain harr hobj]

/-! ## Visits with and without a name -/

theorem scanFor_none_eq (n : Node) :
    n.scanFor none = n :: n.children.flatMap (scanFor none) := by
  unfold scanFor children
  split
  · next items h =>
    simp [walk_arr h, List.filter_flatMap, List.map_flatMap]
  · next members h =>
    simp [walk_obj h, List.filter_flatMap, List.map_flatMap, List.flatMap_map]
  · next harr hobj =>
    rw [walk_plain harr hobj]
    rfl

/-- A scan for everything finds the nodes in order. -/
theorem scanFor_none (n : Node) : n.scanFor none = n.subtree := by
  induction n using induction_children with
  | step n ih =>
    rw [scanFor_none_eq, subtree_eq]
    apply congrArg (n :: ·)
    exact List.flatMap_congr ih

theorem scanFor_some_arr {n : Node} {items : List Json} (h : n.value = .arr items)
    (name : String) : n.scanFor (some name) = n.children.flatMap (scanFor (some name)) := by
  rw [children_arr h, scanFor, walk_arr h, List.filter_cons_of_neg (by simp), List.filter_flatMap,
    List.map_flatMap]
  rfl

theorem scanFor_some_obj {n : Node} {members : List (String × Json)} (h : n.value = .obj members)
    (name : String) : n.scanFor (some name) = (n.members members).flatMap fun (key, child) =>
      (if key = name then [child] else []) ++ child.scanFor (some name) := by
  rw [scanFor, walk_obj h, List.filter_cons_of_neg (by simp), List.filter_flatMap,
    List.map_flatMap]
  apply List.flatMap_congr
  rintro ⟨key, child⟩ -
  dsimp only
  by_cases hkey : key = name
  · rw [if_pos hkey, List.filter_cons_of_pos (by simp [hkey])]
    rfl
  · rw [if_neg hkey, List.filter_cons_of_neg (by simp [hkey])]
    rfl

/-- A scan for a name finds some of the nodes below, in order. -/
theorem scanFor_some_sublist (n : Node) (name : String) :
    n.scanFor (some name) <+ n.children.flatMap subtree := by
  induction n using induction_children with
  | step n ih =>
    cases hvalue : n.value with
    | arr items =>
      rw [scanFor_some_arr hvalue]
      apply List.Sublist.flatMap_right
      intro c hc
      rw [subtree_eq]
      exact (ih c hc).cons c
    | obj members =>
      rw [children_obj hvalue] at ih ⊢
      rw [scanFor_some_obj hvalue, List.flatMap_map]
      apply List.Sublist.flatMap_right
      rintro ⟨key, child⟩ hm
      have hbelow := ih child (List.mem_map.2 ⟨_, hm, rfl⟩)
      dsimp only
      rw [subtree_eq]
      by_cases hkey : key = name
      · rw [if_pos hkey]
        exact hbelow.cons_cons child
      · rw [if_neg hkey]
        exact hbelow.cons child
    | null | bool | num | str =>
      rw [scanFor, walk_plain (by simp [hvalue]) (by simp [hvalue])]
      exact List.nil_sublist _

theorem scanFor_sublist (n : Node) (name : Option String) :
    n.scanFor name <+ n.subtree := by
  cases name with
  | none => rw [scanFor_none]
  | some name =>
    rw [subtree_eq]
    exact (scanFor_some_sublist n name).cons n

end Node

end JsonQuery
