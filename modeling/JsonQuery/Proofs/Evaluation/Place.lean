import JsonQuery.Proofs.Evaluation.Each

/-!
# Nodes at another place

A selection looks at the value of a node and not at where it stands. The same value elsewhere in a
document gives the same nodes, each as far below as before.
-/

namespace JsonQuery

/-- The node that stands so far below a location as it stood below the document. -/
def Node.under (base : Location) (n : Node) : Node := ⟨base ++ n.location, n.value⟩

def Visit.under (base : Location) (visit : Visit) : Visit := ⟨visit.name, visit.node.under base⟩

def Walk.Pending.under (base : Location) (pending : Walk.Pending) : Walk.Pending :=
  ⟨pending.visit.under base, pending.descend⟩

section

variable (base : Location) (n : Node)

@[simp] theorem Node.value_under : (n.under base).value = n.value := rfl

theorem Node.root_under : (Node.root n.value).under n.location = n := by
  simp [Node.root, Node.under]

@[simp] theorem Node.child_under (step : Step) (value : Json) :
    (n.under base).child step value = (n.child step value).under base := by
  simp [Node.child, Node.under]

theorem Node.elements_under (items : List Json) :
    (n.under base).elements items = (n.elements items).map (Node.under base) := by
  simp [Node.elements]

theorem Node.members_under (members : List (String × Json)) :
    (n.under base).members members =
      (n.members members).map fun (name, child) => (name, child.under base) := by
  simp [Node.members]

theorem Node.children_under : (n.under base).children = n.children.map (Node.under base) := by
  unfold Node.children
  rw [Node.value_under]
  split
  · exact Node.elements_under base n _
  · rw [Node.members_under, List.map_map, List.map_map]
    rfl
  · rfl

/-! ## Walks -/

theorem Walk.below_under :
    Walk.below (n.under base) = (Walk.below n).map (Walk.Pending.under base) := by
  unfold Walk.below
  rw [Node.value_under]
  split
  · rw [Node.elements_under, List.map_map, List.map_map]
    rfl
  · rw [Node.members_under, List.flatMap_map, List.map_flatMap]
    rfl
  · rfl

theorem Walk.step_under (stack : List Walk.Pending) :
    Walk.step (stack.map (Walk.Pending.under base)) =
      (Walk.step stack).map fun (visit, rest) =>
        (visit.under base, rest.map (Walk.Pending.under base)) := by
  cases stack with
  | nil => rfl
  | cons next rest =>
    obtain ⟨visit, descend⟩ := next
    cases descend with
    | false => rfl
    | true => simp [Walk.step, Walk.Pending.under, Visit.under, Walk.below_under]

theorem Walk.run_under (rounds : Nat) (stack : List Walk.Pending) :
    Walk.run rounds (stack.map (Walk.Pending.under base)) =
      (Walk.run rounds stack).map (Visit.under base) := by
  induction rounds generalizing stack with
  | zero => rfl
  | succ rounds ih =>
    rw [Walk.run, Walk.run, Walk.step_under]
    cases Walk.step stack with
    | none => rfl
    | some next => simp [ih]

theorem Node.walk_under : (n.under base).walk = n.walk.map (Visit.under base) :=
  Walk.run_under base n.value.visitCount [⟨⟨none, n⟩, true⟩]

end

/-! ## Selections from one node -/

/-- From a node that has moved a selection finds what it found before, moved as far. -/
def Moves (select : Node → Except SelectError (List Node)) : Prop :=
  ∀ base n, select (n.under base) = (select n).map (List.map (Node.under base))

theorem map_missing (strict : Bool) (e : SelectError) (f : List Node → List Node) (h : f [] = []) :
    (missing strict e).map f = missing strict e := by
  cases strict with
  | false => exact congrArg Except.ok h
  | true => rfl

theorem moves_fieldOf (strict : Bool) (name : Option String) :
    Moves (Node.fieldOf strict name) := by
  intro base n
  unfold Node.fieldOf
  rw [Node.value_under]
  split
  · next members name _ =>
    cases members.lookup name with
    | none => exact (map_missing strict _ _ rfl).symm
    | some v => simp [Except.map]
  · simp [Node.children_under, Except.map]
  · exact (map_missing strict _ _ rfl).symm

theorem moves_fieldsOf (strict : Bool) (names : List String) :
    Moves (Node.fieldsOf strict names) := by
  intro base n
  unfold Node.fieldsOf
  rw [Node.value_under]
  split
  · next members _ =>
    have found : (names.filterMap fun name =>
        (members.lookup name).map fun v => (n.under base).child (.key name) v) =
        (names.filterMap fun name =>
          (members.lookup name).map fun v => n.child (.key name) v).map (Node.under base) := by
      simp [List.map_filterMap, Function.comp_def]
    dsimp only
    rw [found]
    split
    · split <;> rfl
    · rfl
  · exact (map_missing strict _ _ rfl).symm

theorem moves_indexOf (strict : Bool) (position : Int) : Moves (Node.indexOf strict position) := by
  intro base n
  unfold Node.indexOf
  rw [Node.value_under]
  split
  · split
    · simp [Except.map]
    · exact (map_missing strict _ _ rfl).symm
  · exact (map_missing strict _ _ rfl).symm

theorem moves_elementsOf (strict : Bool) : Moves (Node.elementsOf strict) := by
  intro base n
  unfold Node.elementsOf
  rw [Node.value_under]
  split
  · simp [Node.children_under, Except.map]
  · exact (map_missing strict _ _ rfl).symm

theorem moves_indexesOf (strict : Bool) (positions : List Int) :
    Moves (Node.indexesOf strict positions) := by
  intro base n
  induction positions with
  | nil => rfl
  | cons position rest ih =>
    rw [Node.indexesOf, Node.indexesOf, moves_indexOf strict position base n, ih]
    cases n.indexOf strict position with
    | error e => rfl
    | ok here =>
      cases Node.indexesOf strict rest n with
      | error e => rfl
      | ok there => simp [bind, Except.bind, pure, Except.pure, Except.map]

theorem moves_sliceOf (strict : Bool) (start stop : Option Int) (step : Int) :
    Moves (Node.sliceOf strict start stop step) := by
  intro base n
  unfold Node.sliceOf
  rw [Node.value_under]
  split
  · split
    · exact (map_missing strict _ _ rfl).symm
    · simp [Except.map, List.map_filterMap, Function.comp_def]
  · exact (map_missing strict _ _ rfl).symm

theorem Node.scanFor_under (name : Option String) (base : Location) (n : Node) :
    (n.under base).scanFor name = (n.scanFor name).map (Node.under base) := by
  simp [Node.scanFor, Node.walk_under, List.filter_map, Function.comp_def, Visit.under]

theorem Node.scanForFields_under (names : List String) (base : Location) (n : Node) :
    (n.under base).scanForFields names = (n.scanForFields names).map (Node.under base) := by
  simp [Node.scanForFields, Node.walk_under, List.flatMap_map, List.map_flatMap, Visit.under]

/-! ## Selectors and paths -/

section

variable [Regex.Engine] (strict : Bool) (document : Json)

/-- Nodes found from nodes of another place. -/
theorem Selector.select_under {selector : Selector} (hroot : selector ≠ .root) (base : Location)
    (input : List Node) :
    selector.select strict document (input.map (Node.under base)) =
      (selector.select strict document input).map (List.map (Node.under base)) := by
  cases selector with
  | root => exact absurd rfl hroot
  | field name => exact onEach_map (moves_fieldOf strict name base) input
  | fields names => exact onEach_map (moves_fieldsOf strict names base) input
  | index position =>
    cases position with
    | none => exact onEach_map (moves_elementsOf strict base) input
    | some i => exact onEach_map (moves_indexOf strict i base) input
  | indexes positions => exact onEach_map (moves_indexesOf strict positions base) input
  | slice start stop step =>
    rw [select, select]
    split
    · rfl
    · exact onEach_map (moves_sliceOf strict start stop _ base) input
  | scan name =>
    simp [select, Except.map, List.flatMap_map, List.map_flatMap, Node.scanFor_under]
  | scanFields names =>
    simp [select, Except.map, List.flatMap_map, List.map_flatMap, Node.scanForFields_under]
  | filter condition =>
    simp [select, Except.map, List.flatMap_map, List.map_flatMap, Node.children_under,
      List.filter_map, Function.comp_def]
  | scanFilter condition =>
    simp [select, Except.map, List.flatMap_map, List.map_flatMap, Node.walk_under,
      List.filter_map, Function.comp_def, Visit.under]

theorem Path.selectFrom_under {path : Path} (h : Selector.root ∉ path) (base : Location)
    (input : List Node) :
    Path.selectFrom strict document path (input.map (Node.under base)) =
      (Path.selectFrom strict document path input).map (List.map (Node.under base)) := by
  induction path generalizing input with
  | nil => rfl
  | cons selector path ih =>
    obtain ⟨hroot, hrest⟩ := List.ne_and_not_mem_of_not_mem_cons h
    rw [Path.selectFrom_cons, Path.selectFrom_cons,
      Selector.select_under strict document hroot.symm]
    cases selector.select strict document input with
    | error e => rfl
    | ok nodes => exact ih hrest nodes

end

end JsonQuery
