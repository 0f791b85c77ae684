import JsonQuery.Proofs.Evaluation.Children
import JsonQuery.Regex.Builtin.Matching

/-!
# Document order

A selector that goes one step down, and forwards, finds some of the children of each node in their
order. So what a path of such selectors finds lies in subtrees that follow each other in the
document, and a scan at the end, which goes through each of them in order, keeps to it.
-/

namespace JsonQuery

open scoped List

/-! ## Children in order -/

theorem onEach_sublist {f : Node → Except SelectError (List Node)} (hf : Node.FindsChildren f)
    {input output : List Node} (h : onEach f input = .ok output) :
    output <+ input.flatMap Node.children := by
  induction input generalizing output with
  | nil =>
    cases h
    exact List.Sublist.refl _
  | cons n input ih =>
    obtain ⟨here, there, hhere, hthere, rfl⟩ := onEach_cons_eq_ok.1 h
    exact (hf n here hhere).append (ih hthere)

theorem subtrees_of_children (input : List Node) :
    (input.flatMap Node.children).flatMap Node.subtree <+ input.flatMap Node.subtree := by
  rw [List.flatMap_assoc]
  apply List.Sublist.flatMap_right
  intro n _
  rw [Node.subtree_eq]
  exact List.sublist_cons_self n _

/-! ## Selectors and paths -/

section

variable [Regex.Engine]

/-- Selectors that go one step down and forwards. -/
inductive Selector.Forward : Selector → Prop
  | field (name : Option String) : Selector.Forward (.field name)
  | index (position : Option Int) : Selector.Forward (.index position)
  | slice {start stop step : Option Int} : (∀ k ∈ step, 0 < k) →
      Selector.Forward (.slice start stop step)
  | filter (condition : Condition) : Selector.Forward (.filter condition)

/-- Paths of such selectors, with a scan at the end or none. -/
inductive Path.Forward : Path → Prop
  | nil : Path.Forward []
  | scan (name : Option String) : Path.Forward [.scan name]
  | cons {selector : Selector} {path : Path} : selector.Forward → Path.Forward path →
      Path.Forward (selector :: path)

section

variable {strict : Bool} {document : Json}

theorem Selector.Forward.select_sublist {selector : Selector} (h : selector.Forward)
    {input output : List Node} (hselect : selector.select strict document input = .ok output) :
    output <+ input.flatMap Node.children := by
  cases h with
  | field name => exact onEach_sublist (Node.findsChildren_fieldOf strict name) hselect
  | index position =>
    cases position with
    | none => exact onEach_sublist (Node.findsChildren_elementsOf strict) hselect
    | some i => exact onEach_sublist (Node.findsChildren_indexOf strict i) hselect
  | @slice start stop step hstep =>
    have hpositive : 0 < step.getD 1 := by
      cases step with
      | none => decide
      | some k => exact hstep k rfl
    rw [Selector.select] at hselect
    split at hselect
    · cases hselect
    · exact onEach_sublist (Node.findsChildren_sliceOf strict start stop hpositive) hselect
  | filter condition =>
    cases hselect
    apply List.Sublist.flatMap_right
    intro n _
    exact List.filter_sublist

/-- What a path finds from some nodes lies in their subtrees, in their order. -/
theorem Path.Forward.selectFrom_sublist {path : Path} (h : path.Forward) {input found : List Node}
    (hfound : Path.selectFrom strict document path input = .ok found) :
    found <+ input.flatMap Node.subtree := by
  induction h generalizing input with
  | nil =>
    obtain rfl : input = found := Except.ok.inj hfound
    have hself : input.flatMap (fun n => [n]) <+ input.flatMap Node.subtree := by
      apply List.Sublist.flatMap_right
      intro n _
      rw [Node.subtree_eq]
      exact List.singleton_sublist.2 List.mem_cons_self
    rwa [List.flatMap_singleton'] at hself
  | scan name =>
    cases hfound
    apply List.Sublist.flatMap_right
    intro n _
    exact n.scanFor_sublist name
  | @cons selector path hselector _ ih =>
    rw [Path.selectFrom_cons] at hfound
    obtain ⟨output, houtput, hrest⟩ := bind_eq_ok.1 hfound
    have hchildren := hselector.select_sublist houtput
    -- whole subtrees follow each other, so nothing that comes later can get between them
    calc found
        <+ output.flatMap Node.subtree := ih hrest
      _ <+ (input.flatMap Node.children).flatMap Node.subtree := hchildren.flatMap Node.subtree
      _ <+ input.flatMap Node.subtree := subtrees_of_children input

end

/-- What such a path selects from a document are nodes of the document in pre-order, and no location
twice. -/
theorem Path.Forward.selectAll_in_order {path : Path} (h : path.Forward) {strict : Bool}
    {document : Json} (hunique : document.UniqueKeys) {found : List Node}
    (hfound : path.selectAll strict document = .ok found) :
    found <+ document.nodes ∧ (found.map Node.location).Nodup ∧
      ∀ n ∈ found, document.at? n.location = some n.value := by
  have hsublist := h.selectFrom_sublist hfound
  rw [List.flatMap_singleton, Node.subtree_root] at hsublist
  refine ⟨hsublist, ?_, ?_⟩
  · exact (Json.nodup_nodes hunique).sublist (hsublist.map Node.location)
  · intro n hn
    exact (Json.mem_nodes_iff hunique).1 (hsublist.mem hn)

end

open scoped Regex.Builtin

/-- Every other element of an array, and then a member by its name, at whatever depth. -/
theorem Path.Forward.selectAll_in_order_scan :
    let path : Path := [.field (some "a"), .slice none none (some 2), .scan (some "b")]
    let document : Json := .obj [("a", .arr [.obj [("b", .null), ("c", .obj [("b", .str "x")])],
      .null, .obj [("b", .bool true)]])]
    let found : List Node := [⟨[.key "a", .position 0, .key "b"], .null⟩,
      ⟨[.key "a", .position 0, .key "c", .key "b"], .str "x"⟩,
      ⟨[.key "a", .position 2, .key "b"], .bool true⟩]
    path.Forward ∧ document.UniqueKeys ∧ path.selectAll true document = .ok found ∧
      found <+ document.nodes ∧ (found.map Node.location).Nodup ∧
        ∀ n ∈ found, document.at? n.location = some n.value := by
  intro path document found
  have hslice : ∀ k ∈ some (2 : Int), 0 < k := by simp
  have hpath : path.Forward := .cons (.field _) (.cons (.slice hslice) (.scan _))
  have hunique : document.UniqueKeys := by
    simp [document, Json.UniqueKeys, Json.UniqueKeysList, Json.UniqueKeysMembers]
  have hselect : path.selectAll true document = .ok found := rfl
  exact ⟨hpath, hunique, hselect, hpath.selectAll_in_order hunique hselect⟩

end JsonQuery
