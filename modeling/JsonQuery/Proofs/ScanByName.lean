import JsonQuery.Proofs.Evaluation.Keys
import JsonQuery.Proofs.Traversal
import JsonQuery.Regex.Builtin.Matching

/-!
# Scans for names

A scan for names finds what the fields of these names are, taken of every node from here down. It
finds them in another order, in that of the walk, and each member as often as its name is listed.
-/

namespace JsonQuery

open scoped List

namespace Node

/-! ## Members by their names -/

/-- The members of these names, each as often as its name is listed. -/
def named (names : List String) (entries : List (String × Node)) : List Node :=
  entries.flatMap fun (key, child) => List.replicate (names.count key) child

theorem named_perm (names : List String) {entries entries' : List (String × Node)}
    (h : entries ~ entries') : named names entries ~ named names entries' := h.flatMap_right _

theorem named_flatMap (names : List String) (nodes : List Node)
    (entries : Node → List (String × Node)) :
    named names (nodes.flatMap entries) = nodes.flatMap fun n => named names (entries n) :=
  List.flatMap_assoc

theorem scanForFields_eq (names : List String) (n : Node) :
    n.scanForFields names = named names (n.walk.filterMap Visit.entry?) := by
  rw [scanForFields, named, List.filterMap_eq_flatMap_toList, List.flatMap_assoc]
  apply List.flatMap_congr
  rintro ⟨name, child⟩ -
  cases name with
  | none => simp [Visit.entry?]
  | some key =>
    have hcount : (names.filter fun name => some key == some name).length = names.count key := by
      rw [← List.countP_eq_length_filter]
      exact List.countP_congr fun name _ => by rw [Option.some_beq_some, BEq.comm]
    simp only [Visit.entry?, List.map_const', hcount, Option.map_some, Option.toList_some,
      List.flatMap_singleton]

/-- A name that no member has. -/
theorem named_singleton_of_not_mem (n : Node) {members : List (String × Json)} {name : String}
    (h : name ∉ members.map Prod.fst) : named [name] (n.members members) = [] := by
  refine List.flatMap_eq_nil_iff.2 fun m hm => ?_
  obtain ⟨⟨key, v⟩, hv, rfl⟩ := List.mem_map.1 hm
  have hkey : name ≠ key := by
    rintro rfl
    exact h (List.mem_map_of_mem hv)
  simp [hkey]

/-- A name that one member has and no second one. -/
theorem named_singleton (n : Node) {members : List (String × Json)}
    (h : (members.map Prod.fst).Nodup) (name : String) :
    named [name] (n.members members) =
      ((members.lookup name).map fun v => n.child (.key name) v).toList := by
  induction members with
  | nil => rfl
  | cons m members ih =>
    obtain ⟨key, v⟩ := m
    obtain ⟨hkey, hrest⟩ := List.nodup_cons.1 h
    have hsplit : named [name] (n.members ((key, v) :: members)) =
        List.replicate ([name].count key) (n.child (.key key) v) ++
          named [name] (n.members members) := rfl
    rw [hsplit, List.lookup_cons]
    by_cases hname : name = key
    · obtain rfl := hname
      simp [named_singleton_of_not_mem n hkey]
    · rw [ih hrest, beq_false_of_ne hname, List.count_singleton, beq_false_of_ne hname]
      rfl

theorem named_cons_perm (name : String) (names : List String) (entries : List (String × Node)) :
    named (name :: names) entries ~ named [name] entries ++ named names entries := by
  have hsum : named (name :: names) entries = entries.flatMap fun (key, child) =>
      List.replicate ([name].count key) child ++ List.replicate (names.count key) child := by
    apply List.flatMap_congr
    rintro ⟨key, child⟩ -
    dsimp only
    rw [List.replicate_append_replicate, ← List.count_append]
    rfl
  rw [hsum]
  exact (List.flatMap_append_perm _ _ _).symm

/-- What is looked up name by name are the same members in another order. -/
theorem lookups_perm_named (n : Node) {members : List (String × Json)}
    (h : (members.map Prod.fst).Nodup) (names : List String) :
    (names.filterMap fun name => (members.lookup name).map fun v => n.child (.key name) v) ~
      named names (n.members members) := by
  induction names with
  | nil => simp [named]
  | cons name names ih =>
    have hname := named_singleton n h name
    rw [List.filterMap_eq_flatMap_toList] at ih ⊢
    rw [List.flatMap_cons, ← hname]
    exact (ih.append_left _).trans (named_cons_perm name names _).symm

/-- Lenient selection of several members finds those of these names. -/
theorem fieldsOf_lenient (names : List String) {n : Node} (h : n.value.UniqueKeys) :
    ∃ found, n.fieldsOf false names = .ok found ∧ found ~ named names n.entries := by
  unfold fieldsOf entries
  cases hvalue : n.value with
  | obj members =>
    rw [hvalue] at h
    exact ⟨_, rfl, lookups_perm_named n h.1 names⟩
  | null | bool | num | str | arr => exact ⟨[], rfl, .refl []⟩

/-! ## One name -/

theorem scanFor_some_eq (name : String) (n : Node) :
    n.scanFor (some name) = n.scanForFields [name] := by
  rw [scanFor, scanForFields]
  induction n.walk with
  | nil => rfl
  | cons visit visits ih =>
    rw [List.flatMap_cons, List.filter_cons, ← ih]
    cases hname : visit.name == some name <;> simp [hname]

theorem fieldOf_some_lenient (name : String) (n : Node) :
    n.fieldOf false (some name) = n.fieldsOf false [name] := by
  unfold fieldOf fieldsOf
  cases n.value with
  | obj members => cases hname : members.lookup name <;> simp [hname, missing]
  | null | bool | num | str | arr => rfl

/-- From a node down a scan finds the members that the objects there have under these names. -/
theorem scanForFields_perm (names : List String) (n : Node) :
    n.scanForFields names ~ n.subtree.flatMap fun m => named names m.entries := by
  rw [scanForFields_eq, ← named_flatMap]
  exact named_perm names n.entries_walk

end Node

theorem onEach_perm {f : Node → Except SelectError (List Node)} {g : Node → List Node}
    {input : List Node} (h : ∀ n ∈ input, ∃ found, f n = .ok found ∧ found ~ g n) :
    ∃ output, onEach f input = .ok output ∧ output ~ input.flatMap g := by
  induction input with
  | nil => exact ⟨[], rfl, .refl []⟩
  | cons n input ih =>
    obtain ⟨here, hhere, hg⟩ := h n List.mem_cons_self
    obtain ⟨there, hthere, hrest⟩ := ih fun m hm => h m (List.mem_cons_of_mem n hm)
    exact ⟨here ++ there, onEach_cons_eq_ok.2 ⟨here, there, hhere, hthere, rfl⟩, hg.append hrest⟩

section

variable [Regex.Engine] {input : List Node}

/-- A scan for names against the two selectors that it stands for. -/
theorem Path.scanFields_perm (hunique : ∀ n ∈ input, n.value.UniqueKeys) (document : Json)
    (names : List String) : ∃ stepwise,
      Path.selectFrom false document [.scan none, .fields names] input = .ok stepwise ∧
        input.flatMap (Node.scanForFields names) ~ stepwise := by
  have hfields : ∀ m ∈ input.flatMap Node.subtree, ∃ found,
      m.fieldsOf false names = .ok found ∧ found ~ Node.named names m.entries := by
    intro m hm
    obtain ⟨n, hn, hm⟩ := List.mem_flatMap.1 hm
    exact Node.fieldsOf_lenient names (Node.inherited_uniqueKeys.subtree (hunique n hn) hm)
  obtain ⟨stepwise, hstepwise, hperm⟩ := onEach_perm hfields
  refine ⟨stepwise, ?_, ?_⟩
  · rw [Path.selectFrom_cons, Node.select_scan_none]
    exact (Path.selectFrom_singleton false document _ _).trans hstepwise
  · calc input.flatMap (Node.scanForFields names)
        ~ input.flatMap fun n => n.subtree.flatMap fun m => Node.named names m.entries :=
          List.Perm.flatMap_left _ fun n _ => n.scanForFields_perm names
      _ = (input.flatMap Node.subtree).flatMap fun m => Node.named names m.entries :=
          List.flatMap_assoc.symm
      _ ~ stepwise := hperm.symm

/-- From any nodes, a scan for a name selects what a scan for everything and then a lenient field of
that name select, each node as often, and so for several names, repeats among them included. The
order differs. -/
theorem Path.scan_perm_stepwise (hunique : ∀ n ∈ input, n.value.UniqueKeys) (document : Json)
    (strict : Bool) :
    (∀ name, ∃ scanned stepwise,
      (Selector.scan (some name)).select strict document input = .ok scanned ∧
      Path.selectFrom false document [.scan none, .field (some name)] input = .ok stepwise ∧
      scanned ~ stepwise) ∧
    ∀ names, ∃ scanned stepwise,
      (Selector.scanFields names).select strict document input = .ok scanned ∧
      Path.selectFrom false document [.scan none, .fields names] input = .ok stepwise ∧
      scanned ~ stepwise := by
  refine ⟨fun name => ?_, fun names => ?_⟩
  · obtain ⟨stepwise, hstepwise, hperm⟩ := Path.scanFields_perm hunique document [name]
    refine ⟨_, stepwise, rfl, ?_, ?_⟩
    · -- one name is a list of names to both
      have hfield : Node.fieldOf false (some name) = Node.fieldsOf false [name] :=
        funext (Node.fieldOf_some_lenient name)
      simpa only [Path.selectFrom, Selector.select, hfield] using hstepwise
    · rwa [funext (Node.scanFor_some_eq name)]
  · obtain ⟨stepwise, hstepwise, hperm⟩ := Path.scanFields_perm hunique document names
    exact ⟨_, stepwise, rfl, hstepwise, hperm⟩

end

open scoped Regex.Builtin

/-- Members inside members of the same name, and a name listed twice. -/
theorem Path.scan_perm_stepwise_nested :
    let document : Json := .obj [("a", .obj [("a", .null), ("b", .bool true)]), ("b", .str "x")]
    let input : List Node := [Node.root document]
    let a : Node := ⟨[.key "a"], .obj [("a", .null), ("b", .bool true)]⟩
    let aa : Node := ⟨[.key "a", .key "a"], .null⟩
    let ab : Node := ⟨[.key "a", .key "b"], .bool true⟩
    let b : Node := ⟨[.key "b"], .str "x"⟩
    (∀ n ∈ input, n.value.UniqueKeys) ∧
      (Selector.scanFields ["b", "a", "b"]).select true document input =
        .ok [a, aa, ab, ab, b, b] ∧
      Path.selectFrom false document [.scan none, .fields ["b", "a", "b"]] input =
        .ok [b, a, b, ab, aa, ab] ∧
      [a, aa, ab, ab, b, b] ~ [b, a, b, ab, aa, ab] := by
  intro document input a aa ab b
  have hunique : ∀ n ∈ input, n.value.UniqueKeys := by
    simp [input, document, Node.root, Json.UniqueKeys, Json.UniqueKeysMembers]
  obtain ⟨scanned, stepwise, hscanned, hstepwise, hperm⟩ :=
    (Path.scan_perm_stepwise hunique document true).2 ["b", "a", "b"]
  have hscan : (Selector.scanFields ["b", "a", "b"]).select true document input =
      .ok [a, aa, ab, ab, b, b] := rfl
  have hsteps : Path.selectFrom false document [.scan none, .fields ["b", "a", "b"]] input =
      .ok [b, a, b, ab, aa, ab] := rfl
  obtain rfl := Except.ok.inj (hscanned.symm.trans hscan)
  obtain rfl := Except.ok.inj (hstepwise.symm.trans hsteps)
  exact ⟨hunique, hscan, hsteps, hperm⟩

end JsonQuery
