import JsonQuery.Proofs.Evaluation.Walk
import JsonQuery.Regex.Builtin.Matching

/-!
# Scans with a condition

A scan with a condition keeps the visits of a walk, with and without a name. So the value of a
member is found twice in a row, and a path that asks for one node never gets it.
-/

namespace JsonQuery

namespace Node

/-- Whether the node is the value of a member. -/
def isMember (n : Node) : Bool :=
  match n.location.getLast? with
  | some (.key _) => true
  | _ => false

theorem isMember_position (n : Node) (i : Nat) (v : Json) :
    (n.child (.position i) v).isMember = false := by
  simp [isMember, child]

theorem isMember_key (n : Node) (name : String) (v : Json) :
    (n.child (.key name) v).isMember = true := by
  simp [isMember, child]

theorem isMember_eq_false_iff (n : Node) : n.isMember = false ↔
    n.location = [] ∨ ∃ location i, n.location = location ++ [.position i] := by
  obtain ⟨location, value⟩ := n
  obtain rfl | ⟨location, step, rfl⟩ := List.eq_nil_or_concat' location
  · simp [isMember]
  · cases step <;> simp [isMember]

/-! ## Nodes with repeats -/

/-- The values of members twice in a row, and the other nodes once. -/
def withRepeats (nodes : List Node) : List Node :=
  nodes.flatMap fun n => List.replicate (if n.isMember then 2 else 1) n

theorem withRepeats_cons (n : Node) (nodes : List Node) :
    withRepeats (n :: nodes) =
      (if n.isMember then [n] else []) ++ n :: withRepeats nodes := by
  cases h : n.isMember <;> simp [withRepeats, h, List.replicate]

theorem filter_withRepeats (keep : Node → Bool) (nodes : List Node) :
    (withRepeats nodes).filter keep = withRepeats (nodes.filter keep) := by
  induction nodes with
  | nil => rfl
  | cons n nodes ih =>
    rw [withRepeats_cons, List.filter_append, List.filter_cons, List.filter_cons, ih]
    cases hkeep : keep n with
    | false => cases h : n.isMember <;> simp [hkeep]
    | true => cases h : n.isMember <;> simp [withRepeats_cons, h, hkeep]

theorem length_withRepeats (nodes : List Node) :
    (withRepeats nodes).length = nodes.length + nodes.countP isMember := by
  induction nodes with
  | nil => rfl
  | cons n nodes ih =>
    rw [withRepeats_cons, List.length_append, List.length_cons, ih, List.length_cons,
      List.countP_cons]
    cases h : n.isMember <;> simp <;> omega

theorem two_le_length_withRepeats_iff (nodes : List Node) :
    2 ≤ (withRepeats nodes).length ↔ (∃ n ∈ nodes, n.isMember) ∨ 2 ≤ nodes.length := by
  have hlength := length_withRepeats nodes
  have hcount : nodes.countP isMember ≤ nodes.length := List.countP_le_length
  rw [← List.countP_pos_iff]
  omega

theorem withRepeats_eq_nil_iff (nodes : List Node) : withRepeats nodes = [] ↔ nodes = [] := by
  cases nodes with
  | nil => simp [withRepeats]
  | cons n nodes => simp [withRepeats_cons]

theorem withRepeats_eq_singleton_iff (nodes : List Node) (n : Node) :
    withRepeats nodes = [n] ↔ nodes = [n] ∧ n.isMember = false := by
  constructor
  · intro h
    have hshort : ¬ 2 ≤ (withRepeats nodes).length := by simp [h]
    rw [two_le_length_withRepeats_iff, not_or] at hshort
    match nodes with
    | [] => cases h
    | [m] =>
      have hm : m.isMember = false := by simpa using hshort.1
      obtain rfl : m = n := by simpa [withRepeats_cons, hm, withRepeats] using h
      exact ⟨rfl, hm⟩
    | _ :: _ :: _ => exact absurd (by simp) hshort.2
  · rintro ⟨rfl, hn⟩
    simp [withRepeats, hn]

/-! ## The nodes that a walk comes to -/

/-- From child to child, the value of a member in front of its own walk. -/
theorem nodes_walk_eq (n : Node) : n.walk.map Visit.node =
    n :: n.children.flatMap fun c =>
      (if c.isMember then [c] else []) ++ c.walk.map Visit.node := by
  cases hvalue : n.value with
  | arr items =>
    rw [walk_arr hvalue, children_arr hvalue, List.map_cons, List.map_flatMap]
    apply congrArg (n :: ·)
    apply List.flatMap_congr
    intro c hc
    obtain ⟨⟨v, i⟩, -, rfl⟩ := List.mem_map.1 hc
    rw [isMember_position]
    rfl
  | obj members =>
    rw [walk_obj hvalue, children_obj hvalue, List.map_cons, List.map_flatMap, List.flatMap_map]
    apply congrArg (n :: ·)
    apply List.flatMap_congr
    intro m hm
    obtain ⟨⟨key, v⟩, -, rfl⟩ := List.mem_map.1 hm
    rw [isMember_key]
    rfl
  | null | bool | num | str =>
    have harr : ∀ items, n.value ≠ .arr items := by simp [hvalue]
    have hobj : ∀ members, n.value ≠ .obj members := by simp [hvalue]
    rw [walk_plain harr hobj, children_plain harr hobj]
    rfl

/-- A walk comes to its node once, and then to those below in order, the values of members twice. -/
theorem nodes_walk (n : Node) :
    n.walk.map Visit.node = n :: withRepeats (n.children.flatMap subtree) := by
  induction n using induction_children with
  | step n ih =>
    rw [nodes_walk_eq, withRepeats, List.flatMap_assoc]
    apply congrArg (n :: ·)
    apply List.flatMap_congr
    intro c hc
    rw [ih c hc, subtree_eq, ← withRepeats_cons]
    rfl

end Node

/-! ## One node -/

/-- What is left to select one node when all are known. -/
def onlyOne : List Node → Except SelectError (Option Node)
  | [] => .ok none
  | [n] => .ok (some n)
  | _ => .error .multipleResults

theorem onlyOne_eq_some_iff {nodes : List Node} {n : Node} :
    onlyOne nodes = .ok (some n) ↔ nodes = [n] := by
  match nodes with
  | [] | [m] | _ :: _ :: _ => simp [onlyOne]

theorem onlyOne_eq_none_iff {nodes : List Node} : onlyOne nodes = .ok none ↔ nodes = [] := by
  match nodes with
  | [] | [m] | _ :: _ :: _ => simp [onlyOne]

theorem onlyOne_eq_error_iff {nodes : List Node} {e : SelectError} :
    onlyOne nodes = .error e ↔ e = .multipleResults ∧ 2 ≤ nodes.length := by
  match nodes with
  | [] | [m] | _ :: _ :: _ => simp [onlyOne, eq_comm]

theorem Path.selectOne_eq [Regex.Engine] (path : Path) (strict : Bool) (document : Json) :
    path.selectOne strict document = path.selectAll strict document >>= onlyOne := by
  rfl

/-! ## Scans -/

section

variable [Regex.Engine] (condition : Condition) (strict : Bool) (document : Json)

theorem Selector.select_scanFilter (start : Node) :
    (Selector.scanFilter condition).select strict document [start] =
      .ok ([start].filter (fun n => condition.holds document n.value) ++
        Node.withRepeats ((start.children.flatMap Node.subtree).filter fun n =>
          condition.holds document n.value)) := by
  rw [select, List.flatMap_singleton, Node.nodes_walk, ← Node.filter_withRepeats,
    ← List.filter_append]
  rfl

/-- The document is no member of anything. -/
theorem Path.selectAll_scanFilter : Path.selectAll [.scanFilter condition] strict document =
    .ok (Node.withRepeats (document.nodes.filter fun n => condition.holds document n.value)) := by
  rw [Path.selectAll, Path.selectFrom_singleton, Selector.select_scanFilter,
    ← Node.filter_withRepeats, ← List.filter_append, ← Node.filter_withRepeats,
    ← Node.subtree_root, Node.subtree_eq, Node.withRepeats_cons]
  rfl

/-- A scan with a condition finds the nodes of the subtree that meet it, in pre-order, the value of
a member below the start twice in a row and every other node once. So where one node is asked for,
it is found if it is the only match and the document or an element of an array, and a member that
matches is already too many. -/
theorem Path.scanFilter_repeats_members :
    let isMatch (n : Node) : Bool := condition.holds document n.value
    let found := document.nodes.filter isMatch
    let one := Path.selectOne [.scanFilter condition] strict document
    (∀ start : Node, start.subtree = start :: start.children.flatMap Node.subtree ∧
      (Selector.scanFilter condition).select strict document [start] =
        .ok ([start].filter isMatch ++
          Node.withRepeats ((start.children.flatMap Node.subtree).filter isMatch))) ∧
    (∀ n, one = .ok (some n) ↔ found = [n] ∧
      (n.location = [] ∨ ∃ location i, n.location = location ++ [.position i])) ∧
    (one = .ok none ↔ found = []) ∧
    ∀ e, one = .error e ↔
      e = .multipleResults ∧ ((∃ n ∈ found, n.isMember) ∨ 2 ≤ found.length) := by
  intro isMatch found one
  have hone : one = onlyOne (Node.withRepeats found) := by
    have hall := Path.selectAll_scanFilter condition strict document
    exact (Path.selectOne_eq _ strict document).trans (congrArg (· >>= onlyOne) hall)
  rw [hone]
  refine ⟨fun start => ⟨start.subtree_eq, Selector.select_scanFilter condition strict document _⟩,
    fun n => ?_, ?_, fun e => ?_⟩
  · rw [onlyOne_eq_some_iff, Node.withRepeats_eq_singleton_iff, Node.isMember_eq_false_iff]
  · rw [onlyOne_eq_none_iff, Node.withRepeats_eq_nil_iff]
  · rw [onlyOne_eq_error_iff, Node.two_le_length_withRepeats_iff]

end

open scoped Regex.Builtin

/-- A member and an element that match, and a document that matches alone. -/
example :
    let isText : Condition := .test .equals (.path []) (some (.literal (.str "x")))
    let rows : Json := .obj [("a", .str "x"), ("b", .arr [.null, .str "x"])]
    Path.selectAll [.scanFilter isText] true rows =
        .ok [⟨[.key "a"], .str "x"⟩, ⟨[.key "a"], .str "x"⟩, ⟨[.key "b", .position 1], .str "x"⟩] ∧
      Path.selectOne [.scanFilter isText] false (.obj [("a", .str "x")]) =
        .error .multipleResults ∧
      Path.selectOne [.scanFilter isText] true (.str "x") = .ok (some ⟨[], .str "x"⟩) :=
  ⟨rfl, rfl, rfl⟩

end JsonQuery
