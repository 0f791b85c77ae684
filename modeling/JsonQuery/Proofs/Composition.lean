import JsonQuery.Proofs.Evaluation.Document
import JsonQuery.Proofs.Evaluation.Place
import JsonQuery.Regex.Builtin.Matching

/-!
# Composition of selections

A path behind another one selects, from every node that the first one found, what it selects when
that node is a document of its own. Two things stand in the way of it and are excluded: a selector
of the document, which the second path would go back to, and a slice with a step of zero, which
fails even where the first path found nothing.
-/

namespace JsonQuery

section

variable [Regex.Engine]

/-- No slice of the path has a step of zero. -/
def Path.Advances (path : Path) : Prop :=
  ∀ start stop, Selector.slice start stop (some 0) ∉ path

theorem Path.advances_cons {selector : Selector} {path : Path} :
    Path.Advances (selector :: path) ↔
      (∀ start stop, selector ≠ .slice start stop (some 0)) ∧ Path.Advances path := by
  simp only [Path.Advances, List.mem_cons, not_or, forall_and]
  exact and_congr_left' (forall₂_congr fun _ _ => ne_comm)

section

variable (strict : Bool) (document : Json)

/-- A path succeeds on a list as it does on every node alone. -/
theorem Path.selectFrom_eq_ok_iff_onEach {path : Path} (hroot : Path.RootFree path)
    (hstep : Path.Advances path) {input output : List Node} :
    Path.selectFrom strict document path input = .ok output ↔
      onEach (fun n => Path.selectFrom strict document path [n]) input = .ok output := by
  induction path generalizing input output with
  | nil =>
    have hsame : onEach (fun n => .ok [n]) input = .ok input := by
      rw [onEach_ok, List.flatMap_singleton']
    exact Iff.of_eq (congrArg (· = _) hsame.symm)
  | cons selector path ih =>
    obtain ⟨hselector, hpath⟩ := Path.advances_cons.1 hstep
    have hfirst := Selector.select_eq_onEach strict document hroot.1.ne_root hselector input
    have hrest : ∀ nodes found, Path.selectFrom strict document path nodes = .ok found ↔
        onEach (fun n => Path.selectFrom strict document path [n]) nodes = .ok found :=
      fun _ _ => ih hroot.2 hpath
    -- no equation: which failure comes first depends on whether selectors or nodes go first
    have hnode : ∀ n here, (selector.select strict document [n] >>=
        onEach fun n => Path.selectFrom strict document path [n]) = .ok here ↔
          Path.selectFrom strict document (selector :: path) [n] = .ok here := by
      intro n here
      rw [Path.selectFrom_cons, bind_eq_ok, bind_eq_ok]
      simp only [hrest]
    calc Path.selectFrom strict document (selector :: path) input = .ok output
      _ ↔ (onEach (fun n => selector.select strict document [n]) input >>=
            onEach fun n => Path.selectFrom strict document path [n]) = .ok output := by
        simp only [Path.selectFrom_cons, hfirst, bind_eq_ok, hrest]
      _ ↔ onEach (fun n => selector.select strict document [n] >>=
            onEach fun n => Path.selectFrom strict document path [n]) input = .ok output :=
        onEach_bind_eq_ok
      _ ↔ onEach (fun n => Path.selectFrom strict document (selector :: path) [n]) input =
            .ok output := by
        simp only [onEach_eq_ok_iff, hnode]

end

/-- A path selects from one node what it selects from its value as a document, at the place of the
node. -/
theorem Path.selectFrom_node {path : Path} (hroot : Path.RootFree path) (strict : Bool)
    (document : Json) (n : Node) : Path.selectFrom strict document path [n] =
      (path.selectAll strict n.value).map (List.map (Node.under n.location)) := by
  have hmoved := Path.selectFrom_under strict document hroot.root_not_mem n.location
    [Node.root n.value]
  rw [List.map_singleton, Node.root_under] at hmoved
  rw [hmoved, @Path.RootFree.selectFrom_eq _ document n.value path hroot]
  rfl

/-- A path behind another one selects from each of the nodes in turn what it selects from the value
of that node alone. -/
theorem Path.selectAll_append {p q : Path} (hroot : Path.RootFree q) (hstep : Path.Advances q)
    (strict : Bool) (document : Json) (found : List Node) :
    Path.selectAll (p ++ q) strict document = .ok found ↔
      ∃ nodes founds, p.selectAll strict document = .ok nodes ∧
        List.Forall₂ (fun n here => ∃ inner, q.selectAll strict n.value = .ok inner ∧
          here = inner.map (Node.under n.location)) nodes founds ∧
        found = founds.flatten := by
  have hnode : ∀ n here, Path.selectFrom strict document q [n] = .ok here ↔
      ∃ inner, q.selectAll strict n.value = .ok inner ∧
        here = inner.map (Node.under n.location) := by
    intro n here
    rw [Path.selectFrom_node hroot, map_eq_ok]
    simp only [eq_comm]
  have hq : ∀ nodes, Path.selectFrom strict document q nodes = .ok found ↔
      onEach (fun n => Path.selectFrom strict document q [n]) nodes = .ok found :=
    fun _ => Path.selectFrom_eq_ok_iff_onEach strict document hroot hstep
  rw [Path.selectAll, Path.selectFrom_append, bind_eq_ok]
  simp only [hq, onEach_eq_ok_iff, hnode]
  constructor
  · rintro ⟨nodes, hp, founds, hf, rfl⟩
    exact ⟨nodes, founds, hp, hf, rfl⟩
  · rintro ⟨nodes, founds, hp, hf, rfl⟩
    exact ⟨nodes, hp, founds, hf, rfl⟩

end

open scoped Regex.Builtin

/-- Every row is filtered as a document of its own. -/
theorem Path.selectAll_append_filter :
    let x : Json := .obj [("k", .str "x"), ("v", .bool true)]
    let y : Json := .obj [("k", .str "y"), ("v", .null)]
    let isX : Condition := .test .equals (.path [.field (some "k")]) (some (.literal (.str "x")))
    let q : Path := [.filter isX, .field (some "v")]
    Path.RootFree q ∧ Path.Advances q ∧
      Path.selectAll ([.field (some "rows"), .index none] ++ q) true
        (.obj [("rows", .arr [.arr [x, y], .arr [y], .arr [x]])]) =
        .ok [⟨[.key "rows", .position 0, .position 0, .key "v"], .bool true⟩,
          ⟨[.key "rows", .position 2, .position 0, .key "v"], .bool true⟩] := by
  intro x y isX q
  have free : Path.RootFree q := ⟨⟨⟨trivial, trivial⟩, trivial⟩, trivial, trivial⟩
  have advances : Path.Advances q := by simp [Path.Advances, q]
  refine ⟨free, advances, (Path.selectAll_append free advances true _ _).2 ?_⟩
  exact ⟨_, _, rfl, .cons ⟨_, rfl, rfl⟩ (.cons ⟨_, rfl, rfl⟩ (.cons ⟨_, rfl, rfl⟩ .nil)), rfl⟩

end JsonQuery
