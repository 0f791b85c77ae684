import JsonQuery.Proofs.Evaluation.Children
import JsonQuery.Proofs.Evaluation.Keys

/-!
# What selection hands down

Every selector stays inside of the document and of the subtrees of its input. So what is true of
these and passes from a node to its children is true of everything that a path finds, and of the
values that a condition compares.
-/

namespace JsonQuery

namespace Node

variable {p : Node → Prop}

theorem Inherited.onEach (hp : Inherited p) {select : Node → Except SelectError (List Node)}
    (hselect : FindsBelow select) {input found : List Node} (hinput : ∀ n ∈ input, p n)
    (h : JsonQuery.onEach select input = .ok found) : ∀ m ∈ found, p m := by
  induction input generalizing found with
  | nil =>
    cases h
    nofun
  | cons n input ih =>
    obtain ⟨here, there, hhere, hthere, rfl⟩ := onEach_cons_eq_ok.1 h
    obtain ⟨hn, hrest⟩ := List.forall_mem_cons.1 hinput
    intro m hm
    obtain hm | hm := List.mem_append.1 hm
    · exact hp n hn m (hselect n here hhere hm)
    · exact ih hrest hthere m hm

/-- What a scan visits is below its input. -/
theorem Inherited.walks (hp : Inherited p) {input : List Node} (hinput : ∀ n ∈ input, p n)
    {scan : Node → List Node}
    (hscan : ∀ n, ∀ m ∈ scan n, ∃ visit ∈ n.walk, visit.node = m) :
    ∀ m ∈ input.flatMap scan, p m := by
  intro m hm
  obtain ⟨n, hn, hm⟩ := List.mem_flatMap.1 hm
  obtain ⟨visit, hvisit, rfl⟩ := hscan n m hm
  exact hp.subtree (hinput n hn) (node_mem_subtree hvisit)

end Node

variable [Regex.Engine]

/-- A selector finds the document, or children or more distant descendants of its input. -/
theorem Selector.select_inherits {p : Node → Prop} (hp : Node.Inherited p) {strict : Bool}
    {document : Json} (hroot : p (Node.root document)) (selector : Selector)
    {input found : List Node} (hinput : ∀ n ∈ input, p n)
    (h : selector.select strict document input = .ok found) : ∀ m ∈ found, p m := by
  cases selector with
  | root =>
    cases h
    exact List.forall_mem_singleton.2 hroot
  | field name => exact hp.onEach (Node.findsChildren_fieldOf strict name).findsBelow hinput h
  | fields names => exact hp.onEach (Node.findsBelow_fieldsOf strict names) hinput h
  | index position =>
    cases position with
    | none => exact hp.onEach (Node.findsChildren_elementsOf strict).findsBelow hinput h
    | some i => exact hp.onEach (Node.findsChildren_indexOf strict i).findsBelow hinput h
  | indexes positions => exact hp.onEach (Node.findsBelow_indexesOf strict positions) hinput h
  | slice start stop step =>
    rw [select] at h
    split at h
    · cases h
    · exact hp.onEach (Node.findsBelow_sliceOf strict start stop _) hinput h
  | scan name =>
    cases h
    refine hp.walks hinput fun n m hm => ?_
    obtain ⟨visit, hvisit, rfl⟩ := List.mem_map.1 hm
    exact ⟨visit, (List.mem_filter.1 hvisit).1, rfl⟩
  | scanFields names =>
    cases h
    refine hp.walks hinput fun n m hm => ?_
    obtain ⟨visit, hvisit, hm⟩ := List.mem_flatMap.1 hm
    obtain ⟨_, -, rfl⟩ := List.mem_map.1 hm
    exact ⟨visit, hvisit, rfl⟩
  | filter condition =>
    cases h
    intro m hm
    obtain ⟨n, hn, hm⟩ := List.mem_flatMap.1 hm
    exact hp n (hinput n hn) m (List.mem_filter.1 hm).1
  | scanFilter condition =>
    cases h
    refine hp.walks hinput fun n m hm => ?_
    exact List.mem_map.1 (List.mem_filter.1 hm).1

/-- What passes from a node to its children is true of all that a path finds. -/
theorem Path.selectFrom_inherits {p : Node → Prop} (hp : Node.Inherited p) {strict : Bool}
    {document : Json} (hroot : p (Node.root document)) {path : Path} {input found : List Node}
    (hinput : ∀ n ∈ input, p n) (h : Path.selectFrom strict document path input = .ok found) :
    ∀ m ∈ found, p m := by
  induction path generalizing input with
  | nil =>
    cases h
    exact hinput
  | cons selector path ih =>
    rw [Path.selectFrom_cons] at h
    obtain ⟨output, houtput, hrest⟩ := bind_eq_ok.1 h
    exact ih (selector.select_inherits hp hroot hinput houtput) hrest

/-! ## Operands -/

/-- No key comes twice in an object of a literal. -/
def Operand.UniqueKeys : Operand → Prop
  | .literal v => v.UniqueKeys
  | .pattern _ | .path _ => True

theorem Operand.UniqueKeys.value {operand : Operand} (h : operand.UniqueKeys)
    {document candidate : Json} (hdocument : document.UniqueKeys)
    (hcandidate : candidate.UniqueKeys) {v : Json}
    (hv : operand.value? document candidate = some v) : v.UniqueKeys := by
  cases operand with
  | literal w =>
    obtain rfl : w = v := Option.some.inj hv
    exact h
  | pattern p => cases hv
  | path path =>
    rw [value?] at hv
    cases hfound : Path.selectFrom false document path [Node.root candidate] with
    | error e =>
      rw [hfound] at hv
      cases hv
    | ok found =>
      rw [hfound] at hv
      obtain ⟨m, hm, rfl⟩ := Option.map_eq_some_iff.1 hv
      exact Path.selectFrom_inherits Node.inherited_uniqueKeys hdocument
        (List.forall_mem_singleton.2 hcandidate) hfound m (List.mem_of_mem_head? hm)

end JsonQuery
