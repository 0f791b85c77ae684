import JsonQuery.Proofs.Evaluation.Strict

/-!
# Failures of strict selection

Strict selection fails with the first node in which the selector misses something, and what it
reports depends on that node alone. A slice that does not advance fails before it looks at a node,
and the selectors that do not go one step down never fail. What is not missed is found.
-/

namespace JsonQuery

variable [Regex.Engine]

namespace Selector

section

variable {selector : Selector} {document : Json} {input output : List Node}

theorem select_singleton_eq_error_iff
    (hstep : ∀ start stop, selector ≠ .slice start stop (some 0)) {n : Node} {e : SelectError} :
    selector.select true document [n] = .error e ↔ selector.Reports n.value e := by
  cases selector with
  | field name => rw [select, onEach_singleton, fieldOf_eq_error_iff]
  | fields names => rw [select, onEach_singleton, fieldsOf_eq_error_iff]
  | index position =>
    cases position with
    | none => rw [select, onEach_singleton, elementsOf_eq_error_iff]
    | some position => rw [select, onEach_singleton, indexOf_eq_error_iff]
  | indexes positions => rw [select, onEach_singleton, indexesOf_eq_error_iff]
  | slice start stop step =>
    have hzero : step ≠ some 0 := fun h => hstep start stop (by rw [h])
    rw [select, if_neg hzero, onEach_singleton, sliceOf_eq_error_iff]
  | root | scan | scanFields | filter | scanFilter =>
    constructor
    · nofun
    · nofun

/-- A selector fails with what it reports of the first node in which it misses something. -/
theorem select_eq_error_iff
    (hstep : ∀ start stop, selector ≠ .slice start stop (some 0)) {e : SelectError} :
    selector.select true document input = .error e ↔
      ∃ n, First (fun m => selector.Misses m.value) input n ∧ selector.Reports n.value e := by
  by_cases hroot : selector = .root
  · subst hroot
    constructor
    · nofun
    · rintro ⟨n, -, ⟨⟩⟩
  · rw [select_eq_onEach true document hroot hstep, onEach_eq_error_iff]
    simp only [select_singleton_eq_error_iff hstep, misses_iff]

/-- A selector fails when it misses something. -/
theorem select_fails_iff (hstep : ∀ start stop, selector ≠ .slice start stop (some 0)) :
    (∃ e, selector.select true document input = .error e) ↔
      ∃ n ∈ input, selector.Misses n.value := by
  simp only [select_eq_error_iff hstep]
  rw [← exists_first_iff]
  constructor
  · rintro ⟨e, n, hfirst, -⟩
    exact ⟨n, hfirst⟩
  · rintro ⟨n, hfirst⟩
    obtain ⟨e, he⟩ := selector.misses_iff.1 hfirst.holds
    exact ⟨e, n, hfirst, he⟩

theorem select_steps {steps : List Step} (hsteps : selector.steps? = some steps)
    (h : selector.select true document input = .ok output) :
    output.map some = input.flatMap fun n => steps.map n.child? := by
  unfold steps? at hsteps
  split at hsteps
  · next name =>
    obtain rfl := Option.some.inj hsteps
    exact onEach_map_eq (takes_fieldOf name) h
  · next names =>
    obtain rfl := Option.some.inj hsteps
    exact onEach_map_eq (takes_fieldsOf names) h
  · next position =>
    obtain rfl := Option.some.inj hsteps
    exact onEach_map_eq (takes_indexOf position) h
  · next positions =>
    obtain rfl := Option.some.inj hsteps
    exact onEach_map_eq (takes_indexesOf positions) h
  · cases hsteps

theorem select_children (hany : selector = .field none ∨ selector = .index none)
    (h : selector.select true document input = .ok output) :
    output = input.flatMap Node.children := by
  rw [← List.map_id output]
  obtain rfl | rfl := hany
  · exact onEach_map_eq children_of_fieldOf h
  · exact onEach_map_eq children_of_elementsOf h

end

/-- Strict selection fails on a slice that does not advance, and otherwise exactly when some node
does not have what the selector asks for, with what it reports of the first such node. Where it
succeeds, a selector by names or positions has found a node at every one of its steps, from node to
node, and a selector of any member or element all children. -/
theorem strict_fails_iff_misses (selector : Selector) (document : Json) (input : List Node) :
    let zeroStep : Prop := ∃ start stop, selector = .slice start stop (some 0)
    ((∃ e, selector.select true document input = .error e) ↔
      zeroStep ∨ ∃ n ∈ input, selector.Misses n.value) ∧
    (∀ e, selector.select true document input = .error e ↔
      zeroStep ∧ e = .zeroStep ∨
      ¬ zeroStep ∧ ∃ n, First (fun m => selector.Misses m.value) input n ∧
        selector.Reports n.value e) ∧
    ∀ output, selector.select true document input = .ok output →
      (∀ steps, selector.steps? = some steps →
        output.map some = input.flatMap fun n => steps.map n.child?) ∧
      (selector = .field none ∨ selector = .index none → output = input.flatMap Node.children) := by
  intro zeroStep
  have hfound : ∀ output, selector.select true document input = .ok output →
      (∀ steps, selector.steps? = some steps →
        output.map some = input.flatMap fun n => steps.map n.child?) ∧
      (selector = .field none ∨ selector = .index none → output = input.flatMap Node.children) :=
    fun _ h => ⟨fun _ hsteps => select_steps hsteps h, fun hany => select_children hany h⟩
  by_cases hzero : zeroStep
  · obtain ⟨start, stop, rfl⟩ := id hzero
    refine ⟨iff_of_true ⟨.zeroStep, rfl⟩ (.inl hzero), fun e => ?_, hfound⟩
    rw [and_iff_right hzero, or_iff_left fun h => h.1 hzero]
    constructor
    · rintro ⟨⟩
      rfl
    · rintro rfl
      rfl
  · have hstep : ∀ start stop, selector ≠ .slice start stop (some 0) := by
      simpa [zeroStep] using hzero
    refine ⟨?_, fun e => ?_, hfound⟩
    · rw [or_iff_right hzero, select_fails_iff hstep]
    · rw [or_iff_right fun h => hzero h.1, and_iff_right hzero, select_eq_error_iff hstep]

/-- Three nodes of which the second one is the first to miss something. -/
theorem strict_fails_iff_misses_second :
    let selector : Selector := .fields ["b", "a"]
    let whole : Node := ⟨[.position 0], .obj [("a", .null), ("b", .bool true)]⟩
    let part : Node := ⟨[.position 1], .obj [("b", .null)]⟩
    let text : Node := ⟨[.position 2], .str "x"⟩
    let found : List Node :=
      [⟨[.position 0, .key "b"], .bool true⟩, ⟨[.position 0, .key "a"], .null⟩]
    selector.select true .null [whole, part, text] = .error (.propertyNotFound "a" .object) ∧
      (∃ n, First (fun m => selector.Misses m.value) [whole, part, text] n ∧
        selector.Reports n.value (.propertyNotFound "a" .object)) ∧
      selector.select true .null [whole] = .ok found ∧ selector.steps? = some [.key "b", .key "a"] ∧
      found.map some = [whole.child? (.key "b"), whole.child? (.key "a")] := by
  intro selector whole part text found
  have hfails : selector.select true .null [whole, part, text] =
      .error (.propertyNotFound "a" .object) := rfl
  have hfound : selector.select true .null [whole] = .ok found := rfl
  have hreport := ((strict_fails_iff_misses selector .null [whole, part, text]).2.1 _).1 hfails
  have hsteps := (strict_fails_iff_misses selector .null [whole]).2.2 found hfound
  refine ⟨hfails, ?_, hfound, rfl, hsteps.1 _ rfl⟩
  obtain ⟨-, hzero⟩ | ⟨-, hfirst⟩ := hreport
  · cases hzero
  · exact hfirst

end Selector

end JsonQuery
