import JsonQuery.Proofs.Composition
import JsonQuery.Proofs.Strictness
import JsonQuery.Regex.Builtin.Matching

/-!
# Steps of zero

Lenient selection passes over whatever a node lacks, so the one thing it fails on is a slice that
never advances. It fails on it whatever was selected before, even nothing. In a condition the
failure stays with the operand whose path has the slice, which is then absent.
-/

namespace JsonQuery

/-! ## Lenient selection from a node -/

/-- The selection has an outcome for every node. -/
def Succeeds (select : Node → Except SelectError (List Node)) : Prop :=
  ∀ n, ∃ found, select n = .ok found

theorem missing_lenient (e : SelectError) : missing false e = .ok [] := rfl

theorem succeeds_fieldOf (name : Option String) : Succeeds (Node.fieldOf false name) := by
  intro n
  unfold Node.fieldOf
  split
  · next members name _ =>
    cases members.lookup name with
    | none => exact ⟨[], missing_lenient _⟩
    | some v => exact ⟨_, rfl⟩
  · exact ⟨_, rfl⟩
  · exact ⟨[], missing_lenient _⟩

theorem succeeds_fieldsOf (names : List String) : Succeeds (Node.fieldsOf false names) := by
  intro n
  unfold Node.fieldsOf
  split
  · exact ⟨_, rfl⟩
  · exact ⟨[], missing_lenient _⟩

theorem succeeds_indexOf (position : Int) : Succeeds (Node.indexOf false position) := by
  intro n
  unfold Node.indexOf
  split
  · split
    · exact ⟨_, rfl⟩
    · exact ⟨[], missing_lenient _⟩
  · exact ⟨[], missing_lenient _⟩

theorem succeeds_elementsOf : Succeeds (Node.elementsOf false) := by
  intro n
  unfold Node.elementsOf
  split
  · exact ⟨_, rfl⟩
  · exact ⟨[], missing_lenient _⟩

theorem succeeds_indexesOf (positions : List Int) :
    Succeeds (Node.indexesOf false positions) := by
  intro n
  induction positions with
  | nil => exact ⟨[], rfl⟩
  | cons position rest ih =>
    obtain ⟨here, hhere⟩ := succeeds_indexOf position n
    obtain ⟨there, hthere⟩ := ih
    refine ⟨here ++ there, ?_⟩
    rw [Node.indexesOf, hhere, hthere]
    rfl

theorem succeeds_sliceOf (start stop : Option Int) (step : Int) :
    Succeeds (Node.sliceOf false start stop step) := by
  intro n
  unfold Node.sliceOf
  split
  · split
    · exact ⟨[], missing_lenient _⟩
    · exact ⟨_, rfl⟩
  · exact ⟨[], missing_lenient _⟩

theorem Succeeds.onEach {select : Node → Except SelectError (List Node)} (h : Succeeds select)
    (input : List Node) : ∃ output, onEach select input = .ok output := by
  induction input with
  | nil => exact ⟨[], rfl⟩
  | cons n input ih =>
    obtain ⟨here, hhere⟩ := h n
    obtain ⟨there, hthere⟩ := ih
    exact ⟨here ++ there, onEach_cons_eq_ok.2 ⟨here, there, hhere, hthere, rfl⟩⟩

/-! ## Selectors and paths -/

section

variable [Regex.Engine] {document : Json}

/-- A slice that does not advance fails before it looks at a node. -/
theorem Selector.select_zeroStep (strict : Bool) (start stop : Option Int) (input : List Node) :
    (Selector.slice start stop (some 0)).select strict document input = .error .zeroStep := rfl

theorem Selector.select_lenient {selector : Selector}
    (hstep : ∀ start stop, selector ≠ .slice start stop (some 0)) (input : List Node) :
    ∃ output, selector.select false document input = .ok output := by
  cases selector with
  | root => exact ⟨_, rfl⟩
  | field name => exact (succeeds_fieldOf name).onEach input
  | fields names => exact (succeeds_fieldsOf names).onEach input
  | index position =>
    cases position with
    | none => exact succeeds_elementsOf.onEach input
    | some i => exact (succeeds_indexOf i).onEach input
  | indexes positions => exact (succeeds_indexesOf positions).onEach input
  | slice start stop step =>
    have hzero : step ≠ some 0 := fun h => hstep start stop (by rw [h])
    rw [select, if_neg hzero]
    exact (succeeds_sliceOf start stop _).onEach input
  | scan name => exact ⟨_, rfl⟩
  | scanFields names => exact ⟨_, rfl⟩
  | filter condition => exact ⟨_, rfl⟩
  | scanFilter condition => exact ⟨_, rfl⟩

theorem Path.selectFrom_lenient {path : Path} (h : Path.Advances path) (start : List Node) :
    ∃ found, Path.selectFrom false document path start = .ok found := by
  induction path generalizing start with
  | nil => exact ⟨start, rfl⟩
  | cons selector path ih =>
    obtain ⟨hselector, hpath⟩ := Path.advances_cons.1 h
    obtain ⟨nodes, hnodes⟩ : ∃ nodes, selector.select false document start = .ok nodes :=
      Selector.select_lenient hselector start
    rw [Path.selectFrom_cons, hnodes]
    exact ih hpath nodes

/-- Nothing in front of the slice fails, so the run reaches it. -/
theorem Path.selectFrom_zeroStep {path : Path} {first stop : Option Int}
    (h : Selector.slice first stop (some 0) ∈ path) (start : List Node) :
    Path.selectFrom false document path start = .error .zeroStep := by
  induction path generalizing start with
  | nil => cases h
  | cons selector path ih =>
    rw [Path.selectFrom_cons]
    by_cases hzero : ∃ first stop, selector = .slice first stop (some 0)
    · obtain ⟨first, stop, rfl⟩ := hzero
      rw [Selector.select_zeroStep]
      rfl
    · have hselector : ∀ first stop, selector ≠ .slice first stop (some 0) :=
        fun first stop he => hzero ⟨first, stop, he⟩
      obtain ⟨nodes, hnodes⟩ : ∃ nodes, selector.select false document start = .ok nodes :=
        Selector.select_lenient hselector start
      have hbehind : Selector.slice first stop (some 0) ∈ path :=
        (List.mem_cons.1 h).resolve_left fun he => hselector first stop he.symm
      rw [hnodes]
      exact ih hbehind nodes

theorem Path.selectFrom_lenient_eq_error_iff {path : Path} {start : List Node} {e : SelectError} :
    Path.selectFrom false document path start = .error e ↔
      (∃ first stop, Selector.slice first stop (some 0) ∈ path) ∧ e = .zeroStep := by
  constructor
  · intro h
    by_cases hzero : ∃ first stop, Selector.slice first stop (some 0) ∈ path
    · obtain ⟨first, stop, hmem⟩ := hzero
      have hfails : Path.selectFrom false document path start = .error .zeroStep :=
        Path.selectFrom_zeroStep hmem start
      rw [hfails] at h
      exact ⟨⟨first, stop, hmem⟩, (Except.error.inj h).symm⟩
    · have hadvances : Path.Advances path := fun first stop hmem => hzero ⟨first, stop, hmem⟩
      obtain ⟨found, hfound⟩ : ∃ found, Path.selectFrom false document path start = .ok found :=
        Path.selectFrom_lenient hadvances start
      rw [hfound] at h
      cases h
  · rintro ⟨⟨first, stop, hmem⟩, rfl⟩
    exact Path.selectFrom_zeroStep hmem start

/-- Strict selection may fail on something else before it gets to the slice. -/
theorem Path.selectFrom_strict_of_zeroStep {path : Path} {first stop : Option Int}
    (h : Selector.slice first stop (some 0) ∈ path) (start : List Node) :
    ∃ e, Path.selectFrom true document path start = .error e := by
  cases hs : Path.selectFrom true document path start with
  | error e => exact ⟨e, rfl⟩
  | ok found =>
    have hlenient := path.selectFrom_relaxes hs
    rw [Path.selectFrom_zeroStep h] at hlenient
    cases hlenient

/-! ## Operands -/

theorem Operand.absent_of_zeroStep {path : Path} {first stop : Option Int}
    (h : Selector.slice first stop (some 0) ∈ path) (candidate : Json) :
    (Operand.path path).Absent document candidate := by
  have hfails : Path.selectFrom false document path [Node.root candidate] = .error .zeroStep :=
    Path.selectFrom_zeroStep h _
  exact ⟨by rw [value?, hfails], by rw [isPresent, hfails]⟩

end

/-- Lenient selection fails when a slice of the path itself has a step of zero, always with that
failure and for no other reason. Strict selection fails then as well. As an operand such a path
is absent, and no test with it on the left or compared with it on the right holds. A path without
such a slice is an operand with the outcome of its run, and conditions never fail a selection,
whatever slices the paths inside them have. -/
theorem Path.fails_leniently_iff_zeroStep [Regex.Engine] (path : Path) :
    (∀ document start e, Path.selectFrom false document path start = .error e ↔
      (∃ first stop, Selector.slice first stop (some 0) ∈ path) ∧ e = .zeroStep) ∧
    (∀ first stop, Selector.slice first stop (some 0) ∈ path →
      (∀ document start, ∃ e, Path.selectFrom true document path start = .error e) ∧
      ∀ document candidate, (Operand.path path).Absent document candidate ∧
        (∀ operator right,
          (Condition.test operator (.path path) right).holds document candidate = false) ∧
        ∀ operator left, operator ≠ .present →
          (Condition.test operator left (some (.path path))).holds document candidate = false) ∧
    ((∀ first stop, Selector.slice first stop (some 0) ∉ path) → ∀ document candidate,
      ∃ nodes, Path.selectFrom false document path [Node.root candidate] = .ok nodes ∧
        (Operand.path path).value? document candidate = nodes.head?.map Node.value ∧
        (Operand.path path).isPresent document candidate = !nodes.isEmpty) ∧
    ∀ strict document condition start,
      (∃ found, (Selector.filter condition).select strict document start = .ok found) ∧
        ∃ found, (Selector.scanFilter condition).select strict document start = .ok found := by
  refine ⟨fun _ _ _ => Path.selectFrom_lenient_eq_error_iff, ?_, ?_,
    fun _ _ _ _ => ⟨⟨_, rfl⟩, _, rfl⟩⟩
  · intro first stop hmem
    refine ⟨fun _ start => Path.selectFrom_strict_of_zeroStep hmem start, ?_⟩
    intro document candidate
    have habsent : (Operand.path path).Absent document candidate :=
      Operand.absent_of_zeroStep hmem candidate
    exact ⟨habsent, Condition.holds_of_left_absent habsent,
      fun _ left hoperator => Condition.holds_of_right_absent habsent hoperator left⟩
  · intro hadvances document candidate
    obtain ⟨nodes, hnodes⟩ : ∃ nodes,
        Path.selectFrom false document path [Node.root candidate] = .ok nodes :=
      Path.selectFrom_lenient hadvances _
    exact ⟨nodes, hnodes, by rw [Operand.value?, hnodes], by rw [Operand.isPresent, hnodes]⟩

open scoped Regex.Builtin

/-- The slice stands behind a member that is not there. As an operand the path is not even different
from null, while the candidate itself is present. -/
theorem Path.fails_leniently_behind_nothing :
    let path : Path := [.field (some "gone"), .slice (some 1) none (some 0), .root]
    let differs : Condition := .test .notEquals (.path path) (some (.literal .null))
    let outer : Path := [.filter (.compound .or [differs, .test .present (.path []) none])]
    Selector.slice (some 1) none (some 0) ∈ path ∧
      path.selectAll false (.obj []) = .error .zeroStep ∧
      (∃ e, path.selectAll true (.obj []) = .error e) ∧
      (∀ document candidate, differs.holds document candidate = false) ∧
      outer.selectAll true (.arr [.null]) = .ok [⟨[.position 0], .null⟩] := by
  intro path differs outer
  have hmem : Selector.slice (some 1) none (some 0) ∈ path :=
    List.mem_cons_of_mem _ List.mem_cons_self
  obtain ⟨hlenient, hzero, -, -⟩ := Path.fails_leniently_iff_zeroStep path
  obtain ⟨hstrict, hoperand⟩ := hzero _ _ hmem
  refine ⟨hmem, ?_, hstrict (.obj []) [Node.root (.obj [])], ?_, rfl⟩
  · exact (hlenient (.obj []) [Node.root (.obj [])] .zeroStep).2 ⟨⟨_, _, hmem⟩, rfl⟩
  · intro document candidate
    exact (hoperand document candidate).2.1 .notEquals (some (.literal .null))

end JsonQuery
