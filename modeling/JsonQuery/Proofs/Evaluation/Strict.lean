import JsonQuery.Proofs.Evaluation.Missing

/-!
# Strict selection from a node

From one node a strict selection fails with what is to be reported of the value, or finds all that
it asks for.
-/

namespace JsonQuery

/-! ## Failures -/

section

variable {n : Node} {e : SelectError}

theorem indexesOf_eq_first {positions : List Int} : n.indexesOf true positions = .error e ↔
    ∃ position, First (fun p => ∃ e, n.indexOf true p = .error e) positions position ∧
      n.indexOf true position = .error e := by
  induction positions with
  | nil => simp [Node.indexesOf, first_nil]
  | cons position positions ih => rw [Node.indexesOf, join_eq_error_iff, first_error_cons_iff, ih]

variable [Regex.Engine]

theorem fieldOf_eq_error_iff {name : Option String} :
    n.fieldOf true name = .error e ↔ (Selector.field name).Reports n.value e := by
  obtain ⟨location, v⟩ := n
  cases v with
  | obj members =>
    constructor
    · intro h
      cases name with
      | none => cases h
      | some name =>
        unfold Node.fieldOf at h
        cases hname : members.lookup name with
        | some v => simp [hname] at h
        | none =>
          obtain rfl : SelectError.propertyNotFound name .object = e := by
            simpa [hname, missing] using h
          exact .noMember rfl (Json.lookup_eq_none_iff.1 hname)
    · intro h
      cases h with
      | noObject hkind => exact absurd rfl hkind
      | noMember _ hname =>
        unfold Node.fieldOf
        simp only [Json.lookup_eq_none_iff.2 hname]
        rfl
  | null | bool | num | str | arr =>
    constructor
    · rintro ⟨⟩
      exact .noObject nofun
    · intro h
      cases h with
      | noObject => rfl
      | noMember hkind => cases hkind

theorem fieldsOf_eq_error_iff {names : List String} :
    n.fieldsOf true names = .error e ↔ (Selector.fields names).Reports n.value e := by
  obtain ⟨location, v⟩ := n
  cases v with
  | obj members =>
    unfold Node.fieldsOf
    dsimp only
    rw [if_pos rfl, Json.absent_obj]
    constructor
    · intro h
      split at h
      · cases h
      · next name habsent =>
        cases h
        exact .oneAbsent rfl habsent
      · next hnone hone =>
        cases h
        refine .severalAbsent rfl ?_
        match habsent : (Json.obj members).absent names with
        | [] => exact absurd habsent hnone
        | [name] => exact absurd habsent (hone name)
        | _ :: _ :: _ => simp
    · intro h
      cases h with
      | noObjectOfNames hkind => exact absurd rfl hkind
      | oneAbsent _ habsent =>
        rw [habsent]
        rfl
      | severalAbsent _ hlength =>
        match (Json.obj members).absent names, hlength with
        | _ :: _ :: _, _ => rfl
  | null | bool | num | str | arr =>
    constructor
    · rintro ⟨⟩
      exact .noObjectOfNames nofun
    · intro h
      cases h with
      | noObjectOfNames => rfl
      | oneAbsent hkind => cases hkind
      | severalAbsent hkind => cases hkind

theorem indexOf_eq_error_iff {position : Int} :
    n.indexOf true position = .error e ↔ (Selector.index (some position)).Reports n.value e := by
  obtain ⟨location, v⟩ := n
  cases v with
  | arr items =>
    unfold Node.indexOf
    dsimp only
    constructor
    · intro h
      split at h
      · cases h
      · next hnone =>
        cases h
        exact .noElement rfl (Json.element_eq_none_iff.1 hnone)
    · intro h
      cases h with
      | noArray hkind => exact absurd rfl hkind
      | noElement _ hposition =>
        rw [Json.element_eq_none_iff.2 hposition]
        rfl
  | null | bool | num | str | obj =>
    constructor
    · rintro ⟨⟩
      exact .noArray nofun
    · intro h
      cases h with
      | noArray => rfl
      | noElement hkind => cases hkind

theorem elementsOf_eq_error_iff :
    n.elementsOf true = .error e ↔ (Selector.index none).Reports n.value e := by
  obtain ⟨location, v⟩ := n
  cases v with
  | arr items =>
    constructor
    · nofun
    · intro h
      cases h with
      | noArray hkind => exact absurd rfl hkind
  | null | bool | num | str | obj =>
    constructor
    · rintro ⟨⟩
      exact .noArray nofun
    · intro h
      cases h with
      | noArray => rfl

theorem sliceOf_eq_error_iff {start stop step : Option Int} :
    n.sliceOf true start stop (step.getD 1) = .error e ↔
      (Selector.slice start stop step).Reports n.value e := by
  obtain ⟨location, v⟩ := n
  cases v with
  | arr items =>
    unfold Node.sliceOf
    dsimp only
    constructor
    · intro h
      split at h
      · next hempty =>
        cases h
        exact .emptySlice rfl fun hslice => hslice hempty
      · cases h
    · intro h
      cases h with
      | noArrayOfSlice hkind => exact absurd rfl hkind
      | emptySlice _ hslice =>
        have hempty : Slice.positions items.length start stop (step.getD 1) = [] :=
          not_not.1 hslice
        rw [hempty]
        rfl
  | null | bool | num | str | obj =>
    constructor
    · rintro ⟨⟩
      exact .noArrayOfSlice nofun
    · intro h
      cases h with
      | noArrayOfSlice => rfl
      | emptySlice hkind => cases hkind

theorem indexesOf_eq_error_iff {positions : List Int} :
    n.indexesOf true positions = .error e ↔ (Selector.indexes positions).Reports n.value e := by
  rw [indexesOf_eq_first]
  simp only [indexOf_eq_error_iff, ← Selector.misses_iff]
  constructor
  · rintro ⟨position, hfirst, h⟩
    exact .firstAbsent hfirst h
  · intro h
    cases h with
    | firstAbsent hfirst h => exact ⟨_, hfirst, h⟩

end

/-! ## Successes -/

/-- The node that a step leads to. -/
def Node.child? (n : Node) (step : Step) : Option Node :=
  (n.value.child? step).map (n.child step)

/-- The steps that a selector by names or positions takes from every node. -/
def Selector.steps? [Regex.Engine] : Selector → Option (List Step)
  | .field (some name) => some [.key name]
  | .fields names => some (names.map .key)
  | .index (some position) => some [.position position.toNat]
  | .indexes positions => some (positions.map fun position => .position position.toNat)
  | _ => none

/-- Where a selection succeeds, it finds a node at every one of the steps. -/
def Takes (select : Node → Except SelectError (List Node)) (steps : List Step) : Prop :=
  ∀ n found, select n = .ok found → found.map some = steps.map n.child?

theorem takes_fieldOf (name : String) : Takes (Node.fieldOf true (some name)) [.key name] := by
  rintro ⟨location, v⟩ found h
  cases v with
  | obj members =>
    unfold Node.fieldOf at h
    cases hname : members.lookup name with
    | none => simp [hname, missing] at h
    | some v =>
      obtain rfl : [Node.child ⟨location, .obj members⟩ (.key name) v] = found := by
        simpa [hname] using h
      simp [Node.child?, Json.child?, hname]
  | null | bool | num | str | arr => cases h

theorem map_some_filterMap {α β : Type} {f : α → Option β} {items : List α}
    (h : ∀ a ∈ items, f a ≠ none) : (items.filterMap f).map some = items.map f := by
  induction items with
  | nil => rfl
  | cons a items ih =>
    obtain ⟨ha, hrest⟩ := List.forall_mem_cons.1 h
    obtain ⟨b, hb⟩ := Option.ne_none_iff_exists'.1 ha
    rw [List.filterMap_cons_some hb, List.map_cons, List.map_cons, ih hrest, hb]

theorem takes_fieldsOf (names : List String) :
    Takes (Node.fieldsOf true names) (names.map .key) := by
  rintro ⟨location, v⟩ found h
  cases v with
  | obj members =>
    unfold Node.fieldsOf at h
    dsimp only at h
    rw [if_pos rfl, Json.absent_obj] at h
    split at h
    · next habsent =>
      obtain rfl := Except.ok.inj h
      rw [map_some_filterMap, List.map_map]
      · rfl
      · intro name hname hnone
        have hlookup : members.lookup name = none := by simpa using hnone
        have hmem := Json.mem_absent.2 ⟨hname, Json.lookup_eq_none_iff.1 hlookup⟩
        rw [habsent] at hmem
        cases hmem
    · cases h
    · cases h
  | null | bool | num | str | arr => cases h

theorem takes_indexOf (position : Int) :
    Takes (Node.indexOf true position) [.position position.toNat] := by
  rintro ⟨location, v⟩ found h
  cases v with
  | arr items =>
    unfold Node.indexOf at h
    dsimp only at h
    split at h
    · next v hv =>
      obtain rfl := Except.ok.inj h
      have hitem : items[position.toNat]? = some v := by
        split at hv
        · exact hv
        · cases hv
      simp [Node.child?, Json.child?, hitem]
    · cases h
  | null | bool | num | str | obj => cases h

theorem takes_indexesOf (positions : List Int) : Takes (Node.indexesOf true positions)
    (positions.map fun position => .position position.toNat) := by
  intro n
  induction positions with
  | nil =>
    rintro found ⟨⟩
    rfl
  | cons position positions ih =>
    intro found h
    rw [Node.indexesOf] at h
    obtain ⟨here, hhere, h⟩ := bind_eq_ok.1 h
    obtain ⟨there, hthere, h⟩ := bind_eq_ok.1 h
    obtain rfl := Except.ok.inj h
    rw [List.map_append, takes_indexOf position n here hhere, ih there hthere]
    rfl

theorem children_of_fieldOf (n : Node) (found : List Node) (h : n.fieldOf true none = .ok found) :
    found.map id = n.children := by
  obtain ⟨location, v⟩ := n
  cases v with
  | obj members =>
    obtain rfl := Except.ok.inj h
    exact List.map_id _
  | null | bool | num | str | arr => cases h

theorem children_of_elementsOf (n : Node) (found : List Node) (h : n.elementsOf true = .ok found) :
    found.map id = n.children := by
  obtain ⟨location, v⟩ := n
  cases v with
  | arr items =>
    obtain rfl := Except.ok.inj h
    exact List.map_id _
  | null | bool | num | str | obj => cases h

end JsonQuery
