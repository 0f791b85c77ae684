import JsonQuery.Proofs.Evaluation.Each

/-!
# What a selector misses

A selector that goes one step down asks a value for members or elements. It misses something in a
value that does not have all of them, and then there is something to report of it.
-/

namespace JsonQuery

/-! ## What a value has -/

namespace Json

/-- The value is an object with a member of that name. -/
def HasMember (v : Json) (name : String) : Prop :=
  match v with
  | .obj members => name ∈ members.map Prod.fst
  | _ => False

instance (v : Json) (name : String) : Decidable (v.HasMember name) :=
  match v with
  | .obj members => inferInstanceAs (Decidable (name ∈ members.map Prod.fst))
  | .null | .bool _ | .num _ | .str _ | .arr _ => inferInstanceAs (Decidable False)

/-- The value is an array with an element at that position. -/
def HasElement (v : Json) (position : Int) : Prop :=
  match v with
  | .arr items => 0 ≤ position ∧ position < items.length
  | _ => False

/-- The value is an array with an element in that slice. -/
def HasSlice (v : Json) (start stop : Option Int) (step : Int) : Prop :=
  match v with
  | .arr items => Slice.positions items.length start stop step ≠ []
  | _ => False

/-- The names that no member has, as they are listed. -/
def absent (v : Json) (names : List String) : List String :=
  names.filter fun name => ¬ v.HasMember name

section

variable {v : Json}

theorem HasMember.kind {name : String} (h : v.HasMember name) : v.kind = .object := by
  cases v with
  | obj members => rfl
  | null | bool | num | str | arr => cases h

theorem HasElement.kind {position : Int} (h : v.HasElement position) : v.kind = .array := by
  cases v with
  | arr items => rfl
  | null | bool | num | str | obj => cases h

theorem HasSlice.kind {start stop : Option Int} {step : Int} (h : v.HasSlice start stop step) :
    v.kind = .array := by
  cases v with
  | arr items => rfl
  | null | bool | num | str | obj => cases h

theorem mem_absent {names : List String} {name : String} :
    name ∈ v.absent names ↔ name ∈ names ∧ ¬ v.HasMember name := by
  simp [absent]

end

theorem lookup_eq_none_iff {members : List (String × Json)} {name : String} :
    members.lookup name = none ↔ ¬ (Json.obj members).HasMember name := by
  rw [List.lookup_eq_none_iff, HasMember, List.mem_map]
  constructor
  · rintro h ⟨m, hm, rfl⟩
    simpa using h m hm
  · intro h m hm
    have hname : name ≠ m.1 := fun he => h ⟨m, hm, he.symm⟩
    simpa using hname

theorem element_eq_none_iff {items : List Json} {position : Int} :
    (if 0 ≤ position then items[position.toNat]? else none) = none ↔
      ¬ (Json.arr items).HasElement position := by
  unfold HasElement
  split
  · rw [List.getElem?_eq_none_iff]
    omega
  · simp [*]

theorem absent_obj (members : List (String × Json)) (names : List String) :
    (names.filter fun name => (members.lookup name).isNone) = (Json.obj members).absent names := by
  apply List.filter_congr
  intro name _
  rw [Bool.eq_iff_iff, Option.isNone_iff_eq_none, lookup_eq_none_iff, decide_eq_true_iff]

end Json

/-! ## What a selector misses and reports -/

namespace Selector

variable [Regex.Engine]

/-- The value does not have all that the selector asks for. -/
def Misses (selector : Selector) (v : Json) : Prop :=
  match selector with
  | .field (some name) => ¬ v.HasMember name
  | .field none => v.kind ≠ .object
  | .fields names => v.kind ≠ .object ∨ ∃ name ∈ names, ¬ v.HasMember name
  | .index (some position) => ¬ v.HasElement position
  | .index none => v.kind ≠ .array
  | .indexes positions => ∃ position ∈ positions, ¬ v.HasElement position
  | .slice start stop step => ¬ v.HasSlice start stop (step.getD 1)
  | .root | .scan _ | .scanFields _ | .filter _ | .scanFilter _ => False

/-- How a selector tells what a value does not have. Several names are told together, and of several
positions the first one. -/
inductive Reports : Selector → Json → SelectError → Prop
  | noObject {name : Option String} {v : Json} : v.kind ≠ .object →
      Reports (.field name) v (.propertyNotValid name v.kind)
  | noMember {name : String} {v : Json} : v.kind = .object → ¬ v.HasMember name →
      Reports (.field (some name)) v (.propertyNotFound name v.kind)
  | noObjectOfNames {names : List String} {v : Json} : v.kind ≠ .object →
      Reports (.fields names) v (.propertiesNotValid names v.kind)
  | oneAbsent {names : List String} {name : String} {v : Json} : v.kind = .object →
      v.absent names = [name] → Reports (.fields names) v (.propertyNotFound name v.kind)
  | severalAbsent {names : List String} {v : Json} : v.kind = .object →
      2 ≤ (v.absent names).length →
      Reports (.fields names) v (.propertiesNotFound (v.absent names) v.kind)
  | noArray {position : Option Int} {v : Json} : v.kind ≠ .array →
      Reports (.index position) v (.indexNotValid position v.kind)
  | noElement {position : Int} {v : Json} : v.kind = .array → ¬ v.HasElement position →
      Reports (.index (some position)) v (.indexOutOfBounds position v.kind)
  | firstAbsent {positions : List Int} {position : Int} {v : Json} {e : SelectError} :
      First (fun p => ¬ v.HasElement p) positions position →
      Reports (.index (some position)) v e → Reports (.indexes positions) v e
  | noArrayOfSlice {start stop step : Option Int} {v : Json} : v.kind ≠ .array →
      Reports (.slice start stop step) v (.sliceNotValid v.kind)
  | emptySlice {start stop step : Option Int} {v : Json} : v.kind = .array →
      ¬ v.HasSlice start stop (step.getD 1) →
      Reports (.slice start stop step) v (.sliceNoResults start stop)

variable {v : Json}

theorem misses_field_iff {name : Option String} :
    (Selector.field name).Misses v ↔ ∃ e, (Selector.field name).Reports v e := by
  constructor
  · intro h
    by_cases hkind : v.kind = .object
    · cases name with
      | none => exact absurd hkind h
      | some name => exact ⟨_, .noMember hkind h⟩
    · exact ⟨_, .noObject hkind⟩
  · rintro ⟨e, h⟩
    cases h with
    | noObject hkind =>
      cases name with
      | none => exact hkind
      | some name => exact fun hname => hkind hname.kind
    | noMember _ hname => exact hname

theorem misses_fields_iff {names : List String} :
    (Selector.fields names).Misses v ↔ ∃ e, (Selector.fields names).Reports v e := by
  constructor
  · intro h
    by_cases hkind : v.kind = .object
    · obtain ⟨name, hname, hv⟩ := h.resolve_left (not_not.2 hkind)
      have hmem : name ∈ v.absent names := Json.mem_absent.2 ⟨hname, hv⟩
      match habsent : v.absent names with
      | [] =>
        rw [habsent] at hmem
        cases hmem
      | [_] => exact ⟨_, .oneAbsent hkind habsent⟩
      | _ :: _ :: _ => exact ⟨_, .severalAbsent hkind (by simp [habsent])⟩
    · exact ⟨_, .noObjectOfNames hkind⟩
  · rintro ⟨e, h⟩
    cases h with
    | noObjectOfNames hkind => exact .inl hkind
    | @oneAbsent _ name _ _ habsent =>
      have hmem : name ∈ v.absent names := habsent ▸ List.mem_cons_self
      exact .inr ⟨name, Json.mem_absent.1 hmem⟩
    | severalAbsent _ hlength =>
      obtain ⟨name, hmem⟩ := List.exists_mem_of_length_pos (Nat.lt_of_succ_lt hlength)
      exact .inr ⟨name, Json.mem_absent.1 hmem⟩

theorem misses_index_iff {position : Option Int} :
    (Selector.index position).Misses v ↔ ∃ e, (Selector.index position).Reports v e := by
  constructor
  · intro h
    by_cases hkind : v.kind = .array
    · cases position with
      | none => exact absurd hkind h
      | some position => exact ⟨_, .noElement hkind h⟩
    · exact ⟨_, .noArray hkind⟩
  · rintro ⟨e, h⟩
    cases h with
    | noArray hkind =>
      cases position with
      | none => exact hkind
      | some position => exact fun hposition => hkind hposition.kind
    | noElement _ hposition => exact hposition

theorem misses_indexes_iff {positions : List Int} :
    (Selector.indexes positions).Misses v ↔ ∃ e, (Selector.indexes positions).Reports v e := by
  constructor
  · intro h
    obtain ⟨position, hfirst⟩ := exists_first_iff.2 h
    obtain ⟨e, he⟩ := misses_index_iff.1 (show (Selector.index (some position)).Misses v from
      hfirst.holds)
    exact ⟨e, .firstAbsent hfirst he⟩
  · rintro ⟨e, h⟩
    cases h with
    | firstAbsent hfirst => exact exists_first_iff.1 ⟨_, hfirst⟩

theorem misses_slice_iff {start stop step : Option Int} :
    (Selector.slice start stop step).Misses v ↔
      ∃ e, (Selector.slice start stop step).Reports v e := by
  constructor
  · intro h
    by_cases hkind : v.kind = .array
    · exact ⟨_, .emptySlice hkind h⟩
    · exact ⟨_, .noArrayOfSlice hkind⟩
  · rintro ⟨e, h⟩
    cases h with
    | noArrayOfSlice hkind => exact fun hslice => hkind hslice.kind
    | emptySlice _ hslice => exact hslice

/-- A selector misses something in the values for which it has something to report. -/
theorem misses_iff (selector : Selector) :
    selector.Misses v ↔ ∃ e, selector.Reports v e := by
  cases selector with
  | field name => exact misses_field_iff
  | fields names => exact misses_fields_iff
  | index position => exact misses_index_iff
  | indexes positions => exact misses_indexes_iff
  | slice start stop step => exact misses_slice_iff
  | root | scan | scanFields | filter | scanFilter =>
    constructor
    · nofun
    · rintro ⟨e, ⟨⟩⟩

end Selector

end JsonQuery
