import JsonQuery.Json.Compare
import Mathlib.Data.List.Forall2

/-!
# Equality of values, part by part

Two arrays are equal item by item, and two objects when every member of the one has an equal one
under its key in the other and they are as many. An equality of numbers that is transitive where two
of three numbers are of some kind makes values equal in the same way.
-/

namespace JsonQuery.Json

section

variable {numbers : Number → Number → Bool}

theorem equalItemsBy_iff {as bs : List Json} (h : as.length = bs.length) :
    equalItemsBy numbers as bs = true ↔
      List.Forall₂ (fun a b => equalBy numbers a b = true) as bs := by
  induction as generalizing bs with
  | nil =>
    cases bs with
    | nil => simp [equalItemsBy]
    | cons b bs => simp at h
  | cons a as ih =>
    cases bs with
    | nil => simp at h
    | cons b bs =>
      have hrest := @ih bs (by simpa using h)
      simp [equalItemsBy, hrest]

theorem equalMembersBy_iff {as bs : List (String × Json)} :
    equalMembersBy numbers as bs = true ↔
      ∀ m ∈ as, ∃ b, bs.lookup m.1 = some b ∧ equalBy numbers m.2 b = true := by
  induction as with
  | nil => simp [equalMembersBy]
  | cons m as ih =>
    obtain ⟨key, a⟩ := m
    rw [equalMembersBy, Bool.and_eq_true, ih, List.forall_mem_cons]
    apply and_congr_left'
    cases bs.lookup key <;> simp

theorem equalBy_num_iff {a : Number} {v : Json} :
    equalBy numbers (.num a) v = true ↔ ∃ b, v = .num b ∧ numbers a b = true := by
  cases v <;> simp [equalBy]

theorem equalBy_arr_iff {as : List Json} {v : Json} :
    equalBy numbers (.arr as) v = true ↔
      ∃ bs, v = .arr bs ∧ List.Forall₂ (fun a b => equalBy numbers a b = true) as bs := by
  cases v with
  | arr bs =>
    simp only [equalBy, Bool.and_eq_true, beq_iff_eq, arr.injEq, exists_eq_left']
    constructor
    · rintro ⟨hlen, h⟩
      exact (equalItemsBy_iff hlen).1 h
    · intro h
      exact ⟨h.length_eq, (equalItemsBy_iff h.length_eq).2 h⟩
  | null | bool | num | str | obj => simp [equalBy]

theorem equalBy_obj_iff {as : List (String × Json)} {v : Json} :
    equalBy numbers (.obj as) v = true ↔ ∃ bs, v = .obj bs ∧ as.length = bs.length ∧
      ∀ m ∈ as, ∃ b, bs.lookup m.1 = some b ∧ equalBy numbers m.2 b = true := by
  cases v with
  | obj bs => simp [equalBy, equalMembersBy_iff]
  | null | bool | num | str | arr => simp [equalBy]

/-- A value without parts that is no number is equal to itself alone. -/
theorem equalBy_plain_iff {u v : Json} (h : u.kind ∈ [.null, .boolean, .string]) :
    equalBy numbers u v = true ↔ u = v := by
  cases u with
  | null => cases v <;> simp [equalBy]
  | bool a => cases v <;> simp [equalBy]
  | str a => cases v <;> simp [equalBy]
  | num | arr | obj => simp [kind] at h

end

mutual

/-- All numbers in a value are of some kind. -/
def EachNumber (p : Number → Prop) : Json → Prop
  | .num n => p n
  | .arr items => EachNumberItems p items
  | .obj members => EachNumberMembers p members
  | _ => True

def EachNumberItems (p : Number → Prop) : List Json → Prop
  | [] => True
  | v :: vs => v.EachNumber p ∧ EachNumberItems p vs

def EachNumberMembers (p : Number → Prop) : List (String × Json) → Prop
  | [] => True
  | (_, v) :: ms => v.EachNumber p ∧ EachNumberMembers p ms

end

section

variable {p : Number → Prop}

theorem EachNumberMembers.lookup {members : List (String × Json)}
    (h : EachNumberMembers p members) {key : String} {v : Json}
    (hv : members.lookup key = some v) : v.EachNumber p := by
  induction members with
  | nil => cases hv
  | cons m members ih =>
    obtain ⟨key', w⟩ := m
    rw [List.lookup_cons] at hv
    split at hv
    · cases hv
      exact h.1
    · exact ih h.2 hv

/-- Two numbers of some kind that a third one equals are equal. -/
def TransitiveOn (p : Number → Prop) (numbers : Number → Number → Bool) : Prop :=
  ∀ a b c, p a → p c → numbers a b = true → numbers b c = true → numbers a c = true

variable {numbers : Number → Number → Bool}

mutual

/-- What two values are equal to makes them equal, if all numbers in the two are of that kind. -/
theorem equalBy_trans (htrans : TransitiveOn p numbers) :
    ∀ {u v w : Json}, u.EachNumber p → w.EachNumber p →
    equalBy numbers u v = true → equalBy numbers v w = true → equalBy numbers u w = true
  | .null, v, w, _, _, huv, hvw => by
    obtain rfl := (equalBy_plain_iff (by simp [kind])).1 huv
    exact hvw
  | .bool b, v, w, _, _, huv, hvw => by
    obtain rfl := (equalBy_plain_iff (by simp [kind])).1 huv
    exact hvw
  | .str s, v, w, _, _, huv, hvw => by
    obtain rfl := (equalBy_plain_iff (by simp [kind])).1 huv
    exact hvw
  | .num a, v, w, ha, hw, huv, hvw => by
    obtain ⟨b, rfl, hab⟩ := equalBy_num_iff.1 huv
    obtain ⟨c, rfl, hbc⟩ := equalBy_num_iff.1 hvw
    exact equalBy_num_iff.2 ⟨c, rfl, htrans a b c ha hw hab hbc⟩
  | .arr as, v, w, ha, hw, huv, hvw => by
    obtain ⟨bs, rfl, hab⟩ := equalBy_arr_iff.1 huv
    obtain ⟨cs, rfl, hbc⟩ := equalBy_arr_iff.1 hvw
    exact equalBy_arr_iff.2 ⟨cs, rfl, equalItemsBy_trans htrans ha hw hab hbc⟩
  | .obj as, v, w, ha, hw, huv, hvw => by
    obtain ⟨bs, rfl, hlen, hab⟩ := equalBy_obj_iff.1 huv
    obtain ⟨cs, rfl, hlen', hbc⟩ := equalBy_obj_iff.1 hvw
    exact equalBy_obj_iff.2 ⟨cs, rfl, hlen.trans hlen', equalMembersBy_trans htrans ha hw hab hbc⟩

theorem equalItemsBy_trans (htrans : TransitiveOn p numbers) :
    ∀ {as bs cs : List Json}, EachNumberItems p as → EachNumberItems p cs →
    List.Forall₂ (fun a b => equalBy numbers a b = true) as bs →
    List.Forall₂ (fun a b => equalBy numbers a b = true) bs cs →
    List.Forall₂ (fun a b => equalBy numbers a b = true) as cs
  | [], _, _, _, _, .nil, .nil => .nil
  | _ :: _, _, _, ha, hc, .cons hab habs, .cons hbc hbcs =>
    .cons (equalBy_trans htrans ha.1 hc.1 hab hbc) (equalItemsBy_trans htrans ha.2 hc.2 habs hbcs)

theorem equalMembersBy_trans (htrans : TransitiveOn p numbers) :
    ∀ {as bs cs : List (String × Json)}, EachNumberMembers p as → EachNumberMembers p cs →
    (∀ m ∈ as, ∃ b, bs.lookup m.1 = some b ∧ equalBy numbers m.2 b = true) →
    (∀ m ∈ bs, ∃ c, cs.lookup m.1 = some c ∧ equalBy numbers m.2 c = true) →
    ∀ m ∈ as, ∃ c, cs.lookup m.1 = some c ∧ equalBy numbers m.2 c = true
  | [], _, _, _, _, _, _ => by simp
  | (key, a) :: as, bs, cs, ha, hc, hab, hbc => by
    obtain ⟨hfirst, hrest⟩ := List.forall_mem_cons.1 hab
    obtain ⟨b, hb, hequal⟩ := hfirst
    obtain ⟨c, hcs, hequal'⟩ := hbc _ (mem_of_lookup hb)
    have hthere := equalMembersBy_trans htrans ha.2 hc hrest hbc
    have hhere := equalBy_trans htrans ha.1 (hc.lookup hcs) hequal hequal'
    exact List.forall_mem_cons.2 ⟨⟨c, hcs, hhere⟩, hthere⟩

end

end

end JsonQuery.Json
