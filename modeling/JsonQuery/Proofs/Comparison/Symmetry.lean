import JsonQuery.Proofs.Comparison.Equality
import JsonQuery.Proofs.Evaluation.Keys
import JsonQuery.Proofs.Number.Exact

/-!
# Equality both ways

Of two objects only the members of the one are looked up in the other. Where no key comes twice and
there are as many members on both sides, no key of the other one is passed over. So equality of
values is reflexive and symmetric as that of numbers is, and two objects are equal when they have
the same keys and equal values under each.
-/

namespace JsonQuery.Json

section

variable {numbers : Number → Number → Bool}

mutual

theorem equalBy_refl (hrefl : ∀ a, numbers a a = true) :
    ∀ {v : Json}, v.UniqueKeys → equalBy numbers v v = true
  | .null, _ | .bool _, _ | .str _, _ => (equalBy_plain_iff (by simp [kind])).2 rfl
  | .num a, _ => equalBy_num_iff.2 ⟨a, rfl, hrefl a⟩
  | .arr items, h => equalBy_arr_iff.2 ⟨items, rfl, equalItemsBy_refl hrefl h⟩
  | .obj members, h => by
    refine equalBy_obj_iff.2 ⟨members, rfl, rfl, fun m hm => ?_⟩
    exact ⟨m.2, (lookup_eq_some_iff_mem h.1).2 hm, equalMembersBy_refl hrefl h.2 m hm⟩

theorem equalItemsBy_refl (hrefl : ∀ a, numbers a a = true) :
    ∀ {items : List Json}, UniqueKeysList items →
    List.Forall₂ (fun a b => equalBy numbers a b = true) items items
  | [], _ => .nil
  | _ :: _, h => .cons (equalBy_refl hrefl h.1) (equalItemsBy_refl hrefl h.2)

theorem equalMembersBy_refl (hrefl : ∀ a, numbers a a = true) :
    ∀ {members : List (String × Json)}, UniqueKeysMembers members →
    ∀ m ∈ members, equalBy numbers m.2 m.2 = true
  | [], _ => by simp
  | (_, _) :: _, h =>
    List.forall_mem_cons.2 ⟨equalBy_refl hrefl h.1, equalMembersBy_refl hrefl h.2⟩

end

/-- Every key of the one object is looked up in the other, and none of the other one is left. -/
theorem mem_keys_iff_of_equal {as bs : List (String × Json)} (ha : (as.map Prod.fst).Nodup)
    (hlength : as.length = bs.length)
    (h : ∀ m ∈ as, ∃ b, bs.lookup m.1 = some b ∧ equalBy numbers m.2 b = true) (key : String) :
    key ∈ as.map Prod.fst ↔ key ∈ bs.map Prod.fst := by
  have hsubset : as.map Prod.fst ⊆ bs.map Prod.fst := by
    intro key hkey
    obtain ⟨m, hm, rfl⟩ := List.mem_map.1 hkey
    obtain ⟨b, hb, -⟩ := h m hm
    exact mem_keys_iff.2 ⟨b, hb⟩
  exact ⟨fun hkey => hsubset hkey, fun hkey => keys_subset_of_length ha hlength hsubset hkey⟩

mutual

theorem equalBy_symm (hsymm : ∀ a b, numbers a b = true → numbers b a = true) :
    ∀ {u v : Json}, u.UniqueKeys → v.UniqueKeys →
    equalBy numbers u v = true → equalBy numbers v u = true
  | .null, v, _, _, h | .bool _, v, _, _, h | .str _, v, _, _, h => by
    obtain rfl := (equalBy_plain_iff (by simp [kind])).1 h
    exact h
  | .num a, v, _, _, h => by
    obtain ⟨b, rfl, hab⟩ := equalBy_num_iff.1 h
    exact equalBy_num_iff.2 ⟨a, rfl, hsymm a b hab⟩
  | .arr as, v, hu, hv, h => by
    obtain ⟨bs, rfl, hab⟩ := equalBy_arr_iff.1 h
    exact equalBy_arr_iff.2 ⟨as, rfl, equalItemsBy_symm hsymm hu hv hab⟩
  | .obj as, v, hu, hv, h => by
    obtain ⟨bs, rfl, hlength, hab⟩ := equalBy_obj_iff.1 h
    refine equalBy_obj_iff.2 ⟨as, rfl, hlength.symm, fun n hn => ?_⟩
    have hkey : n.1 ∈ as.map Prod.fst :=
      (mem_keys_iff_of_equal hu.1 hlength hab n.1).2 (List.mem_map_of_mem hn)
    obtain ⟨m, hm, hname⟩ := List.mem_map.1 hkey
    obtain ⟨b, hb, hequal⟩ := hab m hm
    -- the member looked up under the key of `m` is `n` itself
    obtain rfl : n.2 = b := by
      have hn' := (lookup_eq_some_iff_mem hv.1).2 hn
      rw [← hname, hb] at hn'
      exact (Option.some.inj hn').symm
    have hn' : n.2.UniqueKeys := uniqueKeysMembers_iff.1 hv.2 n hn
    refine ⟨m.2, ?_, equalMembersBy_symm hsymm hu.2 m hm hn' hequal⟩
    rw [← hname]
    exact (lookup_eq_some_iff_mem hu.1).2 hm

theorem equalItemsBy_symm (hsymm : ∀ a b, numbers a b = true → numbers b a = true) :
    ∀ {as bs : List Json}, UniqueKeysList as → UniqueKeysList bs →
    List.Forall₂ (fun a b => equalBy numbers a b = true) as bs →
    List.Forall₂ (fun a b => equalBy numbers a b = true) bs as
  | [], _, _, _, .nil => .nil
  | _ :: _, _, ha, hb, .cons h hs =>
    .cons (equalBy_symm hsymm ha.1 hb.1 h) (equalItemsBy_symm hsymm ha.2 hb.2 hs)

theorem equalMembersBy_symm (hsymm : ∀ a b, numbers a b = true → numbers b a = true) :
    ∀ {as : List (String × Json)}, UniqueKeysMembers as → ∀ m ∈ as,
    ∀ {v : Json}, v.UniqueKeys → equalBy numbers m.2 v = true → equalBy numbers v m.2 = true
  | [], _ => by simp
  | (_, _) :: _, ha => List.forall_mem_cons.2
    ⟨equalBy_symm hsymm ha.1, equalMembersBy_symm hsymm ha.2⟩

end

/-- Two objects are equal when they have the same keys and equal values under each. -/
theorem equalBy_obj_iff_keys {as bs : List (String × Json)} (ha : (as.map Prod.fst).Nodup)
    (hb : (bs.map Prod.fst).Nodup) : equalBy numbers (.obj as) (.obj bs) = true ↔
      (∀ key, key ∈ as.map Prod.fst ↔ key ∈ bs.map Prod.fst) ∧
      ∀ key v w, as.lookup key = some v → bs.lookup key = some w → equalBy numbers v w = true := by
  rw [equalBy_obj_iff]
  constructor
  · rintro ⟨_, hbs, hlength, h⟩
    obtain rfl := Json.obj.inj hbs
    refine ⟨mem_keys_iff_of_equal ha hlength h, fun key v w hv hw => ?_⟩
    obtain ⟨b, hlookup, hequal⟩ := h (key, v) (mem_of_lookup hv)
    rw [hw] at hlookup
    obtain rfl := Option.some.inj hlookup
    exact hequal
  · rintro ⟨hkeys, hvalues⟩
    have hperm := (List.perm_ext_iff_of_nodup ha hb).2 hkeys
    have hlength : as.length = bs.length := by simpa using hperm.length_eq
    refine ⟨bs, rfl, hlength, fun m hm => ?_⟩
    have hkey : m.1 ∈ bs.map Prod.fst := (hkeys m.1).1 (List.mem_map_of_mem hm)
    obtain ⟨w, hw⟩ := mem_keys_iff.1 hkey
    exact ⟨w, hw, hvalues m.1 m.2 w ((lookup_eq_some_iff_mem ha).2 hm) hw⟩

end

/-! ## Equality by value -/

theorem equal_refl {v : Json} (h : v.UniqueKeys) : v.equal v = true := by
  have hrefl : ∀ a : Number, (a.compare a == .eq) = true := by
    intro a
    have hswap := Number.compare_swap a a
    cases hcompare : a.compare a with
    | eq => rfl
    | lt | gt =>
      rw [hcompare] at hswap
      cases hswap
  exact equalBy_refl hrefl h

theorem equal_comm {u v : Json} (hu : u.UniqueKeys) (hv : v.UniqueKeys) :
    u.equal v = v.equal u := by
  have hsymm : ∀ a b : Number, (a.compare b == .eq) = true → (b.compare a == .eq) = true := by
    intro a b h
    rw [← Number.compare_swap a b, eq_of_beq h]
    rfl
  exact Bool.eq_iff_iff.2 ⟨equalBy_symm hsymm hu hv, equalBy_symm hsymm hv hu⟩

end JsonQuery.Json
