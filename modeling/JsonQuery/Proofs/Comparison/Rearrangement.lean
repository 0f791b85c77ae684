import JsonQuery.Proofs.Comparison.Symmetry

/-!
# Equality in any order of members

A value is rearranged by putting the members of any objects in it into another order. Each member
of the left object is looked up on its own, so a rearranged value on the left is equal to the same
values as before, and by symmetry so is one on the right.
-/

namespace JsonQuery.Json

mutual

/-- The members of any objects, at any depth, in another order. -/
inductive Rearranged : Json → Json → Prop
  | null : Rearranged .null .null
  | bool (b : Bool) : Rearranged (.bool b) (.bool b)
  | num (n : Number) : Rearranged (.num n) (.num n)
  | str (s : String) : Rearranged (.str s) (.str s)
  | arr {items items' : List Json} :
      RearrangedItems items items' → Rearranged (.arr items) (.arr items')
  | obj {members between members' : List (String × Json)} :
      RearrangedMembers members between → between.Perm members' →
      Rearranged (.obj members) (.obj members')

/-- The same items in the same order, each of them rearranged. -/
inductive RearrangedItems : List Json → List Json → Prop
  | nil : RearrangedItems [] []
  | cons {v v' : Json} {items items' : List Json} :
      Rearranged v v' → RearrangedItems items items' → RearrangedItems (v :: items) (v' :: items')

/-- The same keys in the same order, the value under each of them rearranged. -/
inductive RearrangedMembers : List (String × Json) → List (String × Json) → Prop
  | nil : RearrangedMembers [] []
  | cons {key : String} {v v' : Json} {members members' : List (String × Json)} :
      Rearranged v v' → RearrangedMembers members members' →
      RearrangedMembers ((key, v) :: members) ((key, v') :: members')

end

theorem RearrangedMembers.keys_eq {members members' : List (String × Json)}
    (h : RearrangedMembers members members') : members.map Prod.fst = members'.map Prod.fst := by
  induction members generalizing members' with
  | nil => cases h; rfl
  | cons m members ih =>
    cases h with
    | cons _ hrest => rw [List.map_cons, List.map_cons, ih hrest]

mutual

theorem Rearranged.uniqueKeys : ∀ {v v' : Json}, Rearranged v v' → v.UniqueKeys → v'.UniqueKeys
  | _, _, .null, _ | _, _, .bool _, _ | _, _, .num _, _ | _, _, .str _, _ => trivial
  | _, _, .arr h, hu => RearrangedItems.uniqueKeys h hu
  | _, .obj members', @Rearranged.obj _ between _ h hperm, hu => by
    have hkeys : (between.map Prod.fst).Nodup := h.keys_eq ▸ hu.1
    have hbetween : UniqueKeysMembers between := RearrangedMembers.uniqueKeys h hu.2
    refine ⟨(hperm.map Prod.fst).nodup_iff.1 hkeys, uniqueKeysMembers_iff.2 fun m hm => ?_⟩
    exact uniqueKeysMembers_iff.1 hbetween m (hperm.mem_iff.2 hm)

theorem RearrangedItems.uniqueKeys : ∀ {items items' : List Json},
    RearrangedItems items items' → UniqueKeysList items → UniqueKeysList items'
  | _, _, .nil, _ => trivial
  | _, _, .cons h hs, hu => ⟨Rearranged.uniqueKeys h hu.1, RearrangedItems.uniqueKeys hs hu.2⟩

theorem RearrangedMembers.uniqueKeys : ∀ {members members' : List (String × Json)},
    RearrangedMembers members members' → UniqueKeysMembers members → UniqueKeysMembers members'
  | _, _, .nil, _ => trivial
  | _, _, .cons h hs, hu => ⟨Rearranged.uniqueKeys h hu.1, RearrangedMembers.uniqueKeys hs hu.2⟩

end

section

variable {numbers : Number → Number → Bool}

mutual

/-- Whatever a value is equal to, it is equal to when it is rearranged. -/
theorem Rearranged.equalBy_iff : ∀ {u u' : Json}, Rearranged u u' →
    ∀ v, equalBy numbers u v = true ↔ equalBy numbers u' v = true
  | _, _, .null, _ | _, _, .bool _, _ | _, _, .num _, _ | _, _, .str _, _ => Iff.rfl
  | _, _, .arr h, v => by
    rw [equalBy_arr_iff, equalBy_arr_iff]
    exact exists_congr fun bs => and_congr_right fun _ => RearrangedItems.equal_iff h bs
  | .obj as, .obj as', @Rearranged.obj _ between _ h hperm, v => by
    have hlength : as.length = as'.length := by
      have hkeys := congrArg List.length h.keys_eq
      rw [List.length_map, List.length_map] at hkeys
      rw [hkeys, hperm.length_eq]
    rw [equalBy_obj_iff, equalBy_obj_iff, hlength]
    refine exists_congr fun bs => and_congr_right fun _ => and_congr_right fun _ => ?_
    calc (∀ m ∈ as, ∃ b, bs.lookup m.1 = some b ∧ equalBy numbers m.2 b = true)
      _ ↔ ∀ m ∈ between, ∃ b, bs.lookup m.1 = some b ∧ equalBy numbers m.2 b = true :=
        RearrangedMembers.equal_iff h bs
      -- every member is looked up on its own
      _ ↔ ∀ m ∈ as', ∃ b, bs.lookup m.1 = some b ∧ equalBy numbers m.2 b = true :=
        forall_congr' fun m => imp_congr_left hperm.mem_iff

theorem RearrangedItems.equal_iff : ∀ {as as' : List Json}, RearrangedItems as as' →
    ∀ bs, List.Forall₂ (fun a b => equalBy numbers a b = true) as bs ↔
      List.Forall₂ (fun a b => equalBy numbers a b = true) as' bs
  | _, _, .nil, _ => Iff.rfl
  | _, _, .cons h hs, bs => by
    rw [List.forall₂_cons_left_iff, List.forall₂_cons_left_iff]
    refine exists_congr fun b => exists_congr fun rest => ?_
    exact and_congr (Rearranged.equalBy_iff h b)
      (and_congr_left' (RearrangedItems.equal_iff hs rest))

theorem RearrangedMembers.equal_iff : ∀ {as as' : List (String × Json)},
    RearrangedMembers as as' →
    ∀ bs : List (String × Json),
      (∀ m ∈ as, ∃ b, bs.lookup m.1 = some b ∧ equalBy numbers m.2 b = true) ↔
        ∀ m ∈ as', ∃ b, bs.lookup m.1 = some b ∧ equalBy numbers m.2 b = true
  | _, _, .nil, _ => Iff.rfl
  | _, _, .cons h hs, bs => by
    rw [List.forall_mem_cons, List.forall_mem_cons]
    refine and_congr ?_ (RearrangedMembers.equal_iff hs bs)
    exact exists_congr fun b => and_congr_right fun _ => Rearranged.equalBy_iff h b

end

end

theorem Rearranged.equal_eq {u u' : Json} (h : Rearranged u u') (v : Json) :
    u.equal v = u'.equal v :=
  Bool.eq_iff_iff.2 (h.equalBy_iff v)

/-- **Equality does not see the order of members.** Of values without a repeated key each is equal
to itself, two of them are equal both ways or neither, at whatever depth and in whatever order the
members of the one and of the other are put, and two objects are equal exactly when they have the
same keys and equal values under each. -/
theorem equal_in_any_order {a b : Json} (ha : a.UniqueKeys) (hb : b.UniqueKeys) :
    a.equal a = true ∧ a.equal b = b.equal a ∧
    (∀ a' b', Rearranged a a' → Rearranged b b' → a'.equal b' = a.equal b) ∧
    ∀ as bs, a = .obj as → b = .obj bs → (a.equal b = true ↔
      (∀ key, key ∈ as.map Prod.fst ↔ key ∈ bs.map Prod.fst) ∧
      ∀ key v w, as.lookup key = some v → bs.lookup key = some w → v.equal w = true) := by
  refine ⟨equal_refl ha, equal_comm ha hb, ?_, ?_⟩
  · intro a' b' hra hrb
    calc a'.equal b' = a.equal b' := (hra.equal_eq b').symm
      _ = b'.equal a := equal_comm ha (hrb.uniqueKeys hb)
      _ = b.equal a := (hrb.equal_eq a).symm
      _ = a.equal b := equal_comm hb ha
  · rintro as bs rfl rfl
    exact equalBy_obj_iff_keys ha.1 hb.1

/-- Members put into another order at two depths, and a whole number beside a double. -/
theorem equal_in_any_order_nested :
    let two : Integer := ⟨2, by decide, by decide⟩
    let inner : Json := .obj [("p", .null), ("q", .str "s")]
    let inner' : Json := .obj [("q", .str "s"), ("p", .null)]
    let a : Json := .arr [.obj [("x", .num (.int two)), ("y", inner)]]
    let a' : Json := .arr [.obj [("y", inner'), ("x", .num (.int two))]]
    let b : Json := .arr [.obj [("x", .num (.float two.toDouble)), ("y", inner')]]
    let b' : Json := .arr [.obj [("y", inner), ("x", .num (.float two.toDouble))]]
    a.UniqueKeys ∧ b.UniqueKeys ∧ Rearranged a a' ∧ Rearranged b b' ∧
      a.equal b = true ∧ b.equal a = true ∧ a'.equal b' = true := by
  intro two inner inner' a a' b b'
  have ha : a.UniqueKeys := by simp [a, inner, UniqueKeys, UniqueKeysList, UniqueKeysMembers]
  have hb : b.UniqueKeys := by simp [b, inner', UniqueKeys, UniqueKeysList, UniqueKeysMembers]
  have hinner : Rearranged inner inner' :=
    .obj (.cons .null (.cons (.str "s") .nil)) (.swap _ _ [])
  have hinner' : Rearranged inner' inner :=
    .obj (.cons (.str "s") (.cons .null .nil)) (.swap _ _ [])
  have hra : Rearranged a a' :=
    .arr (.cons (.obj (.cons (.num _) (.cons hinner .nil)) (.swap _ _ [])) .nil)
  have hrb : Rearranged b b' :=
    .arr (.cons (.obj (.cons (.num _) (.cons hinner' .nil)) (.swap _ _ [])) .nil)
  have hequal : a.equal b = true := by decide +kernel
  obtain ⟨-, hcomm, hrearranged, -⟩ := equal_in_any_order ha hb
  exact ⟨ha, hb, hra, hrb, hequal, hcomm.symm.trans hequal,
    (hrearranged a' b' hra hrb).trans hequal⟩

end JsonQuery.Json
