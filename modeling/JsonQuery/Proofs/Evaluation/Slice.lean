import JsonQuery.Select.Slice

/-!
# Positions of slices

A slice with a step above zero takes positions of the array from the front to the back.
-/

namespace JsonQuery.Slice

open scoped List

theorem limit_le (length : Nat) (stop : Option Int) (step : Int) :
    limit length stop step ≤ length := by
  unfold limit
  split
  · split <;> omega
  · exact Int.min_le_right _ _

theorem first_nonneg {step : Int} (h : 0 < step) (length : Nat) (start : Option Int) :
    0 ≤ first length start step := by
  unfold first
  rw [if_pos h]
  split
  · exact Int.le_refl 0
  · exact Int.le_min.2 ⟨Int.le_max_right _ _, Int.natCast_nonneg length⟩

/-- A run of positions is empty or lies within another one. -/
theorem range'_sublist {s n s' n' : Nat} (h : n' = 0 ∨ s ≤ s' ∧ s' + n' ≤ s + n) :
    List.range' s' n' <+ List.range' s n := by
  obtain rfl | ⟨hstart, hend⟩ := h
  · exact List.nil_sublist _
  · obtain ⟨before, rfl⟩ := Nat.exists_eq_add_of_le hstart
    obtain ⟨behind, rfl⟩ : ∃ behind, n = before + (n' + behind) := ⟨n - before - n', by omega⟩
    rw [← List.range'_append_1]
    apply List.Sublist.trans _ (List.sublist_append_right _ _)
    exact List.range'_sublist_right.2 (Nat.le_add_right n' behind)

/-- The positions from one on are among all positions between it and the limit. -/
theorem walk_sublist {step : Int} (h : 0 < step) (limit : Int) (rounds : Nat) {position : Int}
    (hp : 0 ≤ position) : walk limit step rounds position <+
      List.range' position.toNat (limit - position).toNat := by
  induction rounds generalizing position with
  | zero => exact List.nil_sublist _
  | succ rounds ih =>
    rw [walk]
    by_cases hreach : position < limit
    · rw [if_pos (.inl ⟨h, hreach⟩)]
      have hlength : (limit - position).toNat = (limit - position).toNat - 1 + 1 := by omega
      rw [hlength, List.range'_succ]
      apply List.Sublist.cons_cons
      split
      · next next hnext =>
        have hsum : position + step = next := by
          unfold advance? at hnext
          split at hnext
          · exact Option.some.inj hnext
          · cases hnext
        have hbehind : 0 ≤ next := by omega
        exact (ih hbehind).trans (range'_sublist (by omega))
      · exact List.nil_sublist _
    · rw [if_neg (by omega)]
      exact List.nil_sublist _

theorem positions_sublist {step : Int} (h : 0 < step) (length : Nat) (start stop : Option Int) :
    positions length start stop step <+ List.range length := by
  have hfirst := first_nonneg h length start
  have hlimit := limit_le length stop step
  rw [List.range_eq_range']
  exact (walk_sublist h _ _ hfirst).trans (range'_sublist (by omega))

end JsonQuery.Slice
