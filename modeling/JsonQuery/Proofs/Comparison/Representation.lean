import JsonQuery.Proofs.Comparison.Equality
import JsonQuery.Proofs.Comparison.Relation
import JsonQuery.Proofs.Number.Exact

/-!
# Numbers of either kind

Two numbers compare as what they denote, of whatever kind they are, unless they blur: then they are
taken for equal. So equality is transitive only between values whose numbers are doubles, and a
double can be equal to two whole numbers that are not equal.
-/

namespace JsonQuery

namespace Number

instance (a b : Number) : Decidable (a.Blurred b) :=
  match a, b with
  | .int _, .float _ | .float _, .int _ => inferInstanceAs (Decidable (_ ∧ _))
  | .int _, .int _ | .float _, .float _ => inferInstanceAs (Decidable False)

variable {a b : Number}

theorem compare_of_toRat_eq (h : a.toRat = b.toRat) : a.compare b = .eq := by
  have hblurred : ¬ Blurred a b := fun hb => (compare_of_blurred hb).2 h
  have hlt := compare_lt_iff hblurred
  have hgt := compare_gt_iff hblurred
  rw [h] at hlt hgt
  cases hcompare : a.compare b with
  | lt => exact absurd (hlt.1 hcompare) (lt_irrefl _)
  | eq => rfl
  | gt => exact absurd (hgt.1 hcompare) (lt_irrefl _)

theorem toDouble_of_compare_eq (h : a.compare b = .eq) :
    a.toDouble.value = b.toDouble.value := by
  cases a with
  | int i =>
    cases b with
    | int j =>
      rw [compare_int, compare_eq_iff_eq] at h
      simp only [value_toDouble, units, h]
    | float d => exact compare_eq_iff_eq.1 h
  | float d => cases b <;> exact compare_eq_iff_eq.1 h

/-- Rounding the number to a double does not change it. -/
def IsDouble (n : Number) : Prop := (Number.float n.toDouble).toRat = n.toRat

theorem isDouble_int {i : Integer} (h : i.val.natAbs ≤ twoPow 53) : IsDouble (.int i) := by
  apply toRat_inj.2
  exact i.value_toDouble.trans (Double.roundValue_of_small h)

/-- It takes a whole number beyond 53 bits to blur. -/
theorem large_of_blurred (h : a.Blurred b) :
    ∃ i : Integer, (a = .int i ∨ b = .int i) ∧ twoPow 53 < i.val.natAbs := by
  have hlarge : ∀ (i : Integer) (d : Double), Blurred (.int i) (.float d) →
      twoPow 53 < i.val.natAbs := by
    rintro i d ⟨hvalue, hne⟩
    by_contra hsmall
    have hdouble : IsDouble (.int i) := isDouble_int (Nat.not_lt.1 hsmall)
    have hrat : (Number.float i.toDouble).toRat = (Number.float d).toRat := toRat_inj.2 hvalue
    exact hne (hdouble.symm.trans hrat)
  cases a with
  | int i =>
    cases b with
    | int j => cases h
    | float d => exact ⟨i, .inl rfl, hlarge i d h⟩
  | float d =>
    cases b with
    | int i => exact ⟨i, .inr rfl, hlarge i d (blurred_comm.1 h)⟩
    | float e => cases h

/-- A third number cannot come between two doubles, as the double it is rounded to would be
both. -/
theorem transitiveOn_isDouble :
    Json.TransitiveOn IsDouble fun a b => a.compare b == .eq := by
  intro a b c ha hc hab hbc
  have hvalue : a.toDouble.value = c.toDouble.value :=
    (toDouble_of_compare_eq (eq_of_beq hab)).trans (toDouble_of_compare_eq (eq_of_beq hbc))
  have hrat : a.toRat = c.toRat := by
    calc a.toRat = (Number.float a.toDouble).toRat := ha.symm
      _ = (Number.float c.toDouble).toRat := toRat_inj.2 hvalue
      _ = c.toRat := hc
  exact beq_iff_eq.2 (compare_of_toRat_eq hrat)

end Number

open Number

theorem Json.equal_trans {u v w : Json} (hu : u.EachNumber IsDouble) (hw : w.EachNumber IsDouble)
    (huv : u.equal v = true) (hvw : v.equal w = true) : u.equal w = true :=
  equalBy_trans transitiveOn_isDouble hu hw huv hvw

namespace Operator

theorem holds_num_iff (operator : Operator) (a b : Number) :
    operator.holds (.num a) (.num b) = true ↔
      if a.Blurred b then operator.accepts .eq = true else operator.Relates a.toRat b.toRat := by
  rw [holds_num]
  by_cases hblurred : a.Blurred b
  · rw [if_pos hblurred, (compare_of_blurred hblurred).1]
  · rw [if_neg hblurred]
    exact accepts_iff (compare_lt_iff hblurred) (compare_gt_iff hblurred) operator

/-- Numbers compare as what they denote unless they blur, which takes a whole number beyond 53 bits,
and equality is transitive between values whose numbers are doubles. -/
theorem compares_rationals_unless_blurred (operator : Operator) (a b : Number) (u v w : Json) :
    (operator.holds (.num a) (.num b) = true ↔
      if a.Blurred b then operator.accepts .eq = true else operator.Relates a.toRat b.toRat) ∧
    (a.Blurred b → ∃ i : Integer, (a = .int i ∨ b = .int i) ∧ twoPow 53 < i.val.natAbs) ∧
    (u.EachNumber IsDouble → w.EachNumber IsDouble →
      u.equal v = true → v.equal w = true → u.equal w = true) := by
  refine ⟨holds_num_iff operator a b, large_of_blurred, ?_⟩
  intro hu hw huv hvw
  exact Json.equal_trans hu hw huv hvw

/-- Between two whole numbers that are neighbours, a double that is equal to both. -/
theorem double_equal_to_neighbours :
    let odd : Integer := ⟨9007199254740993, by decide, by decide⟩
    let even : Integer := ⟨9007199254740992, by decide, by decide⟩
    let double : Number := .float even.toDouble
    Operator.equals.holds (.num (.int odd)) (.num double) = true ∧
      (Number.int odd).toRat ≠ double.toRat ∧
      Operator.equals.holds (.num double) (.num (.int even)) = true ∧
      Operator.equals.holds (.num (.int odd)) (.num (.int even)) = false := by
  decide +kernel

end Operator

end JsonQuery
