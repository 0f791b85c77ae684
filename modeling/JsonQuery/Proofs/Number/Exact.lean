import JsonQuery.Number.Basic
import JsonQuery.Proofs.Number.Rounding
import Mathlib.Algebra.Order.Field.Rat
import Mathlib.Algebra.Order.Ring.Cast

/-!
# Numbers and what they denote

A number denotes a rational number, and comparing two numbers is comparing what they denote but for
one case: a whole number that is no double, against the double it is rounded to, is taken for equal
to it. Two whole numbers are never compared through their roundings unless they differ in sign.
-/

namespace JsonQuery

namespace Integer

theorem value_toDouble (i : Integer) :
    i.toDouble.value = Double.roundValue (i.val * twoPow oneBits) := Double.value_ofInt _ _

theorem value_toDouble_mono {i j : Integer} (h : i.val ≤ j.val) :
    i.toDouble.value ≤ j.toDouble.value := by
  rw [value_toDouble, value_toDouble]
  apply Double.roundValue_mono
  exact Int.mul_le_mul_of_nonneg_right h (Int.natCast_nonneg _)

end Integer

namespace Number

/-- The rational number that a number denotes. -/
def toRat : Number → ℚ
  | .int i => i.val
  | .float d => d.value / twoPow oneBits

/-- The same in units of the least positive double. -/
def units : Number → Int
  | .int i => i.val * twoPow oneBits
  | .float d => d.value

theorem toRat_eq (n : Number) : n.toRat = (n.units : ℚ) / (twoPow oneBits : ℚ) := by
  have hpos : (twoPow oneBits : ℚ) ≠ 0 := Nat.cast_ne_zero.2 (twoPow_pos oneBits).ne'
  cases n with
  | int i =>
    simp only [toRat, units, Int.cast_mul, Int.cast_natCast]
    exact (mul_div_cancel_right₀ _ hpos).symm
  | float d => rfl

theorem toRat_lt_iff {a b : Number} : a.toRat < b.toRat ↔ a.units < b.units := by
  have hpos : (0 : ℚ) < twoPow oneBits := Nat.cast_pos.2 (twoPow_pos oneBits)
  rw [toRat_eq, toRat_eq, div_lt_div_iff_of_pos_right hpos, Int.cast_lt]

theorem toRat_inj {a b : Number} : a.toRat = b.toRat ↔ a.units = b.units := by
  simp only [le_antisymm_iff, ← not_lt, toRat_lt_iff]

theorem value_toDouble (n : Number) : n.toDouble.value = Double.roundValue n.units := by
  cases n with
  | int i => exact i.value_toDouble
  | float d => exact (Double.roundValue_value d).symm

/-! ## Whole numbers -/

/-- A number below zero is rounded to one below zero, and any other is not. -/
theorem value_toDouble_neg_iff (i : Integer) : i.toDouble.value < 0 ↔ i.val < 0 := by
  have hpos : (0 : Int) < twoPow oneBits := Int.natCast_pos.2 (twoPow_pos oneBits)
  rw [Integer.value_toDouble]
  by_cases hneg : i.val < 0
  · have hunits : i.val * twoPow oneBits ≤ -1 := by
      have := Int.mul_neg_of_neg_of_pos hneg hpos
      omega
    -- one unit below zero is a double, which rounding does not pass
    have hunit : Double.roundValue (-1) = -1 :=
      Double.roundValue_value ⟨true, 1, Double.one_units⟩
    have hround := Double.roundValue_mono hunits
    omega
  · have hunits : 0 ≤ i.val * twoPow oneBits := Int.mul_nonneg (by omega) (by omega)
    have hzero : Double.roundValue 0 = 0 := Double.roundValue_value Double.zero
    have hround := Double.roundValue_mono hunits
    omega

/-- Whole numbers are compared exactly, also through doubles: then only one of them is below
zero. -/
theorem compare_int (i j : Integer) :
    (Number.int i).compare (.int j) = Ord.compare i.val j.val := by
  rw [compare]
  split
  · rfl
  · next hmixed =>
    simp only [Integer.isSigned, Integer.isUnsigned, Bool.or_eq_true, Bool.and_eq_true,
      decide_eq_true_eq, not_or, not_and] at hmixed
    have hi := value_toDouble_neg_iff i
    have hj := value_toDouble_neg_iff j
    have hsigned := hmixed.1
    have hunsigned := hmixed.2
    by_cases hneg : i.val < 0
    · have hvalues : i.toDouble.value < j.toDouble.value := by omega
      have hvals : i.val < j.val := by omega
      rw [Double.compare, compare_lt_iff_lt.2 hvalues, compare_lt_iff_lt.2 hvals]
    · have hvalues : i.toDouble.value > j.toDouble.value := by omega
      have hvals : i.val > j.val := by omega
      rw [Double.compare, compare_gt_iff_gt.2 hvalues, compare_gt_iff_gt.2 hvals]

/-- Comparing the other way round gives the opposite outcome. -/
theorem compare_swap (a b : Number) : (a.compare b).swap = b.compare a := by
  cases a with
  | int i =>
    cases b with
    | int j =>
      rw [compare_int, compare_int]
      exact Int.compare_swap i.val j.val
    | float d => exact Int.compare_swap i.toDouble.value d.value
  | float d => cases b <;> exact Int.compare_swap d.value _

theorem compare_gt_iff_lt (a b : Number) : a.compare b = .gt ↔ b.compare a = .lt := by
  rw [← compare_swap a b]
  cases a.compare b <;> simp [Ordering.swap]

/-! ## Whole numbers and doubles -/

/-- One is a double, and the other a whole number that is rounded to it without being equal to
it. -/
def Blurred : Number → Number → Prop
  | .int i, .float d | .float d, .int i =>
    i.toDouble.value = d.value ∧ (Number.int i).toRat ≠ (Number.float d).toRat
  | _, _ => False

section

variable {i : Integer} {d : Double}

theorem compare_int_float (i : Integer) (d : Double) :
    (Number.int i).compare (.float d) = Ord.compare i.toDouble.value d.value := rfl

theorem compare_float_int (i : Integer) (d : Double) :
    (Number.float d).compare (.int i) = Ord.compare d.value i.toDouble.value := rfl

theorem value_toDouble_of_not_blurred (h : ¬ Blurred (.int i) (.float d))
    (heq : Double.roundValue (Number.int i).units = d.value) : (Number.int i).units = d.value := by
  by_contra hne
  exact h ⟨i.value_toDouble.trans heq, fun hrat => hne (toRat_inj.1 hrat)⟩

theorem toDouble_lt_iff (h : ¬ Blurred (.int i) (.float d)) :
    i.toDouble.value < d.value ↔ (Number.int i).toRat < (Number.float d).toRat := by
  rw [toRat_lt_iff, i.value_toDouble]
  exact Double.roundValue_lt_iff (value_toDouble_of_not_blurred h)

theorem lt_toDouble_iff (h : ¬ Blurred (.int i) (.float d)) :
    d.value < i.toDouble.value ↔ (Number.float d).toRat < (Number.int i).toRat := by
  rw [toRat_lt_iff, i.value_toDouble]
  exact Double.lt_roundValue_iff (value_toDouble_of_not_blurred h)

end

theorem blurred_comm {a b : Number} : Blurred a b ↔ Blurred b a := by
  cases a <;> cases b <;> rfl

/-- Numbers that blur are taken for equal, and are not. -/
theorem compare_of_blurred {a b : Number} (h : Blurred a b) :
    a.compare b = .eq ∧ a.toRat ≠ b.toRat := by
  cases a with
  | int i =>
    cases b with
    | int j => cases h
    | float d =>
      obtain ⟨hvalue, hne⟩ := h
      rw [compare_int_float, hvalue]
      exact ⟨compare_eq_iff_eq.2 rfl, hne⟩
  | float d =>
    cases b with
    | int i =>
      obtain ⟨hvalue, hne⟩ := h
      rw [compare_float_int, hvalue]
      exact ⟨compare_eq_iff_eq.2 rfl, hne.symm⟩
    | float e => cases h

/-- Any other two numbers compare as what they denote. -/
theorem compare_lt_iff {a b : Number} (h : ¬ Blurred a b) :
    a.compare b = .lt ↔ a.toRat < b.toRat := by
  cases a with
  | int i =>
    cases b with
    | int j =>
      rw [compare_int, compare_lt_iff_lt]
      exact Int.cast_lt.symm
    | float d =>
      rw [compare_int_float, compare_lt_iff_lt]
      exact toDouble_lt_iff h
  | float d =>
    cases b with
    | int i =>
      rw [compare_float_int, compare_lt_iff_lt]
      exact lt_toDouble_iff (mt blurred_comm.1 h)
    | float e =>
      rw [toRat_lt_iff]
      exact compare_lt_iff_lt

theorem compare_gt_iff {a b : Number} (h : ¬ Blurred a b) :
    a.compare b = .gt ↔ b.toRat < a.toRat := by
  rw [compare_gt_iff_lt]
  exact compare_lt_iff (mt blurred_comm.1 h)

end Number

end JsonQuery
