import JsonQuery.Number.Basic
import JsonQuery.Proofs.Number.Rounding
import Mathlib.Data.List.TakeWhile
import Mathlib.Data.Nat.Digits.Defs

/-!
# Whole numbers read as doubles

The decimal text of a whole number of 64 bits is read as the double that the number is rounded to.
-/

namespace JsonQuery

theorem natText_head {n : Nat} {c : Char} {cs : List Char} (h : natText n = c :: cs) :
    c ≠ '-' ∧ c ≠ '+' := by
  have hdigit : c.isDigit = true := isDigit_of_mem_natText (h ▸ List.mem_cons_self)
  constructor
  · rintro rfl
    exact absurd hdigit (by decide)
  · rintro rfl
    exact absurd hdigit (by decide)

namespace Decimal

theorem ofUnsignedText?_natText (negative : Bool) (n : Nat) :
    ofUnsignedText? negative (natText n) = some ⟨negative, n, 0⟩ := by
  have hdigits : ∀ c ∈ natText n, c.isDigit = true := fun _ hc => isDigit_of_mem_natText hc
  have htake : (natText n).takeWhile Char.isDigit = natText n :=
    List.takeWhile_eq_self_iff.2 hdigits
  have hdrop : (natText n).dropWhile Char.isDigit = [] := List.dropWhile_eq_nil_iff.2 hdigits
  have hvalue : Nat.ofDigitChars 10 (natText n) 0 = n := by
    simp [natText, Nat.ofDigitChars_toDigits]
  simp [ofUnsignedText?, htake, hdrop, hvalue, exponentOfText?]

theorem ofText?_intText (i : Int) : ofText? (intText i) = some ⟨decide (i < 0), i.natAbs, 0⟩ := by
  unfold intText
  split
  · next hneg =>
    rw [ofText?, ofUnsignedText?_natText, decide_eq_true hneg]
  · next hneg =>
    have hunsigned := ofUnsignedText?_natText false i.natAbs
    obtain ⟨c, cs, hcons⟩ := List.exists_cons_of_ne_nil (natText_ne_nil i.natAbs)
    obtain ⟨hminus, hplus⟩ := natText_head hcons
    rw [hcons] at hunsigned ⊢
    rw [decide_eq_false hneg, ← hunsigned]
    unfold ofText?
    split
    · next heq => exact absurd (List.cons.inj heq).1 hminus
    · next heq => exact absurd (List.cons.inj heq).1 hplus
    · rfl

theorem length_natText_le {n : Nat} (h : n ≤ twoPow 64) : (natText n).length ≤ 20 := by
  apply Nat.toDigits_length 10 n 20 (by decide)
  have hpow : twoPow 64 < 10 ^ 20 := by decide
  omega

/-- Neither shortcut of `Decimal.toDouble?` is taken for a whole number of 64 bits but for zero,
which is the same double either way. -/
theorem toDouble?_whole (negative : Bool) {n : Nat} (h : n ≤ twoPow 64)
    (hrange : Double.roundUnits (n * twoPow oneBits) 1 < twoPow rangeBits) :
    toDouble? ⟨negative, n, 0⟩ = some ⟨negative, Double.roundUnits (n * twoPow oneBits) 1,
      Double.roundUnits_representable hrange⟩ := by
  have hlength := length_natText_le h
  have hpositive : 0 < (natText n).length := List.length_pos_iff.2 (natText_ne_nil n)
  have hone : Nat.pow 10 0 = 1 := rfl
  simp only [toDouble?, magnitude, Int.add_zero, Int.toNat_zero, Int.neg_zero, hone, Nat.mul_one]
  by_cases hzero : n = 0
  · have hround : Double.roundUnits (n * twoPow oneBits) 1 = 0 := by
      rw [hzero, Nat.zero_mul]
      exact Double.roundUnits_self Double.zero_units
    rw [if_pos (.inl hzero)]
    apply congrArg some
    apply Double.ext
    · rfl
    · exact hround.symm
  · rw [if_neg (by omega), if_neg (by omega), Double.ofUnits?, dif_pos hrange]

end Decimal

theorem Integer.natAbs_le (i : Integer) : i.val.natAbs ≤ twoPow 64 := by
  have hpow : twoPow 64 = 0x10000000000000000 := by decide
  have hlower := i.lower
  have hupper := i.upper
  omega

theorem doubleOfText?_intText (i : Integer) :
    doubleOfText? (intText i.val) = some i.toDouble := by
  have hrange := Double.ofInt_inRange i.natAbs_le
  rw [doubleOfText?, Decimal.ofText?_intText, Option.bind_some,
    Decimal.toDouble?_whole _ i.natAbs_le hrange]
  rfl

end JsonQuery
