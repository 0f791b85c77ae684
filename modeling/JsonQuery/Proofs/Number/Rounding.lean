import JsonQuery.Number.Decimal
import Mathlib.Data.Int.Order.Basic
import Mathlib.Order.Compare

/-!
# Rounding to doubles

What rounding to 53 significant bits keeps. A double is rounded to itself, and rounding keeps the
order of two numbers, though it may make them equal. So a number and its rounding lie on the same
side of every double. Numbers are whole numbers of units here, a unit being the least double.
-/

namespace JsonQuery.Double

/-! ## The nearest whole number -/

theorem nearest_mono {m n den : Nat} (h : m ≤ n) : nearest m den ≤ nearest n den := by
  have hq : m / den ≤ n / den := Nat.div_le_div_right h
  by_cases heq : m / den = n / den
  · have hr : m % den ≤ n % den := by
      have hm := Nat.div_add_mod m den
      have hn := Nat.div_add_mod n den
      rw [heq] at hm
      omega
    unfold nearest
    rw [heq]
    split <;> split <;> omega
  · have hm := nearest_le m den
    have hn : n / den ≤ nearest n den := by
      unfold nearest
      split <;> omega
    omega

theorem nearest_mul (k : Nat) {den : Nat} (h : 0 < den) : nearest (k * den) den = k := by
  have hmod : k * den % den = 0 := Nat.mul_mod_left k den
  have hdiv : k * den / den = k := Nat.mul_div_cancel k h
  rw [nearest, hmod, hdiv, if_pos (.inl h)]

/-! ## Sizes without a sign -/

theorem spacing_mono {m n : Nat} (h : m ≤ n) : spacing m ≤ spacing n := by
  have hlog : m.log2 ≤ n.log2 := by
    by_cases hm : m = 0
    · rw [hm]
      exact Nat.zero_le _
    · have hn : n ≠ 0 := by omega
      exact (Nat.le_log2 hn).2 (Nat.le_trans (Nat.log2_self_le hm) h)
  unfold spacing
  omega

/-- Rounding does not pass a multiple of the spacing from below. -/
theorem roundUnits_le_of_dvd {n v : Nat} (h : n ≤ v) (hv : twoPow (spacing n) ∣ v) :
    roundUnits n 1 ≤ v := by
  obtain ⟨k, rfl⟩ := hv
  have hpos := twoPow_pos (spacing n)
  simp only [roundUnits, Nat.div_one, Nat.one_mul]
  generalize twoPow (spacing n) = gap at *
  have hnear : nearest n gap ≤ nearest (k * gap) gap := nearest_mono (by rwa [Nat.mul_comm k])
  rw [nearest_mul k hpos] at hnear
  rw [Nat.mul_comm gap]
  exact Nat.mul_le_mul_right gap hnear

/-- Nor from above. -/
theorem le_roundUnits_of_dvd {n v : Nat} (h : v ≤ n) (hv : twoPow (spacing n) ∣ v) :
    v ≤ roundUnits n 1 := by
  obtain ⟨k, rfl⟩ := hv
  have hpos := twoPow_pos (spacing n)
  simp only [roundUnits, Nat.div_one, Nat.one_mul]
  generalize twoPow (spacing n) = gap at *
  have hnear : nearest (k * gap) gap ≤ nearest n gap := nearest_mono (by rwa [Nat.mul_comm k])
  rw [nearest_mul k hpos] at hnear
  rw [Nat.mul_comm gap]
  exact Nat.mul_le_mul_right gap hnear

/-- The units of a double are a multiple of their own spacing. -/
theorem spacing_dvd {units : Nat} (h : DoubleUnits units) : twoPow (spacing units) ∣ units := by
  obtain ⟨-, significand, exponent, hs, rfl⟩ := h
  by_cases hzero : significand * twoPow exponent = 0
  · rw [hzero]
    exact Nat.dvd_zero _
  · have hlt : significand * twoPow exponent < twoPow (53 + exponent) := by
      rw [twoPow_add]
      exact Nat.mul_lt_mul_of_pos_right hs (twoPow_pos _)
    have hlog : (significand * twoPow exponent).log2 < 53 + exponent :=
      (Nat.log2_lt hzero).2 hlt
    have hspacing : spacing (significand * twoPow exponent) ≤ exponent := by
      unfold spacing
      omega
    exact Nat.dvd_mul_left_of_dvd (Nat.pow_dvd_pow 2 hspacing) significand

theorem roundUnits_self {units : Nat} (h : DoubleUnits units) : roundUnits units 1 = units :=
  Nat.le_antisymm (roundUnits_le_of_dvd (Nat.le_refl _) (spacing_dvd h))
    (le_roundUnits_of_dvd (Nat.le_refl _) (spacing_dvd h))

theorem roundUnits_mono {m n : Nat} (h : m ≤ n) : roundUnits m 1 ≤ roundUnits n 1 := by
  by_cases heq : spacing m = spacing n
  · simp only [roundUnits, Nat.div_one, Nat.one_mul, heq]
    exact Nat.mul_le_mul_right _ (nearest_mono h)
  · -- a power of two lies between them, and neither rounding passes it
    have hspacing : spacing m < spacing n := by
      have := spacing_mono h
      omega
    have hn : n ≠ 0 := by
      rintro rfl
      simp [spacing] at hspacing
    have hbelow : m ≤ twoPow n.log2 := by
      have hm := lt_twoPow_log2 m
      have hlog : m.log2 + 1 ≤ n.log2 := by
        unfold spacing at hspacing
        omega
      exact Nat.le_trans (Nat.le_of_lt hm) (twoPow_le hlog)
    have habove : twoPow n.log2 ≤ n := twoPow_log2_le hn
    have hdvd : twoPow (spacing n) ∣ twoPow n.log2 := by
      apply Nat.pow_dvd_pow
      unfold spacing
      omega
    have hdvd' : twoPow (spacing m) ∣ twoPow n.log2 :=
      Nat.dvd_trans (Nat.pow_dvd_pow 2 (Nat.le_of_lt hspacing)) hdvd
    calc roundUnits m 1
        ≤ twoPow n.log2 := roundUnits_le_of_dvd hbelow hdvd'
      _ ≤ roundUnits n 1 := le_roundUnits_of_dvd habove hdvd

/-! ## Numbers with a sign -/

/-- The value of the double that a number of units is rounded to. -/
def roundValue (units : Int) : Int :=
  if units < 0 then -(roundUnits units.natAbs 1 : Int) else roundUnits units.natAbs 1

theorem one_units : DoubleUnits 1 :=
  ⟨twoPow_lt (show 0 < rangeBits by decide), 1, 0, by decide, rfl⟩

theorem roundValue_mono {m n : Int} (h : m ≤ n) : roundValue m ≤ roundValue n := by
  unfold roundValue
  by_cases hm : m < 0
  · by_cases hn : n < 0
    · have habs : n.natAbs ≤ m.natAbs := by omega
      have hround := roundUnits_mono habs
      rw [if_pos hm, if_pos hn]
      omega
    · rw [if_pos hm, if_neg hn]
      omega
  · have habs : m.natAbs ≤ n.natAbs := by omega
    have hround := roundUnits_mono habs
    rw [if_neg hm, if_neg (by omega)]
    omega

theorem roundValue_value (d : Double) : roundValue d.value = d.value := by
  have hself := roundUnits_self d.representable
  unfold roundValue value
  by_cases hneg : d.negative
  · rw [if_pos hneg, Int.natAbs_neg, Int.natAbs_natCast, hself]
    split <;> omega
  · rw [if_neg hneg, Int.natAbs_natCast, hself]
    split <;> omega

/-- Rounding takes a number to the other side of a double at most by making them equal. -/
theorem roundValue_lt_iff {units : Int} {d : Double}
    (h : roundValue units = d.value → units = d.value) :
    roundValue units < d.value ↔ units < d.value := by
  have hd := roundValue_value d
  constructor
  · intro hlt
    by_contra hge
    have := roundValue_mono (not_lt.1 hge)
    omega
  · intro hlt
    have hle := roundValue_mono (le_of_lt hlt)
    rw [hd] at hle
    apply lt_of_le_of_ne hle
    intro heq
    have := h heq
    omega

theorem lt_roundValue_iff {units : Int} {d : Double}
    (h : roundValue units = d.value → units = d.value) :
    d.value < roundValue units ↔ d.value < units := by
  have hlt := roundValue_lt_iff h
  constructor
  · intro hgt
    by_contra hle
    obtain heq | hlt' := eq_or_lt_of_le (not_lt.1 hle)
    · rw [heq, roundValue_value] at hgt
      exact lt_irrefl _ hgt
    · have := hlt.2 hlt'
      omega
  · intro hgt
    by_contra hle
    obtain heq | hlt' := eq_or_lt_of_le (not_lt.1 hle)
    · have := h heq
      omega
    · have := hlt.1 hlt'
      omega

theorem value_ofInt (i : Int) (h : i.natAbs ≤ twoPow 64) :
    (ofInt i h).value = roundValue (i * twoPow oneBits) := by
  have hpos := twoPow_pos oneBits
  have habs : (i * twoPow oneBits).natAbs = i.natAbs * twoPow oneBits := by
    rw [Int.natAbs_mul, Int.natAbs_natCast]
  have hsign : i * twoPow oneBits < 0 ↔ i < 0 := by
    constructor
    · intro hlt
      by_contra hge
      have := Int.mul_nonneg (by omega : 0 ≤ i) (by omega : (0 : Int) ≤ twoPow oneBits)
      omega
    · intro hlt
      exact Int.mul_neg_of_neg_of_pos hlt (by omega)
  unfold roundValue value ofInt
  simp only [habs, hsign, decide_eq_true_eq]

/-- A whole number of at most 53 bits is a double. -/
theorem roundValue_of_small {i : Int} (h : i.natAbs ≤ twoPow 53) :
    roundValue (i * twoPow oneBits) = i * twoPow oneBits := by
  have hunits : DoubleUnits (i.natAbs * twoPow oneBits) := by
    constructor
    · have hlt : twoPow (53 + oneBits) < twoPow rangeBits := twoPow_lt (by decide)
      have hle := Nat.mul_le_mul_right (twoPow oneBits) h
      rw [← twoPow_add] at hle
      omega
    · by_cases hfull : i.natAbs = twoPow 53
      · refine ⟨1, 53 + oneBits, by decide, ?_⟩
        rw [hfull, Nat.one_mul, twoPow_add]
      · exact ⟨i.natAbs, oneBits, by omega, rfl⟩
  have hvalue : (⟨decide (i < 0), _, hunits⟩ : Double).value = i * twoPow oneBits := by
    by_cases hneg : i < 0
    · have habs : (i.natAbs : Int) = -i := by omega
      simp only [value, hneg, decide_true, if_true, Int.natCast_mul, habs, Int.neg_mul,
        Int.neg_neg]
    · have habs : (i.natAbs : Int) = i := by omega
      simp only [value, hneg, decide_false, Bool.false_eq_true, if_false, Int.natCast_mul, habs]
  rw [← hvalue]
  exact roundValue_value _

end JsonQuery.Double
