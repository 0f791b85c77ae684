/-!
# Finite double-precision numbers

A double is a sign and a whole number of units, one unit being `2 ^ -1074`, the least positive
double. Units are limited to 53 significant bits below `2 ^ 2098`, so a double is exactly the
number it denotes and comparing two of them is comparing whole numbers. Zero has both signs.
-/

namespace JsonQuery

def twoPow (n : Nat) : Nat := Nat.pow 2 n

theorem twoPow_zero : twoPow 0 = 1 := rfl

theorem twoPow_pos (n : Nat) : 0 < twoPow n := Nat.two_pow_pos n

theorem twoPow_add (m n : Nat) : twoPow (m + n) = twoPow m * twoPow n := Nat.pow_add 2 m n

theorem twoPow_succ (n : Nat) : twoPow (n + 1) = 2 * twoPow n := Nat.pow_succ'

theorem twoPow_le {m n : Nat} (h : m ≤ n) : twoPow m ≤ twoPow n :=
  Nat.pow_le_pow_right (by decide) h

theorem twoPow_lt {m n : Nat} (h : m < n) : twoPow m < twoPow n :=
  Nat.pow_lt_pow_right (by decide) h

theorem lt_twoPow_log2 (n : Nat) : n < twoPow (n.log2 + 1) := Nat.lt_log2_self

theorem twoPow_log2_le {n : Nat} (h : n ≠ 0) : twoPow n.log2 ≤ n := Nat.log2_self_le h

/-- The units of one, as a power of two. -/
def oneBits : Nat := 1074

/-- The units of the first power of two out of range. -/
def rangeBits : Nat := 2098

/-- At most 53 significant bits, and in range. -/
def DoubleUnits (units : Nat) : Prop :=
  units < twoPow rangeBits ∧
    ∃ significand exponent, significand < twoPow 53 ∧ units = significand * twoPow exponent

structure Double where
  negative : Bool
  units : Nat
  representable : DoubleUnits units

namespace Double

theorem zero_units : DoubleUnits 0 := ⟨twoPow_pos _, 0, 0, twoPow_pos _, rfl⟩

def zero : Double := ⟨false, 0, zero_units⟩

instance : Inhabited Double := ⟨zero⟩

instance : Repr Double :=
  ⟨fun d _ => repr (if d.negative then "-" else "") ++ repr d.units⟩

theorem ext {a b : Double} (hs : a.negative = b.negative) (hu : a.units = b.units) : a = b := by
  cases a; cases b; simp_all

instance : DecidableEq Double := fun a b =>
  if h : a.negative = b.negative ∧ a.units = b.units then isTrue (ext h.1 h.2)
  else isFalse fun e => h (e ▸ ⟨rfl, rfl⟩)

/-- The number itself, in units. -/
def value (d : Double) : Int := if d.negative then -(d.units : Int) else d.units

/-- Order of the numbers; the two zeros are equal. -/
def compare (a b : Double) : Ordering := Ord.compare a.value b.value

/-- The whole number nearest to `num / den`; of two equally near, the even one. -/
def nearest (num den : Nat) : Nat :=
  if 2 * (num % den) < den ∨ (2 * (num % den) = den ∧ num / den % 2 = 0) then num / den
  else num / den + 1

/-- How far the units at `n` lie apart, as a power of two. -/
def spacing (n : Nat) : Nat := n.log2 - 52

/-- `num / den` units, rounded to 53 significant bits. -/
def roundUnits (num den : Nat) : Nat :=
  let gap := twoPow (spacing (num / den))
  nearest num (den * gap) * gap

theorem nearest_le (num den : Nat) : nearest num den ≤ num / den + 1 := by
  unfold nearest; split <;> omega

theorem div_spacing_lt (n : Nat) : n / twoPow (spacing n) < twoPow 53 := by
  rw [Nat.div_lt_iff_lt_mul (twoPow_pos _), ← twoPow_add]
  refine Nat.lt_of_lt_of_le (lt_twoPow_log2 n) (twoPow_le ?_)
  unfold spacing; omega

theorem roundUnits_representable {num den : Nat} (h : roundUnits num den < twoPow rangeBits) :
    DoubleUnits (roundUnits num den) := by
  refine ⟨h, ?_⟩
  have hq : num / (den * twoPow (spacing (num / den))) < twoPow 53 := by
    rw [← Nat.div_div_eq_div_mul]; exact div_spacing_lt _
  have hm := nearest_le num (den * twoPow (spacing (num / den)))
  by_cases full : nearest num (den * twoPow (spacing (num / den))) = twoPow 53
  · refine ⟨twoPow 52, spacing (num / den) + 1, twoPow_lt (by decide), ?_⟩
    rw [← twoPow_add, roundUnits, full, ← twoPow_add]
    congr 1; omega
  · exact ⟨_, _, by omega, rfl⟩

/-- `num / den` units under a sign, rounded; nothing when that is out of range. -/
def ofUnits? (negative : Bool) (num den : Nat) : Option Double :=
  if h : roundUnits num den < twoPow rangeBits then
    some ⟨negative, roundUnits num den, roundUnits_representable h⟩
  else none

/-- Rounding at most doubles a number that reaches one unit. -/
theorem roundUnits_le (n : Nat) : roundUnits n 1 ≤ 2 * n := by
  simp only [roundUnits, Nat.div_one, Nat.one_mul]
  by_cases small : spacing n = 0
  · have : nearest n 1 = n := by simp [nearest, Nat.mod_one]
    rw [small, twoPow_zero, this]; omega
  · have hlog : n.log2 = 52 + spacing n := by unfold spacing at *; omega
    have hn : n ≠ 0 := by rintro rfl; simp [spacing] at small
    have hle : twoPow (spacing n) ≤ n :=
      Nat.le_trans (twoPow_le (by omega)) (twoPow_log2_le hn)
    have hm := nearest_le n (twoPow (spacing n))
    have := Nat.div_mul_le_self n (twoPow (spacing n))
    generalize twoPow (spacing n) = gap at *
    calc nearest n gap * gap
        ≤ (n / gap + 1) * gap := Nat.mul_le_mul_right _ hm
      _ = n / gap * gap + gap := by rw [Nat.add_mul, Nat.one_mul]
      _ ≤ 2 * n := by omega

theorem ofInt_inRange {i : Int} (h : i.natAbs ≤ twoPow 64) :
    roundUnits (i.natAbs * twoPow oneBits) 1 < twoPow rangeBits := by
  have double := roundUnits_le (i.natAbs * twoPow oneBits)
  have le := Nat.mul_le_mul_right (twoPow oneBits) h
  rw [← twoPow_add] at le
  have lt : twoPow (64 + oneBits + 1) < twoPow rangeBits := twoPow_lt (by decide)
  rw [twoPow_succ] at lt
  omega

/-- The double nearest to a whole number of at most 64 bits. -/
def ofInt (i : Int) (h : i.natAbs ≤ twoPow 64) : Double :=
  ⟨i < 0, roundUnits (i.natAbs * twoPow oneBits) 1, roundUnits_representable (ofInt_inRange h)⟩

end Double

end JsonQuery
