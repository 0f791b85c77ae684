import JsonQuery.Number.Double

/-!
# Decimal numerals

Reading of whole and of fractional decimal texts. A fraction has a sign or none, digits with at most
one point among or beside them, and an exponent or none; at least one digit stands before the
exponent, and at least one in it.

A decimal becomes the double nearest to it, a tie going to the even significand. A decimal beyond
the largest double has none.
-/

namespace JsonQuery

/-- The value of a nonempty run of digits. -/
def natOfText? (cs : List Char) : Option Nat :=
  if cs ≠ [] ∧ cs.all Char.isDigit then some (Nat.ofDigitChars 10 cs 0) else none

/-- A whole number: digits, after a minus sign or none. -/
def intOfText? : List Char → Option Int
  | '-' :: digits => (natOfText? digits).map fun (n : Nat) => -(n : Int)
  | digits => (natOfText? digits).map Int.ofNat

def natText (n : Nat) : List Char := Nat.toDigits 10 n

def intText (i : Int) : List Char :=
  if i < 0 then '-' :: natText i.natAbs else natText i.natAbs

/-- The number `digits · 10 ^ exponent` under a sign, which zero keeps too. -/
structure Decimal where
  negative : Bool
  digits : Nat
  exponent : Int
deriving DecidableEq, Repr

namespace Decimal

/-- What follows the digits of a fraction: nothing, or an exponent up to the end. -/
def exponentOfText? : List Char → Option Int
  | [] => some 0
  | c :: rest =>
    if c = 'e' ∨ c = 'E' then
      match rest with
      | '+' :: digits => (natOfText? digits).map Int.ofNat
      | '-' :: digits => (natOfText? digits).map fun (n : Nat) => -(n : Int)
      | digits => (natOfText? digits).map Int.ofNat
    else none

def ofUnsignedText? (negative : Bool) (cs : List Char) : Option Decimal :=
  let whole := cs.takeWhile Char.isDigit
  let afterWhole := cs.dropWhile Char.isDigit
  let (fraction, rest) := match afterWhole with
    | '.' :: r => (r.takeWhile Char.isDigit, r.dropWhile Char.isDigit)
    | r => ([], r)
  if whole = [] ∧ fraction = [] then none
  else (exponentOfText? rest).map fun e =>
    ⟨negative, Nat.ofDigitChars 10 (whole ++ fraction) 0, e - fraction.length⟩

def ofText? : List Char → Option Decimal
  | '-' :: cs => ofUnsignedText? true cs
  | '+' :: cs => ofUnsignedText? false cs
  | cs => ofUnsignedText? false cs

end Decimal

@[simp] theorem natText_ne_nil (n : Nat) : natText n ≠ [] := by
  simp [natText, Nat.toDigits_ne_nil]

theorem isDigit_of_mem_natText {n : Nat} {c : Char} (h : c ∈ natText n) : c.isDigit = true :=
  Nat.isDigit_of_mem_toDigits (by decide) (by decide) h

@[simp] theorem natOfText?_natText (n : Nat) : natOfText? (natText n) = some n := by
  have hd : (natText n).all Char.isDigit = true :=
    List.all_eq_true.2 fun _ h => isDigit_of_mem_natText h
  rw [natOfText?, if_pos ⟨natText_ne_nil n, hd⟩]
  simp [natText, Nat.ofDigitChars_toDigits]

theorem intOfText?_minus (digits : List Char) :
    intOfText? ('-' :: digits) = (natOfText? digits).map fun (n : Nat) => -(n : Int) := rfl

@[simp] theorem intOfText?_intText (i : Int) : intOfText? (intText i) = some i := by
  unfold intText
  split
  · rw [intOfText?_minus, natOfText?_natText, Option.map_some, Option.some.injEq]
    omega
  · unfold intOfText?
    split
    · rename_i digits h
      have := isDigit_of_mem_natText (n := i.natAbs) (c := '-') (by rw [h]; simp)
      simp at this
    · simp only [natOfText?_natText, Option.map_some, Option.some.injEq, Int.ofNat_eq_natCast]
      omega

/-! ## The nearest double -/

namespace Decimal

/-- The exponent of the first power of ten above the decimal. -/
def magnitude (d : Decimal) : Int := (natText d.digits).length + d.exponent

/-- Decimals from `10 ^ 309` on are out of range, and those below `10 ^ -324` are nearer to zero
than to any other double; neither needs its power of ten. -/
def toDouble? (d : Decimal) : Option Double :=
  if d.digits = 0 ∨ d.magnitude ≤ -324 then some ⟨d.negative, 0, Double.zero_units⟩
  else if 310 ≤ d.magnitude then none
  else Double.ofUnits? d.negative (d.digits * Nat.pow 10 d.exponent.toNat * twoPow oneBits)
    (Nat.pow 10 (-d.exponent).toNat)

end Decimal

/-- Reads a fraction as a double. -/
def doubleOfText? (cs : List Char) : Option Double := (Decimal.ofText? cs).bind Decimal.toDouble?

end JsonQuery
