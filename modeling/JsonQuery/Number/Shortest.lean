import JsonQuery.Number.Decimal
import JsonQuery.Number.Double

/-!
# Shortest decimals

The text of a double has the fewest digits that read back as the same double, and of those the
digits nearest to it. A decimal reads back when it lies between the midpoints to the neighbouring
doubles; a midpoint itself belongs to the double with the even significand.
-/

namespace JsonQuery

namespace Double

/-- The numbers that round to a double, in quarters of a unit. -/
structure Interval where
  low : Nat
  middle : Nat
  high : Nat
  closed : Bool
deriving DecidableEq, Repr

/-- Below a power of two the doubles lie twice as close as above it. -/
def interval (units : Nat) : Interval :=
  let gap := twoPow (spacing units)
  let significand := units / gap
  let narrow := significand = twoPow 52 ∧ 0 < spacing units
  { low := 4 * units - (if narrow then gap else 2 * gap)
    middle := 4 * units
    high := 4 * units + 2 * gap
    closed := significand % 2 = 0 }

/-- A grid of decimals: the multiples of `10 ^ exponent`. -/
structure DecimalGrid where
  exponent : Int

namespace DecimalGrid

/-- A quarter of a unit is `per / step` of the grid's step. -/
def step (g : DecimalGrid) : Nat := Nat.pow 10 g.exponent.toNat * twoPow (oneBits + 2)

def per (g : DecimalGrid) : Nat := Nat.pow 10 (-g.exponent).toNat

def inside (g : DecimalGrid) (i : Interval) (n : Nat) : Bool :=
  let point := n * g.step
  if i.closed then i.low * g.per ≤ point && point ≤ i.high * g.per
  else i.low * g.per < point && point < i.high * g.per

/-- The point of the grid that lies in the interval, the nearest to its middle if there are two. -/
def nearestInside? (g : DecimalGrid) (i : Interval) : Option Nat :=
  let below := i.middle * g.per / g.step
  let up := nearest (i.middle * g.per) g.step
  let other := if up = below then below + 1 else below
  if g.inside i up then some up else if g.inside i other then some other else none

end DecimalGrid

/-- The exponent of the first power of ten above the units, within one of the logarithm's
estimate. -/
def magnitude (units : Nat) : Int :=
  let estimate := ((units.log2 : Int) - oneBits) * 30103 / 100000 + 1
  let g : DecimalGrid := ⟨estimate⟩
  if g.step ≤ 4 * units * g.per then estimate + 1 else estimate

/-- Digits and exponent of the shortest decimal, for units other than zero. Seventeen digits are
always enough. -/
def shortest (units : Nat) : Nat × Int :=
  let m := magnitude units
  let i := interval units
  let onGrid? (count : Nat) : Option (Nat × Int) :=
    let g : DecimalGrid := ⟨m - count⟩
    (g.nearestInside? i).map fun n => (n, g.exponent)
  ((List.range' 1 17).findSome? onGrid?).getD (units, -oneBits)

/-- Positional from `10 ^ -5` up to `10 ^ 16`, always with a fraction; otherwise one digit before
the point and a signed exponent. `point` counts the digits before the decimal point. -/
def layout (digits : List Char) (point : Int) : List Char :=
  if -4 ≤ point ∧ point ≤ 16 then
    if point ≤ 0 then '0' :: '.' :: (List.replicate (-point).toNat '0' ++ digits)
    else
      let whole := digits.take point.toNat
      let fraction := digits.drop point.toNat
      whole ++ List.replicate (point.toNat - whole.length) '0' ++
        '.' :: (if fraction = [] then ['0'] else fraction)
  else
    let exponent := point - 1
    let mark := if exponent < 0 then ['e'] else ['e', '+']
    digits.take 1 ++ (if digits.length ≤ 1 then [] else '.' :: digits.drop 1) ++
      mark ++ intText exponent

def magnitudeText (units : Nat) : List Char :=
  if units = 0 then ['0', '.', '0']
  else
    let (digits, exponent) := shortest units
    let written := natText digits
    let kept := (written.reverse.dropWhile (· == '0')).reverse
    layout kept (exponent + written.length)

def text (d : Double) : List Char :=
  if d.negative then '-' :: magnitudeText d.units else magnitudeText d.units

end Double

end JsonQuery
