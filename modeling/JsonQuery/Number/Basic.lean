import JsonQuery.Number.Shortest

/-!
# Numbers

A number is a whole number of 64 bits, signed or unsigned, or a finite double. The two kinds are
told apart when a number is written, and compared by value.
-/

namespace JsonQuery

/-- The whole numbers of 64 bits with a sign, which positions in a path are. -/
def InWord (i : Int) : Prop := -0x8000000000000000 ≤ i ∧ i < 0x8000000000000000

instance (i : Int) : Decidable (InWord i) := inferInstanceAs (Decidable (_ ∧ _))

/-- A whole number that fits in 64 bits, with a sign or without. -/
structure Integer where
  val : Int
  lower : -0x8000000000000000 ≤ val := by decide
  upper : val < 0x10000000000000000 := by decide
deriving DecidableEq, Repr

namespace Integer

def ofInt? (i : Int) : Option Integer :=
  if h : -0x8000000000000000 ≤ i ∧ i < 0x10000000000000000 then some ⟨i, h.1, h.2⟩ else none

/-- Fits in 64 bits with a sign. -/
def isSigned (i : Integer) : Bool := i.val < 0x8000000000000000

/-- Fits in 64 bits without a sign. -/
def isUnsigned (i : Integer) : Bool := 0 ≤ i.val

def toDouble (i : Integer) : Double :=
  Double.ofInt i.val (by
    have : twoPow 64 = 0x10000000000000000 := by decide
    have := i.lower
    have := i.upper
    omega)

end Integer

inductive Number
  | int (i : Integer)
  | float (d : Double)
deriving DecidableEq, Repr

namespace Number

def toDouble : Number → Double
  | .int i => i.toDouble
  | .float d => d

/-- Whole numbers are compared exactly when both have a sign or both have none; any other two
numbers are compared as doubles. -/
def compare : Number → Number → Ordering
  | .int a, .int b =>
    if a.isSigned && b.isSigned || a.isUnsigned && b.isUnsigned then Ord.compare a.val b.val
    else a.toDouble.compare b.toDouble
  | a, b => a.toDouble.compare b.toDouble

/-- The same kind of number and the same value; the two zeros of doubles are the same. -/
def same : Number → Number → Bool
  | .int a, .int b => a.val == b.val
  | .float a, .float b => a.value == b.value
  | _, _ => false

/-- A text with a point or an exponent is a double. Any other is a whole number if it fits in 64
bits, and else a double too. -/
def ofText? (cs : List Char) : Option Number :=
  if cs.any fun c => c == '.' || c == 'e' || c == 'E' then (doubleOfText? cs).map .float
  else
    match (intOfText? cs).bind Integer.ofInt? with
    | some i => some (.int i)
    | none => (doubleOfText? cs).map .float

def text : Number → List Char
  | .int i => intText i.val
  | .float d => d.text

end Number

end JsonQuery
