import JsonQuery.Select.Evaluate

/-!
# Tests by their operands

A test looks at its operands only through what they are for a candidate: the value of one, if it has
any, and whether it is present. So tests whose operands agree hold alike, and a test that compares
something absent does not hold.
-/

namespace JsonQuery

variable [Regex.Engine]

/-- The operators that compare two values. -/
def Operator.Compares (operator : Operator) : Prop := operator ∉ [.present, .matchesPattern]

instance (operator : Operator) : Decidable operator.Compares :=
  inferInstanceAs (Decidable (_ ∉ _))

/-- A comparison holds as the operator does of the two values, where both are there. -/
theorem Condition.holds_compares {operator : Operator} (h : operator.Compares)
    (left right : Operand) (document candidate : Json) :
    (Condition.test operator left (some right)).holds document candidate =
      match left.value? document candidate, right.value? document candidate with
      | some l, some r => operator.holds l r
      | _, _ => false := by
  cases operator with
  | present | matchesPattern => exact absurd h (by decide)
  | _ => rfl

/-- An operand is the same for a candidate of one document as for a candidate of another. -/
structure Operand.Agrees (operand : Operand) (document candidate document' candidate' : Json) :
    Prop where
  value : operand.value? document candidate = operand.value? document' candidate'
  present : operand.isPresent document candidate = operand.isPresent document' candidate'

/-- An operand that is not there, whatever is asked of it. -/
structure Operand.Absent (operand : Operand) (document candidate : Json) : Prop where
  value : operand.value? document candidate = none
  present : operand.isPresent document candidate = false

section

variable {document candidate document' candidate' : Json}

theorem Condition.holds_test_congr {operator : Operator} {left : Operand} {right : Option Operand}
    (hleft : left.Agrees document candidate document' candidate')
    (hright : ∀ operand ∈ right, operand.Agrees document candidate document' candidate') :
    (Condition.test operator left right).holds document candidate =
      (Condition.test operator left right).holds document' candidate' := by
  cases right with
  | none =>
    cases operator with
    | present => exact hleft.present
    | _ => rfl
  | some right =>
    have hright : right.Agrees document candidate document' candidate' := hright right rfl
    cases operator with
    | present => exact hleft.present
    | matchesPattern =>
      cases right with
      | pattern p => rw [holds, holds, hleft.value]
      | _ => rfl
    | _ => simp only [holds, hleft.value, hright.value]

theorem Condition.holds_of_left_absent {left : Operand} (h : left.Absent document candidate)
    (operator : Operator) (right : Option Operand) :
    (Condition.test operator left right).holds document candidate = false := by
  cases right with
  | none =>
    cases operator with
    | present => exact h.present
    | _ => rfl
  | some right =>
    cases operator with
    | present => exact h.present
    | matchesPattern =>
      cases right with
      | pattern p =>
        rw [holds, h.value]
        rfl
      | _ => rfl
    | _ => simp only [holds, h.value]

/-- All operators but one look at the right side. -/
theorem Condition.holds_of_right_absent {right : Operand} (h : right.Absent document candidate)
    {operator : Operator} (hoperator : operator ≠ .present) (left : Operand) :
    (Condition.test operator left (some right)).holds document candidate = false := by
  cases operator with
  | present => exact absurd rfl hoperator
  | matchesPattern =>
    cases right with
    | pattern p => cases h.present
    | _ => rfl
  | _ =>
    simp only [holds, h.value]
    split
    · next hnone => cases hnone
    · rfl

end

end JsonQuery
