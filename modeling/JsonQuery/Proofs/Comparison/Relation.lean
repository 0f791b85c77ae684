import JsonQuery.Select.Evaluate
import Mathlib.Data.Int.Order.Basic
import Mathlib.Order.Compare
import Mathlib.Order.Lattice

/-!
# Operators as relations

What an operator that compares says of two members of a linear order, and the outcomes of comparing
them that it accepts. Comparing two values is accepting the outcome, as soon as they have one.
-/

namespace JsonQuery.Operator

/-- What the operator says of two members of an order. The operators that do not compare say
nothing that could hold. -/
def Relates {α : Type} [LT α] [LE α] : Operator → α → α → Prop
  | .equals, x, y => x = y
  | .notEquals, x, y => x ≠ y
  | .less, x, y => x < y
  | .lessOrEqual, x, y => x ≤ y
  | .greater, x, y => x > y
  | .greaterOrEqual, x, y => x ≥ y
  | .present, _, _ | .matchesPattern, _, _ => False

instance {α : Type} [LT α] [LE α] [DecidableEq α] [DecidableLT α] [DecidableLE α]
    (operator : Operator) (x y : α) : Decidable (operator.Relates x y) :=
  match operator with
  | .equals => inferInstanceAs (Decidable (x = y))
  | .notEquals => inferInstanceAs (Decidable (x ≠ y))
  | .less => inferInstanceAs (Decidable (x < y))
  | .lessOrEqual => inferInstanceAs (Decidable (x ≤ y))
  | .greater => inferInstanceAs (Decidable (y < x))
  | .greaterOrEqual => inferInstanceAs (Decidable (y ≤ x))
  | .present | .matchesPattern => inferInstanceAs (Decidable False)

/-- The operators that order two values. -/
def IsOrdering (operator : Operator) : Prop :=
  operator ∈ [.less, .lessOrEqual, .greater, .greaterOrEqual]

instance (operator : Operator) : Decidable operator.IsOrdering :=
  inferInstanceAs (Decidable (_ ∈ _))

/-- The outcomes of comparing two values of which the operator holds. -/
def accepts : Operator → Ordering → Bool
  | .equals, outcome => outcome == .eq
  | .notEquals, outcome => !(outcome == .eq)
  | .less, outcome => outcome == .lt
  | .lessOrEqual, outcome => outcome == .lt || outcome == .eq
  | .greater, outcome => outcome == .gt
  | .greaterOrEqual, outcome => outcome == .gt || outcome == .eq
  | .present, _ | .matchesPattern, _ => false

/-- An operator accepts the outcome of comparing what it relates. -/
theorem accepts_iff {α : Type} [LinearOrder α] {x y : α} {outcome : Ordering}
    (lt : outcome = .lt ↔ x < y) (gt : outcome = .gt ↔ y < x) (operator : Operator) :
    operator.accepts outcome = true ↔ operator.Relates x y := by
  have eq : outcome = .eq ↔ x = y := by
    constructor
    · rintro rfl
      exact le_antisymm (not_lt.1 fun h => nomatch gt.2 h) (not_lt.1 fun h => nomatch lt.2 h)
    · rintro rfl
      cases outcome with
      | lt => exact absurd (lt.1 rfl) (lt_irrefl x)
      | eq => rfl
      | gt => exact absurd (gt.1 rfl) (lt_irrefl x)
  cases operator with
  | equals => simp [accepts, Relates, eq]
  | notEquals => simp [accepts, Relates, eq]
  | less => simp [accepts, Relates, lt]
  | lessOrEqual => simp [accepts, Relates, lt, eq, le_iff_lt_or_eq]
  | greater => simp [accepts, Relates, gt]
  | greaterOrEqual => simp [accepts, Relates, gt, eq, le_iff_lt_or_eq, @eq_comm α y]
  | present | matchesPattern => simp [accepts, Relates]

theorem accepts_compare {x y : Int} (operator : Operator) :
    operator.accepts (Ord.compare x y) = true ↔ operator.Relates x y :=
  accepts_iff compare_lt_iff_lt compare_gt_iff_gt operator

theorem holds_num (operator : Operator) (a b : Number) :
    operator.holds (.num a) (.num b) = operator.accepts (a.compare b) := by
  cases operator <;> simp [holds, accepts, Json.equal, Json.equalBy, Json.order]

theorem holds_of_order {l r : Json} {outcome : Ordering} (h : l.order r = some outcome)
    {operator : Operator} (ho : operator.IsOrdering) :
    operator.holds l r = operator.accepts outcome := by
  simp only [IsOrdering, List.mem_cons, List.not_mem_nil, or_false] at ho
  rcases ho with rfl | rfl | rfl | rfl <;> simp [holds, accepts, h]

end JsonQuery.Operator
