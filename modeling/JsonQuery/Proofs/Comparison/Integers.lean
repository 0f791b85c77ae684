import JsonQuery.Proofs.Comparison.Relation
import JsonQuery.Proofs.Comparison.Text
import JsonQuery.Proofs.Number.Exact
import JsonQuery.Regex.Builtin.Matching

/-!
# Comparisons with integers

A whole number written in a path is compared exactly with one in the document, whatever their signs
and on whichever side of the operator it stands.
-/

namespace JsonQuery

theorem Operator.holds_integers (operator : Operator) (m n : Integer) :
    operator.holds (.num (.int m)) (.num (.int n)) = decide (operator.Relates m.val n.val) := by
  rw [holds_num, Number.compare_int]
  apply Bool.eq_iff_iff.2
  rw [decide_eq_true_iff]
  exact accepts_compare operator

namespace Path

/-- Both texts compile, and select the only element of the document just if the operator relates
the two numbers. -/
theorem select_integer_comparison [Regex.Engine] {spelling : String} {operator : Operator}
    (h : (spelling, operator) ∈ comparisonSpellings) (m n : Integer) (strict : Bool) :
    (∃ path, Path.parse (comparisonText "@" spelling n.decimal) = .ok path ∧
      path.selectAll strict (.arr [.num (.int m)]) =
        .ok (if operator.Relates m.val n.val then [⟨[.position 0], .num (.int m)⟩] else [])) ∧
    ∃ path, Path.parse (comparisonText n.decimal spelling "@") = .ok path ∧
      path.selectAll strict (.arr [.num (.int m)]) =
        .ok (if operator.Relates n.val m.val then [⟨[.position 0], .num (.int m)⟩] else []) := by
  constructor
  · refine ⟨_, parse_comparison h operandText_candidate (operandText_integer n), ?_⟩
    rw [selectAll_filter_singleton, holds_comparison h (value_candidate _ _) rfl,
      Operator.holds_integers]
    simp only [decide_eq_true_iff]
  · refine ⟨_, parse_comparison h (operandText_integer n) operandText_candidate, ?_⟩
    rw [selectAll_filter_singleton, holds_comparison h rfl (value_candidate _ _),
      Operator.holds_integers]
    simp only [decide_eq_true_iff]

open scoped Regex.Builtin

/-- A number below zero and one beyond the signed numbers. -/
theorem select_integer_comparison_mixed :
    let low : Integer := ⟨-9223372036854775808, by decide, by decide⟩
    ("<=", Operator.lessOrEqual) ∈ comparisonSpellings ∧
      (∃ path, Path.parse "[?(@ <= 18446744073709551615)]" = .ok path ∧
        path.selectAll true (.arr [.num (.int low)]) = .ok [⟨[.position 0], .num (.int low)⟩]) ∧
      ∃ path, Path.parse "[?(18446744073709551615 <= @)]" = .ok path ∧
        path.selectAll true (.arr [.num (.int low)]) = .ok [] := by
  intro low
  let high : Integer := ⟨18446744073709551615, by decide, by decide⟩
  have h : ("<=", Operator.lessOrEqual) ∈ comparisonSpellings := by decide
  have hleft : comparisonText "@" "<=" high.decimal = "[?(@ <= 18446744073709551615)]" := by
    decide +kernel
  have hright : comparisonText high.decimal "<=" "@" = "[?(18446744073709551615 <= @)]" := by
    decide +kernel
  have hselect := select_integer_comparison h low high true
  rw [hleft, hright] at hselect
  exact ⟨h, hselect⟩

end Path

end JsonQuery
