import JsonQuery.Proofs.Comparison.Relation
import JsonQuery.Proofs.Comparison.Symmetry
import JsonQuery.Proofs.Evaluation.Inherit
import JsonQuery.Proofs.Evaluation.Test
import JsonQuery.Regex.Builtin.Matching

/-!
# Coherence of comparison

Equality and order are computed apart from each other. Both give the same the other way round, with
the operator mirrored, and on values of one kind that have no parts each comparison has one outcome,
of which all operators speak.
-/

namespace JsonQuery

/-! ## Order both ways -/

namespace Json

/-- The other way round the outcome is the opposite one, if there is any. -/
theorem order_swap (u v : Json) : (u.order v).map Ordering.swap = v.order u := by
  cases u with
  | num a =>
    cases v with
    | num b => exact congrArg some (Number.compare_swap a b)
    | str s =>
      rw [order, order, Option.map_map]
      exact congrArg (Option.map · _) (funext fun d => Int.compare_swap a.toDouble.value d.value)
    | null | bool | arr | obj => rfl
  | str s =>
    cases v with
    | num b =>
      rw [order, order, Option.map_map]
      exact congrArg (Option.map · _) (funext fun d => Int.compare_swap d.value b.toDouble.value)
    | str t => exact congrArg some Std.OrientedCmp.eq_swap.symm
    | null | bool | arr | obj => rfl
  | bool a =>
    cases v with
    | bool b => exact congrArg some Std.OrientedCmp.eq_swap.symm
    | null | num | str | arr | obj => rfl
  | null | arr | obj => cases v <;> rfl

/-- Two values of one kind that have no parts. -/
def Alike (u v : Json) : Prop :=
  u.kind = v.kind ∧ u.kind ∈ [.number, .string, .boolean, .null]

/-- They have an outcome, and it is equality exactly when they are equal. -/
theorem Alike.exists_order {u v : Json} (h : u.Alike v) :
    ∃ outcome, u.order v = some outcome ∧ u.equal v = (outcome == .eq) := by
  obtain ⟨hkind, hplain⟩ := h
  cases u with
  | num a =>
    cases v with
    | num b => exact ⟨a.compare b, rfl, rfl⟩
    | null | bool | str | arr | obj => cases hkind
  | str s =>
    cases v with
    | str t =>
      refine ⟨compare s t, rfl, Bool.eq_iff_iff.2 ?_⟩
      rw [beq_iff_eq, Std.LawfulEqCmp.compare_eq_iff_eq]
      exact beq_iff_eq
    | null | bool | num | arr | obj => cases hkind
  | bool a =>
    cases v with
    | bool b => exact ⟨compare a b, rfl, by cases a <;> cases b <;> rfl⟩
    | null | num | str | arr | obj => cases hkind
  | null =>
    cases v with
    | null => exact ⟨.eq, rfl, rfl⟩
    | bool | num | str | arr | obj => cases hkind
  | arr | obj => simp [kind] at hplain

end Json

/-! ## Operators -/

namespace Operator

/-- The operator that says the same of two values the other way round. -/
def mirror : Operator → Operator
  | .less => .greater
  | .lessOrEqual => .greaterOrEqual
  | .greater => .less
  | .greaterOrEqual => .lessOrEqual
  | operator => operator

theorem accepts_mirror (operator : Operator) (outcome : Ordering) :
    operator.mirror.accepts outcome.swap = operator.accepts outcome := by
  cases operator <;> cases outcome <;> rfl

/-- Two values without an outcome are in no order. -/
theorem holds_eq_any {operator : Operator} (ho : operator.IsOrdering) (l r : Json) :
    operator.holds l r = (l.order r).any operator.accepts := by
  cases horder : l.order r with
  | some outcome => exact holds_of_order horder ho
  | none =>
    simp only [IsOrdering, List.mem_cons, List.not_mem_nil, or_false] at ho
    rcases ho with rfl | rfl | rfl | rfl <;> simp [holds, horder]

theorem IsOrdering.mirror {operator : Operator} (ho : operator.IsOrdering) :
    operator.mirror.IsOrdering := by
  revert ho
  cases operator <;> decide

theorem IsOrdering.holds_mirror {operator : Operator} (ho : operator.IsOrdering) (l r : Json) :
    operator.holds l r = operator.mirror.holds r l := by
  rw [holds_eq_any ho, holds_eq_any ho.mirror, ← Json.order_swap l r]
  cases l.order r with
  | none => rfl
  | some outcome => exact (accepts_mirror operator outcome).symm

/-- Equality is the only part that needs look-ups to find every member. -/
theorem holds_mirror {l r : Json} (hl : l.UniqueKeys) (hr : r.UniqueKeys) (operator : Operator) :
    operator.holds l r = operator.mirror.holds r l := by
  cases operator with
  | equals => exact Json.equal_comm hl hr
  | notEquals => exact congrArg (!·) (Json.equal_comm hl hr)
  | less | lessOrEqual | greater | greaterOrEqual =>
    exact IsOrdering.holds_mirror (by decide) l r
  | present | matchesPattern => rfl

/-- On values of one kind without parts every operator speaks of one outcome. -/
theorem exists_outcome {l r : Json} (h : l.Alike r) :
    ∃ outcome, ∀ operator : Operator, operator.holds l r = operator.accepts outcome := by
  obtain ⟨outcome, horder, hequal⟩ := h.exists_order
  refine ⟨outcome, fun operator => ?_⟩
  cases operator with
  | equals => exact hequal
  | notEquals => exact congrArg (!·) hequal
  | less | lessOrEqual | greater | greaterOrEqual => exact holds_of_order horder (by decide)
  | present | matchesPattern => rfl

/-- However the values are, what the operators of order say of them agrees. -/
theorem order_agrees (l r : Json) :
    ¬(less.holds l r = true ∧ greater.holds l r = true) ∧
    (less.holds l r = true → lessOrEqual.holds l r = true) ∧
    (greater.holds l r = true → greaterOrEqual.holds l r = true) ∧
    (lessOrEqual.holds l r = true → less.holds l r = false → greaterOrEqual.holds l r = true) := by
  rw [holds_eq_any (by decide), holds_eq_any (by decide), holds_eq_any (by decide),
    holds_eq_any (by decide)]
  cases l.order r with
  | none => simp
  | some outcome => cases outcome <;> decide

/-- Every outcome is told by one operator of three. -/
theorem existsUnique_accepts (outcome : Ordering) :
    ∃! operator : Operator, operator ∈ [.less, .equals, .greater] ∧
      operator.accepts outcome = true := by
  have hunique : ∀ operator ∈ [less, .equals, .greater], ∀ other ∈ [less, .equals, .greater],
      operator.accepts outcome = true → other.accepts outcome = true → other = operator := by
    cases outcome <;> decide
  have hsome : ∃ operator ∈ [less, .equals, .greater], operator.accepts outcome = true := by
    cases outcome <;> decide
  obtain ⟨operator, hmem, haccepts⟩ := hsome
  exact ⟨operator, ⟨hmem, haccepts⟩, fun other h =>
    hunique operator hmem other h.1 haccepts h.2⟩

/-- Of two values of one kind without parts one is less, equal or greater, and no two of these. -/
theorem trichotomy {l r : Json} (h : l.Alike r) :
    (∃! operator : Operator, operator ∈ [.less, .equals, .greater] ∧
      operator.holds l r = true) ∧
    lessOrEqual.holds l r = (less.holds l r || equals.holds l r) ∧
    greaterOrEqual.holds l r = (greater.holds l r || equals.holds l r) := by
  obtain ⟨outcome, houtcome⟩ := exists_outcome h
  simp only [houtcome]
  exact ⟨existsUnique_accepts outcome, rfl, rfl⟩

end Operator

/-! ## Tests -/

theorem Operator.Compares.mirror {operator : Operator} (h : operator.Compares) :
    operator.mirror.Compares := by
  revert h
  cases operator <;> decide

section

variable [Regex.Engine] {operator : Operator} {left right : Operand} {document candidate : Json}

/-- What a test compares are values of the document, of the candidate and of literals. -/
theorem Condition.holds_swapped (h : operator.Compares) (hdocument : document.UniqueKeys)
    (hcandidate : candidate.UniqueKeys) (hleft : left.UniqueKeys) (hright : right.UniqueKeys) :
    (Condition.test operator left (some right)).holds document candidate =
      (Condition.test operator.mirror right (some left)).holds document candidate := by
  rw [holds_compares h, holds_compares h.mirror]
  cases hl : left.value? document candidate with
  | none => cases right.value? document candidate <;> rfl
  | some l =>
    cases hr : right.value? document candidate with
    | none => rfl
    | some r =>
      have hlunique := hleft.value hdocument hcandidate hl
      have hrunique := hright.value hdocument hcandidate hr
      exact Operator.holds_mirror hlunique hrunique operator

end

/-- **Equality and order are coherent.** A test says the same with its operands exchanged and its
operator mirrored, where no object has a key twice. Of no two values both orders hold, and the
operators with equality follow from those without. On numbers, strings, booleans and nulls exactly
one of less, equal and greater holds, and the operators with equality say no more than the two. -/
theorem comparisons_coherent [Regex.Engine] :
    (∀ (operator : Operator) (left right : Operand) (document candidate : Json),
      operator.Compares → document.UniqueKeys → candidate.UniqueKeys →
      left.UniqueKeys → right.UniqueKeys →
      (Condition.test operator left (some right)).holds document candidate =
        (Condition.test operator.mirror right (some left)).holds document candidate) ∧
    (∀ l r : Json,
      ¬(Operator.less.holds l r = true ∧ Operator.greater.holds l r = true) ∧
      (Operator.less.holds l r = true → Operator.lessOrEqual.holds l r = true) ∧
      (Operator.greater.holds l r = true → Operator.greaterOrEqual.holds l r = true) ∧
      (Operator.lessOrEqual.holds l r = true → Operator.less.holds l r = false →
        Operator.greaterOrEqual.holds l r = true)) ∧
    ∀ l r : Json, l.kind = r.kind → l.kind ∈ [.number, .string, .boolean, .null] →
      (∃! operator : Operator, operator ∈ [.less, .equals, .greater] ∧
        operator.holds l r = true) ∧
      Operator.lessOrEqual.holds l r = (Operator.less.holds l r || Operator.equals.holds l r) ∧
      Operator.greaterOrEqual.holds l r =
        (Operator.greater.holds l r || Operator.equals.holds l r) := by
  refine ⟨?_, Operator.order_agrees, fun l r hkind hplain => Operator.trichotomy ⟨hkind, hplain⟩⟩
  intro operator left right document candidate h hdocument hcandidate hleft hright
  exact Condition.holds_swapped h hdocument hcandidate hleft hright

open scoped Regex.Builtin

/-- A string beside a number, members in another order, and a whole number beside the double that it
is rounded to. -/
theorem comparisons_coherent_mixed :
    let nine : Json := .num (.int ⟨9, by decide, by decide⟩)
    let odd : Integer := ⟨9007199254740993, by decide, by decide⟩
    let document : Json :=
      .obj [("limit", nine), ("key", .obj [("x", .null), ("y", .bool true)])]
    let candidate : Json :=
      .obj [("size", .str "10"), ("key", .obj [("y", .bool true), ("x", .null)])]
    let size : Operand := .path [.field (some "size")]
    let limit : Operand := .path [.root, .field (some "limit")]
    let here : Operand := .path [.field (some "key")]
    let there : Operand := .path [.root, .field (some "key")]
    document.UniqueKeys ∧ candidate.UniqueKeys ∧
      (Condition.test .greater size (some limit)).holds document candidate = true ∧
      (Condition.test .less limit (some size)).holds document candidate = true ∧
      (Condition.test .equals here (some there)).holds document candidate = true ∧
      (Condition.test .equals there (some here)).holds document candidate = true ∧
      Operator.greater.holds (.str "10") nine = true ∧
      Operator.greaterOrEqual.holds (.str "10") nine = true ∧
      Operator.equals.holds (.num (.int odd)) (.num (.float odd.toDouble)) = true ∧
      Operator.less.holds (.num (.int odd)) (.num (.float odd.toDouble)) = false := by
  intro nine odd document candidate size limit here there
  have hdocument : document.UniqueKeys := by
    simp [document, nine, Json.UniqueKeys, Json.UniqueKeysMembers]
  have hcandidate : candidate.UniqueKeys := by
    simp [candidate, Json.UniqueKeys, Json.UniqueKeysMembers]
  have hsize : (Condition.test .greater size (some limit)).holds document candidate = true := by
    decide +kernel
  have hkey : (Condition.test .equals here (some there)).holds document candidate = true := by
    decide +kernel
  have hgreater : Operator.greater.holds (.str "10") nine = true := by decide +kernel
  have hodd : Operator.equals.holds (.num (.int odd)) (.num (.float odd.toDouble)) = true := by
    decide +kernel
  obtain ⟨hswapped, hagrees, htrichotomy⟩ := comparisons_coherent
  have hlimit := hswapped .greater size limit document candidate (by decide) hdocument hcandidate
    trivial trivial
  have hkey' := hswapped .equals here there document candidate (by decide) hdocument hcandidate
    trivial trivial
  obtain ⟨hone, -, -⟩ := htrichotomy (.num (.int odd)) (.num (.float odd.toDouble)) rfl (by decide)
  have hless : Operator.less.holds (.num (.int odd)) (.num (.float odd.toDouble)) = false := by
    by_contra hless
    cases hone.unique ⟨by decide, hodd⟩ ⟨by decide, Bool.not_eq_false _ ▸ hless⟩
  exact ⟨hdocument, hcandidate, hsize, hlimit.symm.trans hsize, hkey, hkey'.symm.trans hkey,
    hgreater, (hagrees _ _).2.2.1 hgreater, hodd, hless⟩

end JsonQuery
