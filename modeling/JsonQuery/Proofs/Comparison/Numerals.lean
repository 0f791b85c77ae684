import JsonQuery.Proofs.Comparison.Relation
import JsonQuery.Proofs.Comparison.Text
import JsonQuery.Proofs.Evaluation.Each
import JsonQuery.Proofs.Number.Exact
import JsonQuery.Proofs.Number.Reading
import JsonQuery.Regex.Builtin.Matching

/-!
# Numerals in strings

A string that holds the decimal text of a whole number is ordered against a whole number through the
doubles nearest to the two. Two numbers with one nearest double are ordered as if they were equal,
though they may differ; any other two are ordered as the numbers are.
-/

namespace JsonQuery

open Text

/-! ## Whole numbers with one nearest double -/

namespace Integer

/-- Different numbers that are rounded to the same double. -/
def Merged (x y : Integer) : Prop := x.val ≠ y.val ∧ x.toDouble.value = y.toDouble.value

instance (x y : Integer) : Decidable (x.Merged y) := inferInstanceAs (Decidable (_ ∧ _))

variable {x y : Integer}

theorem merged_comm : x.Merged y ↔ y.Merged x := by
  unfold Merged
  rw [ne_comm, eq_comm]

theorem toDouble_lt_iff (h : ¬ x.Merged y) :
    x.toDouble.value < y.toDouble.value ↔ x.val < y.val := by
  constructor
  · intro hlt
    by_contra hge
    have hle := value_toDouble_mono (not_lt.1 hge)
    omega
  · intro hlt
    have hle := value_toDouble_mono (le_of_lt hlt)
    have hne : x.toDouble.value ≠ y.toDouble.value := fun heq => h ⟨by omega, heq⟩
    omega

/-- A number below 53 bits and its neighbours are doubles, so nothing is rounded onto it. -/
theorem toDouble_lt_of_small (h : x.val < y.val)
    (hsmall : x.val.natAbs < twoPow 53 ∨ y.val.natAbs < twoPow 53) :
    x.toDouble.value < y.toDouble.value := by
  have hunit : (0 : Int) < twoPow oneBits := Int.natCast_pos.2 (twoPow_pos oneBits)
  rw [value_toDouble, value_toDouble]
  -- the rounding of the larger one is at least that of the neighbour, or the other way round
  obtain hx | hy := hsmall
  · have hself := Double.roundValue_of_small (show x.val.natAbs ≤ twoPow 53 by omega)
    have hnext := Double.roundValue_of_small (show (x.val + 1).natAbs ≤ twoPow 53 by omega)
    have hle : Double.roundValue ((x.val + 1) * twoPow oneBits) ≤
        Double.roundValue (y.val * twoPow oneBits) :=
      Double.roundValue_mono (Int.mul_le_mul_of_nonneg_right (by omega) (by omega))
    rw [hnext, Int.add_mul] at hle
    rw [hself]
    omega
  · have hself := Double.roundValue_of_small (show y.val.natAbs ≤ twoPow 53 by omega)
    have hnext := Double.roundValue_of_small (show (y.val - 1).natAbs ≤ twoPow 53 by omega)
    have hle : Double.roundValue (x.val * twoPow oneBits) ≤
        Double.roundValue ((y.val - 1) * twoPow oneBits) :=
      Double.roundValue_mono (Int.mul_le_mul_of_nonneg_right (by omega) (by omega))
    rw [hnext, Int.sub_mul] at hle
    rw [hself]
    omega

theorem large_of_merged (h : x.Merged y) :
    twoPow 53 ≤ x.val.natAbs ∧ twoPow 53 ≤ y.val.natAbs := by
  obtain ⟨hne, heq⟩ := h
  by_contra hsmall
  have hone : x.val.natAbs < twoPow 53 ∨ y.val.natAbs < twoPow 53 := by omega
  obtain hlt | hgt := Int.lt_or_gt_of_ne hne
  · have := toDouble_lt_of_small hlt hone
    omega
  · have := toDouble_lt_of_small hgt hone.symm
    omega

theorem accepts_toDouble (operator : Operator) (x y : Integer) :
    operator.accepts (x.toDouble.compare y.toDouble) = true ↔
      if x.Merged y then operator.accepts .eq = true else operator.Relates x.val y.val := by
  unfold Double.compare
  by_cases hmerged : x.Merged y
  · rw [if_pos hmerged, hmerged.2, compare_eq_iff_eq.2 rfl]
  · rw [if_neg hmerged]
    have hlt := toDouble_lt_iff hmerged
    have hgt := toDouble_lt_iff (mt merged_comm.1 hmerged)
    exact Operator.accepts_iff (compare_lt_iff_lt.trans hlt) (compare_gt_iff_gt.trans hgt) operator

end Integer

/-! ## Strings that hold a number -/

namespace Json

theorem numberOfString?_decimal (x : Integer) : numberOfString? x.decimal = some x.toDouble := by
  have hblank : ∀ c ∈ intText x.val, isBlank c = false := fun _ hc =>
    not_blank_of_isIndexChar (isIndexChar_of_mem_intText hc)
  have htrimmed : Trimmed (intText x.val) :=
    ⟨fun c hc => hblank c (List.mem_of_head? hc), fun c hc => hblank c (List.mem_of_getLast? hc)⟩
  have htrim := trimBlanks_gaps Gap.nil Gap.nil htrimmed
  rw [List.nil_append, List.append_nil] at htrim
  rw [numberOfString?, Integer.decimal, String.toList_ofList, htrim, doubleOfText?_intText]

theorem order_decimal_number (x y : Integer) :
    (Json.str x.decimal).order (.num (.int y)) = some (x.toDouble.compare y.toDouble) := by
  rw [order, numberOfString?_decimal]
  rfl

theorem order_number_decimal (x y : Integer) :
    (Json.num (.int y)).order (.str x.decimal) = some (y.toDouble.compare x.toDouble) := by
  rw [order, numberOfString?_decimal]
  rfl

end Json

/-! ## Comparisons with such strings -/

namespace Operator

variable {operator : Operator}

theorem holds_decimal_number (ho : operator.IsOrdering) (x y : Integer) :
    operator.holds (.str x.decimal) (.num (.int y)) = true ↔
      if x.Merged y then operator.accepts .eq = true else operator.Relates x.val y.val := by
  rw [holds_of_order (Json.order_decimal_number x y) ho]
  exact Integer.accepts_toDouble operator x y

theorem holds_number_decimal (ho : operator.IsOrdering) (x y : Integer) :
    operator.holds (.num (.int y)) (.str x.decimal) = true ↔
      if y.Merged x then operator.accepts .eq = true else operator.Relates y.val x.val := by
  rw [holds_of_order (Json.order_number_decimal x y) ho]
  exact Integer.accepts_toDouble operator y x

end Operator

section

variable [Regex.Engine]

theorem operandText_f : OperandText (.path [.field (some "f")]) "@.f" :=
  @operandText_member _ 'f' [] (by decide) (by simp) (by decide)

theorem Operand.value_member {document v : Json} {members : List (String × Json)} {name : String}
    (h : members.lookup name = some v) :
    (Operand.path [.field (some name)]).value? document (.obj members) = some v := by
  have hfield : Node.fieldOf false (some name) (Node.root (.obj members)) =
      .ok [⟨[.key name], v⟩] := by
    simp [Node.fieldOf, Node.root, Node.child, h]
  rw [Operand.value?, Path.selectFrom, Selector.select, onEach_singleton, hfield]
  rfl

theorem Path.parse_member_greater (y : Integer) :
    Path.parse (comparisonText "@.f" ">" y.decimal) = .ok [.filter (.test .greater
      (.path [.field (some "f")]) (some (.literal (.num (.int y)))))] :=
  parse_comparison (by decide) operandText_f (operandText_integer y)

/-- Strings that hold whole numbers are ordered as the numbers are, on either side of the operator
and in a filter, unless the two numbers are merged, which takes 53 bits of both. -/
theorem numerals_ordered_unless_merged (x y : Integer) :
    (∀ operator : Operator, operator.IsOrdering →
      (operator.holds (.str x.decimal) (.num (.int y)) = true ↔
        if x.Merged y then operator.accepts .eq = true else operator.Relates x.val y.val) ∧
      (operator.holds (.num (.int y)) (.str x.decimal) = true ↔
        if y.Merged x then operator.accepts .eq = true else operator.Relates y.val x.val)) ∧
    (x.Merged y → twoPow 53 ≤ x.val.natAbs ∧ twoPow 53 ≤ y.val.natAbs) ∧
    ∃ condition : Condition,
      Path.parse (comparisonText "@.f" ">" y.decimal) = .ok [.filter condition] ∧
        ∀ (document : Json) (members : List (String × Json)),
          members.lookup "f" = some (.str x.decimal) →
          (condition.holds document (.obj members) = true ↔ ¬ x.Merged y ∧ y.val < x.val) := by
  refine ⟨?_, Integer.large_of_merged, ?_⟩
  · intro operator ho
    exact ⟨Operator.holds_decimal_number ho x y, Operator.holds_number_decimal ho x y⟩
  · refine ⟨_, Path.parse_member_greater y, ?_⟩
    intro document members hx
    have hspelling : (">", Operator.greater) ∈ comparisonSpellings := by decide
    have ho : Operator.greater.IsOrdering := by decide
    rw [holds_comparison hspelling (Operand.value_member hx) rfl, Operator.holds_decimal_number ho]
    by_cases hmerged : x.Merged y
    · simp [hmerged, Operator.accepts]
    · simp [hmerged, Operator.Relates]

end

open scoped Regex.Builtin

/-- The string of a whole number beyond 53 bits is not greater than the number below it. -/
theorem numeral_not_greater_than_predecessor :
    let odd : Integer := ⟨9007199254740993, by decide, by decide⟩
    let even : Integer := ⟨9007199254740992, by decide, by decide⟩
    even.val < odd.val ∧ Operator.greater.holds (.str odd.decimal) (.num (.int even)) = false ∧
      Operator.less.holds (.num (.int even)) (.str odd.decimal) = false ∧
      ∃ path, Path.parse "[?(@.f > 9007199254740992)]" = .ok path ∧
        path.selectAll false (.arr [.obj [("f", .str odd.decimal)]]) = .ok [] := by
  intro odd even
  have hgreater : Operator.greater.holds (.str odd.decimal) (.num (.int even)) = false := by
    decide +kernel
  have hless : Operator.less.holds (.num (.int even)) (.str odd.decimal) = false := by
    decide +kernel
  have htext : comparisonText "@.f" ">" even.decimal = "[?(@.f > 9007199254740992)]" := by
    decide +kernel
  have hparse := Path.parse_member_greater even
  rw [htext] at hparse
  refine ⟨by decide, hgreater, hless, _, hparse, ?_⟩
  have hspelling : (">", Operator.greater) ∈ comparisonSpellings := by decide
  have hmember : [("f", Json.str odd.decimal)].lookup "f" = some (.str odd.decimal) := rfl
  rw [selectAll_filter_singleton, holds_comparison hspelling (Operand.value_member hmember) rfl,
    hgreater]
  rfl

end JsonQuery
