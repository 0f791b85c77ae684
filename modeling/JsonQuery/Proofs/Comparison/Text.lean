import JsonQuery.Proofs.Evaluation.Test
import JsonQuery.Proofs.Nesting

/-!
# Texts of comparisons

A comparison in a filter is two operands with the spelling of an operator between them, whatever
the operands are. It holds of a candidate as the operator does of the two values.
-/

namespace JsonQuery

open Text

/-- The operators that compare two values, as they are written. -/
def comparisonSpellings : List (String × Operator) :=
  [("==", .equals), ("!=", .notEquals), ("<>", .notEquals), ("<", .less), ("<=", .lessOrEqual),
   (">", .greater), (">=", .greaterOrEqual)]

theorem mem_of_comparisonSpellings {spelling : String} {operator : Operator}
    (h : (spelling, operator) ∈ comparisonSpellings) :
    (spelling.toList, operator) ∈ operatorSpellings ∧ operator ≠ .present ∧
      operator ≠ .matchesPattern := by
  simp only [comparisonSpellings, List.mem_cons, Prod.mk.injEq, List.not_mem_nil, or_false] at h
  rcases h with ⟨rfl, rfl⟩ | ⟨rfl, rfl⟩ | ⟨rfl, rfl⟩ | ⟨rfl, rfl⟩ | ⟨rfl, rfl⟩ | ⟨rfl, rfl⟩ |
    ⟨rfl, rfl⟩ <;> decide

/-- A filter that keeps what compares. -/
def comparisonText (left spelling right : String) : String :=
  "[?(" ++ left ++ " " ++ spelling ++ " " ++ right ++ ")]"

def Integer.decimal (i : Integer) : String := String.ofList (intText i.val)

/-! ## Operands -/

variable [Regex.Engine]

/-- The text is read as the operand in front of whatever ends one, blanks around it or not. -/
def OperandText (operand : Operand) (text : String) : Prop :=
  ∀ t, Spaced text.toList t → ∀ c rest, endsOperand c = true →
    ReadsOperand (t ++ c :: rest) operand (c :: rest)

theorem operandText_candidate : OperandText (.path []) "@" := by
  intro t ht
  have hspells : SpellsOperand (.path []) t := .candidate .nil ht
  have hwell : (Operand.path []).WellFormed AnyNumber := .candidate .nil
  exact hspells.reads hwell

theorem operandText_integer (i : Integer) :
    OperandText (.literal (.num (.int i))) i.decimal := by
  intro t ht
  rw [Integer.decimal, String.toList_ofList] at ht
  have hspells : SpellsOperand (.literal (.num (.int i))) t := .leaf (.int i) ht
  have hwell : (Operand.literal (.num (.int i))).WellFormed AnyNumber := .leaf (.num trivial)
  exact hspells.reads hwell

theorem value_candidate (document v : Json) : (Operand.path []).value? document v = some v := rfl

/-- A name of the candidate's member may also be written behind a dot. -/
theorem operandText_member {c : Char} {word : List Char} (hc : isNameChar true c = true)
    (hword : ∀ d ∈ word, isNameChar true d = true) (hstar : String.ofList (c :: word) ≠ "*") :
    OperandText (.path [.field (some (String.ofList (c :: word)))])
      (String.ofList ('@' :: '.' :: c :: word)) := by
  rintro t ⟨g, h, hg, hh, rfl⟩ d rest hd
  have hend : EndsAt true (h ++ d :: rest) := endsAt_operand hh hd rest
  have hends : Ends (isNameChar true) (h ++ d :: rest) := by
    intro e he
    simp [isNameChar, hend e he]
  have hname := ReadsPath.name (j := Junction.start.addDot) (by decide) hc hword hends
    (readsPath_end rfl hend)
  have hmember : Selector.member Junction.start.addDot.scans (String.ofList (c :: word)) =
      .field (some (String.ofList (c :: word))) := by
    rw [Selector.member, if_neg hstar]
    rfl
  rw [hmember] at hname
  have hread := ReadsOperand.candidate hg (.dot hname) hh (endsOperand_spec hd).1
  simpa using hread

/-! ## Comparisons -/

section

variable {operator : Operator} {left right : Operand} {spelling l r : String}

theorem testText_comparison (h : (spelling, operator) ∈ comparisonSpellings)
    (hl : OperandText left l) (hr : OperandText right r) :
    TestText (l.toList ++ [' '] ++ (spelling.toList ++ (' ' :: r.toList)))
      (.test operator left (some right)) := by
  have blank : Gap [' '] := by decide
  have hleft := hl (l.toList ++ [' ']) ⟨[], [' '], Gap.nil, blank, rfl⟩
  have hright := hr (' ' :: r.toList) ⟨[' '], [], blank, Gap.nil, by simp⟩
  intro c rest hc
  have hread := readsTest_compare hleft (mem_of_comparisonSpellings h).1
    ⟨' ', r.toList, rfl, by decide⟩ (hright c rest (endsOperand_test hc))
  exact ⟨_, hread.readTest (Nat.le_refl _)⟩

theorem parse_comparison (h : (spelling, operator) ∈ comparisonSpellings)
    (hl : OperandText left l) (hr : OperandText right r) :
    Path.parse (comparisonText l spelling r) =
      .ok [.filter (.test operator left (some right))] := by
  have hparse := (ChainText.last (testText_comparison h hl hr)).parse
  have htext : String.ofList ("[?(".toList ++ (l.toList ++ [' '] ++ (spelling.toList ++
      (' ' :: r.toList))) ++ ")]".toList) = comparisonText l spelling r := by
    apply String.toList_injective
    simp [comparisonText]
  rw [htext] at hparse
  exact hparse

theorem holds_comparison (h : (spelling, operator) ∈ comparisonSpellings)
    {document candidate x y : Json} (hl : left.value? document candidate = some x)
    (hr : right.value? document candidate = some y) :
    (Condition.test operator left (some right)).holds document candidate = operator.holds x y := by
  obtain ⟨-, hpresent, hpattern⟩ := mem_of_comparisonSpellings h
  have hcompares : operator.Compares := by simp [Operator.Compares, hpresent, hpattern]
  rw [Condition.holds_compares hcompares, hl, hr]

end

/-- A filter keeps the only element of an array or nothing. -/
theorem selectAll_filter_singleton (condition : Condition) (strict : Bool) (v : Json) :
    Path.selectAll [.filter condition] strict (.arr [v]) =
      .ok (if condition.holds (.arr [v]) v then [⟨[.position 0], v⟩] else []) := by
  have hchildren : (Node.root (.arr [v])).children = [⟨[.position 0], v⟩] := rfl
  rw [Path.selectAll, Path.selectFrom, Selector.select, List.flatMap_singleton, hchildren,
    List.filter_cons, List.filter_nil]
  cases condition.holds (.arr [v]) v <;> rfl

end JsonQuery
