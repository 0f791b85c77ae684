import JsonQuery.Path.Basic

/-!
# Grouping from the right

Tests are grouped while they are read, from left to right, with a stack of open compounds. The same
condition comes from right to left without a stack: a test in front of a condition joins it if it is
a compound of the same connective, and else makes a new compound with it.
-/

namespace JsonQuery

variable [Regex.Engine]

namespace Condition

def IsTest : Condition → Prop
  | .test .. => True
  | .compound .. => False

/-- A condition with a test and the connective behind it in front. -/
def prepend (test : Condition) (connective : Connective) : Condition → Condition
  | .compound c parts =>
    if c = connective then .compound c (test :: parts)
    else .compound connective [test, .compound c parts]
  | last => .compound connective [test, last]

/-- No compound of the connective, so that another one can hold it. -/
def IsOther (connective : Connective) : Condition → Prop
  | .test .. => True
  | .compound c _ => c ≠ connective

theorem isOther_of_isTest {condition : Condition} (h : condition.IsTest) (c : Connective) :
    condition.IsOther c := by
  cases condition with
  | test o l r => trivial
  | compound c' parts => cases h

theorem prepend_same (test : Condition) (c : Connective) (parts : List Condition) :
    prepend test c (.compound c parts) = .compound c (test :: parts) := if_pos rfl

theorem prepend_other (test : Condition) {c : Connective} {condition : Condition}
    (h : condition.IsOther c) : prepend test c condition = .compound c [test, condition] := by
  cases condition with
  | test o l r => rfl
  | compound c' parts => exact if_neg h

theorem isOther_prepend (test condition : Condition) {c c' : Connective} (h : c ≠ c') :
    (prepend test c condition).IsOther c' := by
  cases condition with
  | test o l r => exact h
  | compound k parts =>
    by_cases hk : k = c
    · subst hk
      rw [prepend_same]
      exact h
    · have hother : (compound k parts).IsOther c := hk
      rw [prepend_other test hother]
      exact h

/-- Several tests of one connective in front of a condition that does not join them. -/
theorem foldr_prepend {c : Connective} {tests : List Condition} (ht : tests ≠ [])
    {condition : Condition} (h : condition.IsOther c) :
    tests.foldr (fun test => prepend test c) condition = .compound c (tests ++ [condition]) := by
  induction tests with
  | nil => exact absurd rfl ht
  | cons test tests ih =>
    cases tests with
    | nil => exact prepend_other test h
    | cons next tests =>
      rw [List.foldr_cons, ih (List.cons_ne_nil _ _), prepend_same]
      rfl

/-- A condition behind the tests that wait in the open compounds. -/
def closeBehind : List OpenCompound → Condition → Condition
  | [], condition => condition
  | innermost :: others, condition =>
    close others (innermost.parts.foldr (fun test => prepend test innermost.connective) condition)

/-- The innermost compound has a part. -/
def Waiting : List OpenCompound → Prop
  | [] => True
  | innermost :: _ => innermost.parts ≠ []

theorem closeBehind_other {compounds : List OpenCompound} (hw : Waiting compounds)
    {condition : Condition} (h : ∀ c, condition.IsOther c) :
    closeBehind compounds condition = close compounds condition := by
  cases compounds with
  | nil => rfl
  | cons innermost others =>
    rw [closeBehind, foldr_prepend hw (h _)]
    rfl

theorem waiting_extend {compounds : List OpenCompound} (test : Condition) (c : Connective) :
    Waiting (extend compounds test c) := by
  unfold extend
  split
  · split
    · simp [Waiting]
    · simp [Waiting]
  · simp [Waiting]

theorem extend_cons (innermost : OpenCompound) (others : List OpenCompound) (test : Condition)
    (c : Connective) : extend (innermost :: others) test c =
      if innermost.connective = c then
        { innermost with parts := innermost.parts ++ [test] } :: others
      else ⟨c, [test]⟩ :: innermost :: others := rfl

theorem closeBehind_extend {compounds : List OpenCompound} (hw : Waiting compounds)
    (test : Condition) (c : Connective) (condition : Condition) :
    closeBehind (extend compounds test c) condition =
      closeBehind compounds (prepend test c condition) := by
  cases compounds with
  | nil => rfl
  | cons innermost others =>
    rw [extend_cons]
    by_cases hc : innermost.connective = c
    · rw [if_pos hc]
      simp [closeBehind, hc]
    · have hother := isOther_prepend test condition (fun h => hc h.symm)
      rw [if_neg hc, closeBehind, closeBehind, foldr_prepend hw hother]
      rfl

theorem close_foldl_extend (tests : List (Condition × Connective)) {last : Condition}
    (h : last.IsTest) : ∀ compounds, Waiting compounds →
      close (tests.foldl (fun compounds t => extend compounds t.1 t.2) compounds) last =
        closeBehind compounds (tests.foldr (fun t => prepend t.1 t.2) last) := by
  induction tests with
  | nil =>
    intro compounds hw
    exact (closeBehind_other hw (isOther_of_isTest h)).symm
  | cons t tests ih =>
    intro compounds hw
    rw [List.foldl_cons, ih _ (waiting_extend t.1 t.2), closeBehind_extend hw]
    rfl

theorem group_eq_foldr (tests : List (Condition × Connective)) {last : Condition}
    (h : last.IsTest) : group tests last = tests.foldr (fun t => prepend t.1 t.2) last :=
  close_foldl_extend tests h [] trivial

theorem group_cons (test : Condition) (c : Connective) (tests : List (Condition × Connective))
    {last : Condition} (h : last.IsTest) :
    group ((test, c) :: tests) last = prepend test c (group tests last) := by
  rw [group_eq_foldr _ h, group_eq_foldr _ h]
  rfl

end Condition

end JsonQuery
