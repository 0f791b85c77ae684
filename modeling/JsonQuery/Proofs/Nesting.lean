import JsonQuery.Proofs.Writing.RoundTrip
import JsonQuery.Regex.Builtin.Matching
import JsonQuery.Select.Evaluate

/-!
# Nesting of conditions

A chain of tests becomes a condition in two ways. The reader keeps the compounds that are still open
on a stack, each without its last part, and puts the stack together at the end. The other way keeps
one condition that is whole after every test: a test joins the open compound if its connective is
the same, and else takes the last part of that compound with it into a new one, which is open from
then on. Both make the same condition. It holds when the chain does, read from right to left.
-/

namespace JsonQuery

open Text

section

variable [Regex.Engine]

/-! ## One test at a time -/

/-- A condition that takes tests at its end. -/
inductive Growing
  /-- No compound is open. -/
  | single (condition : Condition)
  | opened (connective : Connective) (front : List Condition) (last : Condition)
  /-- The open compound is in the last part. -/
  | around (connective : Connective) (front : List Condition) (last : Growing)

namespace Growing

def condition : Growing → Condition
  | single condition => condition
  | opened connective front last => .compound connective (front ++ [last])
  | around connective front last => .compound connective (front ++ [last.condition])

/-- A test behind a connective. Another connective than that of the open compound takes its last
part out and opens a compound of that part and the test in its place. -/
def add (connective : Connective) (test : Condition) : Growing → Growing
  | single condition => opened connective [condition] test
  | opened c front last =>
    if c = connective then opened c (front ++ [last]) test
    else around c front (opened connective [last] test)
  | around c front last => around c front (last.add connective test)

/-- The rest of a chain, the first connective of which has been read. -/
def addAll (growing : Growing) : Connective → List (Condition × Connective) → Condition → Growing
  | connective, [], last => growing.add connective last
  | connective, (test, next) :: tests, last =>
    (growing.add connective test).addAll next tests last

end Growing

namespace Condition

/-- The condition of a chain, built one test at a time. -/
def nest : List (Condition × Connective) → Condition → Condition
  | [], last => last
  | (first, connective) :: tests, last =>
    ((Growing.single first).addAll connective tests last).condition

end Condition

/-! ## The stack and the condition that it stands for -/

namespace Growing

/-- Open compounds around the innermost one. -/
def behind : List OpenCompound → Growing → Growing
  | [], growing => growing
  | innermost :: others, growing =>
    behind others (around innermost.connective innermost.parts growing)

/-- What has been built when these compounds are open and the test has no connective yet. -/
def ofStack : List OpenCompound → Condition → Growing
  | [], test => single test
  | innermost :: others, test =>
    behind others (opened innermost.connective innermost.parts test)

theorem condition_behind (compounds : List OpenCompound) (growing : Growing) :
    (behind compounds growing).condition = Condition.close compounds growing.condition := by
  induction compounds generalizing growing with
  | nil => rfl
  | cons innermost others ih =>
    rw [behind, ih]
    rfl

theorem condition_ofStack (compounds : List OpenCompound) (test : Condition) :
    (ofStack compounds test).condition = Condition.close compounds test := by
  cases compounds with
  | nil => rfl
  | cons innermost others =>
    rw [ofStack, condition_behind]
    rfl

theorem add_behind (compounds : List OpenCompound) (growing : Growing) (connective : Connective)
    (test : Condition) : (behind compounds growing).add connective test =
      behind compounds (growing.add connective test) := by
  induction compounds generalizing growing with
  | nil => rfl
  | cons innermost others ih =>
    rw [behind, ih]
    rfl

/-- Pushing a test on the stack is adding the next one to what the stack stands for. -/
theorem add_ofStack (compounds : List OpenCompound) (test : Condition) (connective : Connective)
    (next : Condition) : (ofStack compounds test).add connective next =
      ofStack (Condition.extend compounds test connective) next := by
  cases compounds with
  | nil => rfl
  | cons innermost others =>
    rw [ofStack, add_behind, Condition.extend_cons, add]
    by_cases hc : innermost.connective = connective
    · rw [if_pos hc, if_pos hc]
      rfl
    · rw [if_neg hc, if_neg hc]
      rfl

theorem addAll_ofStack (compounds : List OpenCompound) (test : Condition) (connective : Connective)
    (tests : List (Condition × Connective)) (last : Condition) :
    (ofStack compounds test).addAll connective tests last =
      ofStack (tests.foldl (fun compounds t => Condition.extend compounds t.1 t.2)
        (Condition.extend compounds test connective)) last := by
  induction tests generalizing compounds test connective with
  | nil => exact add_ofStack compounds test connective last
  | cons t tests ih =>
    rw [addAll, add_ofStack, ih]
    rfl

end Growing

namespace Condition

theorem group_eq_nest (tests : List (Condition × Connective)) (last : Condition) :
    group tests last = nest tests last := by
  cases tests with
  | nil => rfl
  | cons t tests =>
    have hrun := Growing.addAll_ofStack [] t.1 t.2 tests last
    have hstack := congrArg Growing.condition hrun
    rw [Growing.condition_ofStack] at hstack
    exact hstack.symm

/-! ## What is computed part by part -/

section

variable {α : Type} {value : Condition → α} {before : Connective → Condition → α → α}
  (h : ∀ connective parts last,
    value (.compound connective (parts ++ [last])) = parts.foldr (before connective) (value last))

include h

theorem value_close (compounds : List OpenCompound) (last : Condition) :
    value (close compounds last) =
      compounds.foldl (fun inner c => c.parts.foldr (before c.connective) inner) (value last) := by
  induction compounds generalizing last with
  | nil => rfl
  | cons innermost others ih =>
    have hrest := ih (.compound innermost.connective (innermost.parts ++ [last]))
    rw [h] at hrest
    exact hrest

end

theorem foldl_extend {α : Type} (before : Connective → Condition → α → α)
    (compounds : List OpenCompound) (test : Condition) (connective : Connective) (inner : α) :
    (extend compounds test connective).foldl
        (fun inner c => c.parts.foldr (before c.connective) inner) inner =
      compounds.foldl (fun inner c => c.parts.foldr (before c.connective) inner)
        (before connective test inner) := by
  cases compounds with
  | nil => rfl
  | cons innermost others =>
    rw [extend_cons]
    by_cases hc : innermost.connective = connective
    · rw [if_pos hc, List.foldl_cons, List.foldl_cons, List.foldr_append, hc]
      rfl
    · rw [if_neg hc]
      rfl

/-- What a compound computes from its last part by its other parts, from right to left, a chain
computes by its tests. The grouping does not matter. -/
theorem value_group {α : Type} {value : Condition → α} {before : Connective → Condition → α → α}
    (h : ∀ connective parts last, value (.compound connective (parts ++ [last])) =
      parts.foldr (before connective) (value last))
    (tests : List (Condition × Connective)) (last : Condition) :
    value (group tests last) = tests.foldr (fun t => before t.2 t.1) (value last) := by
  -- a test only touches the innermost compound, so the stack and the value inside it are general
  have hstack : ∀ (compounds : List OpenCompound) (inner : α),
      (tests.foldl (fun compounds t => extend compounds t.1 t.2) compounds).foldl
          (fun inner c => c.parts.foldr (before c.connective) inner) inner =
        compounds.foldl (fun inner c => c.parts.foldr (before c.connective) inner)
          (tests.foldr (fun t => before t.2 t.1) inner) := by
    induction tests with
    | nil =>
      intro compounds inner
      rfl
    | cons t tests ih =>
      intro compounds inner
      rw [List.foldl_cons, ih, foldl_extend]
      rfl
  rw [group, value_close h, hstack]
  rfl

mutual

/-- The tests of a condition from left to right. -/
def leaves : Condition → List Condition
  | .test operator left right => [.test operator left right]
  | .compound _ parts => leavesOfParts parts

def leavesOfParts : List Condition → List Condition
  | [] => []
  | part :: parts => part.leaves ++ leavesOfParts parts

end

theorem leaves_of_isTest {test : Condition} (h : test.IsTest) : test.leaves = [test] := by
  cases test with
  | test operator left right => rfl
  | compound connective parts => cases h

theorem leaves_compound (connective : Connective) (parts : List Condition) (last : Condition) :
    (Condition.compound connective (parts ++ [last])).leaves =
      parts.foldr (fun part rest => part.leaves ++ rest) last.leaves := by
  rw [leaves]
  induction parts with
  | nil => exact List.append_nil _
  | cons part parts ih => rw [List.cons_append, leavesOfParts, ih, List.foldr_cons]

theorem leaves_group {tests : List (Condition × Connective)} {last : Condition}
    (htests : ∀ t ∈ tests, t.1.IsTest) (hlast : last.IsTest) :
    (group tests last).leaves = tests.map Prod.fst ++ [last] := by
  rw [value_group leaves_compound, leaves_of_isTest hlast]
  induction tests with
  | nil => rfl
  | cons t tests ih =>
    have hrest := ih fun t' ht' => htests t' (List.mem_cons_of_mem _ ht')
    rw [List.foldr_cons, hrest, leaves_of_isTest (htests t List.mem_cons_self)]
    rfl

end Condition

def Connective.apply : Connective → Bool → Bool → Bool
  | .and, a, b => a && b
  | .or, a, b => a || b

namespace Condition

theorem holds_compound (document candidate : Json) (connective : Connective)
    (parts : List Condition) (last : Condition) :
    (Condition.compound connective (parts ++ [last])).holds document candidate =
      parts.foldr (fun part value => connective.apply (part.holds document candidate) value)
        (last.holds document candidate) := by
  cases connective with
  | and =>
    rw [holds]
    induction parts with
    | nil => exact Bool.and_true _
    | cons part parts ih =>
      rw [List.cons_append, allHold, ih]
      rfl
  | or =>
    rw [holds]
    induction parts with
    | nil => exact Bool.or_false _
    | cons part parts ih =>
      rw [List.cons_append, anyHolds, ih]
      rfl

theorem holds_group (document candidate : Json) (tests : List (Condition × Connective))
    (last : Condition) : (group tests last).holds document candidate =
      tests.foldr (fun t value => t.2.apply (t.1.holds document candidate) value)
        (last.holds document candidate) := by
  have hvalue := @value_group _ Bool (fun condition => condition.holds document candidate)
    (fun connective part value => connective.apply (part.holds document candidate) value)
    (holds_compound document candidate) tests last
  exact hvalue

end Condition

/-! ## Texts of chains -/

/-- The text is read as the test in front of whatever may follow a test. -/
def TestText (t : List Char) (test : Condition) : Prop :=
  ∀ c rest, (c = ')' ∨ c = '|' ∨ c = '&') →
    ∃ a, readTest (readPath a true .start) (t ++ c :: rest) = .ok (test, c :: rest)

/-- The texts of tests with the connectives between them. -/
inductive ChainText : List (Condition × Connective) → Condition → List Char → Prop
  | last {last : Condition} {t : List Char} : TestText t last → ChainText [] last t
  | more {test last : Condition} {connective : Connective} {tests : List (Condition × Connective)}
      {t u : List Char} : TestText t test → ChainText tests last u →
      ChainText ((test, connective) :: tests) last (t ++ (connective.text ++ u))

theorem TestText.reads {t : List Char} {test : Condition} (h : TestText t test) (c : Char)
    (rest : List Char) (hc : c = ')' ∨ c = '|' ∨ c = '&') :
    ReadsTest (t ++ c :: rest) test (c :: rest) := by
  obtain ⟨a, hread⟩ := h c rest hc
  exact readsTest_of_readTest readsPath_of_readPath hread

/-- Every way to write a test is such a text. -/
theorem SpellsCondition.testText {number : Number → Prop} {test : Condition} {t : List Char}
    (h : SpellsCondition test t) (hw : test.WellFormed number) (htest : test.IsTest) :
    TestText t test := by
  intro c rest hc
  obtain ⟨-, -, -, -, hread⟩ := h.reads hw
  exact ⟨_, (hread htest c rest hc).readTest (Nat.le_refl _)⟩

theorem ChainText.reads {tests : List (Condition × Connective)} {last : Condition}
    {t : List Char} (h : ChainText tests last t) (rest : List Char) :
    ReadsChain (t ++ ')' :: rest) ⟨tests, last⟩ rest := by
  induction h generalizing rest with
  | last ht => exact .last (ht.reads ')' rest (.inl rfl))
  | more ht _ ih => exact readsChain_more ht.reads ih rest

/-- A chain in brackets is read as one filter. -/
theorem ChainText.parse {tests : List (Condition × Connective)} {last : Condition}
    {t : List Char} (h : ChainText tests last t) :
    Path.parse (String.ofList ("[?(".toList ++ t ++ ")]".toList)) =
      .ok [.filter (Condition.group tests last)] := by
  have htrim : Trimmed ('[' :: ('?' :: '(' :: (t ++ [')']) ++ [']'])) :=
    trimmed_between (by decide) (by decide) _
  have htext : "[?(".toList ++ t ++ ")]".toList = '[' :: ('?' :: '(' :: (t ++ [')']) ++ [']']) := by
    simp
  have hwhole := trimBlanks_gaps Gap.nil Gap.nil htrim
  rw [List.nil_append, List.append_nil] at hwhole
  have hin : ReadsIndexer ']' false _ _ [] := .filter Gap.nil (h.reads [']']) Gap.nil
  rw [parse_eq_ok_iff, String.toList_ofList, htext, hwhole, withoutRoot_other (by simp)]
  have hread : ReadsPath false .start _ _ [] := .indexer (.inl rfl) hin (.done rfl)
  simpa [Chain.condition] using hread

/-- The condition that is read from a chain of tests is the one built from it one test at a time.
Its tests are those of the chain, and it holds when the chain does from right to left. -/
theorem Condition.group_chain {tests : List (Condition × Connective)} {last : Condition}
    (htests : ∀ t ∈ tests, t.1.IsTest) (hlast : last.IsTest) :
    (∀ t, ChainText tests last t → Path.parse (String.ofList ("[?(".toList ++ t ++ ")]".toList)) =
      .ok [.filter (group tests last)]) ∧
    group tests last = nest tests last ∧
    (group tests last).leaves = tests.map Prod.fst ++ [last] ∧
    ∀ document candidate, (group tests last).holds document candidate =
      tests.foldr (fun t value => t.2.apply (t.1.holds document candidate) value)
        (last.holds document candidate) :=
  ⟨fun _ ht => ht.parse, group_eq_nest tests last, leaves_group htests hlast,
    fun document candidate => holds_group document candidate tests last⟩

end

open scoped Regex.Builtin

/-- The third test joins the second one, and the fourth one all of them. -/
theorem Condition.group_chain_alternating :
    let a : Condition := .test .present (.path [.field (some "a")]) none
    let b : Condition := .test .present (.path [.root, .field (some "b")]) none
    let c : Condition := .test .equals (.path []) (some (.literal (.str "c")))
    let condition : Condition := .compound .and [a, .compound .or [b, c, .compound .and [b, a]]]
    Path.parse "[?(@.a && $.b || @=='c' || $.b && @.a)]" = .ok [.filter condition] ∧
      condition = nest [(a, .and), (b, .or), (c, .or), (b, .and)] a ∧
      condition.leaves = [a, b, c, b, a] ∧
      condition.holds .null (.str "c") = false := by
  intro a b c condition
  have htests : ∀ t ∈ [(a, Connective.and), (b, .or), (c, .or), (b, .and)], t.1.IsTest := by
    simp [a, b, c, IsTest]
  obtain ⟨hparse, hnest, hleaves, hholds⟩ := @Condition.group_chain _ _ a htests trivial
  have ha : TestText "@.a ".toList a := by
    rintro _ rest (rfl | rfl | rfl) <;> exact ⟨4, rfl⟩
  have ha' : TestText " @.a".toList a := by
    rintro _ rest (rfl | rfl | rfl) <;> exact ⟨4, rfl⟩
  have hb : TestText " $.b ".toList b := by
    rintro _ rest (rfl | rfl | rfl) <;> exact ⟨4, rfl⟩
  have hc : TestText " @=='c' ".toList c := by
    have blank : Gap [' '] := by decide
    have equals : ("==".toList, Operator.equals) ∈ operatorSpellings := by decide
    have candidate : SpellsOperand (.path []) _ := .candidate .nil ⟨[' '], [], blank, Gap.nil, rfl⟩
    have literal : SpellsOperand (.literal (.str "c")) _ :=
      .leaf (.str "c") ⟨[], [' '], Gap.nil, blank, rfl⟩
    have hwell : c.WellFormed AnyNumber :=
      .compare (by decide) (.candidate .nil) (.leaf (.str "c"))
    exact (SpellsCondition.compare candidate equals literal).testText hwell trivial
  have htext := hparse _ (.more ha (.more hb (.more hc (.more hb (.last ha')))))
  refine ⟨(congrArg Path.parse ?_).trans htext, hnest, hleaves, hholds _ _⟩
  rfl

end JsonQuery
