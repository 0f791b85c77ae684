import JsonQuery.Proofs.Grammar.Whole
import JsonQuery.Proofs.Shape.Grouping
import JsonQuery.Regex.Builtin.Matching

/-!
# Well formed paths

What holds of a path, and of every path and condition inside it, when it was read from a text. A
list of names or positions has two or more, a compound has a part that joins it only where no other
compound could, and the document is named only where an operand begins.
-/

namespace JsonQuery

open Text

section

variable [Regex.Engine]

/-- The operands that a literal is read to, with a condition on its numbers. -/
inductive Operand.IsLeaf (number : Number → Prop) : Operand → Prop
  | null : IsLeaf number (.literal .null)
  | bool (b : Bool) : IsLeaf number (.literal (.bool b))
  | num {n : Number} : number n → IsLeaf number (.literal (.num n))
  | str (s : String) : IsLeaf number (.literal (.str s))
  | pattern {l : Regex.Literal} : PatternText l.pattern.toList →
      (∀ c ∈ l.flags.toList, isLetter c = true) → IsLeaf number (.pattern l)

mutual

inductive Selector.WellFormed (number : Number → Prop) : Selector → Prop
  | field (name : Option String) : Selector.WellFormed number (.field name)
  | fields {names : List String} : 2 ≤ names.length → Selector.WellFormed number (.fields names)
  | index {position : Option Int} : (∀ i ∈ position, InWord i) →
      Selector.WellFormed number (.index position)
  | indexes {positions : List Int} : 2 ≤ positions.length → (∀ i ∈ positions, InWord i) →
      Selector.WellFormed number (.indexes positions)
  | slice {start stop step : Option Int} : (∀ i ∈ start, InWord i) → (∀ i ∈ stop, InWord i) →
      (∀ i ∈ step, InWord i) → Selector.WellFormed number (.slice start stop step)
  | scan (name : Option String) : Selector.WellFormed number (.scan name)
  | scanFields {names : List String} : 2 ≤ names.length →
      Selector.WellFormed number (.scanFields names)
  | filter {condition : Condition} : condition.WellFormed number →
      Selector.WellFormed number (.filter condition)
  | scanFilter {condition : Condition} : condition.WellFormed number →
      Selector.WellFormed number (.scanFilter condition)

inductive Path.WellFormed (number : Number → Prop) : Path → Prop
  | nil : Path.WellFormed number []
  | cons {selector : Selector} {path : Path} : selector.WellFormed number →
      Path.WellFormed number path → Path.WellFormed number (selector :: path)

/-- A test has a second operand unless the first one has to be present. A compound has two parts or
more, tests but for the last one. -/
inductive Condition.WellFormed (number : Number → Prop) : Condition → Prop
  | present {left : Operand} : left.WellFormed number →
      Condition.WellFormed number (.test .present left none)
  | compare {operator : Operator} {left right : Operand} : operator ≠ .present →
      left.WellFormed number → right.WellFormed number →
      Condition.WellFormed number (.test operator left (some right))
  | compound {connective : Connective} {test : Condition} {parts : List Condition} : test.IsTest →
      test.WellFormed number → Condition.PartsWellFormed number connective parts →
      Condition.WellFormed number (.compound connective (test :: parts))

/-- The parts of a compound behind its first one. -/
inductive Condition.PartsWellFormed (number : Number → Prop) :
    Connective → List Condition → Prop
  | last {connective : Connective} {last : Condition} : last.IsOther connective →
      last.WellFormed number → Condition.PartsWellFormed number connective [last]
  | more {connective : Connective} {test : Condition} {parts : List Condition} : test.IsTest →
      test.WellFormed number → Condition.PartsWellFormed number connective parts →
      Condition.PartsWellFormed number connective (test :: parts)

/-- A path of an operand may begin with the document. -/
inductive Operand.WellFormed (number : Number → Prop) : Operand → Prop
  | leaf {operand : Operand} : operand.IsLeaf number → Operand.WellFormed number operand
  | document {path : Path} : Path.WellFormed number path →
      Operand.WellFormed number (.path (.root :: path))
  | candidate {path : Path} : Path.WellFormed number path →
      Operand.WellFormed number (.path path)

end

section

variable {number : Number → Prop}

theorem Path.WellFormed.append {p q : Path} :
    Path.WellFormed number p → Path.WellFormed number q → Path.WellFormed number (p ++ q)
  | .nil, hq => hq
  | .cons h hp, hq => .cons h (hp.append hq)

theorem Path.WellFormed.singleton {selector : Selector} (h : selector.WellFormed number) :
    Path.WellFormed number [selector] := .cons h .nil

/-- A test goes in front of a well formed condition. -/
theorem Condition.WellFormed.prepend {test condition : Condition} (ht : test.IsTest)
    (htest : test.WellFormed number) (h : condition.WellFormed number) (c : Connective) :
    (Condition.prepend test c condition).WellFormed number := by
  by_cases hother : condition.IsOther c
  · rw [prepend_other test hother]
    exact .compound ht htest (.last hother h)
  · cases h with
    | present | compare => exact absurd trivial hother
    | @compound c' first parts hf hfirst hparts =>
      obtain rfl : c' = c := by simpa [IsOther] using hother
      rw [prepend_same]
      exact .compound ht htest (.more hf hfirst hparts)

/-- The condition of a chain is well formed when its tests are. -/
theorem Condition.wellFormed_group {tests : List (Condition × Connective)} {last : Condition}
    (ht : ∀ t ∈ tests, t.1.IsTest ∧ t.1.WellFormed number) (hl : last.IsTest)
    (hlast : last.WellFormed number) : (group tests last).WellFormed number := by
  rw [group_eq_foldr tests hl]
  induction tests with
  | nil => exact hlast
  | cons t tests ih =>
    obtain ⟨htest, hwf⟩ := ht t List.mem_cons_self
    exact hwf.prepend htest (ih fun t' h => ht t' (List.mem_cons_of_mem _ h)) t.2

end

/-- Whatever the numbers are. -/
def AnyNumber (_ : Number) : Prop := True

theorem wellFormed_members {names : List String} (h : names ≠ []) (scan : Bool) :
    (Selector.members scan names).WellFormed AnyNumber := by
  match names, scan with
  | [], _ => exact absurd rfl h
  | [name], false => exact .field (some name)
  | [name], true => exact .scan (some name)
  | _ :: _ :: _, false => exact .fields (by simp)
  | _ :: _ :: _, true => exact .scanFields (by simp)

theorem wellFormed_member (scan : Bool) (name : String) :
    (Selector.member scan name).WellFormed AnyNumber := by
  cases scan with
  | false => exact .field _
  | true => exact .scan _

theorem ArrayText.wellFormed {selector : Selector} {t : List Char} (h : ArrayText selector t) :
    selector.WellFormed AnyNumber := by
  cases h with
  | star => exact .index (by simp)
  | index hp => exact .index (by simpa using hp.inWord)
  | indexes hp _ hps =>
    obtain ⟨hne, hin⟩ := hps.inWord
    have := List.length_pos_iff.2 hne
    exact .indexes (by simp; omega) (List.forall_mem_cons.2 ⟨hp.inWord, hin⟩)
  | slice hs _ hu => exact .slice hs.inWord hu.inWord (by simp)
  | stepped hs _ hu _ hv => exact .slice hs.inWord hu.inWord hv.inWord

theorem LiteralText.isLeaf {operand : Operand} {t : List Char} (h : LiteralText operand t) :
    operand.IsLeaf AnyNumber := by
  cases h with
  | string => exact .str _
  | word hm =>
    simp only [wordSpellings, List.mem_cons, Prod.mk.injEq, List.not_mem_nil, or_false] at hm
    obtain ⟨-, rfl⟩ | ⟨-, rfl⟩ | ⟨-, rfl⟩ := hm
    · exact .bool true
    · exact .bool false
    · exact .null
  | number => exact .num trivial
  | pattern hp hf => exact .pattern hp hf

mutual

theorem ReadsPath.wellFormed {q : Bool} {j : Junction} {cs rest : List Char} {path : Path} :
    ReadsPath q j cs path rest → Path.WellFormed AnyNumber path
  | .done _ => .nil
  | .stop _ _ => .nil
  | .dot h => h.wellFormed
  | .name _ _ _ _ h => .cons (wellFormed_member _ _) h.wellFormed
  | .indexer _ hi h => hi.wellFormed.append h.wellFormed

theorem ReadsIndexer.wellFormed {close : Char} {scan : Bool} {cs rest : List Char} {here : Path} :
    ReadsIndexer close scan cs here rest → Path.WellFormed AnyNumber here
  | .names _ h => by
    obtain ⟨t, r, ht, -⟩ := namesText_of_readNames h
    exact .singleton (wellFormed_members ht.ne_nil scan)
  | .array _ _ _ _ h => by
    obtain ⟨t, r, ht, -⟩ := arrayText_of_readArrayIndexer h
    cases scan with
    | false => exact .singleton ht.wellFormed
    | true => exact .cons (.scan none) (.singleton ht.wellFormed)
  | .filter _ hc _ => by
    obtain ⟨htests, hl, hlast⟩ := hc.wellFormed
    have hcondition := Condition.wellFormed_group htests hl hlast
    cases scan with
    | false => exact .singleton (.filter hcondition)
    | true => exact .singleton (.scanFilter hcondition)

theorem ReadsChain.wellFormed {cs rest : List Char} {chain : Chain} : ReadsChain cs chain rest →
    (∀ t ∈ chain.tests, t.1.IsTest ∧ t.1.WellFormed AnyNumber) ∧ chain.last.IsTest ∧
      chain.last.WellFormed AnyNumber
  | .last h => by
    obtain ⟨ht, hw⟩ := h.wellFormed
    exact ⟨by simp, ht, hw⟩
  | .more ht _ h => by
    obtain ⟨htests, hlast⟩ := h.wellFormed
    exact ⟨List.forall_mem_cons.2 ⟨ht.wellFormed, htests⟩, hlast⟩

theorem ReadsTest.wellFormed {cs rest : List Char} {test : Condition} :
    ReadsTest cs test rest → test.IsTest ∧ test.WellFormed AnyNumber
  | .present h _ => ⟨trivial, .present h.wellFormed⟩
  | .compare hl _ ho hr =>
    ⟨trivial, .compare (not_present_of_readOperator ho) hl.wellFormed hr.wellFormed⟩

theorem ReadsOperand.wellFormed {cs rest : List Char} {operand : Operand} :
    ReadsOperand cs operand rest → operand.WellFormed AnyNumber
  | .document _ h _ _ => .document h.wellFormed
  | .candidate _ h _ _ => .candidate h.wellFormed
  | .literal _ _ _ _ h _ _ => by
    obtain ⟨t, ht, -⟩ := literalText_of_readLiteral h
    exact .leaf ht.isLeaf

end

/-- What is read from a text is well formed. -/
theorem Path.wellFormed_of_parse {text : String} {path : Path} (h : Path.parse text = .ok path) :
    Path.WellFormed AnyNumber path :=
  (parse_eq_ok_iff.1 h).wellFormed

end

open scoped Regex.Builtin

/-- A compound of the other connective stands inside, as the last part. -/
theorem Path.wellFormed_of_parse_compound :
    ∃ path, Path.parse "a[?(@.b && $.c || @ == 'd')]" = .ok path ∧
      Path.WellFormed AnyNumber path ∧
      path = [.field (some "a"), .filter (.compound .and
        [.test .present (.path [.field (some "b")]) none,
          .compound .or [.test .present (.path [.root, .field (some "c")]) none,
            .test .equals (.path []) (some (.literal (.str "d")))]])] := by
  have h : Path.parse "a[?(@.b && $.c || @ == 'd')]" = .ok [.field (some "a"),
      .filter (.compound .and [.test .present (.path [.field (some "b")]) none,
        .compound .or [.test .present (.path [.root, .field (some "c")]) none,
          .test .equals (.path []) (some (.literal (.str "d")))]])] := rfl
  exact ⟨_, h, Path.wellFormed_of_parse h, rfl⟩

end JsonQuery
