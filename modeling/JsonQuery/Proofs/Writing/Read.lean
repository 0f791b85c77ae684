import JsonQuery.Proofs.Writing.Leaves

/-!
# Reading back what was written

A text that spells a path is read to that path, in front of anything that ends it.
-/

namespace JsonQuery

open Text

/-- The characters that follow an operand: the parenthesis that closes its condition, and what
connectives and operators begin with. -/
def endsOperand (c : Char) : Bool := c ∈ [')', '|', '&', '=', '<', '!', '>']

theorem endsOperand_spec {c : Char} (h : endsOperand c = true) : isBlank c = false ∧
    endsPath true c = true ∧ isNumberChar c = false ∧ isLetter c = false := by
  simp only [endsOperand, List.mem_cons, List.not_mem_nil, or_false, decide_eq_true_eq] at h
  rcases h with rfl | rfl | rfl | rfl | rfl | rfl | rfl <;> decide

theorem not_numberChar_of_isBlank {c : Char} (h : isBlank c = true) : isNumberChar c = false := by
  rw [Bool.eq_false_iff]
  intro hn
  simp only [isNumberChar, Bool.or_eq_true, beq_iff_eq] at hn
  obtain ((((hd | rfl) | rfl) | rfl) | rfl) | rfl := hn
  · rw [not_blank_of_isDigit hd] at h
    cases h
  all_goals exact absurd h (by decide)

/-- A text where a path ends. -/
def EndsAt (q : Bool) (rest : List Char) : Prop := ∀ c, rest.head? = some c → endsPath q c = true

theorem endsAt_operand {g : List Char} (hg : Gap g) {c : Char} (hc : endsOperand c = true)
    (rest : List Char) : EndsAt true (g ++ c :: rest) := by
  intro d hd
  cases g with
  | nil =>
    obtain rfl : c = d := by simpa using hd
    exact (endsOperand_spec hc).2.1
  | cons b g =>
    obtain rfl : b = d := by simpa using hd
    simp [endsPath, hg b List.mem_cons_self]

/-- A positions indexer begins with a character that no name and no condition begins with. -/
def startsArray (c : Char) : Bool := isIndexChar c || c == '*' || c == ':'

theorem startsArray_spec {c : Char} (h : startsArray c = true) :
    isBlank c = false ∧ c ≠ '\'' ∧ c ≠ '?' := by
  simp only [startsArray, Bool.or_eq_true, beq_iff_eq] at h
  obtain (hi | rfl) | rfl := h
  · refine ⟨not_blank_of_isIndexChar hi, ?_, ?_⟩
    · rintro rfl
      exact absurd hi (by decide)
    · rintro rfl
      exact absurd hi (by decide)
  · decide
  · decide

theorem startsArray_intText (i : Int) (rest : List Char) :
    ∃ c u, intText i ++ rest = c :: u ∧ startsArray c = true := by
  obtain ⟨c, cs, he, hc, -⟩ := intText_eq_cons i
  exact ⟨c, cs ++ rest, by rw [he]; rfl, by simp [startsArray, isIndexChar, hc]⟩

/-- A slice begins with its first bound or, when that is missing, with a colon. -/
theorem startsArray_bound {t : List Char} (h : ∀ c, t.head? = some c → isIndexChar c = true)
    (rest : List Char) : ∃ c u, t ++ ':' :: rest = c :: u ∧ startsArray c = true := by
  cases t with
  | nil => exact ⟨':', rest, rfl, rfl⟩
  | cons c t => exact ⟨c, _, rfl, by simp [startsArray, h c rfl]⟩

theorem Spaced.head {t u : List Char} (h : Spaced t u)
    (ht : ∃ c r, t = c :: r ∧ c ≠ '=' ∧ c ≠ '>') :
    ∃ c r, u = c :: r ∧ c ≠ '=' ∧ c ≠ '>' := by
  obtain ⟨c, r, rfl, hc⟩ := ht
  obtain ⟨g, h, hg, -, rfl⟩ := h
  cases g with
  | nil => exact ⟨c, _, rfl, hc⟩
  | cons b g =>
    have hb := hg b List.mem_cons_self
    refine ⟨b, _, rfl, ?_, ?_⟩ <;>
      · rintro rfl
        exact absurd hb (by decide)

/-- No operand begins with what would make an operator longer. -/
theorem readOperator_spelling {spelling : List Char} {operator : Operator}
    (hs : (spelling, operator) ∈ operatorSpellings) {c : Char} (hc : c ≠ '=' ∧ c ≠ '>')
    (rest : List Char) :
    readOperator (spelling ++ c :: rest) = .ok (operator, c :: rest) ∧
      ∃ d r, spelling = d :: r ∧ endsOperand d = true ∧ d ≠ ')' ∧ d ≠ '|' ∧ d ≠ '&' := by
  obtain ⟨h1, h2⟩ := hc
  simp only [operatorSpellings, List.mem_cons, Prod.mk.injEq, List.not_mem_nil, or_false] at hs
  constructor
  · rcases hs with ⟨rfl, rfl⟩ | ⟨rfl, rfl⟩ | ⟨rfl, rfl⟩ | ⟨rfl, rfl⟩ | ⟨rfl, rfl⟩ | ⟨rfl, rfl⟩ |
      ⟨rfl, rfl⟩ | ⟨rfl, rfl⟩ <;>
      simp [readOperator_eq, operatorSpellings, readSpelling_cons, h1.symm, h2.symm]
  · rcases hs with ⟨rfl, -⟩ | ⟨rfl, -⟩ | ⟨rfl, -⟩ | ⟨rfl, -⟩ | ⟨rfl, -⟩ | ⟨rfl, -⟩ | ⟨rfl, -⟩ |
      ⟨rfl, -⟩ <;> exact ⟨_, _, rfl, by decide⟩

theorem readSpelling_connective (connective : Connective) (rest : List Char) :
    readSpelling connectiveSpellings (connective.text ++ rest) = some (connective, rest) ∧
      ∃ d r, connective.text = d :: r ∧ (d = ')' ∨ d = '|' ∨ d = '&') := by
  cases connective with
  | and => exact ⟨by simp [connectiveSpellings, readSpelling_cons, Connective.text], '&', _, rfl,
      by decide⟩
  | or => exact ⟨by simp [connectiveSpellings, readSpelling_cons, Connective.text], '|', _, rfl,
      by decide⟩

theorem endsOperand_test {c : Char} (h : c = ')' ∨ c = '|' ∨ c = '&') : endsOperand c = true := by
  rcases h with rfl | rfl | rfl <;> decide

/-! ## Readings -/

variable [Regex.Engine]

/-- Neither a blank nor what follows an operand goes on with a number or the flags of a pattern. -/
theorem ends_continuedBy (operand : Operand) {g : List Char} (hg : Gap g) {c : Char}
    (hc : endsOperand c = true) (rest : List Char) :
    Ends operand.continuedBy (g ++ c :: rest) := by
  have hends : ∀ d, isBlank d = true ∨ d = c → operand.continuedBy d = false := by
    obtain ⟨-, -, hn, hl⟩ := endsOperand_spec hc
    rintro d (hd | rfl)
    · have hd' := not_numberChar_of_isBlank hd
      have hd'' := not_letter_of_isBlank hd
      unfold Operand.continuedBy
      split <;> first | assumption | rfl
    · unfold Operand.continuedBy
      split <;> first | assumption | rfl
  cases g with
  | nil => exact ends_cons.2 (hends c (.inr rfl))
  | cons b g => exact ends_cons.2 (hends b (.inl (hg b List.mem_cons_self)))

theorem readsPath_end {q : Bool} {j : Junction} (hj : j.isDot = false) {rest : List Char}
    (hr : EndsAt q rest) : ReadsPath q j rest [] rest := by
  cases rest with
  | nil => exact .done hj
  | cons c rest => exact .stop (hr c rfl) (by simp [hj])

/-- A selector begins with a dot or a bracket, so a name ends in front of it. -/
theorem SpellsSelector.head {selector : Selector} {t : List Char} (h : SpellsSelector selector t) :
    ∃ c u, t = c :: u ∧ (c = '.' ∨ c = '[' ∨ c = '(') := by
  cases h with
  | anyField | anyBelow | scanBracket => exact ⟨'.', _, rfl, .inl rfl⟩
  | bracket hc => exact ⟨_, _, rfl, .inr hc⟩

theorem SpellsPath.ends {path : Path} {t rest : List Char} {q : Bool} (h : SpellsPath path t)
    (hr : EndsAt q rest) : Ends (isNameChar q) (t ++ rest) := by
  cases h with
  | nil =>
    intro c hc
    simp [isNameChar, hr c hc]
  | cons hs _ =>
    obtain ⟨c, u, rfl, hc⟩ := hs.head
    refine ends_cons.2 ?_
    rcases hc with rfl | rfl | rfl <;> cases q <;> decide

section

variable {close : Char} (hclose : IsCloser close)

include hclose

theorem readsIndexer_array {selector : Selector} {g t : List Char} (hg : Gap g)
    (ht : ArrayText selector t) (hs : ∃ c u, t = c :: u ∧ startsArray c = true)
    (rest : List Char) : ReadsIndexer close false (g ++ (t ++ close :: rest)) [selector] rest := by
  obtain ⟨c, u, rfl, hc⟩ := hs
  obtain ⟨hb, hq, hf⟩ := startsArray_spec hc
  have hread : ReadsIndexer close false (g ++ c :: (u ++ close :: rest)) _ rest :=
    .array hg hb hq hf (ht.readArrayIndexer hclose rest)
  exact hread

theorem readsIndexer_names {names : List String} {g t : List Char} (hg : Gap g)
    (ht : NamesText names t) (scan : Bool) (rest : List Char) :
    ReadsIndexer close scan (g ++ (t ++ close :: rest)) [Selector.members scan names] rest := by
  obtain ⟨u, rfl⟩ := ht.starts
  exact .names hg (ht.readNames hclose rest)

theorem readsIndexer_quoted {name : String} {t : List Char} (h : Spaced (quoted name) t)
    (scan : Bool) (rest : List Char) :
    ReadsIndexer close scan (t ++ close :: rest) [Selector.members scan [name]] rest := by
  obtain ⟨g, u, hg, hu, rfl⟩ := (Listed.one h).namesText
  rw [List.append_assoc]
  exact readsIndexer_names hclose hg hu scan rest

end

theorem members_of_two {names : List String} (h : 2 ≤ names.length) :
    Selector.members false names = .fields names ∧
      Selector.members true names = .scanFields names := by
  match names, h with
  | _ :: _ :: _, _ => exact ⟨rfl, rfl⟩

theorem SpellsLeaf.head {operand : Operand} {t : List Char} (h : SpellsLeaf operand t) :
    ∃ c u, t = c :: u ∧ isBlank c = false ∧ c ≠ '$' ∧ c ≠ '@' ∧ c ≠ '=' ∧ c ≠ '>' := by
  cases h with
  | null => exact ⟨'n', _, rfl, by decide⟩
  | bool b =>
    cases b with
    | true => exact ⟨'t', _, rfl, by decide⟩
    | false => exact ⟨'f', _, rfl, by decide⟩
  | int i =>
    obtain ⟨c, cs, he, hc, -⟩ := intText_eq_cons i.val
    refine ⟨c, cs, he, ?_⟩
    simp only [Bool.or_eq_true, beq_iff_eq] at hc
    rcases hc with hd | rfl
    · refine ⟨not_blank_of_isDigit hd, ?_, ?_, ?_, ?_⟩ <;>
        · rintro rfl
          exact absurd hd (by decide)
    · decide
  | str => exact ⟨'\'', _, rfl, by decide⟩
  | pattern => exact ⟨'/', _, rfl, by decide⟩

theorem SpellsOperand.head {operand : Operand} {t : List Char} (h : SpellsOperand operand t) :
    ∃ c r, t = c :: r ∧ c ≠ '=' ∧ c ≠ '>' := by
  cases h with
  | leaf hl hs =>
    obtain ⟨c, u, he, -, -, -, hc⟩ := hl.head
    exact hs.head ⟨c, u, he, hc⟩
  | document _ hs => exact hs.head ⟨'$', _, rfl, by decide⟩
  | candidate _ hs => exact hs.head ⟨'@', _, rfl, by decide⟩

theorem Chain.condition_cons {chain : Chain} (h : chain.last.IsTest) (test : Condition)
    (connective : Connective) :
    (⟨(test, connective) :: chain.tests, chain.last⟩ : Chain).condition =
      Condition.prepend test connective chain.condition :=
  Condition.group_cons test connective chain.tests h

theorem readsTest_compare {operator : Operator} {left right : Operand}
    {spelling t u rest rest' : List Char}
    (hl : ∀ c rest, endsOperand c = true → ReadsOperand (t ++ c :: rest) left (c :: rest))
    (ho : (spelling, operator) ∈ operatorSpellings) (hu : ∃ c r, u = c :: r ∧ c ≠ '=' ∧ c ≠ '>')
    (hr : ReadsOperand (u ++ rest) right rest') :
    ReadsTest (t ++ (spelling ++ u) ++ rest) (.test operator left (some right)) rest' := by
  obtain ⟨c, r, rfl, hc⟩ := hu
  obtain ⟨hread, d, s, rfl, hd, hclose⟩ := readOperator_spelling ho hc (r ++ rest)
  rw [List.append_assoc, List.append_assoc]
  exact .compare (hl d _ hd) hclose hread hr

theorem readsChain_more {test : Condition} {connective : Connective} {chain : Chain}
    {t u : List Char}
    (ht : ∀ c rest, (c = ')' ∨ c = '|' ∨ c = '&') → ReadsTest (t ++ c :: rest) test (c :: rest))
    (hc : ∀ rest, ReadsChain (u ++ ')' :: rest) chain rest) (rest : List Char) :
    ReadsChain (t ++ (connective.text ++ u) ++ ')' :: rest)
      ⟨(test, connective) :: chain.tests, chain.last⟩ rest := by
  obtain ⟨hread, d, r, he, hd⟩ := readSpelling_connective connective (u ++ ')' :: rest)
  rw [he] at hread ⊢
  rw [List.append_assoc, List.append_assoc]
  exact .more (ht d _ hd) hread (hc rest)

end JsonQuery
