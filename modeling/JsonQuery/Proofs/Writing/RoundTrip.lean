import JsonQuery.Proofs.Writing.Read
import JsonQuery.Regex.Builtin.Matching

/-!
# Round trip

Every well formed path is read back from each of the texts that spell it. The induction is on the
text as it is spelled; what a condition groups is read as the chain of its tests.
-/

namespace JsonQuery

open Text

theorem trimmed_between {c d : Char} (hc : isBlank c = false) (hd : isBlank d = false)
    (t : List Char) : Trimmed (c :: (t ++ [d])) := by
  constructor
  · rintro _ ⟨⟩
    exact hc
  · intro e he
    rw [← List.cons_append, List.getLast?_concat] at he
    obtain rfl := Option.some.inj he
    exact hd

theorem trimmed_singleton {c : Char} (hc : isBlank c = false) : Trimmed [c] := by
  constructor
  · rintro _ ⟨⟩
    exact hc
  · rintro _ ⟨⟩
    exact hc

theorem not_blank_closing (c : Char) : isBlank (closing c) = false :=
  (isCloser_closing c).endsWord.2

section

variable [Regex.Engine]

section

variable {number : Number → Prop}

mutual

theorem SpellsPath.reads {path : Path} {t : List Char} : SpellsPath path t →
    Path.WellFormed number path → ∀ (q : Bool) (j : Junction) (rest : List Char),
      j.isDot = false → EndsAt q rest → ReadsPath q j (t ++ rest) path rest
  | .nil, _, q, j, rest, hj, hr => readsPath_end hj hr
  | .cons hs hp, .cons hw hpw, q, j, rest, hj, hr => by
    rw [List.append_assoc]
    exact hs.reads hw q j _ hj (hp.ends hr) fun j' hj' => hp.reads hpw q j' rest hj' hr

theorem SpellsSelector.reads {selector : Selector} {t rest : List Char} {path : Path} :
    SpellsSelector selector t → selector.WellFormed number → ∀ (q : Bool) (j : Junction)
      (cs : List Char), j.isDot = false → Ends (isNameChar q) cs →
      (∀ j' : Junction, j'.isDot = false → ReadsPath q j' cs path rest) →
      ReadsPath q j (t ++ cs) (selector :: path) rest
  | .anyField, _, q, j, cs, hj, hcs, hnext => by
    refine .dot ?_
    rw [Junction.addDot_eq_dot hj]
    have hstar : isNameChar q '*' = true := by cases q <;> decide
    exact ReadsPath.name (by decide) hstar (by simp) hcs (hnext .name rfl)
  | .anyBelow, _, q, j, cs, hj, hcs, hnext => by
    refine .dot (.dot ?_)
    rw [Junction.addDot_eq_dot hj]
    have hstar : isNameChar q '*' = true := by cases q <;> decide
    exact ReadsPath.name (by decide) hstar (by simp) hcs (hnext .name rfl)
  | @SpellsSelector.bracket _ _ c t hc ht, hw, q, j, cs, hj, hcs, hnext => by
    have hin := ht.reads hw (closing c) (isCloser_closing c) cs
    rw [← Junction.scans_eq_false hj] at hin
    rw [List.cons_append, List.append_assoc]
    exact .indexer hc hin (hnext .indexer rfl)
  | @SpellsSelector.scanBracket _ _ c t hc ht, hw, q, j, cs, hj, hcs, hnext => by
    have hin := ht.reads hw (closing c) (isCloser_closing c) cs
    rw [List.cons_append, List.cons_append, List.cons_append, List.append_assoc]
    refine .dot (.dot ?_)
    rw [Junction.addDot_eq_dot hj]
    exact ReadsPath.indexer (j := .dots) hc hin (hnext .indexer rfl)

theorem SpellsContent.reads {scan : Bool} {selector : Selector} {t : List Char} :
    SpellsContent scan selector t → selector.WellFormed number → ∀ close : Char,
      IsCloser close → ∀ rest, ReadsIndexer close scan (t ++ close :: rest) [selector] rest
  | .field hs, _, close, hclose, rest => readsIndexer_quoted hclose hs false rest
  | .scan hs, _, close, hclose, rest => readsIndexer_quoted hclose hs true rest
  | .fields hs, .fields hw, close, hclose, rest => by
    obtain ⟨g, u, hg, hu, rfl⟩ := hs.namesText
    rw [List.append_assoc, ← (members_of_two hw).1]
    exact readsIndexer_names hclose hg hu false rest
  | .scanFields hs, .scanFields hw, close, hclose, rest => by
    obtain ⟨g, u, hg, hu, rfl⟩ := hs.namesText
    rw [List.append_assoc, ← (members_of_two hw).2]
    exact readsIndexer_names hclose hg hu true rest
  | .anyIndex hs, _, close, hclose, rest => by
    obtain ⟨g, h, hg, hh, rfl⟩ := hs
    rw [List.append_assoc]
    exact readsIndexer_array hclose hg (.star Gap.nil hh) ⟨'*', h, rfl, rfl⟩ rest
  | .index hs, .index hw, close, hclose, rest => by
    obtain ⟨g, h, hg, hh, rfl⟩ := hs
    rw [List.append_assoc]
    exact readsIndexer_array hclose hg (.index (positionText_intText (hw _ rfl) hh))
      (startsArray_intText _ h) rest
  | .indexes (.one _), .indexes hlen _, _, _, _ => absurd hlen (by simp)
  | .indexes (.more hs hps), .indexes _ hw, close, hclose, rest => by
    obtain ⟨hi, his⟩ := List.forall_mem_cons.1 hw
    obtain ⟨g, h, hg, hh, rfl⟩ := hs
    obtain ⟨g', u, hg', hu, rfl⟩ := hps.positionsText his
    have harray := ArrayText.indexes (positionText_intText hi hh) hg' hu
    have hread := readsIndexer_array hclose hg harray (by
      rw [List.append_assoc]
      exact startsArray_intText _ _) rest
    simpa using hread
  | .slice ht hu hv, .slice hwt hwu hwv, close, hclose, rest => by
    obtain ⟨g, t', hg, ht', rfl, hstart⟩ := ht.boundText hwt
    obtain ⟨g', u', hg', hu', rfl, -⟩ := hu.boundText hwu
    obtain ⟨g'', v', hg'', hv', rfl, -⟩ := hv.boundText hwv
    have harray := ArrayText.stepped ht' hg' hu' hg'' hv'
    have hread := readsIndexer_array hclose hg harray (startsArray_bound hstart _) rest
    simpa using hread
  | .filter hg hc hh, .filter hw, close, hclose, rest => by
    obtain ⟨chain, rfl, -, hchain, -⟩ := hc.reads hw
    have hread : ReadsIndexer close false _ _ rest := .filter hg (hchain _) hh
    simpa using hread
  | .scanFilter hg hc hh, .scanFilter hw, close, hclose, rest => by
    obtain ⟨chain, rfl, -, hchain, -⟩ := hc.reads hw
    have hread : ReadsIndexer close true _ _ rest := .filter hg (hchain _) hh
    simpa using hread

/-- A condition is read as a chain, and a test also as one test of a longer chain. -/
theorem SpellsCondition.reads {condition : Condition} {t : List Char} :
    SpellsCondition condition t → condition.WellFormed number →
      ∃ chain : Chain, chain.condition = condition ∧ chain.last.IsTest ∧
        (∀ rest, ReadsChain (t ++ ')' :: rest) chain rest) ∧
        (condition.IsTest → ∀ c rest, (c = ')' ∨ c = '|' ∨ c = '&') →
          ReadsTest (t ++ c :: rest) condition (c :: rest))
  | .present h, .present hw => by
    have hread := fun c rest hc => ReadsTest.present (h.reads hw c rest (endsOperand_test hc)) hc
    exact ⟨⟨[], _⟩, rfl, trivial, fun rest => .last (hread ')' rest (.inl rfl)), fun _ => hread⟩
  | .compare hl ho hr, .compare _ hlw hrw => by
    have hread := fun c rest hc =>
      readsTest_compare (hl.reads hlw) ho hr.head (hr.reads hrw c rest (endsOperand_test hc))
    exact ⟨⟨[], _⟩, rfl, trivial, fun rest => .last (hread ')' rest (.inl rfl)), fun _ => hread⟩
  | .compound (.more h hp), .compound htest hw hpw => by
    obtain ⟨-, -, -, -, hread⟩ := h.reads hw
    obtain ⟨chain, hl, hchain, hprepend⟩ := hp.reads hpw
    refine ⟨⟨(_, _) :: chain.tests, chain.last⟩, ?_, hl, readsChain_more (hread htest) hchain,
      False.elim⟩
    rw [Chain.condition_cons hl, hprepend]

theorem SpellsParts.reads {connective : Connective} {parts : List Condition} {t : List Char} :
    SpellsParts connective parts t → Condition.PartsWellFormed number connective parts →
      ∃ chain : Chain, chain.last.IsTest ∧ (∀ rest, ReadsChain (t ++ ')' :: rest) chain rest) ∧
        ∀ test, Condition.prepend test connective chain.condition =
          .compound connective (test :: parts)
  | .last h, .last hother hw => by
    obtain ⟨chain, rfl, hl, hchain, -⟩ := h.reads hw
    exact ⟨chain, hl, hchain, fun test => Condition.prepend_other test hother⟩
  | .more h hp, .more htest hw hpw => by
    obtain ⟨-, -, -, -, hread⟩ := h.reads hw
    obtain ⟨chain, hl, hchain, hprepend⟩ := hp.reads hpw
    refine ⟨⟨(_, _) :: chain.tests, chain.last⟩, hl, readsChain_more (hread htest) hchain, ?_⟩
    intro test
    rw [Chain.condition_cons hl, hprepend, Condition.prepend_same]

theorem SpellsOperand.reads {operand : Operand} {t : List Char} : SpellsOperand operand t →
    operand.WellFormed number → ∀ c rest, endsOperand c = true →
      ReadsOperand (t ++ c :: rest) operand (c :: rest)
  | .leaf hl hs, _, c, rest, hc => by
    obtain ⟨g, h, hg, hh, rfl⟩ := hs
    have hread := hl.literalText.readLiteral (ends_continuedBy _ hh hc rest)
    obtain ⟨d, u, rfl, hd, hdoc, hcand, -⟩ := hl.head
    rw [List.append_assoc, List.append_assoc]
    exact .literal hg hd hdoc hcand hread hh (endsOperand_spec hc).1
  | .document hp hs, .document hw, c, rest, hc => by
    obtain ⟨g, h, hg, hh, rfl⟩ := hs
    rw [List.append_assoc, List.append_assoc]
    exact .document hg (hp.reads hw true .start _ rfl (endsAt_operand hh hc rest)) hh
      (endsOperand_spec hc).1
  | .candidate hp hs, .candidate hw, c, rest, hc => by
    obtain ⟨g, h, hg, hh, rfl⟩ := hs
    rw [List.append_assoc, List.append_assoc]
    exact .candidate hg (hp.reads hw true .start _ rfl (endsAt_operand hh hc rest)) hh
      (endsOperand_spec hc).1

end

end

theorem SpellsSelector.trimmed {selector : Selector} {t : List Char}
    (h : SpellsSelector selector t) : Trimmed t := by
  cases h with
  | anyField => exact trimmed_between (by decide) (by decide) []
  | anyBelow => exact trimmed_between (by decide) (by decide) ['.']
  | bracket hc =>
    rcases hc with rfl | rfl
    · exact trimmed_between (by decide) (not_blank_closing _) _
    · exact trimmed_between (by decide) (not_blank_closing _) _
  | @scanBracket _ c t => exact trimmed_between (by decide) (not_blank_closing c) ('.' :: c :: t)

theorem SpellsPath.trimmed {path : Path} {t : List Char} : SpellsPath path t → Trimmed t
  | .nil => ⟨by simp, by simp⟩
  | .cons h hp => h.trimmed.append hp.trimmed

theorem SpellsPath.head {path : Path} {t : List Char} (h : SpellsPath path t) :
    t.head? = none ∨ t.head? = some '.' ∨ t.head? = some '[' ∨ t.head? = some '(' := by
  cases h with
  | nil => exact .inl rfl
  | cons hs _ =>
    obtain ⟨c, u, rfl, rfl | rfl | rfl⟩ := hs.head
    · exact .inr (.inl rfl)
    · exact .inr (.inr (.inl rfl))
    · exact .inr (.inr (.inr rfl))

section

variable {number : Number → Prop} {path : Path} {t g h : List Char} (ht : SpellsPath path t)
  (hp : Path.WellFormed number path) (hg : Gap g) (hh : Gap h)

include ht hp

theorem SpellsPath.reads_all : ReadsPath false .start t path [] := by
  have hread := ht.reads hp false .start [] rfl (by simp [EndsAt])
  rwa [List.append_nil] at hread

include hg hh

theorem SpellsPath.parse : Path.parse (String.ofList (g ++ t ++ h)) = .ok path := by
  have hother : t.head? ≠ some '$' := by
    rintro he
    have hhead := ht.head
    rw [he] at hhead
    exact absurd hhead (by decide)
  rw [parse_eq_ok_iff, String.toList_ofList, trimBlanks_gaps hg hh ht.trimmed,
    withoutRoot_other hother]
  exact ht.reads_all hp

/-- A parenthesis behind the dollar sign would make it a name. -/
theorem SpellsPath.parse_document (hopen : t.head? ≠ some '(') :
    Path.parse (String.ofList (g ++ '$' :: t ++ h)) = .ok path := by
  have hdollar : Trimmed ['$'] := trimmed_singleton (by decide)
  have htrim : Trimmed ('$' :: t) := hdollar.append ht.trimmed
  have hhead : t.head? = none ∨ t.head? = some '.' ∨ t.head? = some '[' := by
    obtain he | he | he | he := ht.head
    · exact .inl he
    · exact .inr (.inl he)
    · exact .inr (.inr he)
    · exact absurd he hopen
  rw [parse_eq_ok_iff, String.toList_ofList, trimBlanks_gaps hg hh htrim, withoutRoot_marker hhead]
  exact ht.reads_all hp

end

/-- A well formed path has a text, and is read back from it and from every other way to write it,
with or without the marker of the document. -/
theorem Path.parse_written {path : Path} (hp : Path.WellFormed Number.IsWhole path) :
    SpellsPath path (Path.text path) ∧ ∀ t g h, SpellsPath path t → Gap g → Gap h →
      Path.parse (String.ofList (g ++ t ++ h)) = .ok path ∧
      (t.head? ≠ some '(' → Path.parse (String.ofList (g ++ '$' :: t ++ h)) = .ok path) :=
  ⟨hp.spells_text, fun _ _ _ ht hg hh => ⟨ht.parse hp hg hh, ht.parse_document hp hg hh⟩⟩

end

open scoped Regex.Builtin

/-- An escaped quote, blanks, and parentheses for brackets. -/
theorem Path.parse_written_query : Path.parse "\t['it\\'s'](?( @[-1] <>7) )" =
    .ok [.field (some "it's"), .filter (.test .notEquals (.path [.index (some (-1))])
      (some (.literal (.num (.int { val := 7 })))))] := by
  have blank : Gap [' '] := by decide
  have index : Path.WellFormed Number.IsWhole [.index (some (-1))] :=
    .singleton (.index (by decide))
  have seven : Operand.WellFormed Number.IsWhole (.literal (.num (.int { val := 7 }))) :=
    .leaf (.num ⟨_, rfl⟩)
  have differs : Operator.notEquals ≠ .present := by decide
  have hp := Path.parse_written (.cons (.field (some "it's"))
    (.singleton (.filter (.compare differs (.candidate index) seven))))
  have left : SpellsOperand (.path [.index (some (-1))]) _ :=
    .candidate (.cons (.bracket (.inl rfl) (.index (.refl _))) .nil)
      ⟨[' '], [' '], blank, blank, rfl⟩
  have right : SpellsOperand (.literal (.num (.int { val := 7 }))) _ := .leaf (.int _) (.refl _)
  have spelled : (("<>".toList, .notEquals) : _ × Operator) ∈ operatorSpellings := by decide
  have query := SpellsContent.filter Gap.nil (.compare left spelled right) blank
  have text := SpellsPath.cons (.bracket (.inl rfl) (.field (.refl (quoted "it's"))))
    (.cons (.bracket (.inr rfl) query) .nil)
  refine (congrArg Path.parse ?_).trans (hp.2 _ ['\t'] [] text (by decide) Gap.nil).1
  rfl

end JsonQuery
