import JsonQuery.Proofs.Grammar.Literal
import JsonQuery.Proofs.Grammar.Names

/-!
# Steps of the readers

One step of each reader by what its text begins with, and what a step that succeeds has read.
-/

namespace JsonQuery

open Text

theorem Junction.scans_eq_false {j : Junction} (h : j.isDot = false) : j.scans = false := by
  cases j with
  | dot | dots => cases h
  | start | name | indexer => rfl

theorem Junction.addDot_eq_dot {j : Junction} (h : j.isDot = false) : j.addDot = .dot := by
  rw [addDot, h]
  rfl

/-! ## Characters of a path -/

section

variable {q : Bool}

theorem not_bracket_of_endsPath {c : Char} (h : endsPath q c = true) : ¬(c = '[' ∨ c = '(') := by
  rintro (rfl | rfl) <;> cases q <;> exact absurd h (by decide)

theorem not_dot_of_endsPath {c : Char} (h : endsPath q c = true) : c ≠ '.' := by
  rintro rfl
  cases q <;> exact absurd h (by decide)

theorem isNameChar_iff {c : Char} : isNameChar q c = true ↔
    c ≠ '[' ∧ c ≠ '(' ∧ c ≠ '.' ∧ endsPath q c = false := by
  simp [isNameChar, and_assoc]

/-- A character of a path opens an indexer, ends the path, is a dot, or belongs to a name. -/
theorem pathChar_cases (q : Bool) (c : Char) :
    (c = '[' ∨ c = '(') ∨ endsPath q c = true ∨ c = '.' ∨ isNameChar q c = true := by
  rw [isNameChar_iff]
  by_cases hb : c = '[' ∨ c = '('
  · exact .inl hb
  by_cases he : endsPath q c = true
  · exact .inr (.inl he)
  by_cases hd : c = '.'
  · exact .inr (.inr (.inl hd))
  obtain ⟨hsquare, hround⟩ := not_or.1 hb
  exact .inr (.inr (.inr ⟨hsquare, hround, hd, eq_false_of_ne_true he⟩))

/-- What stands behind the first character of a name. -/
theorem exists_word (q : Bool) (cs : List Char) : ∃ word mid, cs = word ++ mid ∧
    (∀ d ∈ word, isNameChar q d = true) ∧ Ends (isNameChar q) mid :=
  ⟨_, _, List.takeWhile_append_dropWhile.symm, fun _ hd => List.mem_takeWhile_imp hd,
    ends_dropWhile cs⟩

end

/-! ## Readers -/

variable [Regex.Engine]

section

variable {a : Nat} {q : Bool} {j : Junction}

theorem readPath_nil (a : Nat) (q : Bool) (j : Junction) :
    readPath a q j [] = if j.isDot then .error (.fault .unexpectedEnd) else .ok ([], []) := by
  rw [readPath]

theorem readPath_bracket {c : Char} (hc : c = '[' ∨ c = '(') (cs : List Char) :
    readPath (a + 1) q j (c :: cs) =
      readIndexer (readChain a) (closing c) j.scans cs >>= fun found =>
        (readPath a q .indexer (found.2.drop 1)).map fun (more, rest) =>
          (found.1 ++ more, rest) := by
  rw [readPath, if_pos hc]
  refine congrArg _ (funext fun found => ?_)
  dsimp only
  cases readPath a q .indexer (found.2.drop 1) <;> rfl

theorem readPath_end {c : Char} (h : endsPath q c = true) (cs : List Char) :
    readPath (a + 1) q j (c :: cs) =
      if j.isDot && q then .error (.fault .unexpectedEnd) else .ok ([], c :: cs) := by
  rw [readPath, if_neg (not_bracket_of_endsPath h), if_pos h]

theorem readPath_dot (cs : List Char) :
    readPath (a + 1) q j ('.' :: cs) = readPath a q j.addDot cs := by
  rw [readPath, if_neg (by decide), if_neg (fun h => not_dot_of_endsPath h rfl), if_pos rfl]

theorem readPath_name {c : Char} {word cs : List Char} (hj : j ≠ .indexer)
    (hc : isNameChar q c = true) (hw : ∀ d ∈ word, isNameChar q d = true)
    (hcs : Ends (isNameChar q) cs) :
    readPath (a + 1) q j (c :: (word ++ cs)) = (readPath a q .name cs).map fun (more, rest) =>
      (.member j.scans (String.ofList (c :: word)) :: more, rest) := by
  obtain ⟨h1, h2, h3, h4⟩ := isNameChar_iff.1 hc
  rw [readPath, if_neg (by simp [h1, h2]), if_neg (by simp [h4]), if_neg h3, if_neg hj,
    takeWhile_run hw hcs, dropWhile_run hw hcs]
  cases readPath a q .name cs <;> rfl

theorem readPath_nameAfterIndexer {c : Char} (hc : isNameChar q c = true) (cs : List Char) :
    readPath (a + 1) q .indexer (c :: cs) = .error (.fault (.nameAfterIndexer c)) := by
  obtain ⟨h1, h2, h3, h4⟩ := isNameChar_iff.1 hc
  rw [readPath, if_neg (by simp [h1, h2]), if_neg (by simp [h4]), if_neg h3, if_pos rfl]

end

section

variable {read : ChainReader} {close : Char} {scan : Bool} {g : List Char}

theorem readIndexer_names (hg : Gap g) (cs : List Char) :
    readIndexer read close scan (g ++ '\'' :: cs) =
      (orFault (readNames close ('\'' :: cs))).map fun (names, rest) =>
        ([.members scan names], rest) := by
  rw [readIndexer, dropBlanks_gap_cons hg (by decide)]
  split
  · next h => cases h
  · next rest h =>
    obtain rfl : cs = rest := (List.cons.inj h).2
    cases readNames close ('\'' :: cs) <;> rfl
  · next h => exact absurd (List.cons.inj h).1 (by decide)
  · next _ h _ => exact absurd rfl (h cs)

theorem readIndexer_filter (hg : Gap g) (cs : List Char) :
    readIndexer read close scan (g ++ '?' :: cs) =
      (readFilter read close scan cs).map fun (selector, rest) => ([selector], rest) := by
  rw [readIndexer, dropBlanks_gap_cons hg (by decide)]
  split
  · next h => cases h
  · next h => exact absurd (List.cons.inj h).1 (by decide)
  · next rest h =>
    obtain rfl : cs = rest := (List.cons.inj h).2
    cases readFilter read close scan cs <;> rfl
  · next _ _ h => exact absurd rfl (h cs)

theorem readIndexer_array (hg : Gap g) {c : Char} (hb : isBlank c = false) (hq : c ≠ '\'')
    (hf : c ≠ '?') (cs : List Char) :
    readIndexer read close scan (g ++ c :: cs) =
      (orFault (readArrayIndexer close (c :: cs))).map fun (selector, rest) =>
        (if scan then [.scan none, selector] else [selector], rest) := by
  rw [readIndexer, dropBlanks_gap_cons hg hb]
  split
  · next h => cases h
  · next h => exact absurd (List.cons.inj h).1 hq
  · next h => exact absurd (List.cons.inj h).1 hf
  · cases readArrayIndexer close (c :: cs) <;> rfl

theorem readFilter_of_chain {cs h rest : List Char} {chain : Chain}
    (hc : read cs = .ok (chain, ')' :: (h ++ close :: rest))) (hh : Gap h)
    (hb : isBlank close = false) :
    readFilter read close scan ('(' :: cs) = .ok
      (if scan then .scanFilter chain.condition else .filter chain.condition, close :: rest) := by
  rw [readFilter, if_neg (by decide), hc]
  simp only [bind, Except.bind, List.drop_one, List.tail_cons, dropBlanks_gap_cons hh hb, if_pos]
  rfl

/-- The condition of a filter is read between the round brackets, and the closing bracket stands
behind them. -/
theorem exists_chain_of_readFilter {cs rest : List Char} {selector : Selector}
    (h : readFilter read close scan cs = .ok (selector, rest)) :
    ∃ inner chain mid r, cs = '(' :: inner ∧ read inner = .ok (chain, mid) ∧
      dropBlanks (mid.drop 1) = close :: r ∧ rest = close :: r ∧
      selector = if scan then .scanFilter chain.condition else .filter chain.condition := by
  unfold readFilter at h
  split at h
  · cases h
  · next c inner =>
    split at h
    · cases h
    · next hopen =>
      obtain rfl : c = '(' := Decidable.not_not.1 hopen
      obtain ⟨⟨chain, mid⟩, hchain, h⟩ := bind_eq_ok.1 h
      dsimp only at h
      split at h
      · cases h
      · next d r hd =>
        split at h
        · next hclose =>
          cases h
          subst hclose
          exact ⟨inner, chain, mid, r, rfl, hchain, hd, rfl, rfl⟩
        · cases h

/-- Which of the three kinds an indexer is shows in the first character behind the blanks. -/
theorem readIndexer_cases {cs rest : List Char} {here : Path}
    (h : readIndexer read close scan cs = .ok (here, rest)) :
    ∃ g c inner, Gap g ∧ cs = g ++ c :: inner ∧
      ((c = '\'' ∧ ∃ names, readNames close (c :: inner) = .ok (names, rest) ∧
          here = [.members scan names]) ∨
        (c = '?' ∧ ∃ selector, readFilter read close scan inner = .ok (selector, rest) ∧
          here = [selector]) ∨
        (isBlank c = false ∧ c ≠ '\'' ∧ c ≠ '?' ∧
          ∃ selector, readArrayIndexer close (c :: inner) = .ok (selector, rest) ∧
            here = if scan then [.scan none, selector] else [selector])) := by
  obtain ⟨g, hg, hcs⟩ := exists_gap cs
  cases hd : dropBlanks cs with
  | nil =>
    rw [readIndexer, hd] at h
    cases h
  | cons c inner =>
    rw [hd] at hcs
    refine ⟨g, c, inner, hg, hcs, ?_⟩
    rw [hcs] at h
    by_cases hquote : c = '\''
    · subst hquote
      rw [readIndexer_names hg] at h
      obtain ⟨⟨names, r⟩, hnames, he⟩ := map_eq_ok.1 h
      cases he
      exact .inl ⟨rfl, names, orFault_eq_ok.1 hnames, rfl⟩
    by_cases hquery : c = '?'
    · subst hquery
      rw [readIndexer_filter hg] at h
      obtain ⟨⟨selector, r⟩, hfilter, he⟩ := map_eq_ok.1 h
      cases he
      exact .inr (.inl ⟨rfl, selector, hfilter, rfl⟩)
    · have hblank := not_blank_of_dropBlanks hd
      rw [readIndexer_array hg hblank hquote hquery] at h
      obtain ⟨⟨selector, r⟩, harray, he⟩ := map_eq_ok.1 h
      cases he
      exact .inr (.inr ⟨hblank, hquote, hquery, selector, orFault_eq_ok.1 harray, rfl⟩)

end

section

variable {read : PathReader}

theorem readSide_document (cs : List Char) :
    readSide read ('$' :: cs) = (read cs).map fun (path, rest) => (.path (.root :: path), rest) :=
  rfl

theorem readSide_candidate (cs : List Char) :
    readSide read ('@' :: cs) = (read cs).map fun (path, rest) => (.path path, rest) := rfl

theorem readSide_literal {cs : List Char} (hd : cs.head? ≠ some '$') (hc : cs.head? ≠ some '@') :
    readSide read cs = orFault (readLiteral cs) := by
  unfold readSide
  split
  · exact absurd rfl hd
  · exact absurd rfl hc
  · rfl

theorem readOperand_of_side {cs mid g rest : List Char} {operand : Operand} {c : Char}
    (h : readSide read (dropBlanks cs) = .ok (operand, mid)) (hg : Gap g)
    (hc : isBlank c = false) (hm : mid = g ++ c :: rest) :
    readOperand read cs = .ok (operand, c :: rest) := by
  have hd := dropBlanks_gap_cons hg hc rest
  rw [← hm] at hd
  rw [readOperand, h]
  simp [hd, bind, Except.bind, pure, Except.pure]

theorem readTest_present {cs rest : List Char} {left : Operand} {c : Char}
    (h : readOperand read cs = .ok (left, c :: rest)) (hc : c = ')' ∨ c = '|' ∨ c = '&') :
    readTest read cs = .ok (.test .present left none, c :: rest) := by
  rw [readTest, h]
  rcases hc with rfl | rfl | rfl <;> rfl

theorem readTest_operator {cs rest : List Char} {left : Operand} {c : Char}
    (h : readOperand read cs = .ok (left, c :: rest)) (hc : c ≠ ')' ∧ c ≠ '|' ∧ c ≠ '&') :
    readTest read cs = orFault (readOperator (c :: rest)) >>= fun (operator, mid) =>
      (readOperand read mid).map fun (right, rest) =>
        (.test operator left (some right), rest) := by
  obtain ⟨h1, h2, h3⟩ := hc
  rw [readTest, h]
  simp only [bind, Except.bind]
  split
  · next he => exact absurd (List.cons.inj he).1 h1
  · next he => exact absurd (List.cons.inj he).1 h2
  · next he => exact absurd (List.cons.inj he).1 h3
  · cases orFault (readOperator (c :: rest)) with
    | error e => rfl
    | ok found =>
      dsimp only
      cases readOperand read found.2 <;> rfl

theorem readTest_compare {cs rest mid : List Char} {left : Operand} {c : Char} {operator : Operator}
    (h : readOperand read cs = .ok (left, c :: rest)) (hc : c ≠ ')' ∧ c ≠ '|' ∧ c ≠ '&')
    (ho : readOperator (c :: rest) = .ok (operator, mid)) :
    readTest read cs = (readOperand read mid).map fun (right, rest) =>
      (.test operator left (some right), rest) := by
  rw [readTest_operator h hc, ho]
  rfl

/-- A test is an operand alone in front of what ends a test, or a comparison. -/
theorem readTest_cases {cs rest : List Char} {test : Condition}
    (h : readTest read cs = .ok (test, rest)) :
    ∃ left c mid, readOperand read cs = .ok (left, c :: mid) ∧
      (((c = ')' ∨ c = '|' ∨ c = '&') ∧ test = .test .present left none ∧ rest = c :: mid) ∨
        ((c ≠ ')' ∧ c ≠ '|' ∧ c ≠ '&') ∧ ∃ operator behind right,
          readOperator (c :: mid) = .ok (operator, behind) ∧
          readOperand read behind = .ok (right, rest) ∧
            test = .test operator left (some right))) := by
  obtain ⟨⟨left, mid⟩, hleft, htest⟩ := bind_eq_ok.1 h
  cases mid with
  | nil => cases htest
  | cons c mid =>
    refine ⟨left, c, mid, hleft, ?_⟩
    by_cases hc : c = ')' ∨ c = '|' ∨ c = '&'
    · rw [readTest_present hleft hc] at h
      cases h
      exact .inl ⟨hc, rfl, rfl⟩
    · obtain hc : c ≠ ')' ∧ c ≠ '|' ∧ c ≠ '&' := by simpa using hc
      rw [readTest_operator hleft hc] at h
      obtain ⟨⟨operator, behind⟩, hop, h⟩ := bind_eq_ok.1 h
      obtain ⟨⟨right, r⟩, hright, he⟩ := map_eq_ok.1 h
      cases he
      exact .inr ⟨hc, operator, behind, right, orFault_eq_ok.1 hop, hright, rfl⟩

end

section

variable {a : Nat}

theorem readChain_last {cs rest : List Char} {test : Condition}
    (h : readTest (readPath a true .start) cs = .ok (test, ')' :: rest)) :
    readChain (a + 1) cs = .ok (⟨[], test⟩, ')' :: rest) := by
  rw [readChain, h]
  rfl

theorem readChain_connective {cs rest : List Char} {test : Condition} {c : Char}
    (h : readTest (readPath a true .start) cs = .ok (test, c :: rest)) (hc : c ≠ ')') :
    readChain (a + 1) cs =
      match readSpelling connectiveSpellings (c :: rest) with
      | none => .error (.fault (.unexpectedInQuery c))
      | some (connective, rest) => (readChain a rest).map fun (chain, rest) =>
        (⟨(test, connective) :: chain.tests, chain.last⟩, rest) := by
  rw [readChain, h]
  simp only [bind, Except.bind]
  cases readSpelling connectiveSpellings (c :: rest) with
  | none => rfl
  | some found =>
    dsimp only
    cases readChain a found.2 <;> rfl

theorem readChain_more {cs mid rest : List Char} {test : Condition} {connective : Connective}
    (h : readTest (readPath a true .start) cs = .ok (test, mid))
    (hs : readSpelling connectiveSpellings mid = some (connective, rest)) :
    readChain (a + 1) cs = (readChain a rest).map fun (chain, rest) =>
      (⟨(test, connective) :: chain.tests, chain.last⟩, rest) := by
  cases mid with
  | nil => cases hs
  | cons c mid =>
    rw [readChain_connective h (not_close_of_connective hs), hs]

/-- A chain is a last test in front of the closing bracket, or a test with a connective and a chain
behind it. -/
theorem readChain_cases {cs rest : List Char} {chain : Chain}
    (h : readChain (a + 1) cs = .ok (chain, rest)) :
    ∃ test mid, readTest (readPath a true .start) cs = .ok (test, mid) ∧
      ((∃ r, mid = ')' :: r ∧ rest = ')' :: r ∧ chain = ⟨[], test⟩) ∨
        ∃ connective behind more, readSpelling connectiveSpellings mid = some (connective, behind) ∧
          readChain a behind = .ok (more, rest) ∧
            chain = ⟨(test, connective) :: more.tests, more.last⟩) := by
  obtain ⟨⟨test, mid⟩, htest, hchain⟩ := bind_eq_ok.1 h
  refine ⟨test, mid, htest, ?_⟩
  dsimp only at hchain
  split at hchain
  · cases hchain
  · cases hchain
    exact .inl ⟨_, rfl, rfl, rfl⟩
  split at hchain
  · cases hchain
  · next connective behind hs =>
    obtain ⟨⟨more, r⟩, hmore, he⟩ := bind_eq_ok.1 hchain
    cases he
    exact .inr ⟨connective, behind, more, hs, hmore, rfl⟩

end

end JsonQuery
