import JsonQuery.Proofs.Grammar.Step

/-!
# The grammar of paths

Paths, indexers and conditions as relations between a text, what is read from it and the text that
remains, without an allowance. What the readers read stands in these relations
(`readsPath_of_readPath`), and what stands in them is read.
-/

namespace JsonQuery

open Text

variable [Regex.Engine]

mutual

/-- The selectors from a junction on, up to the end of the path. -/
inductive ReadsPath : (inQuery : Bool) → Junction → List Char → Path → List Char → Prop
  | done {q : Bool} {j : Junction} : j.isDot = false → ReadsPath q j [] [] []
  | stop {q : Bool} {j : Junction} {c : Char} {rest : List Char} : endsPath q c = true →
      (j.isDot && q) = false → ReadsPath q j (c :: rest) [] (c :: rest)
  | dot {q : Bool} {j : Junction} {cs rest : List Char} {path : Path} :
      ReadsPath q j.addDot cs path rest → ReadsPath q j ('.' :: cs) path rest
  | name {q : Bool} {j : Junction} {c : Char} {word cs rest : List Char} {path : Path} :
      j ≠ .indexer → isNameChar q c = true → (∀ d ∈ word, isNameChar q d = true) →
      Ends (isNameChar q) cs → ReadsPath q .name cs path rest →
      ReadsPath q j (c :: (word ++ cs))
        (.member j.scans (String.ofList (c :: word)) :: path) rest
  | indexer {q : Bool} {j : Junction} {c : Char} {cs mid rest : List Char} {here path : Path} :
      c = '[' ∨ c = '(' → ReadsIndexer (closing c) j.scans cs here mid →
      ReadsPath q .indexer mid path rest → ReadsPath q j (c :: cs) (here ++ path) rest

/-- What stands in brackets, and the closing one. -/
inductive ReadsIndexer : (close : Char) → (scan : Bool) → List Char → Path → List Char → Prop
  | names {close : Char} {scan : Bool} {g cs rest : List Char} {names : List String} : Gap g →
      readNames close ('\'' :: cs) = .ok (names, close :: rest) →
      ReadsIndexer close scan (g ++ '\'' :: cs) [.members scan names] rest
  | array {close : Char} {scan : Bool} {g cs rest : List Char} {c : Char} {selector : Selector} :
      Gap g → isBlank c = false → c ≠ '\'' → c ≠ '?' →
      readArrayIndexer close (c :: cs) = .ok (selector, close :: rest) →
      ReadsIndexer close scan (g ++ c :: cs)
        (if scan then [.scan none, selector] else [selector]) rest
  | filter {close : Char} {scan : Bool} {g h cs rest : List Char} {chain : Chain} : Gap g →
      ReadsChain cs chain (h ++ close :: rest) → Gap h →
      ReadsIndexer close scan (g ++ '?' :: '(' :: cs)
        [if scan then .scanFilter chain.condition else .filter chain.condition] rest

/-- The tests of a condition and the parenthesis behind them. -/
inductive ReadsChain : List Char → Chain → List Char → Prop
  | last {cs rest : List Char} {test : Condition} : ReadsTest cs test (')' :: rest) →
      ReadsChain cs ⟨[], test⟩ rest
  | more {cs mid mid' rest : List Char} {test : Condition} {connective : Connective}
      {chain : Chain} : ReadsTest cs test mid →
      readSpelling connectiveSpellings mid = some (connective, mid') →
      ReadsChain mid' chain rest →
      ReadsChain cs ⟨(test, connective) :: chain.tests, chain.last⟩ rest

inductive ReadsTest : List Char → Condition → List Char → Prop
  | present {cs rest : List Char} {left : Operand} {c : Char} : ReadsOperand cs left (c :: rest) →
      c = ')' ∨ c = '|' ∨ c = '&' → ReadsTest cs (.test .present left none) (c :: rest)
  | compare {cs mid mid' rest : List Char} {left right : Operand} {operator : Operator} {c : Char} :
      ReadsOperand cs left (c :: mid) → c ≠ ')' ∧ c ≠ '|' ∧ c ≠ '&' →
      readOperator (c :: mid) = .ok (operator, mid') → ReadsOperand mid' right rest →
      ReadsTest cs (.test operator left (some right)) rest

/-- An operand and the blanks around it. Something follows it. -/
inductive ReadsOperand : List Char → Operand → List Char → Prop
  | document {g h cs rest : List Char} {c : Char} {path : Path} : Gap g →
      ReadsPath true .start cs path (h ++ c :: rest) → Gap h → isBlank c = false →
      ReadsOperand (g ++ '$' :: cs) (.path (.root :: path)) (c :: rest)
  | candidate {g h cs rest : List Char} {c : Char} {path : Path} : Gap g →
      ReadsPath true .start cs path (h ++ c :: rest) → Gap h → isBlank c = false →
      ReadsOperand (g ++ '@' :: cs) (.path path) (c :: rest)
  | literal {g h cs rest : List Char} {c d : Char} {operand : Operand} : Gap g →
      isBlank d = false → d ≠ '$' → d ≠ '@' →
      readLiteral (d :: cs) = .ok (operand, h ++ c :: rest) → Gap h → isBlank c = false →
      ReadsOperand (g ++ d :: cs) operand (c :: rest)

end

/-! ## What the readers read -/

theorem readsOperand_of_readOperand {read : PathReader}
    (hp : ∀ {cs path rest}, read cs = .ok (path, rest) → ReadsPath true .start cs path rest)
    {cs rest : List Char} {operand : Operand} (h : readOperand read cs = .ok (operand, rest)) :
    ReadsOperand cs operand rest := by
  obtain ⟨⟨operand', mid⟩, hs, h'⟩ := bind_eq_ok.1 h
  obtain ⟨g, hg, hcs⟩ := exists_gap cs
  dsimp only at h'
  split at h'
  · cases h'
  · next r hr =>
    cases h'
    obtain ⟨c, rest, hcons⟩ := List.exists_cons_of_ne_nil hr
    rw [hcons]
    obtain ⟨b, hb, hc, rfl⟩ := dropBlanks_eq_cons_iff.1 hcons
    generalize hd : dropBlanks cs = ds at hs hcs
    rw [hcs]
    unfold readSide at hs
    split at hs
    · obtain ⟨⟨path, r⟩, hr', he⟩ := map_eq_ok.1 hs
      cases he
      exact .document hg (hp hr') hb hc
    · obtain ⟨⟨path, r⟩, hr', he⟩ := map_eq_ok.1 hs
      cases he
      exact .candidate hg (hp hr') hb hc
    · next hroot hat =>
      rw [orFault_eq_ok] at hs
      cases ds with
      | nil => cases hs
      | cons d ds =>
        refine .literal hg (not_blank_of_dropBlanks hd) ?_ ?_ hs hb hc
        · rintro rfl
          exact hroot _ rfl
        · rintro rfl
          exact hat _ rfl

theorem readsTest_of_readTest {read : PathReader}
    (hp : ∀ {cs path rest}, read cs = .ok (path, rest) → ReadsPath true .start cs path rest)
    {cs rest : List Char} {test : Condition} (h : readTest read cs = .ok (test, rest)) :
    ReadsTest cs test rest := by
  obtain ⟨left, c, mid, hl, ⟨hc, rfl, rfl⟩ | ⟨hc, operator, behind, right, ho, hr, rfl⟩⟩ :=
    readTest_cases h
  · exact .present (readsOperand_of_readOperand hp hl) hc
  · exact .compare (readsOperand_of_readOperand hp hl) hc ho (readsOperand_of_readOperand hp hr)

theorem readsIndexer_of_readIndexer {read : ChainReader}
    (hc : ∀ {cs chain rest}, read cs = .ok (chain, rest) →
      ∃ r, rest = ')' :: r ∧ ReadsChain cs chain r)
    {close : Char} {scan : Bool} {cs rest : List Char} {here : Path}
    (h : readIndexer read close scan cs = .ok (here, rest)) :
    ∃ r, rest = close :: r ∧ ReadsIndexer close scan cs here r := by
  obtain ⟨g, c, inner, hg, rfl, hcase⟩ := readIndexer_cases h
  obtain ⟨rfl, names, hn, rfl⟩ | ⟨rfl, selector, hf, rfl⟩ |
    ⟨hb, hquote, hquery, selector, ha, rfl⟩ := hcase
  · obtain ⟨t, r, -, rfl, -⟩ := namesText_of_readNames hn
    exact ⟨r, rfl, .names hg hn⟩
  · obtain ⟨inner, chain, mid, r, rfl, hchain, hd, rfl, rfl⟩ := exists_chain_of_readFilter hf
    obtain ⟨m, rfl, hreads⟩ := hc hchain
    obtain ⟨b, hb, -, rfl⟩ := dropBlanks_eq_cons_iff.1 hd
    exact ⟨r, rfl, .filter hg hreads hb⟩
  · obtain ⟨t, r, -, rfl, -⟩ := arrayText_of_readArrayIndexer ha
    exact ⟨r, rfl, .array hg hb hquote hquery ha⟩

section

variable {a : Nat} {q : Bool} {j : Junction} {c : Char} {cs rest : List Char} {path : Path}

theorem readsPath_of_nil (h : readPath a q j [] = .ok (path, rest)) :
    ReadsPath q j [] path rest := by
  rw [readPath_nil] at h
  split at h
  · cases h
  · next hj =>
    cases h
    exact .done (eq_false_of_ne_true hj)

theorem readsPath_of_end (hc : endsPath q c = true)
    (h : readPath (a + 1) q j (c :: cs) = .ok (path, rest)) :
    ReadsPath q j (c :: cs) path rest := by
  rw [readPath_end hc] at h
  split at h
  · cases h
  · next hj =>
    cases h
    exact .stop hc (eq_false_of_ne_true hj)

/-- What the readers read with an allowance stands in the relations. -/
structure ReadersSound (a : Nat) : Prop where
  path {q : Bool} {j : Junction} {cs rest : List Char} {path : Path} :
    readPath a q j cs = .ok (path, rest) → ReadsPath q j cs path rest
  chain {cs rest : List Char} {chain : Chain} :
    readChain a cs = .ok (chain, rest) → ∃ r, rest = ')' :: r ∧ ReadsChain cs chain r

namespace ReadersSound

theorem zero : ReadersSound 0 where
  path {_ _ cs _ _} h := by
    cases cs with
    | nil => exact readsPath_of_nil h
    | cons c cs => cases h
  chain := nofun

variable (h : ReadersSound a)

include h

theorem path_of_bracket (hc : c = '[' ∨ c = '(')
    (hr : readPath (a + 1) q j (c :: cs) = .ok (path, rest)) :
    ReadsPath q j (c :: cs) path rest := by
  rw [readPath_bracket hc] at hr
  obtain ⟨⟨here, mid⟩, hhere, hr⟩ := bind_eq_ok.1 hr
  obtain ⟨r, rfl, hreads⟩ := readsIndexer_of_readIndexer h.chain hhere
  obtain ⟨⟨more, rest'⟩, hmore, he⟩ := map_eq_ok.1 hr
  cases he
  exact .indexer hc hreads (h.path hmore)

theorem path_of_name (hc : isNameChar q c = true)
    (hr : readPath (a + 1) q j (c :: cs) = .ok (path, rest)) :
    ReadsPath q j (c :: cs) path rest := by
  by_cases hj : j = .indexer
  · rw [hj, readPath_nameAfterIndexer hc] at hr
    cases hr
  · obtain ⟨word, mid, rfl, hw, hmid⟩ := exists_word q cs
    rw [readPath_name hj hc hw hmid] at hr
    obtain ⟨⟨more, rest'⟩, hmore, he⟩ := map_eq_ok.1 hr
    cases he
    exact .name hj hc hw hmid (h.path hmore)

theorem succ_path (hr : readPath (a + 1) q j cs = .ok (path, rest)) :
    ReadsPath q j cs path rest := by
  cases cs with
  | nil => exact readsPath_of_nil hr
  | cons c cs =>
    obtain hc | hc | rfl | hc := pathChar_cases q c
    · exact h.path_of_bracket hc hr
    · exact readsPath_of_end hc hr
    · rw [readPath_dot] at hr
      exact .dot (h.path hr)
    · exact h.path_of_name hc hr

theorem succ_chain {chain : Chain} (hr : readChain (a + 1) cs = .ok (chain, rest)) :
    ∃ r, rest = ')' :: r ∧ ReadsChain cs chain r := by
  obtain ⟨test, mid, ht, ⟨r, rfl, rfl, rfl⟩ | ⟨connective, behind, more, hs, hmore, rfl⟩⟩ :=
    readChain_cases hr
  · exact ⟨r, rfl, .last (readsTest_of_readTest h.path ht)⟩
  · obtain ⟨r, rfl, hreads⟩ := h.chain hmore
    exact ⟨r, rfl, .more (readsTest_of_readTest h.path ht) hs hreads⟩

theorem succ : ReadersSound (a + 1) := ⟨h.succ_path, h.succ_chain⟩

end ReadersSound

end

theorem readers_sound (a : Nat) : ReadersSound a := by
  induction a with
  | zero => exact .zero
  | succ a ih => exact ih.succ

theorem readsPath_of_readPath {a : Nat} {q : Bool} {j : Junction} {cs rest : List Char}
    {path : Path} (h : readPath a q j cs = .ok (path, rest)) : ReadsPath q j cs path rest :=
  (readers_sound a).path h

end JsonQuery
