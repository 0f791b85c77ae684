import JsonQuery.Proofs.Grammar.Lookahead
import JsonQuery.Proofs.Grammar.Step

/-!
# Allowances

An allowance of as many steps as a text has characters is enough for a path, and one more for a
condition. What the grammar relates is read with it (`ReadsPath.readPath`). Enough is never
exhausted, and more changes nothing, errors included (`readPath_settles`).
-/

namespace JsonQuery

open Text

/-- A step for the first character, and enough for the others. -/
theorem exists_allowance {c : Char} {cs : List Char} {a : Nat} (h : (c :: cs).length ≤ a) :
    ∃ b, a = b + 1 ∧ cs.length ≤ b :=
  ⟨a - 1, by rw [List.length_cons] at h; omega, by rw [List.length_cons] at h; omega⟩

variable [Regex.Engine]

mutual

theorem ReadsPath.readPath {q : Bool} {j : Junction} {cs rest : List Char} {path : Path} {a : Nat} :
    ReadsPath q j cs path rest → cs.length ≤ a → readPath a q j cs = .ok (path, rest)
  | .done hj, _ => by simp [readPath_nil, hj]
  | .stop hc hj, ha => by
    obtain ⟨a, rfl, hb⟩ := exists_allowance ha
    simp [readPath_end hc, hj]
  | .dot h, ha => by
    obtain ⟨a, rfl, hb⟩ := exists_allowance ha
    rw [readPath_dot]
    exact h.readPath hb
  | .name hj hc hw hcs h, ha => by
    obtain ⟨a, rfl, hb⟩ := exists_allowance ha
    rw [readPath_name hj hc hw hcs, h.readPath (by simp at hb; omega)]
    rfl
  | @ReadsPath.indexer _ _ _ c _ _ _ _ _ hc hi h, ha => by
    obtain ⟨a, rfl, hb⟩ := exists_allowance ha
    obtain ⟨inner, he, -⟩ := hi.lookahead (isCloser_closing c)
    have hlen := congrArg List.length he
    rw [List.length_append] at hlen
    rw [readPath_bracket hc, hi.readIndexer (isCloser_closing c) hb]
    simp only [bind, Except.bind, List.drop_one, List.tail_cons]
    rw [h.readPath (by omega)]
    rfl

theorem ReadsIndexer.readIndexer {close : Char} {scan : Bool} {cs rest : List Char} {here : Path}
    {a : Nat} (hclose : IsCloser close) : ReadsIndexer close scan cs here rest → cs.length ≤ a →
      readIndexer (readChain a) close scan cs = .ok (here, close :: rest)
  | .names hg h, _ => by rw [readIndexer_names hg, h]; rfl
  | .array hg hb hq hf h, _ => by rw [readIndexer_array hg hb hq hf, h]; rfl
  | @ReadsIndexer.filter _ _ _ _ _ _ _ _ hg hc hh, ha => by
    simp only [List.length_append, List.length_cons] at ha
    rw [readIndexer_filter hg, readFilter_of_chain (hc.readChain (by omega)) hh hclose.endsWord.2]
    rfl

theorem ReadsChain.readChain {cs rest : List Char} {chain : Chain} {a : Nat} :
    ReadsChain cs chain rest → cs.length < a → readChain a cs = .ok (chain, ')' :: rest)
  | .last h, ha => by
    obtain ⟨a, rfl⟩ := Nat.exists_eq_succ_of_ne_zero (n := a) (by omega)
    exact readChain_last (h.readTest (by omega))
  | .more ht hs h, ha => by
    obtain ⟨a, rfl⟩ := Nat.exists_eq_succ_of_ne_zero (n := a) (by omega)
    obtain ⟨word, hne, he, -⟩ := ht.lookahead
    obtain ⟨spelling, -, he', -⟩ := readSpelling_lookahead connectiveSpellings_length hs
    have hpos := List.length_pos_iff.2 hne
    have hlen := congrArg List.length he
    have hlen' := congrArg List.length he'
    simp only [List.length_append] at hlen hlen'
    rw [readChain_more (ht.readTest (by omega)) hs, h.readChain (by omega)]
    rfl

theorem ReadsTest.readTest {cs rest : List Char} {test : Condition} {a : Nat} :
    ReadsTest cs test rest → cs.length ≤ a →
      readTest (JsonQuery.readPath a true .start) cs = .ok (test, rest)
  | .present h hc, ha => readTest_present (h.readOperand ha) hc
  | .compare hl hc ho hr, ha => by
    obtain ⟨word, -, he, -⟩ := hl.lookahead
    obtain ⟨op, -, he', -⟩ := readOperator_looksOneAhead _ _ _ ho
    have hlen := congrArg List.length he
    have hlen' := congrArg List.length he'
    simp only [List.length_append] at hlen hlen'
    rw [readTest_compare (hl.readOperand ha) hc ho, hr.readOperand (by omega)]
    rfl

theorem ReadsOperand.readOperand {cs rest : List Char} {operand : Operand} {a : Nat} :
    ReadsOperand cs operand rest → cs.length ≤ a →
      readOperand (JsonQuery.readPath a true .start) cs = .ok (operand, rest)
  | .document hg hp hh hc, ha => by
    simp only [List.length_append, List.length_cons] at ha
    refine readOperand_of_side ?_ hh hc rfl
    rw [dropBlanks_gap_cons hg (by decide), readSide_document, hp.readPath (by omega)]
    rfl
  | .candidate hg hp hh hc, ha => by
    simp only [List.length_append, List.length_cons] at ha
    refine readOperand_of_side ?_ hh hc rfl
    rw [dropBlanks_gap_cons hg (by decide), readSide_candidate, hp.readPath (by omega)]
    rfl
  | .literal hg hb hd hd' hl hh hc, _ => by
    refine readOperand_of_side ?_ hh hc rfl
    rw [dropBlanks_gap_cons hg hb, readSide_literal (by simpa using hd) (by simpa using hd'), hl]
    rfl

end

end JsonQuery
