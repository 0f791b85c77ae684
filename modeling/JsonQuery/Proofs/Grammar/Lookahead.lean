import JsonQuery.Proofs.Grammar.Path

/-!
# One character of lookahead

Every reader takes a word off the front of its text, and of the text behind the word only the first
character counts. A reader that ends with a closing bracket does not even look at that one.
-/

namespace JsonQuery

open Text

theorem head_append_of_head_eq {word rest rest' : List Char} (h : rest'.head? = rest.head?) :
    (word ++ rest').head? = (word ++ rest).head? := by
  rw [List.head?_append, List.head?_append, h]

variable [Regex.Engine]

mutual

theorem ReadsPath.lookahead {q : Bool} {j : Junction} {cs rest : List Char} {path : Path} :
    ReadsPath q j cs path rest → ∃ word, cs = word ++ rest ∧
      ∀ rest', rest'.head? = rest.head? → ReadsPath q j (word ++ rest') path rest'
  | .done hj => by
    refine ⟨[], rfl, fun rest' hr => ?_⟩
    obtain rfl : rest' = [] := List.head?_eq_none_iff.1 hr
    exact .done hj
  | .stop hc hj => by
    refine ⟨[], rfl, fun rest' hr => ?_⟩
    obtain ⟨r, rfl⟩ := List.head?_eq_some_iff.1 hr
    exact .stop hc hj
  | .dot h => by
    obtain ⟨word, rfl, hw⟩ := h.lookahead
    exact ⟨'.' :: word, rfl, fun rest' hr => .dot (hw rest' hr)⟩
  | @ReadsPath.name _ _ _ c name _ _ _ hj hc hn hends h => by
    obtain ⟨word, rfl, hw⟩ := h.lookahead
    refine ⟨c :: (name ++ word), by simp, fun rest' hr => ?_⟩
    rw [List.cons_append, List.append_assoc]
    exact .name hj hc hn (hends.of_head_eq (head_append_of_head_eq hr)) (hw rest' hr)
  | @ReadsPath.indexer _ _ _ c _ _ _ _ _ hc hi h => by
    obtain ⟨inner, rfl, hin⟩ := hi.lookahead (isCloser_closing c)
    obtain ⟨word, rfl, hw⟩ := h.lookahead
    refine ⟨c :: (inner ++ word), by simp, fun rest' hr => ?_⟩
    rw [List.cons_append, List.append_assoc]
    exact .indexer hc (hin _) (hw rest' hr)

theorem ReadsIndexer.lookahead {close : Char} {scan : Bool} {cs rest : List Char} {here : Path}
    (hclose : IsCloser close) : ReadsIndexer close scan cs here rest → ∃ word, cs = word ++ rest ∧
      ∀ rest', ReadsIndexer close scan (word ++ rest') here rest'
  | @ReadsIndexer.names _ _ _ g cs rest _ hg h => by
    obtain ⟨word, rfl, hw⟩ := (readNames_looksOneAhead hclose).cons h
    refine ⟨g ++ '\'' :: (word ++ [close]), by simp, fun rest' => ?_⟩
    have hread : ReadsIndexer close scan _ _ rest' := .names hg (hw (close :: rest') rfl)
    simpa using hread
  | @ReadsIndexer.array _ _ _ g cs rest c _ hg hb hq hf h => by
    obtain ⟨word, rfl, hw⟩ := (readArrayIndexer_looksOneAhead hclose).cons h
    refine ⟨g ++ c :: (word ++ [close]), by simp, fun rest' => ?_⟩
    have hread : ReadsIndexer close scan _ _ rest' :=
      .array hg hb hq hf (hw (close :: rest') rfl)
    simpa using hread
  | @ReadsIndexer.filter _ _ _ g h cs rest chain hg hc hh => by
    obtain ⟨word, -, rfl, hw⟩ := hc.lookahead
    refine ⟨g ++ '?' :: '(' :: (word ++ (h ++ [close])), by simp, fun rest' => ?_⟩
    have hread : ReadsIndexer close scan _ _ rest' := .filter hg (hw (h ++ close :: rest')) hh
    simpa using hread

theorem ReadsChain.lookahead {cs rest : List Char} {chain : Chain} :
    ReadsChain cs chain rest → ∃ word, word ≠ [] ∧ cs = word ++ rest ∧
      ∀ rest', ReadsChain (word ++ rest') chain rest'
  | .last h => by
    obtain ⟨word, -, rfl, hw⟩ := h.lookahead
    refine ⟨word ++ [')'], by simp, by simp, fun rest' => ?_⟩
    rw [List.append_assoc]
    exact .last (hw (')' :: rest') rfl)
  | .more ht hs h => by
    obtain ⟨word, hne, rfl, hw⟩ := ht.lookahead
    obtain ⟨spelling, -, rfl, hsp⟩ := readSpelling_lookahead connectiveSpellings_length hs
    obtain ⟨word', hne', rfl, hw'⟩ := h.lookahead
    refine ⟨word ++ (spelling ++ word'), by simp [hne], by simp, fun rest' => ?_⟩
    obtain ⟨d, word', rfl⟩ := List.exists_cons_of_ne_nil hne'
    have hhead : ((d :: word') ++ rest').head? = ((d :: word') ++ rest).head? := rfl
    rw [List.append_assoc, List.append_assoc]
    exact .more (hw _ (head_append_of_head_eq hhead)) (hsp _ hhead) (hw' rest')

theorem ReadsTest.lookahead {cs rest : List Char} {test : Condition} :
    ReadsTest cs test rest → ∃ word, word ≠ [] ∧ cs = word ++ rest ∧
      ∀ rest', rest'.head? = rest.head? → ReadsTest (word ++ rest') test rest'
  | .present h hc => by
    obtain ⟨word, hne, rfl, hw⟩ := h.lookahead
    refine ⟨word, hne, rfl, fun rest' hr => ?_⟩
    obtain ⟨r, rfl⟩ := List.head?_eq_some_iff.1 hr
    exact .present (hw _ rfl) hc
  | @ReadsTest.compare _ _ _ _ _ _ _ _ c hl hc ho hr => by
    obtain ⟨word, hne, rfl, hw⟩ := hl.lookahead
    obtain ⟨op, rfl, hwo⟩ := readOperator_looksOneAhead.cons ho
    obtain ⟨word', hne', rfl, hw'⟩ := hr.lookahead
    refine ⟨word ++ c :: (op ++ word'), by simp, by simp, fun rest' hr => ?_⟩
    have hmid := hwo (word' ++ rest') (head_append_of_head_eq hr)
    simp only [List.append_assoc, List.cons_append]
    exact .compare (hw _ rfl) hc hmid (hw' _ hr)

theorem ReadsOperand.lookahead {cs rest : List Char} {operand : Operand} :
    ReadsOperand cs operand rest → ∃ word, word ≠ [] ∧ cs = word ++ rest ∧
      ∀ rest', rest'.head? = rest.head? → ReadsOperand (word ++ rest') operand rest'
  | @ReadsOperand.document _ g h cs rest c path hg hp hh hc => by
    obtain ⟨word, rfl, hw⟩ := hp.lookahead
    refine ⟨g ++ '$' :: (word ++ h), by simp, by simp, fun rest' hr => ?_⟩
    obtain ⟨r, rfl⟩ := List.head?_eq_some_iff.1 hr
    have hmid := hw (h ++ c :: r) (head_append_of_head_eq rfl)
    simpa using ReadsOperand.document hg hmid hh hc
  | @ReadsOperand.candidate _ g h cs rest c path hg hp hh hc => by
    obtain ⟨word, rfl, hw⟩ := hp.lookahead
    refine ⟨g ++ '@' :: (word ++ h), by simp, by simp, fun rest' hr => ?_⟩
    obtain ⟨r, rfl⟩ := List.head?_eq_some_iff.1 hr
    have hmid := hw (h ++ c :: r) (head_append_of_head_eq rfl)
    simpa using ReadsOperand.candidate hg hmid hh hc
  | @ReadsOperand.literal _ g h cs rest c d _ hg hb hd hd' hl hh hc => by
    obtain ⟨word, rfl, hw⟩ := readLiteral_looksOneAhead.cons hl
    refine ⟨g ++ d :: (word ++ h), by simp, by simp, fun rest' hr => ?_⟩
    obtain ⟨r, rfl⟩ := List.head?_eq_some_iff.1 hr
    have hmid := hw (h ++ c :: r) (head_append_of_head_eq rfl)
    simpa using ReadsOperand.literal hg hb hd hd' hmid hh hc

end

end JsonQuery
