import JsonQuery.Proofs.Grammar.Lookahead

/-!
# Progress of readers

A reader that succeeds takes characters off the front of its text and leaves the rest as it is.
Only a path may be read from none; every other reader leaves less than it was given, so where one
reader follows another the text becomes shorter and shorter.
-/

namespace JsonQuery

open Text

/-- What is left of a text that some characters are taken off. -/
structure ProperSuffix (rest cs : List Char) : Prop where
  suffix : rest <:+ cs
  shorter : rest.length < cs.length

section

variable {rest mid cs : List Char}

theorem ProperSuffix.of_append {word : List Char} (h : word ≠ []) (rest : List Char) :
    ProperSuffix rest (word ++ rest) := by
  refine ⟨List.suffix_append word rest, ?_⟩
  have hpos := List.length_pos_iff.2 h
  rw [List.length_append]
  omega

theorem properSuffix_cons {c : Char} (h : rest <:+ cs) : ProperSuffix rest (c :: cs) := by
  refine ⟨h.trans (List.suffix_cons c cs), ?_⟩
  have hlen := h.length_le
  rw [List.length_cons]
  omega

theorem ProperSuffix.trans_suffix (h : ProperSuffix rest mid) (hm : mid <:+ cs) :
    ProperSuffix rest cs :=
  ⟨h.suffix.trans hm, Nat.lt_of_lt_of_le h.shorter hm.length_le⟩

theorem ProperSuffix.of_suffix (hm : ProperSuffix mid cs) (h : rest <:+ mid) :
    ProperSuffix rest cs :=
  ⟨h.trans hm.suffix, Nat.lt_of_le_of_lt h.length_le hm.shorter⟩

end

section

variable {ε α : Type} {read : List Char → Except ε (α × List Char)}

/-- A reader that leaves what it does not read as it is. -/
def LeavesSuffix (read : List Char → Except ε (α × List Char)) : Prop :=
  ∀ ⦃cs x rest⦄, read cs = .ok (x, rest) → rest <:+ cs

/-- A reader that reads at least one character. -/
def Progresses (read : List Char → Except ε (α × List Char)) : Prop :=
  ∀ ⦃cs x rest⦄, read cs = .ok (x, rest) → ProperSuffix rest cs

theorem Progresses.leavesSuffix (h : Progresses read) : LeavesSuffix read :=
  fun _ _ _ hr => (h hr).suffix

theorem LooksOneAhead.progresses (h : LooksOneAhead read) : Progresses read := by
  intro cs x rest hr
  obtain ⟨word, hne, rfl, -⟩ := h cs x rest hr
  exact .of_append hne rest

end

/-! ## Readers of single parts -/

theorem readQuoted_progresses : Progresses readQuoted := by
  intro cs text rest h
  obtain ⟨units, -, rfl⟩ := quotedText_of_readQuoted h
  exact (properSuffix_cons (List.suffix_refl rest)).trans_suffix (List.suffix_append units _)

/-- No number is written with no characters. -/
theorem readNumber_progresses : Progresses readNumber := by
  intro cs n rest h
  obtain ⟨word, -, -, hn, rfl⟩ := readNumber_eq_ok_iff.1 h
  refine .of_append ?_ rest
  rintro rfl
  cases hn

theorem readSpelling_progresses {α : Type} {table : List (List Char × α)} {cs rest : List Char}
    {meaning : α} (ht : ∀ a ∈ table, a.1 ≠ [])
    (h : readSpelling table cs = some (meaning, rest)) : ProperSuffix rest cs := by
  obtain ⟨spelling, before, after, rfl, rfl, -⟩ := readSpelling_eq_some h
  exact .of_append (ht (spelling, meaning) (by simp)) rest

theorem readOperator_progresses : Progresses readOperator := readOperator_looksOneAhead.progresses

theorem readNames_progresses (close : Char) : Progresses (readNames close) := by
  intro cs names rest h
  obtain ⟨t, r, ht, rfl, rfl⟩ := namesText_of_readNames h
  obtain ⟨u, rfl⟩ := ht.starts
  exact .of_append (List.cons_ne_nil _ _) _

theorem connectiveSpellings_ne_nil : ∀ a ∈ connectiveSpellings, a.1 ≠ [] := by decide

variable [Regex.Engine]

theorem readPatternLiteral_progresses : Progresses readPatternLiteral := by
  intro cs l rest h
  obtain ⟨-, -, -, rfl⟩ := readPatternLiteral_eq_ok_iff.1 h
  exact (properSuffix_cons (List.suffix_append _ rest)).trans_suffix (List.suffix_append _ _)

theorem readArrayIndexer_progresses (close : Char) : Progresses (readArrayIndexer close) := by
  intro cs selector rest h
  obtain ⟨t, r, ht, rfl, rfl⟩ := arrayText_of_readArrayIndexer h
  exact .of_append ht.ne_nil _

/-! ## Readers of what contains paths -/

section

variable {read : PathReader} (hread : LeavesSuffix read)

include hread

theorem readSide_progresses : Progresses (readSide read) := by
  intro cs operand rest h
  unfold readSide at h
  split at h
  · obtain ⟨⟨path, r⟩, hr, he⟩ := map_eq_ok.1 h
    cases he
    exact properSuffix_cons (hread hr)
  · obtain ⟨⟨path, r⟩, hr, he⟩ := map_eq_ok.1 h
    cases he
    exact properSuffix_cons (hread hr)
  · exact readLiteral_looksOneAhead.progresses (orFault_eq_ok.1 h)

theorem readOperand_progresses : Progresses (readOperand read) := by
  intro cs operand rest h
  obtain ⟨⟨operand', mid⟩, hside, h'⟩ := bind_eq_ok.1 h
  have hmid := (readSide_progresses hread hside).trans_suffix (dropBlanks_suffix cs)
  dsimp only at h'
  split at h'
  · cases h'
  · cases h'
    exact hmid.of_suffix (dropBlanks_suffix mid)

theorem readTest_progresses : Progresses (readTest read) := by
  intro cs test rest h
  obtain ⟨left, c, mid, hleft, ⟨-, -, rfl⟩ | ⟨-, operator, behind, right, hop, hright, -⟩⟩ :=
    readTest_cases h
  · exact readOperand_progresses hread hleft
  · have hmid := readOperand_progresses hread hleft
    have hbehind := hmid.of_suffix (readOperator_progresses hop).suffix
    exact hbehind.of_suffix (readOperand_progresses hread hright).suffix

end

section

variable {read : ChainReader} (hread : LeavesSuffix read) {close : Char} {scan : Bool}

include hread

theorem readFilter_progresses : Progresses (readFilter read close scan) := by
  intro cs selector rest h
  obtain ⟨inner, chain, mid, r, rfl, hchain, hd, rfl, -⟩ := exists_chain_of_readFilter h
  have hblanks := dropBlanks_suffix (mid.drop 1)
  rw [hd] at hblanks
  exact properSuffix_cons ((hblanks.trans (List.drop_suffix 1 mid)).trans (hread hchain))

theorem readIndexer_progresses : Progresses (readIndexer read close scan) := by
  intro cs here rest h
  obtain ⟨g, c, inner, -, rfl, hcase⟩ := readIndexer_cases h
  have hbehind := List.suffix_append g (c :: inner)
  obtain ⟨-, names, hnames, -⟩ | ⟨-, selector, hfilter, -⟩ | ⟨-, -, -, selector, harray, -⟩ :=
    hcase
  · exact (readNames_progresses close hnames).trans_suffix hbehind
  · have hinner := (List.suffix_cons c inner).trans hbehind
    exact (readFilter_progresses hread hfilter).trans_suffix hinner
  · exact (readArrayIndexer_progresses close harray).trans_suffix hbehind

end

/-! ## Paths and conditions -/

theorem readPath_leavesSuffix (a : Nat) (q : Bool) (j : Junction) :
    LeavesSuffix (readPath a q j) := by
  intro cs path rest h
  obtain ⟨word, rfl, -⟩ := (readsPath_of_readPath h).lookahead
  exact List.suffix_append word rest

theorem readChain_progresses (a : Nat) : Progresses (readChain a) := by
  induction a with
  | zero =>
    intro cs chain rest h
    cases h
  | succ a ih =>
    intro cs chain rest h
    obtain ⟨test, mid, htest, ⟨r, rfl, rfl, -⟩ | ⟨connective, behind, more, hs, hmore, -⟩⟩ :=
      readChain_cases h
    · exact readTest_progresses (readPath_leavesSuffix a true .start) htest
    · have hmid := readTest_progresses (readPath_leavesSuffix a true .start) htest
      have hbehind := readSpelling_progresses connectiveSpellings_ne_nil hs
      exact (hmid.of_suffix hbehind.suffix).of_suffix (ih hmore).suffix

end JsonQuery
