import JsonQuery.Proofs.Text.Run
import JsonQuery.Proofs.Writing.Spelled

/-!
# Reading back what has no parts

Quoted names, positions, literals and operators, in front of whatever may follow them.
-/

namespace JsonQuery

open Text

theorem quotedText_escape (cs : List Char) : QuotedText (escape cs) cs := by
  induction cs with
  | nil => exact .nil
  | cons c cs ih =>
    rw [escape, List.flatMap_cons]
    by_cases hc : c = '\'' ∨ c = '\\'
    · have hm : unescape? c = some c := by
        rcases hc with rfl | rfl <;> rfl
      rw [if_pos hc]
      exact .escape hm ih
    · rw [if_neg hc]
      rw [not_or] at hc
      exact .plain hc.1 hc.2 ih

theorem Listed.namesText {names : List String} {t : List Char} (h : Listed quoted names t) :
    ∃ g u, Gap g ∧ NamesText names u ∧ t = g ++ u := by
  induction h with
  | @one name _ hs =>
    obtain ⟨g, h, hg, hh, rfl⟩ := hs
    have hn := NamesText.one (quotedText_escape name.toList) hh
    rw [String.ofList_toList] at hn
    exact ⟨g, _, hg, hn, by simp [quoted]⟩
  | @more name names _ _ hs _ ih =>
    obtain ⟨g, h, hg, hh, rfl⟩ := hs
    obtain ⟨g', u, hg', hu, rfl⟩ := ih
    have hn := NamesText.more (quotedText_escape name.toList) hh hg' hu
    rw [String.ofList_toList] at hn
    exact ⟨g, _, hg, hn, by simp [quoted]⟩

theorem intText_eq_cons (i : Int) : ∃ c cs, intText i = c :: cs ∧
    (c.isDigit || c == '-') = true ∧ ∀ d ∈ cs, d.isDigit = true := by
  have digits : ∀ d ∈ natText i.natAbs, d.isDigit = true := fun _ h => isDigit_of_mem_natText h
  unfold intText
  split
  · exact ⟨'-', _, rfl, rfl, digits⟩
  · obtain ⟨c, cs, he⟩ := List.exists_cons_of_ne_nil (natText_ne_nil i.natAbs)
    rw [he] at digits ⊢
    obtain ⟨hc, hcs⟩ := List.forall_mem_cons.1 digits
    exact ⟨c, cs, rfl, by simp [hc], hcs⟩

theorem isIndexChar_of_mem_intText {i : Int} {c : Char} (h : c ∈ intText i) :
    isIndexChar c = true := by
  obtain ⟨d, cs, he, hd, hcs⟩ := intText_eq_cons i
  rw [he] at h
  obtain rfl | h := List.mem_cons.1 h
  · exact hd
  · simp [isIndexChar, hcs c h]

theorem parseIndex_intText {i : Int} (h : InWord i) : parseIndex (intText i) = .ok i := by
  obtain ⟨c, cs, he, -⟩ := intText_eq_cons i
  rw [parseIndex, if_neg (by simp [he]), intOfText?_intText]
  simp [h]

theorem padded_intText (i : Int) {g : List Char} (hg : Gap g) :
    Padded (intText i) (intText i ++ g) :=
  ⟨fun _ hc => isIndexChar_of_mem_intText hc, g, hg, rfl⟩

theorem positionText_intText {i : Int} (h : InWord i) {g : List Char} (hg : Gap g) :
    PositionText i (intText i ++ g) := ⟨_, padded_intText i hg, parseIndex_intText h⟩

theorem Listed.positionsText {positions : List Int} {t : List Char}
    (h : Listed intText positions t) : (∀ i ∈ positions, InWord i) →
      ∃ g u, Gap g ∧ PositionsText positions u ∧ t = g ++ u := by
  induction h with
  | one hs =>
    intro hw
    obtain ⟨g, h, hg, hh, rfl⟩ := hs
    exact ⟨g, _, hg, .one (positionText_intText (hw _ List.mem_cons_self) hh), rfl⟩
  | more hs _ ih =>
    intro hw
    obtain ⟨hi, his⟩ := List.forall_mem_cons.1 hw
    obtain ⟨g, h, hg, hh, rfl⟩ := hs
    obtain ⟨g', u, hg', hu, rfl⟩ := ih his
    exact ⟨g, _, hg, .more (positionText_intText hi hh) hg' hu, by simp⟩

/-- A bound that is missing is a gap, which the word behind it then follows. -/
theorem Spaced.boundText {bound : Option Int} {t : List Char} (h : Spaced (boundText bound) t)
    (hw : ∀ i ∈ bound, InWord i) : ∃ g u, Gap g ∧ BoundText bound u ∧ t = g ++ u ∧
      ∀ c, u.head? = some c → isIndexChar c = true := by
  obtain ⟨g, h, hg, hh, rfl⟩ := h
  cases bound with
  | none =>
    have hgap : Gap (g ++ h) := fun c hc => (List.mem_append.1 hc).elim (hg c) (hh c)
    exact ⟨g ++ h, [], hgap, ⟨[], Padded.of_gap Gap.nil, rfl⟩, by simp [JsonQuery.boundText],
      by simp⟩
  | some i =>
    obtain ⟨c, cs, he, hc, -⟩ := intText_eq_cons i
    have hbound : parseBound (intText i) = .ok (some i) := by
      rw [parseBound, if_neg (by simp [he]), parseIndex_intText (hw i rfl)]
      rfl
    refine ⟨g, intText i ++ h, hg, ⟨_, padded_intText i hh, hbound⟩, rfl, ?_⟩
    rintro d hd
    rw [he] at hd
    obtain rfl : c = d := by simpa using hd
    exact hc

theorem isNumberChar_of_isDigit {c : Char} (h : c.isDigit = true) : isNumberChar c = true := by
  simp [isNumberChar, h]

theorem number_ofText?_intText (i : Integer) : Number.ofText? (intText i.val) = some (.int i) := by
  have plain : ((intText i.val).any fun c => c == '.' || c == 'e' || c == 'E') = false := by
    rw [List.any_eq_false]
    intro c hc
    have hindex := isIndexChar_of_mem_intText hc
    rintro hpoint
    simp only [Bool.or_eq_true, beq_iff_eq] at hpoint
    rcases hpoint with (rfl | rfl) | rfl <;> exact absurd hindex (by decide)
  have hrange : Integer.ofInt? i.val = some i := by
    rw [Integer.ofInt?, dif_pos ⟨i.lower, i.upper⟩]
  rw [Number.ofText?, plain, intOfText?_intText, Option.bind_some, hrange]
  rfl

theorem SpellsLeaf.literalText [Regex.Engine] {operand : Operand} {t : List Char}
    (h : SpellsLeaf operand t) : LiteralText operand t := by
  cases h with
  | null => exact .word (by simp [wordSpellings])
  | bool b => cases b <;> exact .word (by simp [wordSpellings, Json.literalText])
  | int i =>
    obtain ⟨c, cs, he, hc, hcs⟩ := intText_eq_cons i.val
    have hn := number_ofText?_intText i
    rw [he] at hn ⊢
    exact .number hc (fun d hd => isNumberChar_of_isDigit (hcs d hd)) hn
  | str s =>
    have hs := LiteralText.string (quotedText_escape s.toList)
    rwa [String.ofList_toList] at hs
  | pattern hp hf => exact .pattern hp hf

end JsonQuery
