import JsonQuery.Proofs.OnePass.Reading
import JsonQuery.Regex.Builtin.Matching

/-!
# What an array indexer may be

The grammar of array indexers by itself: integers of 64 bits, a list of them between commas, up to
three of them between colons, any of which may be missing, or a star. Blanks may stand behind every
integer, comma, colon and star. An array indexer is read from exactly these texts, up to its closing
bracket, as the integers that stand there.
-/

namespace JsonQuery

open Text

/-- Digits, behind a minus sign or none, of an integer of 64 bits. -/
inductive IntegerText : Int → List Char → Prop
  | plain {digits : List Char} : digits ≠ [] → (∀ d ∈ digits, d.isDigit = true) →
      InWord (Nat.ofDigitChars 10 digits 0) →
      IntegerText (Nat.ofDigitChars 10 digits 0) digits
  | minus {digits : List Char} : digits ≠ [] → (∀ d ∈ digits, d.isDigit = true) →
      InWord (-Nat.ofDigitChars 10 digits 0) →
      IntegerText (-Nat.ofDigitChars 10 digits 0) ('-' :: digits)

/-- An integer and the blanks behind it. -/
inductive SpacedInteger : Int → List Char → Prop
  | intro {i : Int} {word g : List Char} : IntegerText i word → Gap g → SpacedInteger i (word ++ g)

inductive OptionalInteger : Option Int → List Char → Prop
  | absent : OptionalInteger none []
  | present {i : Int} {t : List Char} : SpacedInteger i t → OptionalInteger (some i) t

/-- Integers, each behind a comma. -/
inductive FurtherIntegers : List Int → List Char → Prop
  | nil : FurtherIntegers [] []
  | cons {i : Int} {is : List Int} {g t ts : List Char} : Gap g → SpacedInteger i t →
      FurtherIntegers is ts → FurtherIntegers (i :: is) (',' :: (g ++ (t ++ ts)))

/-! ## Integers -/

theorem natOfText?_eq_some_iff {cs : List Char} {n : Nat} : natOfText? cs = some n ↔
    cs ≠ [] ∧ (∀ d ∈ cs, d.isDigit = true) ∧ Nat.ofDigitChars 10 cs 0 = n := by
  simp [natOfText?, and_assoc]

theorem intOfText?_minus_digits (digits : List Char) :
    intOfText? ('-' :: digits) = (natOfText? digits).map fun (n : Nat) => -(n : Int) := rfl

theorem intOfText?_plain {cs : List Char} (h : cs.head? ≠ some '-') :
    intOfText? cs = (natOfText? cs).map Int.ofNat := by
  unfold intOfText?
  split
  · exact absurd rfl h
  · rfl

theorem parseIndex_eq_ok_iff {word : List Char} {i : Int} :
    parseIndex word = .ok i ↔ intOfText? word = some i ∧ InWord i := by
  unfold parseIndex
  by_cases hw : word = []
  · have hempty : intOfText? [] = none := rfl
    rw [if_pos hw, hw, hempty]
    simp
  · rw [if_neg hw]
    cases hread : intOfText? word with
    | none => simp
    | some j =>
      dsimp only
      by_cases hj : InWord j
      · rw [if_pos hj]
        constructor
        · rintro ⟨⟩
          exact ⟨rfl, hj⟩
        · rintro ⟨⟨⟩, -⟩
          rfl
      · rw [if_neg hj]
        constructor
        · rintro ⟨⟩
        · rintro ⟨⟨⟩, hi⟩
          exact absurd hi hj

theorem IntegerText.parseIndex {i : Int} {word : List Char} (h : IntegerText i word) :
    parseIndex word = .ok i := by
  cases h with
  | plain hne hdigits hword =>
    have hhead : word.head? ≠ some '-' := by
      intro hminus
      exact absurd (hdigits _ (List.mem_of_mem_head? hminus)) (by decide)
    refine parseIndex_eq_ok_iff.2 ⟨?_, hword⟩
    rw [intOfText?_plain hhead, natOfText?_eq_some_iff.2 ⟨hne, hdigits, rfl⟩]
    rfl
  | minus hne hdigits hword =>
    refine parseIndex_eq_ok_iff.2 ⟨?_, hword⟩
    rw [intOfText?_minus_digits, natOfText?_eq_some_iff.2 ⟨hne, hdigits, rfl⟩]
    rfl

theorem integerText_of_parseIndex {i : Int} {word : List Char} (h : parseIndex word = .ok i) :
    IntegerText i word := by
  obtain ⟨hread, hword⟩ := parseIndex_eq_ok_iff.1 h
  by_cases hhead : word.head? = some '-'
  · obtain ⟨digits, rfl⟩ := List.head?_eq_some_iff.1 hhead
    rw [intOfText?_minus_digits] at hread
    obtain ⟨n, hn, rfl⟩ := Option.map_eq_some_iff.1 hread
    obtain ⟨hne, hdigits, rfl⟩ := natOfText?_eq_some_iff.1 hn
    exact .minus hne hdigits hword
  · rw [intOfText?_plain hhead] at hread
    obtain ⟨n, hn, rfl⟩ := Option.map_eq_some_iff.1 hread
    obtain ⟨hne, hdigits, rfl⟩ := natOfText?_eq_some_iff.1 hn
    exact .plain hne hdigits hword

theorem IntegerText.isIndexChar {i : Int} {word : List Char} (h : IntegerText i word) :
    ∀ c ∈ word, isIndexChar c = true := by
  have digit : ∀ c : Char, c.isDigit = true → JsonQuery.isIndexChar c = true := by
    intro c hc
    rw [JsonQuery.isIndexChar, hc, Bool.true_or]
  cases h with
  | plain _ hdigits => exact fun c hc => digit c (hdigits c hc)
  | minus _ hdigits =>
    exact List.forall_mem_cons.2 ⟨by decide, fun c hc => digit c (hdigits c hc)⟩

theorem positionText_iff {i : Int} {t : List Char} : PositionText i t ↔ SpacedInteger i t := by
  constructor
  · rintro ⟨word, ⟨-, g, hg, rfl⟩, hi⟩
    exact .intro (integerText_of_parseIndex hi) hg
  · rintro ⟨hword, hg⟩
    exact ⟨_, ⟨hword.isIndexChar, _, hg, rfl⟩, hword.parseIndex⟩

/-! ## Parts of a slice -/

theorem boundText_iff {bound : Option Int} {t : List Char} : BoundText bound t ↔
    (bound = none ∧ Gap t) ∨ ∃ i, bound = some i ∧ SpacedInteger i t := by
  constructor
  · rintro ⟨word, hw, hb⟩
    unfold parseBound at hb
    split at hb
    · next hnil =>
      obtain ⟨-, g, hg, rfl⟩ := hw
      cases hb
      exact .inl ⟨rfl, by rwa [hnil]⟩
    · obtain ⟨i, hi, rfl⟩ := map_eq_ok.1 hb
      exact .inr ⟨i, rfl, positionText_iff.1 ⟨word, hw, hi⟩⟩
  · rintro (⟨rfl, hg⟩ | ⟨i, rfl, hi⟩)
    · exact ⟨[], Padded.of_gap hg, rfl⟩
    · obtain ⟨word, hw, hparse⟩ := positionText_iff.2 hi
      refine ⟨word, hw, ?_⟩
      rw [parseBound, if_neg ?_, hparse]
      · rfl
      · rintro rfl
        cases hparse

theorem OptionalInteger.boundText {bound : Option Int} {t : List Char}
    (h : OptionalInteger bound t) : BoundText bound t := by
  cases h with
  | absent => exact boundText_iff.2 (.inl ⟨rfl, Gap.nil⟩)
  | present hi => exact boundText_iff.2 (.inr ⟨_, rfl, hi⟩)

/-- Blanks that stand for a missing part are blanks behind the colon. -/
theorem optionalInteger_behind {bound : Option Int} {t g : List Char} (h : BoundText bound t)
    (hg : Gap g) : ∃ g' t', Gap g' ∧ OptionalInteger bound t' ∧ g ++ t = g' ++ t' := by
  obtain ⟨rfl, ht⟩ | ⟨i, rfl, hi⟩ := boundText_iff.1 h
  · have hall : Gap (g ++ t) := fun c hc => (List.mem_append.1 hc).elim (hg c) (ht c)
    exact ⟨g ++ t, [], hall, .absent, by rw [List.append_nil]⟩
  · exact ⟨g, t, hg, .present hi, rfl⟩

theorem optionalInteger_in_front {bound : Option Int} {t rest : List Char} (h : BoundText bound t)
    (hends : Ends isBlank (t ++ rest)) : OptionalInteger bound t := by
  obtain ⟨rfl, ht⟩ | ⟨i, rfl, hi⟩ := boundText_iff.1 h
  · obtain rfl := ht.eq_nil_of_prefix ⟨rest, rfl⟩ hends
    exact .absent
  · exact .present hi

theorem furtherIntegers_of_positions {is : List Int} {ts g : List Char} (h : PositionsText is ts)
    (hg : Gap g) : FurtherIntegers is (',' :: (g ++ ts)) := by
  induction h generalizing g with
  | one hi =>
    have hone := FurtherIntegers.cons hg (positionText_iff.1 hi) .nil
    rwa [List.append_nil] at hone
  | more hi hg' _ ih => exact .cons hg (positionText_iff.1 hi) (ih hg')

theorem positions_of_furtherIntegers {i : Int} {is : List Int} {t ts : List Char}
    (hi : SpacedInteger i t) (h : FurtherIntegers is ts) : PositionsText (i :: is) (t ++ ts) := by
  induction h generalizing i t with
  | nil =>
    rw [List.append_nil]
    exact .one (positionText_iff.2 hi)
  | cons hg hj _ ih => exact .more (positionText_iff.2 hi) hg (ih hj)

/-! ## Array indexers -/

section

variable [Regex.Engine]

inductive IndexerText : Selector → List Char → Prop
  | star {g : List Char} : Gap g → IndexerText (.index none) ('*' :: g)
  | integer {i : Int} {t : List Char} : SpacedInteger i t → IndexerText (.index (some i)) t
  | integers {i : Int} {is : List Int} {t ts : List Char} : SpacedInteger i t →
      FurtherIntegers is ts → is ≠ [] → IndexerText (.indexes (i :: is)) (t ++ ts)
  | slice {start stop : Option Int} {t g u : List Char} : OptionalInteger start t → Gap g →
      OptionalInteger stop u → IndexerText (.slice start stop none) (t ++ ':' :: (g ++ u))
  | stepped {start stop step : Option Int} {t g u h v : List Char} : OptionalInteger start t →
      Gap g → OptionalInteger stop u → Gap h → OptionalInteger step v →
      IndexerText (.slice start stop step) (t ++ ':' :: (g ++ (u ++ ':' :: (h ++ v))))

theorem IndexerText.arrayText {selector : Selector} {t : List Char} (h : IndexerText selector t) :
    ArrayText selector t := by
  cases h with
  | star hg => exact ArrayText.star Gap.nil hg
  | integer hi => exact .index (positionText_iff.2 hi)
  | integers hi his hne =>
    cases his with
    | nil => exact absurd rfl hne
    | cons hg hj hjs =>
      exact .indexes (positionText_iff.2 hi) hg (positions_of_furtherIntegers hj hjs)
  | slice ht hg hu => exact .slice ht.boundText hg hu.boundText
  | stepped ht hg hu hh hv => exact .stepped ht.boundText hg hu.boundText hh hv.boundText

theorem ArrayText.indexerText {selector : Selector} {t rest : List Char} (h : ArrayText selector t)
    (hends : Ends isBlank (t ++ rest)) : IndexerText selector t := by
  cases h with
  | @star g g' hg hg' =>
    rw [List.append_assoc] at hends
    obtain rfl := hg.eq_nil_of_prefix ⟨_, rfl⟩ hends
    exact .star hg'
  | index hi => exact .integer (positionText_iff.1 hi)
  | indexes hi hg his =>
    exact .integers (positionText_iff.1 hi) (furtherIntegers_of_positions his hg) his.inWord.1
  | slice ht hg hu =>
    rw [List.append_assoc] at hends
    obtain ⟨g', u', hg', hu', he⟩ := optionalInteger_behind hu hg
    rw [he]
    exact .slice (optionalInteger_in_front ht hends) hg' hu'
  | @stepped start stop step t g u h v ht hg hu hh hv =>
    rw [List.append_assoc] at hends
    obtain ⟨g', u', hg', hu', he⟩ := optionalInteger_behind hu hg
    obtain ⟨h', v', hh', hv', he'⟩ := optionalInteger_behind hv hh
    rw [he', ← List.append_assoc, he, List.append_assoc]
    exact .stepped (optionalInteger_in_front ht hends) hg' hu' hh' hv'

/-- **An array indexer is read from exactly the texts of its grammar.** Where no blank stands in
front, there is a selector just when a text of the grammar and the closing bracket come next; it is
the selector of that text, and the bracket is left. The loop that reads every kind in one pass gives
the same, faults included, so it never looks for a slot that is not there. -/
theorem readArrayIndexer_iff_grammar {close : Char} (hc : IsCloser close) {cs : List Char}
    (hcs : Ends isBlank cs) :
    (∀ selector rest, readArrayIndexer close cs = .ok (selector, rest) ↔
      ∃ t r, IndexerText selector t ∧ cs = t ++ close :: r ∧ rest = close :: r) ∧
    gather close {} cs = (readArrayIndexer close cs).mapError .fault := by
  refine ⟨fun selector rest => ?_, gather_start hc cs⟩
  rw [readArrayIndexer_eq_ok_iff hc]
  constructor
  · rintro ⟨t, r, ht, rfl, rfl⟩
    exact ⟨t, r, ht.indexerText hcs, rfl, rfl⟩
  · rintro ⟨t, r, ht, rfl, rfl⟩
    exact ⟨t, r, ht.arrayText, rfl, rfl⟩

end

open scoped Regex.Builtin

/-- A slice to the last position of a word, with its second part missing. -/
theorem readArrayIndexer_iff_grammar_slice :
    let cs := "-07 : :9223372036854775807\n)]".toList
    let selector : Selector := .slice (some (-7)) none (some 9223372036854775807)
    IsCloser ')' ∧ Ends isBlank cs ∧ readArrayIndexer ')' cs = .ok (selector, [')', ']']) ∧
      gather ')' {} cs = .ok (selector, [')', ']']) := by
  intro cs selector
  have hc : IsCloser ')' := .inr rfl
  have hcs : Ends isBlank cs := ends_cons.2 (by decide)
  have hstart : IntegerText (-7) "-07".toList := integerText_of_parseIndex rfl
  have hstep : IntegerText 9223372036854775807 "9223372036854775807".toList :=
    integerText_of_parseIndex (parseIndex_eq_ok_iff.2 ⟨rfl, by decide⟩)
  have hspace : Gap [' '] := by decide
  have hline : Gap ['\n'] := by decide
  have htext : IndexerText selector "-07 : :9223372036854775807\n".toList :=
    .stepped (.present (.intro hstart hspace)) hspace .absent Gap.nil
      (.present (.intro hstep hline))
  obtain ⟨hread, hgather⟩ := readArrayIndexer_iff_grammar hc hcs
  have hok := (hread selector [')', ']']).2 ⟨_, [']'], htext, rfl, rfl⟩
  exact ⟨hc, hcs, hok, by rw [hgather, hok]; rfl⟩

end JsonQuery
