import JsonQuery.Path.Indexer
import JsonQuery.Proofs.Grammar.Outcome
import JsonQuery.Proofs.Text.Run

/-!
# The grammar of array indexers

What the readers of positions and slices accept, written out: words of positions, each with the
blanks behind it, between commas and colons.
-/

namespace JsonQuery

open Text

/-- The closing brackets of an indexer. -/
def IsCloser (c : Char) : Prop := c = ']' ∨ c = ')'

theorem isCloser_closing (c : Char) : IsCloser (closing c) := by
  unfold closing IsCloser
  split
  · exact Or.inl rfl
  · exact Or.inr rfl

theorem IsCloser.ne {close c : Char} (h : IsCloser close) (hb : c ≠ ']') (hp : c ≠ ')') :
    c ≠ close := by
  rcases h with rfl | rfl
  · exact hb
  · exact hp

theorem not_blank_of_isIndexChar {c : Char} (h : isIndexChar c = true) : isBlank c = false := by
  simp only [isIndexChar, Bool.or_eq_true, beq_iff_eq] at h
  rcases h with h | rfl
  · exact not_blank_of_isDigit h
  · decide

/-- A character behind a position, and behind the blanks there. -/
def EndsWord (c : Char) : Prop := isIndexChar c = false ∧ isBlank c = false

theorem IsCloser.endsWord {c : Char} (h : IsCloser c) : EndsWord c := by
  rcases h with rfl | rfl <;> exact ⟨by decide, by decide⟩

theorem endsWord_comma : EndsWord ',' := ⟨by decide, by decide⟩

theorem endsWord_colon : EndsWord ':' := ⟨by decide, by decide⟩

theorem endsWord_star : EndsWord '*' := ⟨by decide, by decide⟩

/-- A word of index characters, and the blanks behind it. -/
def Padded (word t : List Char) : Prop :=
  (∀ c ∈ word, isIndexChar c = true) ∧ ∃ g, Gap g ∧ t = word ++ g

theorem Padded.of_gap {g : List Char} (hg : Gap g) : Padded [] g := ⟨by simp, g, hg, rfl⟩

theorem Padded.readWord {word t : List Char} (h : Padded word t) {c : Char} (hc : EndsWord c)
    (rest : List Char) : readWord (t ++ c :: rest) = (word, c :: rest) := by
  obtain ⟨hw, g, hg, rfl⟩ := h
  have stop : Ends isIndexChar (g ++ c :: rest) := by
    cases g with
    | nil => exact ends_cons.2 hc.1
    | cons b g =>
      refine ends_cons.2 ?_
      cases hb : isIndexChar b
      · rfl
      · have := hg b (by simp)
        simp [not_blank_of_isIndexChar hb] at this
  rw [JsonQuery.readWord, List.append_assoc, takeWhile_run hw stop, dropWhile_run hw stop,
    dropBlanks_gap_cons hg hc.2]

theorem padded_of_readWord {cs word rest : List Char} {c : Char}
    (h : readWord cs = (word, c :: rest)) : ∃ t, Padded word t ∧ cs = t ++ c :: rest := by
  obtain ⟨rfl, hd⟩ := Prod.mk.inj h
  obtain ⟨g, hg, -, he⟩ := dropBlanks_eq_cons_iff.1 hd
  refine ⟨cs.takeWhile isIndexChar ++ g, ⟨fun _ hc => List.mem_takeWhile_imp hc, g, hg, rfl⟩, ?_⟩
  rw [List.append_assoc, ← he, List.takeWhile_append_dropWhile]

/-- A position as it is written, with the blanks behind it. -/
def PositionText (i : Int) (t : List Char) : Prop :=
  ∃ word, Padded word t ∧ parseIndex word = .ok i

/-- A part of a slice as it is written, which may be missing. -/
def BoundText (i : Option Int) (t : List Char) : Prop :=
  ∃ word, Padded word t ∧ parseBound word = .ok i

inductive PositionsText : List Int → List Char → Prop
  | one {i : Int} {t : List Char} : PositionText i t → PositionsText [i] t
  | more {i : Int} {is : List Int} {t g ts : List Char} : PositionText i t → Gap g →
      PositionsText is ts → PositionsText (i :: is) (t ++ ',' :: (g ++ ts))

theorem PositionText.ne_nil {i : Int} {t : List Char} (h : PositionText i t) : t ≠ [] := by
  obtain ⟨word, ⟨-, g, -, rfl⟩, hi⟩ := h
  rintro ht
  rw [(List.append_eq_nil_iff.1 ht).1, parseIndex, if_pos rfl] at hi
  cases hi

theorem inWord_of_parseIndex {word : List Char} {i : Int} (h : parseIndex word = .ok i) :
    InWord i := by
  unfold parseIndex at h
  split at h
  · cases h
  split at h
  · split at h
    · next hi => cases h; exact hi
    · cases h
  · cases h

theorem PositionText.inWord {i : Int} {t : List Char} (h : PositionText i t) : InWord i := by
  obtain ⟨word, -, hp⟩ := h
  exact inWord_of_parseIndex hp

theorem BoundText.inWord {bound : Option Int} {t : List Char} (h : BoundText bound t) :
    ∀ i ∈ bound, InWord i := by
  obtain ⟨word, -, hp⟩ := h
  unfold parseBound at hp
  split at hp
  · cases hp
    simp
  · obtain ⟨i, hi, rfl⟩ := map_eq_ok.1 hp
    rintro _ ⟨⟩
    exact inWord_of_parseIndex hi

theorem PositionsText.inWord {positions : List Int} {t : List Char}
    (h : PositionsText positions t) : positions ≠ [] ∧ ∀ i ∈ positions, InWord i := by
  induction h with
  | one hp => exact ⟨List.cons_ne_nil _ _, by simpa using hp.inWord⟩
  | more hp _ _ ih => exact ⟨List.cons_ne_nil _ _, List.forall_mem_cons.2 ⟨hp.inWord, ih.2⟩⟩

theorem Padded.readWord_gap {word t g : List Char} (h : Padded word t) (hg : Gap g) {c : Char}
    (hc : EndsWord c) (rest : List Char) :
    JsonQuery.readWord (dropBlanks (g ++ (t ++ c :: rest))) = (word, c :: rest) := by
  cases word with
  | nil =>
    obtain ⟨_, b, hb, rfl⟩ := h
    rw [dropBlanks_gap hg, dropBlanks_gap_cons hb hc.2]
    exact (Padded.of_gap Gap.nil).readWord hc rest
  | cons d word =>
    have hd : isBlank d = false := not_blank_of_isIndexChar (h.1 d (by simp))
    obtain ⟨-, b, -, rfl⟩ := id h
    rw [dropBlanks_gap hg, List.cons_append, List.cons_append, dropBlanks_cons_other hd]
    exact h.readWord hc rest

section

variable {close : Char}

theorem PositionsText.readIndexes {is : List Int} {t : List Char} (h : PositionsText is t)
    (hc : IsCloser close) {g : List Char} (hg : Gap g) (rest : List Char) :
    readIndexes close (dropBlanks (g ++ (t ++ close :: rest))) = .ok (is, close :: rest) := by
  induction h generalizing g with
  | one hp =>
    obtain ⟨word, hw, hi⟩ := hp
    rw [JsonQuery.readIndexes, hw.readWord_gap hg hc.endsWord]
    simp [hi, bind, Except.bind, pure, Except.pure]
  | @more i is t b ts hp hb _ ih =>
    obtain ⟨word, hw, hi⟩ := hp
    have hne : ',' ≠ close := hc.ne (by decide) (by decide)
    rw [JsonQuery.readIndexes, List.append_assoc, List.cons_append,
      hw.readWord_gap hg endsWord_comma, List.append_assoc]
    simp [hi, hne, ih hb, bind, Except.bind, pure, Except.pure]

theorem positionsText_of_readIndexes {cs rest : List Char} {is : List Int}
    (h : readIndexes close cs = .ok (is, rest)) :
    ∃ t r, PositionsText is t ∧ rest = close :: r ∧ cs = t ++ close :: r := by
  fun_induction readIndexes close cs generalizing is rest with
  | case1 => cases h
  | case2 cs word r hr =>
    obtain ⟨i, hi, he⟩ := bind_eq_ok.1 h
    obtain ⟨t, ht, rfl⟩ := padded_of_readWord hr
    cases he
    exact ⟨t, r, .one ⟨word, ht, hi⟩, rfl, rfl⟩
  | case3 cs word r hr _ ih =>
    obtain ⟨i, hi, h'⟩ := bind_eq_ok.1 h
    obtain ⟨⟨is', rest'⟩, hm, he⟩ := bind_eq_ok.1 h'
    obtain ⟨t, ht, rfl⟩ := padded_of_readWord hr
    obtain ⟨ts, r', hts, rfl, hd⟩ := ih hm
    obtain ⟨g, hg, hr'⟩ := exists_gap r
    cases he
    refine ⟨t ++ ',' :: (g ++ ts), r', .more ⟨word, ht, hi⟩ hg hts, rfl, ?_⟩
    rw [hr', hd]
    simp
  | case4 => cases h

theorem positionsText_behind {r rest : List Char} {is : List Int}
    (h : readIndexes close (dropBlanks r) = .ok (is, rest)) :
    ∃ g ts r', Gap g ∧ PositionsText is ts ∧ rest = close :: r' ∧
      r = g ++ (ts ++ close :: r') := by
  obtain ⟨ts, r', hts, hrest, hd⟩ := positionsText_of_readIndexes h
  obtain ⟨g, hg, hr⟩ := exists_gap r
  exact ⟨g, ts, r', hg, hts, hrest, by rw [← hd, ← hr]⟩

theorem BoundText.readStep {step : Option Int} {t g : List Char} (h : BoundText step t)
    (hc : IsCloser close) (hg : Gap g) (rest : List Char) :
    readStep close (dropBlanks (g ++ (t ++ close :: rest))) = .ok (step, close :: rest) := by
  obtain ⟨word, hw, hi⟩ := h
  rw [JsonQuery.readStep, hw.readWord_gap hg hc.endsWord]
  simp [hi, bind, Except.bind, pure, Except.pure]

theorem boundText_of_readStep {cs rest : List Char} {step : Option Int}
    (h : readStep close cs = .ok (step, rest)) :
    ∃ t r, BoundText step t ∧ rest = close :: r ∧ cs = t ++ close :: r := by
  unfold readStep at h
  split at h
  · cases h
  · next word c r hr =>
    split at h
    · next hc =>
      obtain ⟨i, hi, he⟩ := bind_eq_ok.1 h
      obtain ⟨t, ht, rfl⟩ := padded_of_readWord hr
      cases he
      subst hc
      exact ⟨t, r, ⟨word, ht, hi⟩, rfl, rfl⟩
    · cases h

theorem readStopStep_closed {stop : Option Int} {u g : List Char} (h : BoundText stop u)
    (hc : IsCloser close) (hg : Gap g) (rest : List Char) :
    readStopStep close (dropBlanks (g ++ (u ++ close :: rest))) =
      .ok ((stop, none), close :: rest) := by
  obtain ⟨word, hw, hi⟩ := h
  rw [readStopStep, hw.readWord_gap hg hc.endsWord]
  simp [hi, bind, Except.bind, pure, Except.pure]

theorem readStopStep_colon {stop step : Option Int} {u v g h : List Char} (hu : BoundText stop u)
    (hv : BoundText step v) (hc : IsCloser close) (hg : Gap g) (hh : Gap h) (rest : List Char) :
    readStopStep close (dropBlanks (g ++ (u ++ ':' :: (h ++ (v ++ close :: rest))))) =
      .ok ((stop, step), close :: rest) := by
  obtain ⟨word, hw, hi⟩ := hu
  have hne : ':' ≠ close := hc.ne (by decide) (by decide)
  rw [readStopStep, hw.readWord_gap hg endsWord_colon]
  simp [hi, hne, hv.readStep hc hh, bind, Except.bind, pure, Except.pure]

theorem readStopStep_cases {cs rest : List Char} {stop step : Option Int}
    (h : readStopStep close cs = .ok ((stop, step), rest)) :
    ∃ r, rest = close :: r ∧
      ((∃ u, BoundText stop u ∧ step = none ∧ cs = u ++ close :: r) ∨
        ∃ u g v, BoundText stop u ∧ Gap g ∧ BoundText step v ∧
          cs = u ++ ':' :: (g ++ (v ++ close :: r))) := by
  unfold readStopStep at h
  split at h
  · cases h
  · next word c r hr =>
    obtain ⟨u, hu, rfl⟩ := padded_of_readWord hr
    split at h
    · next hc =>
      obtain ⟨i, hi, he⟩ := bind_eq_ok.1 h
      cases he
      subst hc
      exact ⟨r, rfl, Or.inl ⟨u, ⟨word, hu, hi⟩, rfl, rfl⟩⟩
    · split at h
      · next hc =>
        obtain ⟨i, hi, h'⟩ := bind_eq_ok.1 h
        obtain ⟨⟨s, rest'⟩, hs, he⟩ := bind_eq_ok.1 h'
        obtain ⟨v, r', hv, rfl, hd⟩ := boundText_of_readStep hs
        obtain ⟨g, hg, hr'⟩ := exists_gap r
        cases he
        subst hc
        exact ⟨r', rfl, Or.inr ⟨u, g, v, ⟨word, hu, hi⟩, hg, hv, by rw [← hd, ← hr']⟩⟩
      · cases h

/-- The parts of a slice behind a colon and the blanks there. -/
theorem readStopStep_behind {r rest : List Char} {stop step : Option Int}
    (h : readStopStep close (dropBlanks r) = .ok ((stop, step), rest)) :
    ∃ g r', Gap g ∧ rest = close :: r' ∧
      ((∃ u, BoundText stop u ∧ step = none ∧ r = g ++ (u ++ close :: r')) ∨
        ∃ u b v, BoundText stop u ∧ Gap b ∧ BoundText step v ∧
          r = g ++ (u ++ ':' :: (b ++ (v ++ close :: r')))) := by
  obtain ⟨g, hg, hr⟩ := exists_gap r
  obtain ⟨r', hrest, ⟨u, hu, hstep, hd⟩ | ⟨u, b, v, hu, hb, hv, hd⟩⟩ := readStopStep_cases h
  · exact ⟨g, r', hg, hrest, .inl ⟨u, hu, hstep, by rw [← hd, ← hr]⟩⟩
  · exact ⟨g, r', hg, hrest, .inr ⟨u, b, v, hu, hb, hv, by rw [← hd, ← hr]⟩⟩

end

/-! ## Array indexers -/

variable [Regex.Engine]

/-- What an array indexer is read from. -/
inductive ArrayText : Selector → List Char → Prop
  | star {g h : List Char} : Gap g → Gap h → ArrayText (.index none) (g ++ '*' :: h)
  | index {i : Int} {t : List Char} : PositionText i t → ArrayText (.index (some i)) t
  | indexes {i : Int} {is : List Int} {t g ts : List Char} : PositionText i t → Gap g →
      PositionsText is ts → ArrayText (.indexes (i :: is)) (t ++ ',' :: (g ++ ts))
  | slice {start stop : Option Int} {t g u : List Char} : BoundText start t → Gap g →
      BoundText stop u → ArrayText (.slice start stop none) (t ++ ':' :: (g ++ u))
  | stepped {start stop step : Option Int} {t g u h v : List Char} : BoundText start t → Gap g →
      BoundText stop u → Gap h → BoundText step v →
      ArrayText (.slice start stop step) (t ++ ':' :: (g ++ (u ++ ':' :: (h ++ v))))

theorem ArrayText.ne_nil {selector : Selector} {t : List Char} (h : ArrayText selector t) :
    t ≠ [] := by
  cases h with
  | index hp => exact hp.ne_nil
  | _ => simp

section

variable {close : Char}

theorem ArrayText.readArrayIndexer {selector : Selector} {t : List Char}
    (h : ArrayText selector t) (hc : IsCloser close) (rest : List Char) :
    readArrayIndexer close (t ++ close :: rest) = .ok (selector, close :: rest) := by
  have comma : ',' ≠ close := hc.ne (by decide) (by decide)
  have colon : ':' ≠ close := hc.ne (by decide) (by decide)
  have star : '*' ≠ close := hc.ne (by decide) (by decide)
  cases h with
  | star hg hh =>
    rw [JsonQuery.readArrayIndexer, List.append_assoc, List.cons_append,
      (Padded.of_gap hg).readWord endsWord_star]
    simp [star, dropBlanks_gap_cons hh hc.endsWord.2, pure, Except.pure]
  | index hp =>
    obtain ⟨word, hw, hi⟩ := hp
    rw [JsonQuery.readArrayIndexer, hw.readWord hc.endsWord]
    simp [hi, bind, Except.bind, pure, Except.pure]
  | indexes hp hg hps =>
    obtain ⟨word, hw, hi⟩ := hp
    rw [JsonQuery.readArrayIndexer, List.append_assoc, List.cons_append,
      hw.readWord endsWord_comma, List.append_assoc]
    simp [hi, comma, hps.readIndexes hc hg, bind, Except.bind, pure, Except.pure]
  | slice hs hg hu =>
    obtain ⟨word, hw, hi⟩ := hs
    rw [JsonQuery.readArrayIndexer, List.append_assoc, List.cons_append,
      hw.readWord endsWord_colon, List.append_assoc]
    simp [hi, colon, readStopStep_closed hu hc hg, bind, Except.bind, pure, Except.pure]
  | stepped hs hg hu hh hv =>
    obtain ⟨word, hw, hi⟩ := hs
    have hr := readStopStep_colon hu hv hc hg hh rest
    rw [JsonQuery.readArrayIndexer, List.append_assoc, List.cons_append,
      hw.readWord endsWord_colon]
    simp [hi, colon, hr, bind, Except.bind, pure, Except.pure]

theorem sliceText_of_readStopStep {start stop step : Option Int} {t cs rest : List Char}
    (ht : BoundText start t) (h : readStopStep close (dropBlanks cs) = .ok ((stop, step), rest)) :
    ∃ u r, ArrayText (.slice start stop step) (t ++ ':' :: u) ∧ rest = close :: r ∧
      cs = u ++ close :: r := by
  obtain ⟨g, r, hg, rfl, ⟨u, hu, rfl, rfl⟩ | ⟨u, b, v, hu, hb, hv, rfl⟩⟩ := readStopStep_behind h
  · exact ⟨g ++ u, r, .slice ht hg hu, rfl, by simp⟩
  · exact ⟨g ++ (u ++ ':' :: (b ++ v)), r, .stepped ht hg hu hb hv, rfl, by simp⟩

theorem arrayText_of_readArrayIndexer {cs rest : List Char} {selector : Selector}
    (h : readArrayIndexer close cs = .ok (selector, rest)) :
    ∃ t r, ArrayText selector t ∧ rest = close :: r ∧ cs = t ++ close :: r := by
  unfold JsonQuery.readArrayIndexer at h
  split at h
  · cases h
  · next word c r hr =>
    obtain ⟨t, ht, rfl⟩ := padded_of_readWord hr
    split at h
    · next hc =>
      obtain ⟨i, hi, he⟩ := bind_eq_ok.1 h
      cases he
      subst hc
      exact ⟨t, r, .index ⟨word, ht, hi⟩, rfl, rfl⟩
    split at h
    · next hc =>
      obtain ⟨i, hi, h'⟩ := bind_eq_ok.1 h
      obtain ⟨⟨is, rest'⟩, hm, he⟩ := bind_eq_ok.1 h'
      obtain ⟨g, ts, r', hg, hts, rfl, rfl⟩ := positionsText_behind hm
      cases he
      subst hc
      exact ⟨t ++ ',' :: (g ++ ts), r', .indexes ⟨word, ht, hi⟩ hg hts, rfl, by simp⟩
    split at h
    · next hc =>
      obtain ⟨start, hi, h'⟩ := bind_eq_ok.1 h
      obtain ⟨⟨⟨stop, step⟩, rest'⟩, hm, he⟩ := bind_eq_ok.1 h'
      obtain ⟨u, r', hu, rfl, rfl⟩ := sliceText_of_readStopStep ⟨word, ht, hi⟩ hm
      cases he
      subst hc
      exact ⟨t ++ ':' :: u, r', hu, rfl, by simp⟩
    split at h
    · next hc =>
      obtain ⟨rfl, rfl⟩ := hc
      split at h
      · cases h
      · next d r' hd =>
        split at h
        · next hdc =>
          obtain ⟨g, hg, -, rfl⟩ := dropBlanks_eq_cons_iff.1 hd
          obtain ⟨-, b, hb, rfl⟩ := ht
          cases h
          subst hdc
          exact ⟨t ++ '*' :: g, r', .star hb hg, rfl, by simp⟩
        · cases h
    · cases h

/-- An array indexer is read from exactly the texts of the grammar, up to its closing bracket. -/
theorem readArrayIndexer_eq_ok_iff (hc : IsCloser close) {cs rest : List Char}
    {selector : Selector} : readArrayIndexer close cs = .ok (selector, rest) ↔
      ∃ t r, ArrayText selector t ∧ rest = close :: r ∧ cs = t ++ close :: r := by
  constructor
  · exact arrayText_of_readArrayIndexer
  · rintro ⟨t, r, ht, rfl, rfl⟩
    exact ht.readArrayIndexer hc r

theorem readArrayIndexer_looksOneAhead (hc : IsCloser close) :
    LooksOneAhead (readArrayIndexer close) := by
  intro cs selector rest h
  obtain ⟨t, r, ht, rfl, rfl⟩ := arrayText_of_readArrayIndexer h
  refine ⟨t, ht.ne_nil, rfl, fun rest' hr => ?_⟩
  obtain ⟨r', rfl⟩ := List.head?_eq_some_iff.1 hr
  exact ht.readArrayIndexer hc r'

end

end JsonQuery
