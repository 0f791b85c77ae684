import JsonQuery.Proofs.Grammar.Indexer
import JsonQuery.Proofs.Grammar.Quoted

/-!
# The grammar of lists of names

Names in quotes, one or more, with commas and blanks between them.
-/

namespace JsonQuery

open Text

/-- Names in quotes between commas. -/
inductive NamesText : List String → List Char → Prop
  | one {units text g : List Char} : QuotedText units text → Gap g →
      NamesText [String.ofList text] ('\'' :: (units ++ '\'' :: g))
  | more {units text g h ts : List Char} {names : List String} : QuotedText units text → Gap g →
      Gap h → NamesText names ts →
      NamesText (String.ofList text :: names) ('\'' :: (units ++ '\'' :: (g ++ ',' :: (h ++ ts))))

theorem NamesText.starts {names : List String} {t : List Char} (h : NamesText names t) :
    ∃ u, t = '\'' :: u := by
  cases h with
  | one => exact ⟨_, rfl⟩
  | more => exact ⟨_, rfl⟩

theorem NamesText.ne_nil {names : List String} {t : List Char} (h : NamesText names t) :
    names ≠ [] := by
  cases h with
  | one | more => exact List.cons_ne_nil _ _

section

variable {close : Char}

theorem readNames_quoted {units text rest r : List Char} {c : Char} (hu : QuotedText units text)
    (hd : dropBlanks rest = c :: r) :
    readNames close ('\'' :: (units ++ '\'' :: rest)) =
      if c = close then .ok ([String.ofList text], c :: r)
      else if c = ',' then
        (readNames close (dropBlanks r)).map fun (more, rest) => (String.ofList text :: more, rest)
      else .error (.unexpectedInIndexer c) := by
  rw [readNames.eq_def]
  dsimp only
  rw [if_neg (by simp)]
  split
  · next e he => simp [hu.readQuoted] at he
  · next name after he =>
    obtain ⟨rfl, rfl⟩ : text = name ∧ rest = after := by simpa [hu.readQuoted] using he
    split
    · next hn => simp [hd] at hn
    · next d r' hn =>
      obtain ⟨rfl, rfl⟩ : c = d ∧ r = r' := by simpa [hd] using hn
      split
      · rfl
      · split
        · cases readNames close (dropBlanks r) <;> rfl
        · rfl

theorem NamesText.readNames {names : List String} {t : List Char} (h : NamesText names t)
    (hc : IsCloser close) (rest : List Char) :
    readNames close (t ++ close :: rest) = .ok (names, close :: rest) := by
  induction h with
  | one hu hg =>
    have hd := dropBlanks_gap_cons hg hc.endsWord.2 rest
    simp only [List.cons_append, List.append_assoc]
    rw [readNames_quoted hu hd, if_pos rfl]
  | @more units text g h ts names hu hg hh hts ih =>
    have comma : ',' ≠ close := hc.ne (by decide) (by decide)
    have hd := dropBlanks_gap_cons hg endsWord_comma.2 (h ++ (ts ++ close :: rest))
    simp only [List.cons_append, List.append_assoc]
    rw [readNames_quoted hu hd, if_neg comma, if_pos rfl, dropBlanks_gap hh]
    obtain ⟨u, rfl⟩ := hts.starts
    rw [List.cons_append, dropBlanks_cons_other (by decide), ← List.cons_append, ih]
    rfl

theorem namesText_of_readNames {cs rest : List Char} {names : List String}
    (h : readNames close cs = .ok (names, rest)) :
    ∃ t r, NamesText names t ∧ rest = close :: r ∧ cs = t ++ close :: r := by
  fun_induction readNames close cs generalizing names rest with
  | case1 | case2 | case3 | case4 => cases h
  | case5 d r hd text after hq r' hb =>
    obtain rfl : d = '\'' := by simpa using hd
    obtain ⟨units, hu, rfl⟩ := quotedText_of_readQuoted hq
    obtain ⟨g, hg, -, rfl⟩ := dropBlanks_eq_cons_iff.1 hb
    cases h
    exact ⟨_, r', .one hu hg, rfl, by simp⟩
  | case6 d r hd text after hq r' hb _ ih =>
    obtain rfl : d = '\'' := by simpa using hd
    obtain ⟨units, hu, rfl⟩ := quotedText_of_readQuoted hq
    obtain ⟨g, hg, -, rfl⟩ := dropBlanks_eq_cons_iff.1 hb
    obtain ⟨⟨more, rest'⟩, hm, he⟩ := bind_eq_ok.1 h
    obtain ⟨ts, r'', hts, rfl, hd'⟩ := ih hm
    obtain ⟨b, hb', hr'⟩ := exists_gap r'
    cases he
    refine ⟨_, r'', .more hu hg hb' hts, rfl, ?_⟩
    rw [hr', hd']
    simp
  | case7 => cases h

theorem readNames_looksOneAhead (hc : IsCloser close) : LooksOneAhead (readNames close) := by
  intro cs names rest h
  obtain ⟨t, r, ht, rfl, rfl⟩ := namesText_of_readNames h
  obtain ⟨u, hu⟩ := ht.starts
  refine ⟨t, hu ▸ List.cons_ne_nil _ _, rfl, fun rest' hr => ?_⟩
  obtain ⟨r', rfl⟩ := List.head?_eq_some_iff.1 hr
  exact ht.readNames hc r'

end

end JsonQuery
