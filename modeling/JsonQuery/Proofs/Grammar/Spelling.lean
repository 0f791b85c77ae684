import JsonQuery.Path.Literal
import JsonQuery.Proofs.Grammar.Outcome
import JsonQuery.Proofs.Text.Cursor

/-!
# The grammar of operators and connectives

A connective is read when its spelling comes next. An operator is read when one of its spellings
comes next and the character behind it does not make a longer spelling.
-/

namespace JsonQuery

open Text

theorem readSpelling_cons {α : Type} (spelling : List Char) (meaning : α)
    (others : List (List Char × α)) (cs : List Char) :
    readSpelling ((spelling, meaning) :: others) cs =
      if spelling.isPrefixOf cs then some (meaning, cs.drop spelling.length)
      else readSpelling others cs := by
  have hm := (Cursor.ofList cs).matchText_eq spelling
  have hr := (Cursor.ofList cs).remaining_matchText spelling
  rw [readSpelling]
  split
  · next cursor h =>
    simp only [h, Cursor.remaining_ofList] at hm hr
    simp [← hm, hr]
  · next cursor h =>
    simp only [h, Cursor.remaining_ofList] at hm
    simp [← hm]

/-- The first spelling of the list that comes next is read, and no spelling before it comes next. -/
theorem readSpelling_eq_some {α : Type} {table : List (List Char × α)} {cs rest : List Char}
    {meaning : α} (h : readSpelling table cs = some (meaning, rest)) :
    ∃ spelling before after, table = before ++ (spelling, meaning) :: after ∧
      cs = spelling ++ rest ∧ ∀ other ∈ before, ¬ other.1 <+: cs := by
  induction table with
  | nil => cases h
  | cons entry others ih =>
    obtain ⟨spelling, m⟩ := entry
    rw [readSpelling_cons] at h
    split at h
    · next hp =>
      cases h
      obtain ⟨t, rfl⟩ := List.isPrefixOf_iff_prefix.1 hp
      exact ⟨spelling, [], others, rfl, by simp, by simp⟩
    · next hp =>
      obtain ⟨s, before, after, rfl, hc, hb⟩ := ih h
      refine ⟨s, (spelling, m) :: before, after, rfl, hc, ?_⟩
      intro other ho
      rcases List.mem_cons.1 ho with rfl | ho
      · exact fun hq => hp (List.isPrefixOf_iff_prefix.2 hq)
      · exact hb other ho

theorem readSpelling_append {α : Type} {before after : List (List Char × α)}
    {spelling : List Char} {meaning : α} {rest : List Char}
    (h : ∀ other ∈ before, ¬ other.1 <+: spelling ++ rest) :
    readSpelling (before ++ (spelling, meaning) :: after) (spelling ++ rest) =
      some (meaning, rest) := by
  induction before with
  | nil =>
    rw [List.nil_append, readSpelling_cons, if_pos (by simp), List.drop_left]
  | cons other before ih =>
    obtain ⟨s, m⟩ := other
    rw [List.cons_append, readSpelling_cons, if_neg, ih fun o ho => h o (by simp [ho])]
    exact fun hp => h (s, m) (by simp) (List.isPrefixOf_iff_prefix.1 hp)

theorem take_append_of_head_eq {α : Type} {word rest rest' : List α} {n : Nat}
    (hn : n ≤ word.length + 1) (hr : rest'.head? = rest.head?) :
    (word ++ rest').take n = (word ++ rest).take n := by
  have hone : rest'.take (n - word.length) = rest.take (n - word.length) := by
    obtain h | h : n - word.length = 0 ∨ n - word.length = 1 := by omega
    · simp [h]
    · rw [h, List.take_one, List.take_one, hr]
  rw [List.take_append, List.take_append, hone]

/-- Where no spelling is more than one character longer than another, one character behind a
spelling tells whether a longer one was meant. -/
theorem readSpelling_lookahead {α : Type} {table : List (List Char × α)}
    (ht : ∀ a ∈ table, ∀ b ∈ table, a.1.length ≤ b.1.length + 1) {cs rest : List Char}
    {meaning : α} (h : readSpelling table cs = some (meaning, rest)) :
    ∃ spelling, (spelling, meaning) ∈ table ∧ cs = spelling ++ rest ∧
      ∀ rest', rest'.head? = rest.head? →
        readSpelling table (spelling ++ rest') = some (meaning, rest') := by
  obtain ⟨spelling, before, after, rfl, rfl, hb⟩ := readSpelling_eq_some h
  refine ⟨spelling, by simp, rfl, fun rest' hr => readSpelling_append fun other ho hp => ?_⟩
  have hl := ht other (by simp [ho]) (spelling, meaning) (by simp)
  rw [List.prefix_iff_eq_take, take_append_of_head_eq hl hr, ← List.prefix_iff_eq_take] at hp
  exact hb other ho hp

theorem operatorSpellings_length : ∀ a ∈ operatorSpellings, ∀ b ∈ operatorSpellings,
    a.1.length ≤ b.1.length + 1 := by decide

theorem connectiveSpellings_length : ∀ a ∈ connectiveSpellings, ∀ b ∈ connectiveSpellings,
    a.1.length ≤ b.1.length + 1 := by decide

theorem not_close_of_connective {cs rest : List Char} {c : Char} {connective : Connective}
    (h : readSpelling connectiveSpellings (c :: cs) = some (connective, rest)) : c ≠ ')' := by
  have heads : ∀ a ∈ connectiveSpellings, a.1.head? = some '&' ∨ a.1.head? = some '|' := by decide
  obtain ⟨spelling, hm, he, -⟩ := readSpelling_lookahead connectiveSpellings_length h
  rintro rfl
  cases spelling with
  | nil => exact absurd (heads _ hm) (by simp)
  | cons d spelling =>
    obtain ⟨rfl, -⟩ := List.cons.inj he
    exact absurd (heads _ hm) (by simp)

theorem spelling_length {spelling : List Char} {operator : Operator}
    (h : (spelling, operator) ∈ operatorSpellings) : 1 ≤ spelling.length := by
  have all : ∀ a ∈ operatorSpellings, 1 ≤ a.1.length := by decide
  exact all _ h

theorem readOperator_eq (cs : List Char) :
    readOperator cs =
      if cs.length < 2 then .error .openQuery
      else match readSpelling operatorSpellings cs with
        | some found => .ok found
        | none => .error .operatorExpected := by
  rw [readOperator, Cursor.peek_eq, Cursor.remaining_ofList]
  by_cases h : cs.length < 2
  · simp [h, List.getElem?_eq_none (show cs.length ≤ 1 by omega)]
  · simp only [h, List.getElem?_eq_getElem (show 1 < cs.length by omega), Option.isNone_some]
    rfl

theorem readOperator_eq_ok {cs rest : List Char} {operator : Operator}
    (h : readOperator cs = .ok (operator, rest)) :
    2 ≤ cs.length ∧ readSpelling operatorSpellings cs = some (operator, rest) := by
  rw [readOperator_eq] at h
  split at h
  · cases h
  · next hl =>
    split at h
    · next found hs =>
      cases h
      exact ⟨by omega, hs⟩
    · cases h

theorem not_present_of_readOperator {cs rest : List Char} {operator : Operator}
    (h : readOperator cs = .ok (operator, rest)) : operator ≠ .present := by
  have all : ∀ a ∈ operatorSpellings, a.2 ≠ .present := by decide
  obtain ⟨-, hs⟩ := readOperator_eq_ok h
  obtain ⟨spelling, hm, -⟩ := readSpelling_lookahead operatorSpellings_length hs
  exact all _ hm

theorem readOperator_looksOneAhead : LooksOneAhead readOperator := by
  intro cs operator rest h
  obtain ⟨hl, hs⟩ := readOperator_eq_ok h
  obtain ⟨spelling, hm, rfl, hr⟩ := readSpelling_lookahead operatorSpellings_length hs
  have hs : 1 ≤ spelling.length := spelling_length hm
  refine ⟨spelling, List.ne_nil_of_length_pos hs, rfl, fun rest' he => ?_⟩
  have hl' : 2 ≤ (spelling ++ rest').length := by
    have hz : rest'.length = 0 ↔ rest.length = 0 := by
      rw [List.length_eq_zero_iff, List.length_eq_zero_iff, ← List.head?_eq_none_iff, he,
        List.head?_eq_none_iff]
    simp only [List.length_append] at hl ⊢
    omega
  rw [readOperator_eq, if_neg (by omega), hr rest' he]

end JsonQuery
