import JsonQuery.Path.Quoted
import JsonQuery.Proofs.Grammar.Outcome

/-!
# The grammar of quoted strings

What stands between two quotes is a sequence of units, each a character that stands for itself or
an escape. Reading a quoted string finds exactly such a sequence up to the first closing quote.
-/

namespace JsonQuery

/-- The units between two quotes, and the characters that they stand for. -/
inductive QuotedText : List Char → List Char → Prop
  | nil : QuotedText [] []
  | plain {c : Char} {units text : List Char} : c ≠ '\'' → c ≠ '\\' → QuotedText units text →
      QuotedText (c :: units) (c :: text)
  | escape {c meant : Char} {units text : List Char} : unescape? c = some meant →
      QuotedText units text → QuotedText ('\\' :: c :: units) (meant :: text)

theorem readQuoted_plain {c : Char} (hq : c ≠ '\'') (hb : c ≠ '\\') (cs : List Char) :
    readQuoted (c :: cs) = (readQuoted cs).map fun (text, rest) => (c :: text, rest) := by
  rw [readQuoted]
  · cases readQuoted cs <;> rfl
  · exact hq
  · exact fun h => absurd h hb
  · exact fun _ _ h => absurd h hb

theorem readQuoted_escape {c meant : Char} (h : unescape? c = some meant) (cs : List Char) :
    readQuoted ('\\' :: c :: cs) =
      (readQuoted cs).map fun (text, rest) => (meant :: text, rest) := by
  simp only [readQuoted, h]
  cases readQuoted cs <;> rfl

theorem QuotedText.readQuoted {units text : List Char} (h : QuotedText units text)
    (rest : List Char) : readQuoted (units ++ '\'' :: rest) = .ok (text, rest) := by
  induction h with
  | nil => rw [List.nil_append, JsonQuery.readQuoted]
  | plain hq hb _ ih => rw [List.cons_append, readQuoted_plain hq hb, ih]; rfl
  | escape hm _ ih => rw [List.cons_append, List.cons_append, readQuoted_escape hm, ih]; rfl

theorem quotedText_of_readQuoted {cs text rest : List Char}
    (h : readQuoted cs = .ok (text, rest)) :
    ∃ units, QuotedText units text ∧ cs = units ++ '\'' :: rest := by
  fun_induction readQuoted cs generalizing text rest with
  | case1 | case3 | case4 => cases h
  | case2 => cases h; exact ⟨[], .nil, rfl⟩
  | case5 c cs meant hm ih =>
    obtain ⟨⟨text', rest'⟩, hr, he⟩ := bind_eq_ok.1 h
    obtain ⟨units, hu, rfl⟩ := ih hr
    cases he
    exact ⟨'\\' :: c :: units, .escape hm hu, rfl⟩
  | case6 c cs hq hb hb' ih =>
    obtain ⟨⟨text', rest'⟩, hr, he⟩ := bind_eq_ok.1 h
    obtain ⟨units, hu, rfl⟩ := ih hr
    cases he
    refine ⟨c :: units, .plain hq (fun hc => ?_) hu, rfl⟩
    cases units with
    | nil => exact hb' _ _ hc rfl
    | cons d units => exact hb' _ _ hc rfl

end JsonQuery
