import JsonQuery.Path.Literal
import JsonQuery.Proofs.Grammar.Quoted
import JsonQuery.Proofs.Grammar.Spelling
import JsonQuery.Proofs.Text.Run

/-!
# The grammar of literals

The texts that literals of a condition are read from. A number and the flags of a pattern go on as
far as they can, so what follows them must not be able to continue them.
-/

namespace JsonQuery

open Text

/-- A pattern between its slashes: no slash is bare, and no backslash stands alone. -/
inductive PatternText : List Char → Prop
  | nil : PatternText []
  | plain {c : Char} {t : List Char} : c ≠ '/' → c ≠ '\\' → PatternText t → PatternText (c :: t)
  | pair {c : Char} {t : List Char} : PatternText t → PatternText ('\\' :: c :: t)

theorem readPatternText_plain {c : Char} (hs : c ≠ '/') (hb : c ≠ '\\') (cs : List Char) :
    readPatternText (c :: cs) =
      (readPatternText cs).map fun (text, rest) => (c :: text, rest) := by
  rw [readPatternText]
  · cases readPatternText cs <;> rfl
  · exact hs
  · exact fun h => absurd h hb
  · exact fun _ _ h => absurd h hb

theorem readPatternText_pair (c : Char) (cs : List Char) :
    readPatternText ('\\' :: c :: cs) =
      (readPatternText cs).map fun (text, rest) => ('\\' :: c :: text, rest) := by
  rw [readPatternText]
  cases readPatternText cs <;> rfl

theorem PatternText.readPatternText {t : List Char} (h : PatternText t) (rest : List Char) :
    readPatternText (t ++ '/' :: rest) = .ok (t, rest) := by
  induction h with
  | nil => rw [List.nil_append, JsonQuery.readPatternText]
  | plain hs hb _ ih => rw [List.cons_append, readPatternText_plain hs hb, ih]; rfl
  | pair _ ih => rw [List.cons_append, List.cons_append, readPatternText_pair, ih]; rfl

theorem patternText_of_readPatternText {cs text rest : List Char}
    (h : readPatternText cs = .ok (text, rest)) :
    PatternText text ∧ cs = text ++ '/' :: rest := by
  fun_induction readPatternText cs generalizing text rest with
  | case1 | case3 => cases h
  | case2 => cases h; exact ⟨.nil, rfl⟩
  | case4 c cs ih =>
    obtain ⟨⟨text', rest'⟩, hr, he⟩ := bind_eq_ok.1 h
    obtain ⟨ht, rfl⟩ := ih hr
    cases he
    exact ⟨.pair ht, rfl⟩
  | case5 c cs hs hb hb' ih =>
    obtain ⟨⟨text', rest'⟩, hr, he⟩ := bind_eq_ok.1 h
    obtain ⟨ht, rfl⟩ := ih hr
    cases he
    refine ⟨.plain hs (fun hc => ?_) ht, rfl⟩
    cases text' with
    | nil => exact hb' _ _ hc rfl
    | cons d text' => exact hb' _ _ hc rfl

theorem readNumber_eq_ok_iff {cs rest : List Char} {n : Number} :
    readNumber cs = .ok (n, rest) ↔
      ∃ word, (∀ c ∈ word, isNumberChar c = true) ∧ Ends isNumberChar rest ∧
        Number.ofText? word = some n ∧ cs = word ++ rest := by
  unfold readNumber
  dsimp only
  constructor
  · intro h
    split at h
    · next n' hn =>
      cases h
      exact ⟨_, fun _ hc => List.mem_takeWhile_imp hc, ends_dropWhile cs, hn, by simp⟩
    · cases h
  · rintro ⟨word, hw, hr, hn, rfl⟩
    simp [takeWhile_run hw hr, dropWhile_run hw hr, hn]

theorem isNumberChar_of_start {c : Char} (h : (c.isDigit || c == '-') = true) :
    isNumberChar c = true := by
  simp only [isNumberChar, h, Bool.true_or]

variable [Regex.Engine]

theorem ofText_eq_ok_iff {pattern flags : String} {l : Regex.Literal} :
    Regex.Literal.ofText pattern flags = .ok l ↔ l.pattern = pattern ∧ l.flags = flags := by
  unfold Regex.Literal.ofText
  constructor
  · intro h
    split at h
    · cases h
      exact ⟨rfl, rfl⟩
    · cases h
  · rintro ⟨rfl, rfl⟩
    split
    · next program h => exact congrArg Except.ok (Regex.Literal.ext rfl rfl)
    · next reason h => simp [l.compiled] at h

/-- A pattern literal is read from its own text, and from no other. -/
theorem readPatternLiteral_eq_ok_iff {cs rest : List Char} {l : Regex.Literal} :
    readPatternLiteral cs = .ok (l, rest) ↔
      PatternText l.pattern.toList ∧ (∀ c ∈ l.flags.toList, isLetter c = true) ∧
        Ends isLetter rest ∧ cs = l.pattern.toList ++ '/' :: (l.flags.toList ++ rest) := by
  constructor
  · intro h
    obtain ⟨⟨text, after⟩, hr, h'⟩ := bind_eq_ok.1 h
    obtain ⟨ht, rfl⟩ := patternText_of_readPatternText hr
    dsimp only at h'
    split at h'
    · next l' hl =>
      cases h'
      obtain ⟨hp, hf⟩ := ofText_eq_ok_iff.1 hl
      rw [hp, hf, String.toList_ofList, String.toList_ofList]
      exact ⟨ht, fun _ hc => List.mem_takeWhile_imp hc, ends_dropWhile after, by simp⟩
    · cases h'
  · rintro ⟨hp, hf, hr, rfl⟩
    have ht := takeWhile_run hf hr
    have hd := dropWhile_run hf hr
    have hl : Regex.Literal.ofText l.pattern l.flags = .ok l := ofText_eq_ok_iff.2 ⟨rfl, rfl⟩
    rw [readPatternLiteral, hp.readPatternText]
    simp [ht, hd, hl, bind, Except.bind]

/-- The texts of literals. -/
inductive LiteralText : Operand → List Char → Prop
  | string {units text : List Char} : QuotedText units text →
      LiteralText (.literal (.str (String.ofList text))) ('\'' :: (units ++ ['\'']))
  | word {spelling : List Char} {value : Json} : (spelling, value) ∈ wordSpellings →
      LiteralText (.literal value) spelling
  | number {c : Char} {cs : List Char} {n : Number} : (c.isDigit || c == '-') = true →
      (∀ d ∈ cs, isNumberChar d = true) → Number.ofText? (c :: cs) = some n →
      LiteralText (.literal (.num n)) (c :: cs)
  | pattern {l : Regex.Literal} : PatternText l.pattern.toList →
      (∀ c ∈ l.flags.toList, isLetter c = true) →
      LiteralText (.pattern l) ('/' :: (l.pattern.toList ++ '/' :: l.flags.toList))

theorem LiteralText.ne_nil {operand : Operand} {t : List Char} (h : LiteralText operand t) :
    t ≠ [] := by
  cases h with
  | word hm =>
    have all : ∀ a ∈ wordSpellings, a.1 ≠ [] := by decide
    exact all _ hm
  | _ => exact List.cons_ne_nil _ _

/-- The characters that would continue a literal. -/
def Operand.continuedBy : Operand → Char → Bool
  | .literal (.num _) => isNumberChar
  | .pattern _ => isLetter
  | _ => fun _ => false

theorem not_continuedBy_of_word {spelling : List Char} {value : Json}
    (h : (spelling, value) ∈ wordSpellings) (c : Char) :
    (Operand.literal value).continuedBy c = false := by
  simp only [wordSpellings, List.mem_cons, Prod.mk.injEq, List.not_mem_nil, or_false] at h
  rcases h with ⟨-, rfl⟩ | ⟨-, rfl⟩ | ⟨-, rfl⟩ <;> rfl

theorem readLiteral_string (cs : List Char) :
    readLiteral ('\'' :: cs) =
      (readQuoted cs).map fun (text, rest) => (.literal (.str (String.ofList text)), rest) := by
  rw [readLiteral]
  cases readQuoted cs <;> rfl

theorem readLiteral_pattern (cs : List Char) :
    readLiteral ('/' :: cs) = (readPatternLiteral cs).map fun (l, rest) => (.pattern l, rest) := by
  rw [readLiteral]
  cases readPatternLiteral cs <;> rfl

theorem readLiteral_number {c : Char} (h : (c.isDigit || c == '-') = true) (cs : List Char) :
    readLiteral (c :: cs) =
      (readNumber (c :: cs)).map fun (n, rest) => (.literal (.num n), rest) := by
  rw [readLiteral, if_pos h]
  · cases readNumber (c :: cs) <;> rfl
  · rintro rfl
    exact absurd h (by decide)
  · rintro rfl
    exact absurd h (by decide)

theorem readLiteral_word {c : Char} (hq : c ≠ '\'') (hs : c ≠ '/')
    (hd : (c.isDigit || c == '-') = false) (cs : List Char) :
    readLiteral (c :: cs) =
      match readSpelling wordSpellings (c :: cs) with
      | some (value, rest) => .ok (.literal value, rest)
      | none => .error (.unexpectedInQuery c) := by
  unfold readLiteral
  split
  · next h => cases h
  · next h => exact absurd (List.cons.inj h).1 hq
  · next h => exact absurd (List.cons.inj h).1 hs
  · next h =>
    obtain ⟨rfl, rfl⟩ := List.cons.inj h
    split
    · next hnumber => exact absurd hnumber (by simp [hd])
    · rfl

theorem LiteralText.readLiteral {operand : Operand} {t rest : List Char}
    (h : LiteralText operand t) (hr : Ends operand.continuedBy rest) :
    readLiteral (t ++ rest) = .ok (operand, rest) := by
  cases h with
  | string hu =>
    have hq := hu.readQuoted rest
    rw [List.cons_append, List.append_assoc, List.singleton_append, readLiteral_string, hq]
    rfl
  | word hm =>
    simp only [wordSpellings, List.mem_cons, Prod.mk.injEq, List.not_mem_nil, or_false] at hm
    rcases hm with ⟨rfl, rfl⟩ | ⟨rfl, rfl⟩ | ⟨rfl, rfl⟩ <;>
      simp [JsonQuery.readLiteral, readSpelling_cons, wordSpellings]
  | @number c cs n hc hcs hn =>
    have hall : ∀ d ∈ c :: cs, isNumberChar d = true := by
      simpa using ⟨isNumberChar_of_start hc, hcs⟩
    have hread : readNumber (c :: cs ++ rest) = .ok (n, rest) :=
      readNumber_eq_ok_iff.2 ⟨c :: cs, hall, hr, hn, rfl⟩
    rw [List.cons_append] at hread ⊢
    rw [readLiteral_number hc, hread]
    rfl
  | @pattern l hp hf =>
    have hread := readPatternLiteral_eq_ok_iff.2 ⟨hp, hf, hr, rfl⟩
    rw [List.cons_append, List.append_assoc, List.cons_append, readLiteral_pattern, hread]
    rfl

theorem literalText_of_readLiteral {cs rest : List Char} {operand : Operand}
    (h : readLiteral cs = .ok (operand, rest)) :
    ∃ t, LiteralText operand t ∧ Ends operand.continuedBy rest ∧ cs = t ++ rest := by
  cases cs with
  | nil => cases h
  | cons c cs =>
    by_cases hq : c = '\''
    · subst hq
      rw [readLiteral_string] at h
      obtain ⟨⟨text, r⟩, hr, he⟩ := map_eq_ok.1 h
      obtain ⟨units, hu, rfl⟩ := quotedText_of_readQuoted hr
      cases he
      exact ⟨_, .string hu, fun _ _ => rfl, by simp⟩
    by_cases hs : c = '/'
    · subst hs
      rw [readLiteral_pattern] at h
      obtain ⟨⟨l, r⟩, hr, he⟩ := map_eq_ok.1 h
      obtain ⟨hp, hf, hr', rfl⟩ := readPatternLiteral_eq_ok_iff.1 hr
      cases he
      exact ⟨_, .pattern hp hf, hr', by simp⟩
    cases hd : c.isDigit || c == '-'
    · rw [readLiteral_word hq hs hd] at h
      split at h
      · next value r hr =>
        obtain ⟨spelling, before, after, ht, hc, -⟩ := readSpelling_eq_some hr
        cases h
        have hm : (spelling, value) ∈ wordSpellings := by simp [ht]
        exact ⟨spelling, .word hm, fun d _ => not_continuedBy_of_word hm d, hc⟩
      · cases h
    · rw [readLiteral_number hd] at h
      obtain ⟨⟨n, r⟩, hr, he⟩ := map_eq_ok.1 h
      obtain ⟨word, hw, hr', hn, hc⟩ := readNumber_eq_ok_iff.1 hr
      cases he
      cases word with
      | nil =>
        obtain rfl : c :: cs = rest := hc
        simp [isNumberChar_of_start hd, ends_cons] at hr'
      | cons d word =>
        obtain ⟨rfl, rfl⟩ := List.cons.inj hc
        exact ⟨_, .number hd (fun e he => hw e (by simp [he])) hn, hr', rfl⟩

theorem readLiteral_looksOneAhead : LooksOneAhead readLiteral := by
  intro cs operand rest h
  obtain ⟨t, ht, hr, rfl⟩ := literalText_of_readLiteral h
  exact ⟨t, ht.ne_nil, rfl, fun rest' he => ht.readLiteral (hr.of_head_eq he)⟩

end JsonQuery
