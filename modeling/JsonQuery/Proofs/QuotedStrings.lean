import JsonQuery.Proofs.Grammar.Quoted

/-!
# What a quoted string stands for

The text behind a quote begins with units, each a character that stands for itself or a backslash
and a character that stand for one, and then comes what is no unit: the closing quote, a backslash
that escapes nothing, or the end of the text. Reading takes the units off one by one, and what it
gives is told by what comes behind them.
-/

namespace JsonQuery

/-- The characters that may stand behind a backslash, and what they stand for there. -/
def escapes : List (Char × Char) :=
  [('b', '\x08'), ('t', '\t'), ('n', '\n'), ('f', '\x0c'), ('r', '\r'), ('\\', '\\'), ('"', '"'),
   ('\'', '\''), ('/', '/')]

inductive QuotedUnit
  | plain (c : Char) (h : c ≠ '\'' ∧ c ≠ '\\')
  | escape (c meant : Char) (h : (c, meant) ∈ escapes)

namespace QuotedUnit

def spelling : QuotedUnit → List Char
  | plain c _ => [c]
  | escape c _ _ => ['\\', c]

def meaning : QuotedUnit → Char
  | plain c _ => c
  | escape _ meant _ => meant

end QuotedUnit

def spelled (units : List QuotedUnit) : List Char := units.flatMap QuotedUnit.spelling

theorem spelled_cons (u : QuotedUnit) (units : List QuotedUnit) (tail : List Char) :
    spelled (u :: units) ++ tail = u.spelling ++ (spelled units ++ tail) := by
  rw [spelled, List.flatMap_cons, List.append_assoc]
  rfl

theorem unescape?_eq_some_iff {c meant : Char} :
    unescape? c = some meant ↔ (c, meant) ∈ escapes := by
  have table : ∀ e ∈ escapes, unescape? e.1 = some e.2 := by decide
  constructor
  · intro h
    unfold unescape? at h
    split at h
    case h_10 => cases h
    all_goals
      obtain rfl := Option.some.inj h
      decide
  · exact table (c, meant)

theorem unescape?_eq_none_iff {c : Char} : unescape? c = none ↔ ∀ meant, (c, meant) ∉ escapes := by
  simp only [← unescape?_eq_some_iff, Option.eq_none_iff_forall_ne_some]

/-- A text that begins with no unit, and what reading gives there. -/
inductive QuotedStop : List Char → Except PathError (List Char × List Char) → Prop
  | quote (rest : List Char) : QuotedStop ('\'' :: rest) (.ok ([], rest))
  | unknown {c : Char} (rest : List Char) : (∀ meant, (c, meant) ∉ escapes) →
      QuotedStop ('\\' :: c :: rest) (.error (.unknownEscape c))
  | ended : QuotedStop [] (.error .openString)
  | endedInEscape : QuotedStop ['\\'] (.error .openString)

theorem QuotedStop.readQuoted {tail : List Char} {found : Except PathError (List Char × List Char)}
    (h : QuotedStop tail found) : readQuoted tail = found := by
  cases h with
  | quote | ended | endedInEscape => rw [JsonQuery.readQuoted]
  | unknown rest hc => simp only [JsonQuery.readQuoted, unescape?_eq_none_iff.2 hc]

theorem readQuoted_unit (u : QuotedUnit) (cs : List Char) :
    readQuoted (u.spelling ++ cs) =
      (readQuoted cs).map fun (text, rest) => (u.meaning :: text, rest) := by
  cases u with
  | plain c h => exact readQuoted_plain h.1 h.2 cs
  | escape c meant h => exact readQuoted_escape (unescape?_eq_some_iff.2 h) cs

/-- Reading takes units off one by one. -/
theorem readQuoted_spelled (units : List QuotedUnit) (tail : List Char) :
    readQuoted (spelled units ++ tail) =
      (readQuoted tail).map fun (text, rest) => (units.map QuotedUnit.meaning ++ text, rest) := by
  induction units with
  | nil => cases hr : readQuoted tail <;> simp [spelled, hr, Except.map]
  | cons u units ih =>
    rw [spelled_cons, readQuoted_unit, ih]
    cases readQuoted tail <;> rfl

/-- Every text is units and then a stop. -/
theorem exists_units (cs : List Char) : ∃ units tail found,
    cs = spelled units ++ tail ∧ QuotedStop tail found := by
  fun_induction readQuoted cs with
  | case1 => exact ⟨[], [], _, rfl, .ended⟩
  | case2 rest => exact ⟨[], _, _, rfl, .quote rest⟩
  | case3 => exact ⟨[], _, _, rfl, .endedInEscape⟩
  | case4 c rest hc => exact ⟨[], _, _, rfl, .unknown rest (unescape?_eq_none_iff.1 hc)⟩
  | case5 c rest meant hc ih =>
    obtain ⟨units, tail, found, rfl, hstop⟩ := ih
    refine ⟨.escape c meant (unescape?_eq_some_iff.1 hc) :: units, tail, found, ?_, hstop⟩
    rw [spelled_cons]
    rfl
  | case6 c rest hq hb hb' ih =>
    have hc : c ≠ '\\' := by
      intro hc
      cases rest with
      | nil => exact hb hc rfl
      | cons d rest => exact hb' d rest hc rfl
    obtain ⟨units, tail, found, he, hstop⟩ := ih
    refine ⟨.plain c ⟨hq, hc⟩ :: units, tail, found, ?_, hstop⟩
    rw [spelled_cons, he]
    rfl

/-- Units in front of a stop are all that is read. -/
theorem readQuoted_eq_iff {cs : List Char} {found : Except PathError (List Char × List Char)} :
    readQuoted cs = found ↔ ∃ units tail stopped, cs = spelled units ++ tail ∧
      QuotedStop tail stopped ∧
      found = stopped.map fun (text, rest) => (units.map QuotedUnit.meaning ++ text, rest) := by
  constructor
  · rintro rfl
    obtain ⟨units, tail, stopped, rfl, hstop⟩ := exists_units cs
    exact ⟨units, tail, stopped, rfl, hstop, by rw [readQuoted_spelled, hstop.readQuoted]⟩
  · rintro ⟨units, tail, stopped, rfl, hstop, rfl⟩
    rw [readQuoted_spelled, hstop.readQuoted]

section

variable {cs text rest : List Char}

theorem readQuoted_eq_ok_iff_units : readQuoted cs = .ok (text, rest) ↔
    ∃ units : List QuotedUnit,
      cs = spelled units ++ '\'' :: rest ∧ text = units.map QuotedUnit.meaning := by
  rw [readQuoted_eq_iff]
  constructor
  · rintro ⟨units, tail, stopped, rfl, hstop, he⟩
    cases hstop with
    | quote rest =>
      cases he
      exact ⟨units, rfl, List.append_nil _⟩
    | unknown | ended | endedInEscape => cases he
  · rintro ⟨units, rfl, rfl⟩
    exact ⟨units, _, _, rfl, .quote rest, by simp [Except.map]⟩

theorem readQuoted_eq_unknownEscape_iff {c : Char} :
    readQuoted cs = .error (.unknownEscape c) ↔ ∃ (units : List QuotedUnit) (rest : List Char),
      cs = spelled units ++ '\\' :: c :: rest ∧ ∀ meant, (c, meant) ∉ escapes := by
  rw [readQuoted_eq_iff]
  constructor
  · rintro ⟨units, tail, stopped, rfl, hstop, he⟩
    cases hstop with
    | unknown rest hc =>
      cases he
      exact ⟨units, rest, rfl, hc⟩
    | quote | ended | endedInEscape => cases he
  · rintro ⟨units, rest, rfl, hc⟩
    exact ⟨units, _, _, rfl, .unknown rest hc, rfl⟩

theorem readQuoted_eq_openString_iff : readQuoted cs = .error .openString ↔
    ∃ units : List QuotedUnit, cs = spelled units ∨ cs = spelled units ++ ['\\'] := by
  rw [readQuoted_eq_iff]
  constructor
  · rintro ⟨units, tail, stopped, rfl, hstop, he⟩
    cases hstop with
    | ended => exact ⟨units, .inl (List.append_nil _)⟩
    | endedInEscape => exact ⟨units, .inr rfl⟩
    | quote | unknown => cases he
  · rintro ⟨units, rfl | rfl⟩
    · exact ⟨units, [], _, (List.append_nil _).symm, .ended, rfl⟩
    · exact ⟨units, _, _, rfl, .endedInEscape, rfl⟩

theorem readQuoted_outcomes (cs : List Char) : (∃ found, readQuoted cs = .ok found) ∨
    (∃ c, readQuoted cs = .error (.unknownEscape c)) ∨ readQuoted cs = .error .openString := by
  obtain ⟨units, tail, stopped, rfl, hstop⟩ := exists_units cs
  rw [readQuoted_spelled, hstop.readQuoted]
  cases hstop with
  | quote => exact .inl ⟨_, rfl⟩
  | unknown => exact .inr (.inl ⟨_, rfl⟩)
  | ended | endedInEscape => exact .inr (.inr rfl)

end

/-- **A quoted string is read as its units, up to the first quote that is none.** There is an
unknown escape just when a backslash and a character that cannot follow one stand behind units, and
no end of the string just when the text ends behind units, or behind a backslash behind them. There
is no other fault. -/
theorem readQuoted_decodes (cs : List Char) :
    (∀ text rest, readQuoted cs = .ok (text, rest) ↔ ∃ units : List QuotedUnit,
      cs = spelled units ++ '\'' :: rest ∧ text = units.map QuotedUnit.meaning) ∧
    (∀ c, readQuoted cs = .error (.unknownEscape c) ↔
      ∃ (units : List QuotedUnit) (rest : List Char),
        cs = spelled units ++ '\\' :: c :: rest ∧ ∀ meant, (c, meant) ∉ escapes) ∧
    (readQuoted cs = .error .openString ↔ ∃ units : List QuotedUnit,
      cs = spelled units ∨ cs = spelled units ++ ['\\']) ∧
    ((∃ found, readQuoted cs = .ok found) ∨ (∃ c, readQuoted cs = .error (.unknownEscape c)) ∨
      readQuoted cs = .error .openString) :=
  ⟨fun _ _ => readQuoted_eq_ok_iff_units, fun _ => readQuoted_eq_unknownEscape_iff,
    readQuoted_eq_openString_iff, readQuoted_outcomes cs⟩

/-- A backslash behind a backslash escapes no quote. -/
example : readQuoted "a\\\\'\\'".toList = .ok (['a', '\\'], ['\\', '\'']) := rfl

end JsonQuery
