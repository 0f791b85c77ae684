import JsonQuery.Proofs.Grammar.Whole
import JsonQuery.Regex.Builtin.Matching

/-!
# Continuation of paths

A dot or a bracket behind a path text goes on as if nothing stood before it: the text behind is read
as it is read alone, with the same selectors or the same fault.
-/

namespace JsonQuery

open Text

/-- Begins as a path goes on behind a selector. -/
def Continues (t : List Char) : Prop := t.head? = some '.' ∨ t.head? = some '['

theorem Continues.exists_cons {t : List Char} (h : Continues t) :
    ∃ c rest, t = c :: rest ∧ (c = '.' ∨ c = '[') := by
  obtain h | h := h
  · obtain ⟨rest, rfl⟩ := List.head?_eq_some_iff.1 h
    exact ⟨'.', rest, rfl, .inl rfl⟩
  · obtain ⟨rest, rfl⟩ := List.head?_eq_some_iff.1 h
    exact ⟨'[', rest, rfl, .inr rfl⟩

/-- Nothing, or what begins another selector. -/
def Follows (t : List Char) : Prop := ∀ c, t.head? = some c → c = '.' ∨ c = '[' ∨ c = '('

theorem Continues.follows {t : List Char} (h : Continues t) : Follows t := by
  obtain ⟨d, rest, rfl, hd⟩ := h.exists_cons
  rintro c hc
  obtain rfl := Option.some.inj hc
  exact hd.imp_right .inl

theorem Follows.ends {t : List Char} (h : Follows t) (q : Bool) : Ends (isNameChar q) t := by
  intro c hc
  obtain rfl | rfl | rfl := h c hc <;> cases q <;> decide

theorem Follows.not_blank {t : List Char} (h : Follows t) :
    ∀ c, t.head? = some c → isBlank c = false := by
  intro c hc
  obtain rfl | rfl | rfl := h c hc <;> decide

theorem withoutRoot_append {cs t : List Char} (ht : Continues t) :
    withoutRoot (cs ++ t) = withoutRoot cs ++ t := by
  cases cs with
  | nil =>
    obtain ⟨c, rest, rfl, rfl | rfl⟩ := ht.exists_cons <;> rfl
  | cons c cs =>
    by_cases hc : c = '$'
    · subst hc
      cases cs with
      | nil =>
        rw [withoutRoot_marker (.inl rfl)]
        exact withoutRoot_marker (.inr ht)
      | cons d cs =>
        by_cases hd : d = '.' ∨ d = '['
        · rw [withoutRoot_marker (by simpa using hd)]
          exact withoutRoot_marker (by simpa using hd)
        · rw [withoutRoot_name (by simpa using hd)]
          exact withoutRoot_name (by simpa using hd)
    · rw [withoutRoot_other (by simpa using hc), withoutRoot_other (by simpa using hc)]

theorem not_blank_of_continues {t : List Char} (ht : Continues t) :
    ∀ c, t.head? = some c → isBlank c = false := ht.follows.not_blank

section

variable [Regex.Engine]

/-- Only a name without a dot in front tells the places behind selectors from each other. -/
theorem Follows.readPath_eq {t : List Char} (h : Follows t) {j j' : Junction}
    (hj : j.isDot = false) (hj' : j'.isDot = false) (a : Nat) (q : Bool) :
    readPath a q j t = readPath a q j' t := by
  cases t with
  | nil => rw [readPath_nil, readPath_nil, hj, hj']
  | cons c t =>
    cases a with
    | zero => rw [readPath, readPath]
    | succ a =>
      obtain rfl | hc := h c rfl
      · rw [readPath_dot, readPath_dot, Junction.addDot_eq_dot hj, Junction.addDot_eq_dot hj']
      · rw [readPath_bracket hc, readPath_bracket hc, Junction.scans_eq_false hj,
          Junction.scans_eq_false hj']

theorem ReadsPath.readPath_append {q : Bool} {j : Junction} {cs rest t : List Char} {path : Path}
    {a : Nat} (ht : Continues t) : ReadsPath q j cs path rest → rest = [] →
      (cs ++ t).length ≤ a → JsonQuery.readPath a q j (cs ++ t) =
        (JsonQuery.readPath t.length q .start t).map fun (more, left) => (path ++ more, left)
  | .done hj, _, ha => by
    have hstart : Junction.start.isDot = false := rfl
    rw [List.nil_append, ht.follows.readPath_eq hj hstart,
      (readPath_settles q .start t).eq ha (Nat.le_refl _)]
    cases JsonQuery.readPath t.length q .start t <;> rfl
  | .dot h, hrest, ha => by
    obtain ⟨a, rfl, hb⟩ := exists_allowance ha
    rw [List.cons_append, readPath_dot]
    exact h.readPath_append ht hrest hb
  | @ReadsPath.name _ _ _ _ word cs _ _ hj hc hw hcs h, hrest, ha => by
    obtain ⟨a, rfl, hb⟩ := exists_allowance ha
    have hends : Ends (isNameChar q) (cs ++ t) := by
      cases cs with
      | nil => exact ht.follows.ends q
      | cons d cs => exact hcs.of_head_eq rfl
    rw [List.cons_append, List.append_assoc, readPath_name hj hc hw hends,
      h.readPath_append ht hrest (by simp at hb ⊢; omega)]
    cases JsonQuery.readPath t.length q .start t <;> rfl
  | @ReadsPath.indexer _ _ _ c cs mid _ here _ hc hi h, hrest, ha => by
    obtain ⟨a, rfl, hb⟩ := exists_allowance ha
    obtain ⟨inner, he, hin⟩ := hi.lookahead (isCloser_closing c)
    have hlen := congrArg List.length he
    simp only [List.length_append, List.append_eq] at hb hlen
    have hread : readIndexer (readChain a) (closing c) j.scans (cs ++ t) =
        .ok (here, closing c :: (mid ++ t)) := by
      rw [he, List.append_assoc]
      exact (hin (mid ++ t)).readIndexer (isCloser_closing c) (by simp; omega)
    rw [List.cons_append, readPath_bracket hc, hread]
    simp only [bind, Except.bind, List.drop_one, List.tail_cons]
    rw [h.readPath_append ht hrest (by simp; omega)]
    cases JsonQuery.readPath t.length q .start t with
    | error e => rfl
    | ok found => simp [Except.map]

/-- The text behind a path text is read as it is read alone. -/
theorem parseChars_append {cs t : List Char} {path : Path}
    (h : ReadsPath false .start cs path []) (ht : Continues t) :
    parseChars (cs ++ t) = (parseChars t).map fun more => path ++ more := by
  rw [parseChars_eq, parseChars_eq, h.readPath_append ht rfl (Nat.le_refl _)]
  cases readPath t.length false .start t with
  | error e => cases e <;> rfl
  | ok found =>
    simp only [Except.map, endOfText]
    split <;> rfl

/-- Behind a text that is a path no marker can stand, and what goes on with it is read alone. -/
theorem Path.parse_behind {p q : String} {path : Path} (hp : Path.parse p = .ok path)
    (hend : ∀ c, p.toList.getLast? = some c → isBlank c = false) (hq : Continues q.toList) :
    Path.parse (p ++ q) = (parseChars (trimBlanks q.toList)).map fun more => path ++ more := by
  have hfront := not_blank_of_continues hq
  have hcont : Continues (trimBlanks q.toList) := by
    rw [Continues, head_trimBlanks hfront]
    exact hq
  rw [parse_eq, String.toList_append, trimBlanks_append hend hfront, withoutRoot_append hcont]
  exact parseChars_append (parse_eq_ok_iff.1 hp) hcont

theorem Path.parse_append {p q : String} {path : Path} (hp : Path.parse p = .ok path)
    (hend : ∀ c, p.toList.getLast? = some c → isBlank c = false)
    (hq : q.toList.head? = some '.' ∨ q.toList.head? = some '[') :
    Path.parse (p ++ q) = (Path.parse q).map fun more => path ++ more := by
  have hfront := not_blank_of_continues hq
  have hcont : Continues (trimBlanks q.toList) := by
    rw [Continues, head_trimBlanks hfront]
    exact hq
  have hother : withoutRoot (trimBlanks q.toList) = trimBlanks q.toList := by
    rw [← List.nil_append (trimBlanks q.toList), withoutRoot_append hcont]
    rfl
  rw [parse_eq, parse_eq, String.toList_append, trimBlanks_append hend hfront,
    withoutRoot_append hcont, hother]
  exact parseChars_append (parse_eq_ok_iff.1 hp) hcont

end

open scoped Regex.Builtin

theorem Path.parse_append_member : Path.parse "$.a" = .ok [.field (some "a")] ∧
    Path.parse ("$.a" ++ ".b ") = .ok [.field (some "a"), .field (some "b")] ∧
    Path.parse ("$.a" ++ "[0") = .error .openIndexer := by
  have ha : Path.parse "$.a" = .ok [.field (some "a")] := rfl
  have hend : ∀ c, "$.a".toList.getLast? = some c → isBlank c = false := by
    rintro c hc
    obtain rfl : 'a' = c := Option.some.inj hc
    decide
  refine ⟨ha, ?_, ?_⟩
  · rw [Path.parse_append ha hend (.inl rfl)]
    rfl
  · rw [Path.parse_append ha hend (.inr rfl)]
    rfl

end JsonQuery
