import JsonQuery.Proofs.Continuation
import JsonQuery.Proofs.Grammar.Segment
import JsonQuery.Proofs.Writing.RoundTrip
import JsonQuery.Regex.Builtin.Matching

/-!
# Brackets that are left open

What stands in brackets is read up to the first bracket that closes them, and nothing behind that
bracket is looked at. So no part of it in front can be read as if it were all: the reader would have
stopped there in the whole text too. A path text that is cut off inside brackets is a fault, at
whatever place it is cut, inside a string, a number, a nested path or between two of them.
-/

namespace JsonQuery

open Text

section

variable [Regex.Engine]

/-- What is left behind the closing bracket depends only on the text. -/
theorem ReadsIndexer.rest_unique {close : Char} {scan scan' : Bool} {cs rest rest' : List Char}
    {here here' : Path} (hclose : IsCloser close) (h : ReadsIndexer close scan cs here rest)
    (h' : ReadsIndexer close scan' cs here' rest') : rest = rest' := by
  obtain ⟨selector, -, hform⟩ := h.form
  have hread := (hform scan').readIndexer hclose (Nat.le_refl _)
  have hread' := h'.readIndexer hclose (Nat.le_refl _)
  rw [hread] at hread'
  exact (List.cons.inj (Prod.mk.inj (Except.ok.inj hread')).2).2

/-- In front of its last bracket an indexer has no text that is read as one. -/
theorem ReadsIndexer.not_of_prefix {close : Char} {scan scan' : Bool} {c t mid : List Char}
    {here here' : Path} (hclose : IsCloser close)
    (h : ReadsIndexer close scan (c ++ [close]) here []) (ht : t <+: c) :
    ¬ ReadsIndexer close scan' t here' mid := by
  intro ht'
  obtain ⟨word, rfl, hword⟩ := ht'.lookahead hclose
  obtain ⟨behind, rfl⟩ := ht
  have hlonger := hword (mid ++ behind ++ [close])
  rw [← List.append_assoc, ← List.append_assoc] at hlonger
  have hnil := h.rest_unique hclose hlonger
  simp at hnil

theorem exists_indexer_of_parseChars {t : List Char} {path : Path}
    (h : parseChars ('[' :: t) = .ok path) : ∃ here mid, ReadsIndexer ']' false t here mid := by
  obtain ⟨g, -, hreads⟩ := parseChars_eq_ok_iff.1 h
  cases hreads with
  | stop hend => exact absurd hend (by decide)
  | name _ hname => exact absurd hname (by decide)
  | indexer _ hi => exact ⟨_, _, hi⟩

theorem ReadsIndexer.parseChars {t : List Char} {here : Path}
    (h : ReadsIndexer ']' false t here []) : parseChars ('[' :: t) = .ok here := by
  have hreads : ReadsPath false .start ('[' :: t) (here ++ []) [] :=
    .indexer (.inl rfl) h (.done rfl)
  rw [List.append_nil] at hreads
  exact parseChars_eq_ok_iff.2 ⟨[], Gap.nil, hreads⟩

/-- **A path cut off in brackets is a fault.** Behind a path text, what an indexer was read from up
to its last bracket is no path, nor is any part of it that leaves out an end; with that bracket it
is one. -/
theorem Path.parse_cut_off {p : String} {path here : Path} {cs : List Char} {a : Nat} {scan : Bool}
    (hp : Path.parse p = .ok path) (hend : ∀ c, p.toList.getLast? = some c → isBlank c = false)
    (hread : readIndexer (readChain a) ']' scan (cs ++ [']']) = .ok (here, [']'])) :
    (∀ t, t <+: cs → ∃ e, Path.parse (p ++ "[" ++ String.ofList t) = .error e) ∧
      ∃ more, Path.parse (p ++ "[" ++ String.ofList cs ++ "]") = .ok (path ++ more) := by
  obtain ⟨r, hr, hreads⟩ := readsIndexer_of_readIndexer (readers_sound a).chain hread
  obtain rfl : [] = r := (List.cons.inj hr).2
  have htoList : ∀ t, ("[" ++ String.ofList t).toList = '[' :: t := by
    intro t
    simp
  constructor
  · intro t ht
    have hcont : Continues ("[" ++ String.ofList t).toList := .inr (by rw [htoList]; rfl)
    obtain ⟨t', ht', htrim⟩ := exists_trimBlanks_cons (c := '[') (by decide) t
    rw [String.append_assoc, parse_behind hp hend hcont, htoList, htrim]
    cases hparse : parseChars ('[' :: t') with
    | error e => exact ⟨e, rfl⟩
    | ok found =>
      obtain ⟨here', mid, hi⟩ := exists_indexer_of_parseChars hparse
      exact absurd hi (hreads.not_of_prefix (.inl rfl) (ht'.trans ht))
  · obtain ⟨selector, -, hform⟩ := hreads.form
    have htext : p ++ "[" ++ String.ofList cs ++ "]" =
        p ++ ("[" ++ String.ofList (cs ++ [']'])) := by
      simp [String.append_assoc]
    have hcont : Continues ("[" ++ String.ofList (cs ++ [']'])).toList :=
      .inr (by rw [htoList]; rfl)
    have htrimmed : Trimmed ('[' :: (cs ++ [']'])) := trimmed_between (by decide) (by decide) cs
    have htrim := trimBlanks_gaps Gap.nil Gap.nil htrimmed
    rw [List.nil_append, List.append_nil] at htrim
    refine ⟨selector.form false, ?_⟩
    rw [htext, parse_behind hp hend hcont, htoList, htrim, (hform false).parseChars]
    rfl

end

open scoped Regex.Builtin

/-- A condition with brackets in a path and in a string. -/
theorem Path.parse_cut_off_condition :
    let cs := "?(@[0].a == '\\']' )".toList
    let here : Path := [.filter (.test .equals
      (.path [.index (some 0), .field (some "a")]) (some (.literal (.str "']"))))]
    Path.parse "$.a" = .ok [.field (some "a")] ∧
      (∀ c, "$.a".toList.getLast? = some c → isBlank c = false) ∧
      readIndexer (readChain 30) ']' false (cs ++ [']']) = .ok (here, [']']) ∧
      (∀ t, t <+: cs → ∃ e, Path.parse ("$.a" ++ "[" ++ String.ofList t) = .error e) ∧
      ∃ more, Path.parse ("$.a" ++ "[" ++ String.ofList cs ++ "]") =
        .ok ([.field (some "a")] ++ more) := by
  intro cs here
  have hp : Path.parse "$.a" = .ok [.field (some "a")] := rfl
  have hend : ∀ c, "$.a".toList.getLast? = some c → isBlank c = false := by
    rintro c hc
    obtain rfl : 'a' = c := Option.some.inj hc
    decide
  have hread : readIndexer (readChain 30) ']' false (cs ++ [']']) = .ok (here, [']']) := rfl
  obtain ⟨hcut, hclosed⟩ := Path.parse_cut_off hp hend hread
  exact ⟨hp, hend, hread, hcut, hclosed⟩

end JsonQuery
