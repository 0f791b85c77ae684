import JsonQuery.Proofs.Continuation
import JsonQuery.Proofs.Writing.RoundTrip
import JsonQuery.Regex.Builtin.Matching

/-!
# Names behind dots and in brackets

A name behind a dot ends where brackets or another dot begin, and one in quotes behind its quote and
bracket. From there on both are read alike, since only a name without a dot would tell the one place
from the other. So a name that needs no quotes can be written either way, whatever follows it.
-/

namespace JsonQuery

open Text

/-- A name that can stand without quotes and is not the one that means any name. -/
structure BareName (name : String) : Prop where
  ne_empty : name ≠ ""
  ne_star : name ≠ "*"
  chars : ∀ c ∈ name.toList, c ∉ ['.', '[', '(', ']', ')'] ∧ isBlank c = false

instance (name : String) : Decidable (BareName name) :=
  decidable_of_iff
    (name ≠ "" ∧ name ≠ "*" ∧ name.toList.all fun c =>
      c ∉ ['.', '[', '(', ']', ')'] ∧ isBlank c = false) <| by
    simp only [List.all_eq_true, decide_eq_true_eq]
    exact ⟨fun ⟨hempty, hstar, hchars⟩ => ⟨hempty, hstar, hchars⟩,
      fun ⟨hempty, hstar, hchars⟩ => ⟨hempty, hstar, hchars⟩⟩

theorem BareName.isNameChar {name : String} (h : BareName name) :
    ∀ c ∈ name.toList, isNameChar false c = true := by
  intro c hc
  obtain ⟨hmem, hblank⟩ := h.chars c hc
  simp only [List.mem_cons, List.not_mem_nil, or_false, not_or] at hmem
  obtain ⟨hdot, hsquare, hround, hsquare', hround'⟩ := hmem
  refine isNameChar_iff.2 ⟨hsquare, hround, hdot, ?_⟩
  simp [endsPath, hsquare', hround', hblank]

theorem BareName.exists_cons {name : String} (h : BareName name) :
    ∃ c word, name.toList = c :: word ∧ JsonQuery.isNameChar false c = true ∧
      ∀ d ∈ word, JsonQuery.isNameChar false d = true := by
  have hne : name.toList ≠ [] := mt String.toList_eq_nil_iff.1 h.ne_empty
  obtain ⟨c, word, hcons⟩ := List.exists_cons_of_ne_nil hne
  have hall := h.isNameChar
  rw [hcons, List.forall_mem_cons] at hall
  exact ⟨c, word, hcons, hall⟩

theorem BareName.trimmed {name : String} (h : BareName name) : Trimmed name.toList :=
  ⟨fun c hc => (h.chars c (List.mem_of_mem_head? hc)).2,
    fun c hc => (h.chars c (List.mem_of_mem_getLast? hc)).2⟩

/-- A name in quotes and brackets. -/
def bracketed (name : String) : String := "['" ++ String.ofList (escape name.toList) ++ "']"

theorem toList_bracketed (name : String) :
    (bracketed name).toList = '[' :: (quoted name ++ [']']) := by
  simp [bracketed, quoted]

theorem trimmed_bracketed (name : String) : Trimmed (bracketed name).toList := by
  rw [toList_bracketed]
  exact trimmed_between (by decide) (by decide) _

/-! ## Reading -/

section

variable [Regex.Engine]

theorem BareName.member_eq {name : String} (h : BareName name) (scan : Bool) :
    Selector.member scan name = Selector.members scan [name] := by
  rw [Selector.member, if_neg h.ne_star]
  cases scan <;> rfl

section

variable {name : String} {t : List Char}

theorem BareName.readPath (h : BareName name) (ht : Follows t) {j : Junction}
    (hj : j ≠ .indexer) (a : Nat) :
    readPath (a + 1) false j (name.toList ++ t) =
      (readPath a false .indexer t).map fun (more, rest) =>
        (.members j.scans [name] :: more, rest) := by
  obtain ⟨c, word, hcons, hc, hword⟩ := h.exists_cons
  have hname : Junction.name.isDot = false := rfl
  have hindexer : Junction.indexer.isDot = false := rfl
  rw [hcons, List.cons_append, readPath_name hj hc hword (ht.ends false), ← hcons,
    String.ofList_toList, h.member_eq, ht.readPath_eq hname hindexer]

/-- In brackets a name in quotes is read in any place. -/
theorem readPath_quoted (name : String) (t : List Char) (j : Junction) (a : Nat) :
    readPath (a + 1) false j ('[' :: (quoted name ++ ']' :: t)) =
      (readPath a false .indexer t).map fun (more, rest) =>
        (.members j.scans [name] :: more, rest) := by
  have hnames : NamesText [name] (quoted name) := by
    have hone := NamesText.one (quotedText_escape name.toList) Gap.nil
    rwa [String.ofList_toList] at hone
  have hread : readIndexer (readChain a) ']' j.scans (quoted name ++ ']' :: t) =
      .ok ([.members j.scans [name]], ']' :: t) := by
    have hlist := hnames.readNames (isCloser_closing '[') t
    rw [quoted, List.cons_append] at hlist ⊢
    rw [← List.nil_append ('\'' :: _), readIndexer_names Gap.nil]
    exact congrArg (fun r => (orFault r).map _) hlist
  rw [readPath_bracket (.inl rfl)]
  change (readIndexer (readChain a) ']' j.scans (quoted name ++ ']' :: t) >>= _) = _
  rw [hread]
  rfl

/-- Texts that are read alike with every allowance that is large enough are the same path. -/
theorem parseChars_congr {cs cs' : List Char} {n : Nat}
    (h : ∀ a, n ≤ a → readPath a false .start cs = readPath a false .start cs') :
    parseChars cs = parseChars cs' := by
  have hallow : n ≤ n + cs.length + cs'.length := by omega
  have hcs : cs.length ≤ n + cs.length + cs'.length := by omega
  have hcs' : cs'.length ≤ n + cs.length + cs'.length := by omega
  rw [parseChars_eq, parseChars_eq, (readPath_settles false .start cs).eq (Nat.le_refl _) hcs,
    h _ hallow, (readPath_settles false .start cs').eq hcs' (Nat.le_refl _)]

theorem BareName.parseChars_dot (h : BareName name) (ht : Follows t) :
    parseChars ('.' :: (name.toList ++ t)) = parseChars ('[' :: (quoted name ++ ']' :: t)) := by
  refine parseChars_congr (n := t.length + 2) fun a ha => ?_
  obtain ⟨a, rfl⟩ := Nat.exists_eq_add_of_le' (show 2 ≤ a by omega)
  -- the dot takes one step more than the bracket
  have hsteps := (readPath_settles false .indexer t).eq
    (show t.length ≤ a by omega) (show t.length ≤ a + 1 by omega)
  rw [readPath_dot, h.readPath ht (by decide), readPath_quoted, hsteps]
  rfl

theorem BareName.parseChars_dots (h : BareName name) (ht : Follows t) :
    parseChars ('.' :: '.' :: (name.toList ++ t)) =
      parseChars ('.' :: '.' :: '[' :: (quoted name ++ ']' :: t)) := by
  refine parseChars_congr (n := 3) fun a ha => ?_
  obtain ⟨a, rfl⟩ := Nat.exists_eq_add_of_le' ha
  rw [readPath_dot, readPath_dot, readPath_dot, readPath_dot, h.readPath ht (by decide),
    readPath_quoted]

end

/-! ## Texts -/

/-- What stands behind a path text is read alone, with the blanks behind it taken off. -/
theorem Path.parse_behind_eq {p u u' q : String} {path : Path} (hp : Path.parse p = .ok path)
    (hend : ∀ c, p.toList.getLast? = some c → isBlank c = false) (hq : Follows q.toList)
    (hu : Continues u.toList ∧ Trimmed u.toList) (hu' : Continues u'.toList ∧ Trimmed u'.toList)
    (h : ∀ t, Follows t → parseChars (u.toList ++ t) = parseChars (u'.toList ++ t)) :
    Path.parse (p ++ u ++ q) = Path.parse (p ++ u' ++ q) := by
  have hbehind : ∀ v : String, Continues v.toList ∧ Trimmed v.toList →
      Path.parse (p ++ v ++ q) =
        (parseChars (v.toList ++ trimBlanks q.toList)).map fun more => path ++ more := by
    rintro v ⟨hcont, htrim⟩
    have hcont' : Continues (v ++ q).toList := by
      obtain ⟨c, rest, hcons, hc⟩ := hcont.exists_cons
      rw [String.toList_append, hcons]
      exact hc.imp (congrArg some) (congrArg some)
    rw [String.append_assoc, parse_behind hp hend hcont', String.toList_append,
      htrim.trimBlanks_append hq.not_blank]
  have hfollows : Follows (trimBlanks q.toList) := by
    intro c hc
    rw [head_trimBlanks hq.not_blank] at hc
    exact hq c hc
  rw [hbehind u hu, hbehind u' hu', h _ hfollows]

/-- **A name behind a dot is the name in quotes and brackets.** Behind every path text, and in front
of whatever may follow a selector, the two texts of a name are the same path or have the same fault,
and so are they behind two dots. -/
theorem Path.parse_dotted_name {p q name : String} {path : Path} (hp : Path.parse p = .ok path)
    (hend : ∀ c, p.toList.getLast? = some c → isBlank c = false) (hname : BareName name)
    (hq : Follows q.toList) :
    Path.parse (p ++ "." ++ name ++ q) = Path.parse (p ++ bracketed name ++ q) ∧
      Path.parse (p ++ ".." ++ name ++ q) = Path.parse (p ++ ".." ++ bracketed name ++ q) := by
  have hdot : Trimmed ['.'] := trimmed_singleton (by decide)
  have hdots : Trimmed ['.', '.'] := hdot.append hdot
  constructor
  · rw [show p ++ "." ++ name = p ++ ("." ++ name) from String.append_assoc]
    refine parse_behind_eq hp hend hq ⟨.inl ?_, ?_⟩ ⟨.inr ?_, trimmed_bracketed name⟩ ?_
    · simp
    · rw [String.toList_append]
      exact hdot.append hname.trimmed
    · rw [toList_bracketed]
      rfl
    · intro t ht
      rw [String.toList_append, toList_bracketed]
      simpa using hname.parseChars_dot ht
  · rw [show p ++ ".." ++ name = p ++ (".." ++ name) from String.append_assoc,
      show p ++ ".." ++ bracketed name = p ++ (".." ++ bracketed name) from String.append_assoc]
    refine parse_behind_eq hp hend hq ⟨.inl ?_, ?_⟩ ⟨.inl ?_, ?_⟩ ?_
    · simp
    · rw [String.toList_append]
      exact hdots.append hname.trimmed
    · simp
    · rw [String.toList_append]
      exact hdots.append (trimmed_bracketed name)
    · intro t ht
      rw [String.toList_append, String.toList_append, toList_bracketed]
      simpa using hname.parseChars_dots ht

end

open scoped Regex.Builtin

/-- A name with a quote, a backslash and an operator, in front of a position and of a fault. -/
theorem Path.parse_dotted_name_operator :
    let name : String := "$it's\\@<="
    let path : Path := [.field (some "a"), .field (some name), .index (some 0)]
    Path.parse "$.a" = .ok [.field (some "a")] ∧ BareName name ∧
      Follows "(0) ".toList ∧ Follows "[0".toList ∧
      Path.parse "$.a.$it's\\@<=(0) " = .ok path ∧
      Path.parse "$.a['$it\\'s\\\\@<='](0) " = .ok path ∧
      Path.parse "$.a..$it's\\@<=[0" = .error .openIndexer ∧
      Path.parse "$.a..['$it\\'s\\\\@<='][0" = .error .openIndexer := by
  intro name path
  have hp : Path.parse "$.a" = .ok [.field (some "a")] := rfl
  have hend : ∀ c, "$.a".toList.getLast? = some c → isBlank c = false := by
    rintro c hc
    obtain rfl : 'a' = c := Option.some.inj hc
    decide
  have hname : BareName name := by decide
  have hround : Follows "(0) ".toList := by
    rintro c hc
    exact .inr (.inr (Option.some.inj hc).symm)
  have hsquare : Follows "[0".toList := by
    rintro c hc
    exact .inr (.inl (Option.some.inj hc).symm)
  have hok : Path.parse "$.a.$it's\\@<=(0) " = .ok path := rfl
  have hfault : Path.parse "$.a..$it's\\@<=[0" = .error .openIndexer := rfl
  have hdotted : "$.a" ++ "." ++ name ++ "(0) " = "$.a.$it's\\@<=(0) " := by decide
  have hquoted : "$.a" ++ bracketed name ++ "(0) " = "$.a['$it\\'s\\\\@<='](0) " := by decide
  have hdotted' : "$.a" ++ ".." ++ name ++ "[0" = "$.a..$it's\\@<=[0" := by decide
  have hquoted' : "$.a" ++ ".." ++ bracketed name ++ "[0" = "$.a..['$it\\'s\\\\@<='][0" := by
    decide
  have hsame := (Path.parse_dotted_name hp hend hname hround).1
  have hsame' := (Path.parse_dotted_name hp hend hname hsquare).2
  rw [hdotted, hquoted] at hsame
  rw [hdotted', hquoted'] at hsame'
  exact ⟨hp, hname, hround, hsquare, hok, hsame.symm.trans hok, hfault, hsame'.symm.trans hfault⟩

end JsonQuery
