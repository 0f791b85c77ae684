import JsonQuery.Proofs.Continuation
import JsonQuery.Proofs.Missing
import JsonQuery.Proofs.Traversal
import JsonQuery.Proofs.Writing.RoundTrip
import JsonQuery.Regex.Builtin.Matching

/-!
# Positions below a scan

An array indexer behind two dots asks every node of a subtree for elements. Going from first element
to first element ends, in every subtree, at a node without any, so strict selection fails with it,
whatever the document is. Only where nothing is scanned is nothing missed.
-/

namespace JsonQuery

open Text

/-! ## Nodes without elements -/

/-- An array without elements, or no array. -/
def Json.Barren (v : Json) : Prop := ∀ items, v = .arr items → items = []

theorem Json.Barren.not_hasElement {v : Json} (h : v.Barren) (position : Int) :
    ¬ v.HasElement position := by
  cases v with
  | arr items =>
    obtain rfl : items = [] := h items rfl
    rintro ⟨hfront, hback⟩
    exact absurd hback (Int.not_lt.2 hfront)
  | null | bool | num | str | obj => exact id

theorem Json.Barren.not_hasSlice {v : Json} (h : v.Barren) (start stop : Option Int) (step : Int) :
    ¬ v.HasSlice start stop step := by
  cases v with
  | arr items =>
    obtain rfl : items = [] := h items rfl
    exact fun hslice => hslice rfl
  | null | bool | num | str | obj => exact id

/-- Going down into the first element ends at a node without elements. -/
theorem Node.exists_barren (n : Node) : ∃ m ∈ n.subtree, m.value.Barren := by
  induction n using induction_children with
  | step n ih =>
    by_cases hvalue : ∃ v vs, n.value = .arr (v :: vs)
    · obtain ⟨v, vs, hvalue⟩ := hvalue
      have hchild : n.child (.position 0) v ∈ n.children := by
        rw [children_arr hvalue]
        exact List.mem_cons_self
      obtain ⟨m, hm, hbarren⟩ := ih _ hchild
      refine ⟨m, ?_, hbarren⟩
      rw [subtree_eq]
      exact List.mem_cons_of_mem _ (List.mem_flatMap.2 ⟨_, hchild, hm⟩)
    · refine ⟨n, ?_, ?_⟩
      · rw [subtree_eq]
        exact List.mem_cons_self
      · intro items hitems
        cases items with
        | nil => rfl
        | cons v vs => exact absurd ⟨v, vs, hitems⟩ hvalue

theorem exists_cons_of_bracket {t : List Char} (h : t.head? = some '[' ∨ t.head? = some '(') :
    ∃ c cs, t = c :: cs ∧ (c = '[' ∨ c = '(') := by
  obtain h | h := h
  · obtain ⟨cs, rfl⟩ := List.head?_eq_some_iff.1 h
    exact ⟨'[', cs, rfl, .inl rfl⟩
  · obtain ⟨cs, rfl⟩ := List.head?_eq_some_iff.1 h
    exact ⟨'(', cs, rfl, .inr rfl⟩

/-! ## Selectors by position -/

section

variable [Regex.Engine]

/-- The selectors of elements at positions of their own: one, several, or those of a slice. -/
inductive Selector.ByPosition : Selector → Prop
  | index (position : Int) : Selector.ByPosition (.index (some position))
  | indexes {positions : List Int} : positions ≠ [] → Selector.ByPosition (.indexes positions)
  | slice (start stop step : Option Int) : Selector.ByPosition (.slice start stop step)

section

variable {selector : Selector} {document : Json}

theorem Selector.ByPosition.misses (h : selector.ByPosition) {v : Json} (hv : v.Barren) :
    selector.Misses v := by
  cases h with
  | index position => exact hv.not_hasElement position
  | indexes hne =>
    obtain ⟨position, hmem⟩ := List.exists_mem_of_ne_nil _ hne
    exact ⟨position, hmem, hv.not_hasElement position⟩
  | slice start stop step => exact hv.not_hasSlice start stop _

theorem Selector.select_fails_of_misses {input : List Node} {n : Node} (hn : n ∈ input)
    (h : selector.Misses n.value) : ∃ e, selector.select true document input = .error e := by
  by_cases hzero : ∃ start stop, selector = .slice start stop (some 0)
  · obtain ⟨start, stop, rfl⟩ := hzero
    exact ⟨.zeroStep, rfl⟩
  · have hstep : ∀ start stop, selector ≠ .slice start stop (some 0) :=
      fun start stop he => hzero ⟨start, stop, he⟩
    exact (select_fails_iff hstep).2 ⟨n, hn, h⟩

/-- Without a node nothing is missed. -/
theorem Selector.select_nil_fails_iff : (∃ e, selector.select true document [] = .error e) ↔
    ∃ start stop, selector = .slice start stop (some 0) := by
  constructor
  · rintro ⟨e, he⟩
    by_contra hzero
    have hstep : ∀ start stop, selector ≠ .slice start stop (some 0) := by simpa using hzero
    obtain ⟨n, hn, -⟩ := (select_fails_iff hstep).1 ⟨e, he⟩
    cases hn
  · rintro ⟨start, stop, rfl⟩
    exact ⟨.zeroStep, rfl⟩

/-- What a scan for everything selects has a node that lacks every position. -/
theorem Selector.ByPosition.select_subtrees_fails (h : selector.ByPosition) {nodes : List Node}
    (hnodes : nodes ≠ []) :
    ∃ e, selector.select true document (nodes.flatMap Node.subtree) = .error e := by
  obtain ⟨n, hn⟩ := List.exists_mem_of_ne_nil _ hnodes
  obtain ⟨m, hm, hbarren⟩ := n.exists_barren
  exact select_fails_of_misses (List.mem_flatMap.2 ⟨n, hn, hm⟩) (h.misses hbarren)

theorem Path.selectFrom_scanned (strict : Bool) (selector : Selector) (nodes : List Node) :
    Path.selectFrom strict document [.scan none, selector] nodes =
      selector.select strict document (nodes.flatMap Node.subtree) := by
  rw [Path.selectFrom_cons, Node.select_scan_none]
  exact Path.selectFrom_singleton strict document selector _

theorem Selector.ByPosition.selectFrom_scanned_fails_iff (h : selector.ByPosition) (front : Path)
    (start : List Node) :
    (∃ e, Path.selectFrom true document (front ++ [.scan none, selector]) start = .error e) ↔
      Path.selectFrom true document front start ≠ .ok [] ∨
        ∃ first stop, selector = .slice first stop (some 0) := by
  rw [Path.selectFrom_append]
  cases hfront : Path.selectFrom true document front start with
  | error e => exact iff_of_true ⟨e, rfl⟩ (.inl nofun)
  | ok nodes =>
    have hrun : (Except.ok nodes >>= Path.selectFrom true document [.scan none, selector]) =
        selector.select true document (nodes.flatMap Node.subtree) :=
      Path.selectFrom_scanned true selector nodes
    rw [hrun]
    by_cases hnodes : nodes = []
    · subst hnodes
      rw [or_iff_right (not_not.2 rfl)]
      exact select_nil_fails_iff
    · refine iff_of_true (h.select_subtrees_fails hnodes) (.inl fun hok => hnodes ?_)
      exact Except.ok.inj hok

end

/-! ## Texts with a scanned indexer -/

section

variable {selector : Selector}

/-- What is read from brackets as a selector by position is read behind two dots with a scan for
everything in front of it. -/
theorem ReadsIndexer.scanned {close : Char} {cs rest : List Char} {here : Path}
    (h : ReadsIndexer close false cs here rest) (hhere : here = [selector])
    (hselector : selector.ByPosition) :
    ReadsIndexer close true cs [.scan none, selector] rest := by
  cases h with
  | @names _ _ _ _ _ names =>
    obtain rfl := List.singleton_inj.1 hhere
    match names, hselector with
    | [], hnone => cases hnone
    | [_], hone => cases hone
    | _ :: _ :: _, hmore => cases hmore
  | array hg hb hq hf hread =>
    obtain rfl := List.singleton_inj.1 hhere
    exact .array hg hb hq hf hread
  | filter =>
    obtain rfl := List.singleton_inj.1 hhere
    cases hselector

theorem ReadsIndexer.ne_nil {close : Char} {scan : Bool} {cs rest : List Char} {here : Path}
    (h : ReadsIndexer close scan cs here rest) : here ≠ [] := by
  cases h with
  | names | filter => exact List.cons_ne_nil _ _
  | array => cases scan <;> exact List.cons_ne_nil _ _

theorem ReadsPath.scanned {c : Char} {cs rest : List Char} {path : Path}
    (h : ReadsPath false .start (c :: cs) path rest) (hc : c = '[' ∨ c = '(')
    (hpath : path = [selector]) (hselector : selector.ByPosition) :
    ReadsPath false .start ('.' :: '.' :: c :: cs) [.scan none, selector] rest := by
  refine .dot (.dot ?_)
  cases h with
  | stop hend => exact absurd hc (not_bracket_of_endsPath hend)
  | dot => simp at hc
  | name _ hname =>
    obtain ⟨hsquare, hround, -, -⟩ := isNameChar_iff.1 hname
    exact absurd hc (not_or.2 ⟨hsquare, hround⟩)
  | indexer _ hi hrest =>
    obtain ⟨hnil, -⟩ | ⟨hhere, rfl⟩ := List.append_eq_singleton_iff.1 hpath
    · exact absurd hnil hi.ne_nil
    · exact ReadsPath.indexer (j := .dots) hc (hi.scanned hhere hselector) hrest

/-- Two dots in front of an indexer put a scan for everything in front of its selector. -/
theorem Path.parse_scanned {text indexer : String} {front : Path}
    (hfront : Path.parse text = .ok front)
    (hend : ∀ c, text.toList.getLast? = some c → isBlank c = false)
    (hindexer : Path.parse indexer = .ok [selector])
    (hbracket : indexer.toList.head? = some '[' ∨ indexer.toList.head? = some '(')
    (hselector : selector.ByPosition) :
    Path.parse (text ++ ".." ++ indexer) = .ok (front ++ [.scan none, selector]) := by
  have hblank : ∀ c, indexer.toList.head? = some c → isBlank c = false := by
    intro c hc
    rw [hc, Option.some.injEq, Option.some.injEq] at hbracket
    rcases hbracket with rfl | rfl <;> decide
  rw [← head_trimBlanks hblank] at hbracket
  obtain ⟨c, cs, htrim, hc⟩ := exists_cons_of_bracket hbracket
  have hother : (c :: cs).head? ≠ some '$' := by
    rcases hc with rfl | rfl <;> simp
  have hread : ReadsPath false .start (c :: cs) [selector] [] := by
    rw [parse_eq_ok_iff, htrim, withoutRoot_other hother] at hindexer
    exact hindexer
  have hscanned : parseChars ('.' :: '.' :: c :: cs) = .ok [.scan none, selector] :=
    parseChars_eq_ok_iff.2 ⟨[], Gap.nil, hread.scanned hc rfl hselector⟩
  have hdots : Trimmed ['.', '.'] := trimmed_between (by decide) (by decide) []
  have htext : (".." ++ indexer).toList = ['.', '.'] ++ indexer.toList := String.toList_append
  have hcont : Continues (".." ++ indexer).toList := .inl (by rw [htext]; rfl)
  rw [String.append_assoc, parse_behind hfront hend hcont, htext, hdots.trimBlanks_append hblank,
    htrim]
  exact congrArg (Except.map _) hscanned

end

/-- Strict selection fails with a selector by position behind a scan for everything, whatever stands
in front of the two and wherever it starts, unless that part succeeds and selects nothing; then it
fails only for a step of zero. The two are what an indexer with such a selector is read as behind
two dots. -/
theorem Path.scanned_positions_fail {selector : Selector} (hselector : selector.ByPosition)
    (front : Path) :
    (∀ document start,
      (∃ e, Path.selectFrom true document (front ++ [.scan none, selector]) start = .error e) ↔
        Path.selectFrom true document front start ≠ .ok [] ∨
          ∃ first stop, selector = .slice first stop (some 0)) ∧
    ∀ text indexer : String, Path.parse text = .ok front →
      (∀ c, text.toList.getLast? = some c → isBlank c = false) →
      Path.parse indexer = .ok [selector] →
      indexer.toList.head? = some '[' ∨ indexer.toList.head? = some '(' →
      Path.parse (text ++ ".." ++ indexer) = .ok (front ++ [.scan none, selector]) := by
  constructor
  · intro document start
    exact hselector.selectFrom_scanned_fails_iff front start
  · intro text indexer hfront hend hindexer hbracket
    exact Path.parse_scanned hfront hend hindexer hbracket hselector

end

open scoped Regex.Builtin

/-- Arrays whose first elements are there, and nodes below them without any. -/
theorem Path.scanned_positions_fail_nested :
    let document : Json := .obj [("a", .arr [.arr [.bool true], .arr [.null]])]
    let path : Path := [.field (some "a"), .scan none, .index (some 0)]
    let found : List Location := [[.key "a", .position 0],
      [.key "a", .position 0, .position 0], [.key "a", .position 1, .position 0]]
    Path.parse "$.a..[ 0 ]" = .ok path ∧
      (path.selectAll false document).map (List.map Node.location) = .ok found ∧
      Path.selectAll [.field (some "a")] true document ≠ .ok [] ∧
      ∃ e, path.selectAll true document = .error e := by
  intro document path found
  have hselector : Selector.ByPosition (.index (some 0)) := .index 0
  obtain ⟨hstrict, htext⟩ := Path.scanned_positions_fail hselector [.field (some "a")]
  have hend : ∀ c, "$.a".toList.getLast? = some c → isBlank c = false := by
    rintro c hc
    obtain rfl : 'a' = c := Option.some.inj hc
    decide
  have hfront : Path.selectAll [.field (some "a")] true document ≠ .ok [] := nofun
  refine ⟨htext "$.a" "[ 0 ]" rfl hend rfl (.inl rfl), rfl, hfront, ?_⟩
  exact (hstrict document [Node.root document]).2 (.inl hfront)

end JsonQuery
