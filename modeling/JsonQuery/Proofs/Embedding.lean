import JsonQuery.Proofs.Composition
import JsonQuery.Proofs.Continuation
import JsonQuery.Proofs.Nesting
import JsonQuery.Proofs.Segments
import JsonQuery.Regex.Builtin.Matching

/-!
# Paths as conditions

The text of a path is read in a condition as it is read alone: what ends the path is the parenthesis
behind it instead of the end of the text. Only operators end a path in a condition and are part of a
name outside of one, so the names of the path must be free of them. As a condition the path keeps
the nodes in which it finds something.
-/

namespace JsonQuery

open Text

/-! ## Reading -/

/-- The characters that the operators of conditions begin with. -/
def startsOperator (c : Char) : Bool :=
  c == '=' || c == '<' || c == '!' || c == '>' || c == '|' || c == '&'

theorem isNameChar_inQuery (c : Char) :
    isNameChar true c = (isNameChar false c && !startsOperator c) := by
  have hends : endsPath true c = (endsPath false c || startsOperator c) := by
    simp [endsPath, startsOperator]
  simp only [isNameChar, hends, Bool.not_or, Bool.and_assoc]

section

variable [Regex.Engine]

/-- A text of segments with no operator outside of the indexers. -/
def FreeOfOperators (t : List Char) : Prop :=
  ∃ segments, Segmented segments ∧ t = segments.flatMap Segment.text ∧
    ∀ s ∈ segments, s.IsName → ∀ c ∈ s.body, startsOperator c = false

/-- In front of a character that ends a path in conditions. -/
theorem ReadsPath.inQuery {t : List Char} {path : Path} (h : ReadsPath false .start t path [])
    (hfree : FreeOfOperators t) {c : Char} (hc : endsPath true c = true) (rest : List Char) :
    ReadsPath true .start (t ++ c :: rest) path (c :: rest) := by
  obtain ⟨segments, hs, rfl, hnames⟩ := hfree
  have halone : ReadsPath false .start (segments.flatMap Segment.text)
      (segments.flatMap Segment.path) [] := readsPath_iff_segments.2 ⟨segments, hs, rfl, rfl⟩
  obtain rfl : path = segments.flatMap Segment.path := by
    have hpath := h.readPath (Nat.le_refl _)
    rw [halone.readPath (Nat.le_refl _)] at hpath
    cases hpath
    rfl
  have hquery : ∀ s ∈ segments, s.IsName → ∀ d ∈ s.body, isNameChar true d = true := by
    intro s hmem hname d hd
    rw [isNameChar_inQuery, hname.2.1 d hd, hnames s hmem hname d hd]
    rfl
  have hends : Ends (isNameChar true) (c :: rest) :=
    ends_cons.2 (by simp [isNameChar, hc])
  refine hs.reads hquery hends fun j hj => ?_
  exact .stop hc (by rw [hj]; rfl)

theorem testText_path {t : List Char} {path : Path} (h : ReadsPath false .start t path [])
    (hfree : FreeOfOperators t) : TestText ('@' :: t) (.test .present (.path path) none) := by
  intro c rest hc
  have hend : endsPath true c = true ∧ isBlank c = false := by
    rcases hc with rfl | rfl | rfl <;> decide
  have hpath := h.inQuery hfree hend.1 rest
  have hoperand : ReadsOperand ('@' :: (t ++ c :: rest)) (.path path) (c :: rest) :=
    .candidate Gap.nil hpath Gap.nil hend.2
  exact ⟨_, (ReadsTest.present hoperand hc).readTest (Nat.le_refl _)⟩

/-! ## Selection -/

/-- The path finds something in a value, taken as a document of its own. -/
def Path.Finds (path : Path) (value : Json) : Prop :=
  ∃ nodes, path.selectAll false value = .ok nodes ∧ nodes ≠ []

theorem Operand.isPresent_path_iff {path : Path} {document candidate : Json} :
    (Operand.path path).isPresent document candidate = true ↔
      ∃ nodes, Path.selectFrom false document path [Node.root candidate] = .ok nodes ∧
        nodes ≠ [] := by
  rw [isPresent]
  cases Path.selectFrom false document path [Node.root candidate] with
  | error e => simp
  | ok nodes => simp

theorem Path.RootFree.isPresent_iff {path : Path} (h : Path.RootFree path)
    {document candidate : Json} :
    (Operand.path path).isPresent document candidate = true ↔ path.Finds candidate := by
  rw [Operand.isPresent_path_iff, h.selectFrom_eq false [Node.root candidate]]
  exact Iff.rfl

instance (path : Path) (value : Json) : Decidable (path.Finds value) :=
  decidable_of_iff _ Operand.isPresent_path_iff

theorem Path.RootFree.select_present {path : Path} (h : Path.RootFree path) (strict : Bool)
    (document : Json) :
    Path.selectAll [.filter (.test .present (.path path) none)] strict document =
      .ok ((Node.root document).children.filter fun child => path.Finds child.value) := by
  have hholds : ∀ candidate, (Condition.test .present (.path path) none).holds document candidate =
      decide (path.Finds candidate) := by
    intro candidate
    rw [Condition.holds, Bool.eq_iff_iff, decide_eq_true_iff]
    exact h.isPresent_iff
  simp only [Path.selectAll, Path.selectFrom, Selector.select, hholds, List.flatMap_singleton]

/-- A text that begins and ends as a path behind another one has neither blanks nor a marker of the
document to take off. -/
theorem readsPath_of_parse {p : String} {path : Path} (hp : Path.parse p = .ok path)
    (hfront : p.toList = [] ∨ p.toList.head? = some '.' ∨ p.toList.head? = some '[')
    (hback : ∀ c, p.toList.getLast? = some c → isBlank c = false) :
    ReadsPath false .start p.toList path [] := by
  have hread := parse_eq_ok_iff.1 hp
  rcases hfront with hnil | hfront
  · rw [hnil] at hread ⊢
    exact hread
  · have htrim := trimBlanks_gaps Gap.nil Gap.nil ⟨not_blank_of_continues hfront, hback⟩
    rw [List.nil_append, List.append_nil] at htrim
    have hmarker : p.toList.head? ≠ some '$' := by
      rcases hfront with h | h <;> simp [h]
    rwa [htrim, withoutRoot_other hmarker] at hread

/-- A path text is also the text of a condition, with the same selectors as its operand. When no
condition in them goes back to the document, it keeps the children in which the path finds
something, in their order. -/
theorem Path.parse_as_condition {p : String} {path : Path} (hp : Path.parse p = .ok path)
    (hfront : p.toList = [] ∨ p.toList.head? = some '.' ∨ p.toList.head? = some '[')
    (hback : ∀ c, p.toList.getLast? = some c → isBlank c = false)
    (hfree : FreeOfOperators p.toList) :
    Path.parse ("[?(@" ++ p ++ ")]") = .ok [.filter (.test .present (.path path) none)] ∧
    (Path.RootFree path → ∀ strict document,
      Path.selectAll [.filter (.test .present (.path path) none)] strict document =
        .ok ((Node.root document).children.filter fun child => path.Finds child.value)) := by
  have hread := readsPath_of_parse hp hfront hback
  have hchain : ChainText [] (.test .present (.path path) none) ('@' :: p.toList) :=
    .last (testText_path hread hfree)
  have htext : "[?(@" ++ p ++ ")]" =
      String.ofList ("[?(".toList ++ '@' :: p.toList ++ ")]".toList) :=
    String.toList_inj.1 (by simp)
  refine ⟨?_, fun hfree strict document => hfree.select_present strict document⟩
  rw [htext]
  exact hchain.parse

end

open scoped Regex.Builtin

/-- A path with a condition of its own, the operator of which stands inside the brackets. -/
theorem Path.parse_as_condition_nested :
    let hasKey : Condition := .test .equals (.path [.field (some "k")]) (some (.literal (.str "x")))
    let path : Path := [.field (some "rows"), .filter hasKey]
    let rows (key : String) : Json := .obj [("rows", .arr [.obj [("k", .str key)]])]
    Path.parse ".rows[?(@.k=='x')]" = .ok path ∧ FreeOfOperators ".rows[?(@.k=='x')]".toList ∧
      Path.RootFree path ∧
      Path.parse "[?(@.rows[?(@.k=='x')])]" = .ok [.filter (.test .present (.path path) none)] ∧
      Path.selectAll [.filter (.test .present (.path path) none)] true
        (.arr [rows "x", .null, rows "y", rows "x"]) =
          .ok [⟨[.position 0], rows "x"⟩, ⟨[.position 3], rows "x"⟩] := by
  intro hasKey path rows
  have hparse : Path.parse ".rows[?(@.k=='x')]" = .ok path := by rfl
  have hfree : FreeOfOperators ".rows[?(@.k=='x')]".toList := by
    let name : Segment := ⟨1, "rows".toList, .field (some "rows")⟩
    let indexer : Segment := ⟨0, "[?(@.k=='x')]".toList, .filter hasKey⟩
    have hname : name.IsName := ⟨by decide, List.all_eq_true.1 rfl, rfl⟩
    have hindexer : indexer.IsIndexer := ⟨'[', "?(@.k=='x')".toList, 20, .inl rfl, rfl, rfl⟩
    refine ⟨[name, indexer], segmented_cons.2 ⟨.inl hname, ?_⟩, rfl, ?_⟩
    · exact continued_cons.2 ⟨.inr hindexer, fun h => absurd h hindexer.not_isName, continued_nil⟩
    · simp only [List.forall_mem_cons]
      refine ⟨fun _ c hc => ?_, fun h => absurd h hindexer.not_isName, nofun⟩
      have hplain : "rows".toList.all (fun c => !startsOperator c) = true := rfl
      simpa using List.all_eq_true.1 hplain c hc
  have hback : ∀ c, ".rows[?(@.k=='x')]".toList.getLast? = some c → isBlank c = false := by
    rintro c hc
    obtain rfl : ']' = c := Option.some.inj hc
    decide
  have hroot : Path.RootFree path := ⟨trivial, ⟨⟨trivial, trivial⟩, trivial⟩, trivial⟩
  obtain ⟨htext, hselect⟩ := Path.parse_as_condition hparse (.inr (.inl rfl)) hback hfree
  refine ⟨hparse, hfree, hroot, htext, ?_⟩
  rw [hselect hroot true (.arr [rows "x", .null, rows "y", rows "x"])]
  rfl

end JsonQuery
