import JsonQuery.Proofs.Grammar.Step
import JsonQuery.Proofs.OnePass.Gathered
import JsonQuery.Proofs.Progress.Loop

/-!
# The turns of the loops

Array indexers are read by a loop (`Gathered.turn`), and so are names, conditions and paths. A turn
takes a name in quotes, a test with the connective behind it, or one part of a path: an indexer, one
or two dots, or a character of a name. Every turn that does not end its loop consumes characters.
-/

namespace JsonQuery

open Text

/-! ## Names -/

/-- One name, and the comma or the bracket behind it. -/
def namesTurn (close : Char) (names : List String) (cs : List Char) :
    Except PathError (Round (List String) (List String)) := do
  match cs with
  | [] => .error .openIndexer
  | quote :: rest =>
    if quote ≠ '\'' then .error (.unexpectedInIndexer quote)
    else
      let (name, behind) ← readQuoted rest
      match dropBlanks behind with
      | [] => .error .openIndexer
      | c :: rest =>
        if c = close then return .done (names ++ [String.ofList name]) (c :: rest)
        else if c = ',' then return .again (names ++ [String.ofList name]) (dropBlanks rest)
        else .error (.unexpectedInIndexer c)

theorem namesTurn_properSuffix {close : Char} {names : List String} {cs : List Char}
    {round : Round (List String) (List String)} (h : namesTurn close names cs = .ok round) :
    ProperSuffix round.rest cs := by
  unfold namesTurn at h
  split at h
  · cases h
  next quote text =>
  split at h
  · cases h
  obtain ⟨⟨name, behind⟩, hname, h'⟩ := bind_eq_ok.1 h
  have hbehind := (readQuoted_progresses hname).trans_suffix (List.suffix_cons quote text)
  have hblanks := dropBlanks_suffix behind
  dsimp only at h'
  split at h'
  · cases h'
  next c rest hd =>
    rw [hd] at hblanks
    split at h'
    · cases h'
      exact hbehind.of_suffix hblanks
    split at h'
    · cases h'
      have hrest := (dropBlanks_suffix rest).trans (List.suffix_cons c rest)
      exact hbehind.of_suffix (hrest.trans hblanks)
    · cases h'

theorem namesTurn_consumes (close : Char) : Consumes (namesTurn close) :=
  fun _ _ _ _ h => namesTurn_properSuffix h

def namesLoop (close : Char) : Loop PathError (List String) (List String) where
  turn := namesTurn close
  consumes := namesTurn_consumes close
  leaves h := (namesTurn_properSuffix h).suffix

variable [Regex.Engine]

/-! ## Array indexers -/

theorem Gathered.turn_properSuffix {close : Char} {s s' : Gathered} {cs rest : List Char}
    (h : s.turn close cs = .ok (.again s' rest)) : ProperSuffix rest cs := by
  obtain ⟨c, tail, rfl, hcase⟩ := turn_eq_again h
  have hblanks := dropBlanks_suffix tail
  obtain ⟨-, rfl⟩ | ⟨i, -, -, rfl⟩ | ⟨slots, -, -, -, -, rfl⟩ | ⟨-, -, rfl⟩ := hcase
  · exact properSuffix_cons hblanks
  · exact properSuffix_cons hblanks
  · exact properSuffix_cons hblanks
  · exact properSuffix_cons (List.suffix_refl rest)

theorem Gathered.turn_done {close : Char} {s : Gathered} {selector : Selector}
    {cs rest : List Char} (h : s.turn close cs = .ok (.done selector rest)) : rest <:+ cs := by
  cases cs with
  | nil => cases h
  | cons c tail =>
    rw [turn] at h
    split at h
    · cases h
    split at h
    · obtain ⟨selector, -, he⟩ := bind_eq_ok.1 h
      cases he
      exact List.suffix_refl _
    split at h
    · obtain ⟨i, -, he⟩ := bind_eq_ok.1 h
      cases he
    split at h
    · obtain ⟨slots, -, he⟩ := bind_eq_ok.1 h
      cases he
    split at h
    · have hblanks := dropBlanks_suffix tail
      split at h
      · cases h
      · next hd =>
        split at h
        · cases h
          rw [hd] at hblanks
          exact hblanks.trans (List.suffix_cons c tail)
        · cases h
    split at h <;> cases h

def Turn.round : Turn → Round Gathered Selector
  | .done selector rest => .done selector rest
  | .again s rest => .again s rest

def positionsLoop (close : Char) : Loop IndexerHalt Gathered Selector where
  turn s cs := (s.turn close cs).map Turn.round
  consumes _ _ _ _ h := by
    obtain ⟨_ | ⟨s, rest⟩, ht, he⟩ := map_eq_ok.1 h
    · cases he
    · cases he
      exact Gathered.turn_properSuffix ht
  leaves h := by
    obtain ⟨⟨selector, rest⟩ | _, ht, he⟩ := map_eq_ok.1 h
    · cases he
      exact Gathered.turn_done ht
    · cases he

/-! ## Conditions -/

/-- One test, and the connective or the parenthesis behind it. -/
def testsTurn (read : PathReader) (tests : List (Condition × Connective)) (cs : List Char) :
    Except Halt (Round (List (Condition × Connective)) Chain) := do
  let (test, rest) ← readTest read cs
  match rest with
  | [] => .error (.fault .openQuery)
  | ')' :: _ => return .done ⟨tests, test⟩ rest
  | c :: _ =>
    match readSpelling connectiveSpellings rest with
    | none => .error (.fault (.unexpectedInQuery c))
    | some (connective, rest) => return .again (tests ++ [(test, connective)]) rest

theorem testsTurn_properSuffix {read : PathReader} (hread : LeavesSuffix read)
    {tests : List (Condition × Connective)} {cs : List Char}
    {round : Round (List (Condition × Connective)) Chain}
    (h : testsTurn read tests cs = .ok round) : ProperSuffix round.rest cs := by
  obtain ⟨⟨test, mid⟩, htest, h'⟩ := bind_eq_ok.1 h
  have hmid := readTest_progresses hread htest
  dsimp only at h'
  split at h'
  · cases h'
  · cases h'
    exact hmid
  split at h'
  · cases h'
  · next hs =>
    cases h'
    exact hmid.of_suffix (readSpelling_progresses connectiveSpellings_ne_nil hs).suffix

theorem testsTurn_consumes {read : PathReader} (hread : LeavesSuffix read) :
    Consumes (testsTurn read) :=
  fun _ _ _ _ h => testsTurn_properSuffix hread h

def testsLoop (paths : SuffixReader Path) :
    Loop Halt (List (Condition × Connective)) Chain where
  turn := testsTurn paths.read
  consumes := testsTurn_consumes paths.leaves
  leaves h := (testsTurn_properSuffix paths.leaves h).suffix

/-! ## Paths -/

/-- What the loop of a path has in hand. -/
structure Course where
  path : Path := []
  /-- The characters so far of a name that may go on. -/
  name : List Char := []
  scan : Bool := false
  behindIndexer : Bool := false
  behindDot : Bool := false

namespace Course

/-- The name, if there is one, becomes a selector. -/
def endName (s : Course) : Course :=
  if s.name = [] then s
  else
    { s with path := s.path ++ [.member s.scan (String.ofList s.name)], name := [], scan := false }

def addIndexer (s : Course) (here : Path) : Course :=
  { s with path := s.path ++ here, scan := false, behindIndexer := true, behindDot := false }

def addDot (s : Course) : Course := { s with behindIndexer := false, behindDot := true }

def addDots (s : Course) : Course := { s.addDot with scan := true }

def addChar (s : Course) (c : Char) : Course := { s with name := s.name ++ [c] }

/-- The path at its end. It does not end behind a dot, unless something stands there that ends a
path outside of a condition. -/
def finish (s : Course) (q atEnd : Bool) : Except Halt Path :=
  if s.name = [] ∧ s.behindDot ∧ (atEnd ∨ q) then .error (.fault .unexpectedEnd)
  else .ok s.endName.path

def turn (read : ChainReader) (q : Bool) (s : Course) (cs : List Char) :
    Except Halt (Round Course Path) := do
  match cs with
  | [] => return .done (← s.finish q true) []
  | c :: rest =>
    if c = '[' ∨ c = '(' then
      let (here, rest) ← readIndexer read (closing c) s.endName.scan rest
      return .again (s.endName.addIndexer here) (rest.drop 1)
    else if endsPath q c then return .done (← s.finish q false) (c :: rest)
    else if c = '.' then
      match rest with
      | '.' :: rest => return .again s.endName.addDots rest
      | rest => return .again s.endName.addDot rest
    else if s.behindIndexer then .error (.fault (.nameAfterIndexer c))
    else return .again (s.addChar c) rest

/-- Whatever a turn that goes on can do. -/
theorem turn_eq_again {read : ChainReader} {q : Bool} {s s' : Course} {cs rest : List Char}
    (h : s.turn read q cs = .ok (.again s' rest)) :
    (∃ c tail here mid, cs = c :: tail ∧
      readIndexer read (closing c) s.endName.scan tail = .ok (here, mid) ∧
        s' = s.endName.addIndexer here ∧ rest = mid.drop 1) ∨
    (cs = '.' :: '.' :: rest ∧ s' = s.endName.addDots) ∨
    (cs = '.' :: rest ∧ rest.head? ≠ some '.' ∧ s' = s.endName.addDot) ∨
    (∃ c, cs = c :: rest ∧ isNameChar q c = true ∧ s.behindIndexer = false ∧
      s' = s.addChar c) := by
  unfold turn at h
  split at h
  · obtain ⟨path, -, he⟩ := bind_eq_ok.1 h
    cases he
  next c tail =>
  split at h
  · obtain ⟨⟨here, mid⟩, hindexer, he⟩ := bind_eq_ok.1 h
    cases he
    exact .inl ⟨c, tail, here, mid, rfl, hindexer, rfl, rfl⟩
  next hbracket =>
  split at h
  · obtain ⟨path, -, he⟩ := bind_eq_ok.1 h
    cases he
  next hend =>
  split at h
  · next hdot =>
    subst hdot
    split at h
    · cases h
      exact .inr (.inl ⟨rfl, rfl⟩)
    · next hsingle =>
      cases h
      refine .inr (.inr (.inl ⟨rfl, ?_, rfl⟩))
      intro hhead
      obtain ⟨behind, rfl⟩ := List.head?_eq_some_iff.1 hhead
      exact hsingle behind rfl
  next hdot =>
  split at h
  · cases h
  next hbehind =>
  cases h
  refine .inr (.inr (.inr ⟨c, rfl, isNameChar_iff.2 ?_, by simpa using hbehind, rfl⟩))
  simpa [not_or, hdot, and_assoc] using And.intro hbracket hend

theorem turn_consumes {read : ChainReader} (hread : LeavesSuffix read) (q : Bool) :
    Consumes (turn read q) := by
  intro s s' cs rest h
  obtain ⟨c, tail, here, mid, rfl, hindexer, -, rfl⟩ | ⟨rfl, -⟩ | ⟨rfl, -, -⟩ | ⟨c, rfl, -, -, -⟩ :=
    turn_eq_again h
  · have hmid := (readIndexer_progresses hread hindexer).of_suffix (List.drop_suffix 1 mid)
    exact hmid.trans_suffix (List.suffix_cons _ _)
  · exact properSuffix_cons (List.suffix_cons '.' _)
  · exact properSuffix_cons (List.suffix_refl _)
  · exact properSuffix_cons (List.suffix_refl _)

/-- A path ends where it ends, on nothing that belongs to it. -/
theorem turn_done {read : ChainReader} {q : Bool} {s : Course} {path : Path}
    {cs rest : List Char} (h : s.turn read q cs = .ok (.done path rest)) : rest = cs := by
  unfold turn at h
  split at h
  · obtain ⟨path, -, he⟩ := bind_eq_ok.1 h
    cases he
    rfl
  split at h
  · obtain ⟨found, -, he⟩ := bind_eq_ok.1 h
    cases he
  split at h
  · obtain ⟨path, -, he⟩ := bind_eq_ok.1 h
    cases he
    rfl
  split at h
  · split at h <;> cases h
  split at h <;> cases h

end Course

def pathLoop (q : Bool) (chains : SuffixReader Chain) : Loop Halt Course Path where
  turn := Course.turn chains.read q
  consumes := Course.turn_consumes chains.leaves q
  leaves h := Course.turn_done h ▸ List.suffix_refl _

/-! ## Paths inside paths -/

/-- Reads a path turn by turn, with conditions in it whose paths have conditions in them, and so on,
to that depth. -/
def nested : (depth : Nat) → (inQuery : Bool) → SuffixReader Path
  | 0, q => (pathLoop q ((testsLoop .exhausted).reader [])).reader {}
  | depth + 1, q => (pathLoop q ((testsLoop (nested depth true)).reader [])).reader {}

end JsonQuery
