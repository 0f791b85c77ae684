import JsonQuery.Proofs.Grammar.Whole
import JsonQuery.Proofs.Progress.Paths
import JsonQuery.Regex.Builtin.Matching

/-!
# Progress

Reading a path comes to an end on every text. Each reader that succeeds leaves less than it was
given, each turn of a loop that does not end it consumes characters, and paths stand inside each
other no deeper than the text has characters.
-/

namespace JsonQuery

open Text

/-- The loop takes at most one turn more than there are characters. -/
def Loop.Ends {ε σ α : Type} (loop : Loop ε σ α) : Prop :=
  ∀ s cs, loop.within (cs.length + 1) s cs = some (loop.run s cs)

theorem Loop.ends {ε σ α : Type} (loop : Loop ε σ α) : loop.Ends :=
  fun _ _ => loop.within_eq_run (Nat.lt_succ_self _)

theorem length_withoutRoot_trimBlanks_le (text : String) :
    (withoutRoot (trimBlanks text.toList)).length ≤ text.length := by
  obtain ⟨g, h, -, -, htext, -⟩ := exists_trimmed text.toList
  have htrim : (trimBlanks text.toList).length ≤ text.toList.length := by
    have hlen := congrArg List.length htext
    simp only [List.length_append] at hlen
    omega
  rw [← String.length_toList]
  exact Nat.le_trans (withoutRoot_suffix _).length_le htrim

section

variable [Regex.Engine]

/-- Readers leave less of the text than they are given, only that of paths may leave all of it.
Those of strings, patterns and conditions already start behind the character that announces them.
Paths take no more steps than there are characters. -/
structure ReadersProgress (allowance : Nat) : Prop where
  path : ∀ inQuery before, LeavesSuffix (readPath allowance inQuery before)
  enough : ∀ inQuery before cs, cs.length ≤ allowance →
    readPath allowance inQuery before cs ≠ .error .exhausted
  chain : Progresses (readChain allowance)
  operand : Progresses (readOperand (readPath allowance true .start))
  indexer : ∀ close scan, Progresses (readIndexer (readChain allowance) close scan)
  filter : ∀ close scan, Progresses (readFilter (readChain allowance) close scan)
  positions : ∀ close, Progresses (readArrayIndexer close)
  names : ∀ close, Progresses (readNames close)
  operator : Progresses readOperator
  number : Progresses readNumber
  pattern : Progresses readPatternLiteral
  quoted : Progresses readQuoted

theorem readersProgress (allowance : Nat) : ReadersProgress allowance where
  path := readPath_leavesSuffix allowance
  enough q j cs h := by
    rw [readPath_eq_settled h]
    exact settledPath_ne_exhausted q j cs
  chain := readChain_progresses allowance
  operand := readOperand_progresses (readPath_leavesSuffix allowance true .start)
  indexer _ _ := readIndexer_progresses (readChain_progresses allowance).leavesSuffix
  filter _ _ := readFilter_progresses (readChain_progresses allowance).leavesSuffix
  positions := readArrayIndexer_progresses
  names := readNames_progresses
  operator := readOperator_progresses
  number := readNumber_progresses
  pattern := readPatternLiteral_progresses
  quoted := readQuoted_progresses

/-- A turn of a loop ends it or consumes. -/
structure TurnsProgress (allowance : Nat) : Prop where
  positions : ∀ close, Consumes (positionsLoop close).turn
  names : ∀ close, Consumes (namesTurn close)
  tests : Consumes (testsTurn (readPath allowance true .start))
  path : ∀ inQuery, Consumes (Course.turn (readChain allowance) inQuery)

theorem turnsProgress (allowance : Nat) : TurnsProgress allowance where
  positions close := (positionsLoop close).consumes
  names := namesTurn_consumes
  tests := testsTurn_consumes (readPath_leavesSuffix allowance true .start)
  path := Course.turn_consumes (readChain_progresses allowance).leavesSuffix

/-- The loops, whatever reads the paths and the conditions in them. -/
structure LoopsEnd : Prop where
  positions : ∀ close, (positionsLoop close).Ends
  names : ∀ close, (namesLoop close).Ends
  tests : ∀ paths, (testsLoop paths).Ends
  path : ∀ inQuery chains, (pathLoop inQuery chains).Ends

theorem loopsEnd : LoopsEnd where
  positions close := (positionsLoop close).ends
  names close := (namesLoop close).ends
  tests paths := (testsLoop paths).ends
  path inQuery chains := (pathLoop inQuery chains).ends

/-- Texts up to that length are read by the loops, paths inside each other to that depth. -/
structure LoopsRead (depth : Nat) : Prop where
  positions : ∀ c cs,
    (positionsLoop (closing c)).run {} cs = orHalt (readArrayIndexer (closing c) cs)
  names : ∀ close cs, (namesLoop close).run [] cs = readNames close cs
  tests : ∀ cs, cs.length ≤ depth →
    (testsLoop (nested depth true)).run [] cs = readChain (cs.length + 1) cs
  path : ∀ inQuery cs, cs.length ≤ depth →
    (nested depth inQuery).read cs = readPath cs.length inQuery .start cs
  enough : ∀ inQuery cs, cs.length ≤ depth →
    (nested depth inQuery).read cs ≠ .error .exhausted

theorem loopsRead (depth : Nat) : LoopsRead depth where
  positions := positionsLoop_run
  names := namesLoop_run
  tests cs h := testsLoop_agrees (nested_agrees depth true) cs (by omega)
  path q _ h := nested_eq q h
  enough q cs h := by
    rw [nested_eq q h]
    exact settledPath_ne_exhausted q .start cs

/-- Whatever the text, it is read to an end. Every reader and every turn makes progress, and paths
inside each other to the depth of the length of the text are enough. -/
theorem Path.parse_progresses (allowance : Nat) {text : String} {depth : Nat}
    (h : text.length ≤ depth) :
    ReadersProgress allowance ∧ TurnsProgress allowance ∧ LoopsEnd ∧ LoopsRead depth ∧
    Path.parse text =
      endOfText ((nested depth false).read (withoutRoot (trimBlanks text.toList))) ∧
    (nested depth false).read (withoutRoot (trimBlanks text.toList)) ≠ .error .exhausted := by
  have hlen := Nat.le_trans (length_withoutRoot_trimBlanks_le text) h
  have hread := loopsRead depth
  refine ⟨readersProgress allowance, turnsProgress allowance, loopsEnd, hread, ?_,
    hread.enough false _ hlen⟩
  rw [parse_eq, parseChars_eq, hread.path false _ hlen]

end

open scoped Regex.Builtin

/-- A path inside a path inside a path. -/
theorem Path.parse_progresses_twice_nested :
    let text := "[?(@.a[?(@.b)])]"
    let inner : Selector := .filter (.test .present (.path [.field (some "b")]) none)
    let path : Path := [.filter (.test .present (.path [.field (some "a"), inner]) none)]
    Path.parse text = .ok path ∧ text.length ≤ 16 ∧
      ReadersProgress 16 ∧ TurnsProgress 16 ∧ LoopsEnd ∧ LoopsRead 16 ∧
      endOfText ((nested 16 false).read (withoutRoot (trimBlanks text.toList))) = .ok path ∧
      (nested 16 false).read (withoutRoot (trimBlanks text.toList)) ≠ .error .exhausted := by
  intro text inner path
  have hparse : Path.parse "[?(@.a[?(@.b)])]" = .ok path := by rfl
  have hlen : text.length ≤ 16 := by decide
  obtain ⟨hreaders, hturns, hends, hread, htext, henough⟩ := Path.parse_progresses 16 hlen
  exact ⟨hparse, hlen, hreaders, hturns, hends, hread, htext.symm.trans hparse, henough⟩

end JsonQuery
