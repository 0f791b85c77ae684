import JsonQuery.Proofs.OnePass.Reading
import JsonQuery.Proofs.Progress.Enough
import JsonQuery.Proofs.Progress.Turns

/-!
# The loops of indexers and conditions

They give what the readers give, faults included: the positions or the names in brackets, and the
tests of a condition.
-/

namespace JsonQuery

open Text

/-! ## Names -/

/-- The names so far and those that come. -/
def namesReading (close : Char) (names : List String) (cs : List Char) :
    Except PathError (List String × List Char) :=
  (readNames close cs).map fun (more, rest) => (names ++ more, rest)

theorem namesTurn_reading (close : Char) (names : List String) (cs : List Char) :
    namesReading close names cs =
      namesTurn close names cs >>= Round.reading (namesReading close) := by
  rw [namesReading, readNames.eq_def, namesTurn.eq_def]
  cases cs with
  | nil => rfl
  | cons quote text =>
    dsimp only
    by_cases hquote : quote ≠ '\''
    · rw [if_pos hquote, if_pos hquote]
      rfl
    rw [if_neg hquote, if_neg hquote]
    split
    · next e hr =>
      rw [hr]
      rfl
    next name behind hr =>
    rw [hr]
    simp only [bind, Except.bind]
    split
    · next hd =>
      rw [hd]
      rfl
    next c rest hd =>
    rw [hd]
    dsimp only
    by_cases hclose : c = close
    · rw [if_pos hclose, if_pos hclose]
      rfl
    rw [if_neg hclose, if_neg hclose]
    by_cases hcomma : c = ','
    · rw [if_pos hcomma, if_pos hcomma]
      simp only [Round.reading, namesReading, pure, Except.pure]
      cases readNames close (dropBlanks rest) <;> simp [Except.map]
    · rw [if_neg hcomma, if_neg hcomma]
      rfl

theorem namesLoop_run (close : Char) (cs : List Char) :
    (namesLoop close).run [] cs = readNames close cs := by
  have hrun : (namesLoop close).run [] cs = namesReading close [] cs :=
    (namesLoop close).run_eq (fun _ _ => True) (namesReading close) (fun _ _ => True.intro)
      (fun _ => namesTurn_reading close _ _) True.intro
  rw [hrun, namesReading]
  cases readNames close cs <;> rfl

variable [Regex.Engine]

/-! ## Array indexers -/

theorem positionsLoop_run (c : Char) (cs : List Char) :
    (positionsLoop (closing c)).run {} cs = orHalt (readArrayIndexer (closing c) cs) := by
  rw [← gather_start (isCloser_closing c)]
  refine Loop.run_eq _ (fun _ _ => True) (gather (closing c)) (fun _ _ => True.intro) ?_ True.intro
  intro s cs _
  have hround : (positionsLoop (closing c)).turn s cs =
      (s.turn (closing c) cs).map Turn.round := rfl
  rw [gather, hround]
  split
  · next ht =>
    rw [ht]
    rfl
  · next ht =>
    rw [ht]
    rfl
  · next ht =>
    rw [ht]
    rfl

/-! ## Conditions -/

/-- The tests so far and those that come. -/
def testsReading (tests : List (Condition × Connective)) (cs : List Char) :
    Except Halt (Chain × List Char) :=
  (settledChain cs).map fun (chain, rest) => (⟨tests ++ chain.tests, chain.last⟩, rest)

theorem testsTurn_reading {paths : SuffixReader Path} {n : Nat}
    (h : AgreeBelow n paths.read (settledPath true .start))
    (tests : List (Condition × Connective)) {cs : List Char} (hn : cs.length ≤ n) :
    testsReading tests cs =
      testsTurn paths.read tests cs >>= Round.reading testsReading := by
  have hleaves := readPath_leavesSuffix cs.length true .start
  have hagree : AgreeBelow cs.length paths.read (readPath cs.length true .start) := by
    intro t ht
    rw [h t (by omega), readPath_eq_settled (by omega)]
  rw [testsReading, settledChain, readChain, testsTurn,
    readTest_congr hagree paths.leaves (Nat.le_refl _)]
  cases htest : readTest (readPath cs.length true .start) cs with
  | error e => rfl
  | ok found =>
    obtain ⟨test, mid⟩ := found
    have hmid := (readTest_progresses hleaves htest).shorter
    simp only [bind, Except.bind]
    cases mid with
    | nil => rfl
    | cons c mid =>
      by_cases hc : c = ')'
      · subst hc
        simp [Except.map, Round.reading, pure, Except.pure]
      simp only
      cases hs : readSpelling connectiveSpellings (c :: mid) with
      | none => rfl
      | some found =>
        obtain ⟨connective, rest⟩ := found
        have hrest := (readSpelling_progresses connectiveSpellings_ne_nil hs).shorter
        dsimp only
        rw [readChain_eq_settled (by omega)]
        simp only [Round.reading, testsReading, pure, Except.pure]
        cases settledChain rest <;> simp [Except.map]

theorem testsLoop_agrees {paths : SuffixReader Path} {n : Nat}
    (h : AgreeBelow n paths.read (settledPath true .start)) :
    AgreeBelow (n + 1) ((testsLoop paths).run []) settledChain := by
  intro cs hn
  have hrun : (testsLoop paths).run [] cs = testsReading [] cs := by
    refine (testsLoop paths).run_eq (fun _ cs => cs.length ≤ n) testsReading ?_
      (fun hle => testsTurn_reading h _ hle) (Nat.le_of_lt_succ hn)
    intro s s' cs rest hle ht
    have hrest := ((testsLoop paths).consumes ht).shorter
    omega
  rw [hrun, testsReading]
  cases settledChain cs <;> rfl

end JsonQuery
