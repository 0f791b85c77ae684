import JsonQuery.Proofs.Grammar.Settled
import JsonQuery.Proofs.Progress.Readers

/-!
# Readers with enough steps

Read with as many steps as they take, paths and conditions need no count of steps. What contains
them reads them only from what stands behind its own first characters, so it does not matter what
their reader would do with a longer text.
-/

namespace JsonQuery

open Text

/-- The readers do the same with every shorter text. -/
def AgreeBelow {β : Type} (n : Nat) (read read' : List Char → β) : Prop :=
  ∀ t, t.length < n → read t = read' t

variable [Regex.Engine]

section

variable {read read' : PathReader} {n : Nat} (h : AgreeBelow n read read')

include h

theorem readSide_congr {cs : List Char} (hn : cs.length ≤ n) :
    readSide read cs = readSide read' cs := by
  unfold readSide
  split
  · next rest => rw [h rest hn]
  · next rest => rw [h rest hn]
  · rfl

theorem readOperand_congr {cs : List Char} (hn : cs.length ≤ n) :
    readOperand read cs = readOperand read' cs := by
  rw [readOperand, readOperand,
    readSide_congr h (Nat.le_trans (dropBlanks_length_le cs) hn)]

theorem readTest_congr (hread : LeavesSuffix read) {cs : List Char} (hn : cs.length ≤ n) :
    readTest read cs = readTest read' cs := by
  rw [readTest, readTest, ← readOperand_congr h hn]
  cases hleft : readOperand read cs with
  | error e => rfl
  | ok found =>
    obtain ⟨left, mid⟩ := found
    have hmid := (readOperand_progresses hread hleft).shorter
    simp only [bind, Except.bind]
    split
    · rfl
    · rfl
    · rfl
    cases hop : orFault (readOperator mid) with
    | error e => rfl
    | ok found =>
      obtain ⟨operator, behind⟩ := found
      have hbehind := (readOperator_progresses (orFault_eq_ok.1 hop)).shorter
      dsimp only
      rw [readOperand_congr h (by omega)]

end

section

variable {read read' : ChainReader} {n : Nat} (h : AgreeBelow n read read') {close : Char}
  {scan : Bool}

include h

theorem readFilter_congr {cs : List Char} (hn : cs.length ≤ n) :
    readFilter read close scan cs = readFilter read' close scan cs := by
  cases cs with
  | nil => rfl
  | cons c rest => rw [readFilter, readFilter, h rest hn]

theorem readIndexer_congr {cs : List Char} (hn : cs.length ≤ n) :
    readIndexer read close scan cs = readIndexer read' close scan cs := by
  have hlen := dropBlanks_length_le cs
  unfold readIndexer
  split
  · rfl
  · rfl
  · next hd =>
    rw [hd, List.length_cons] at hlen
    rw [readFilter_congr h (by omega)]
  · rfl

end

/-- A path read with as many steps as it takes. -/
def settledPath (q : Bool) (j : Junction) (cs : List Char) : Except Halt (Path × List Char) :=
  readPath cs.length q j cs

/-- A condition read with as many steps as it takes. -/
def settledChain (cs : List Char) : Except Halt (Chain × List Char) := readChain (cs.length + 1) cs

theorem readPath_eq_settled {a : Nat} {q : Bool} {j : Junction} {cs : List Char}
    (h : cs.length ≤ a) : readPath a q j cs = settledPath q j cs :=
  (readPath_settles q j cs).eq h (Nat.le_refl _)

theorem readChain_eq_settled {a : Nat} {cs : List Char} (h : cs.length < a) :
    readChain a cs = settledChain cs :=
  ((readers_settle (cs.length + 1)).2 cs (Nat.lt_succ_self _)).eq h (Nat.le_refl _)

theorem settledPath_ne_exhausted (q : Bool) (j : Junction) (cs : List Char) :
    settledPath q j cs ≠ .error .exhausted :=
  readPath_ne_exhausted q j cs

theorem readChain_agrees (a : Nat) : AgreeBelow a (readChain a) settledChain :=
  fun _ h => readChain_eq_settled h

/-! ## Steps -/

section

variable {q : Bool} {j : Junction}

theorem settledPath_nil (q : Bool) (j : Junction) :
    settledPath q j [] = if j.isDot then .error (.fault .unexpectedEnd) else .ok ([], []) :=
  readPath_nil _ q j

theorem settledPath_end {c : Char} (h : endsPath q c = true) (cs : List Char) :
    settledPath q j (c :: cs) =
      if j.isDot && q then .error (.fault .unexpectedEnd) else .ok ([], c :: cs) :=
  readPath_end h cs

theorem settledPath_dot (cs : List Char) :
    settledPath q j ('.' :: cs) = settledPath q j.addDot cs :=
  readPath_dot cs

theorem settledPath_nameAfterIndexer {c : Char} (hc : isNameChar q c = true) (cs : List Char) :
    settledPath q .indexer (c :: cs) = .error (.fault (.nameAfterIndexer c)) :=
  readPath_nameAfterIndexer hc cs

theorem settledPath_name {word cs : List Char} (hne : word ≠ []) (hj : j ≠ .indexer)
    (hw : ∀ d ∈ word, isNameChar q d = true) (hcs : Ends (isNameChar q) cs) :
    settledPath q j (word ++ cs) = (settledPath q .name cs).map fun (more, rest) =>
      (.member j.scans (String.ofList word) :: more, rest) := by
  obtain ⟨c, word, rfl⟩ := List.exists_cons_of_ne_nil hne
  obtain ⟨hc, hword⟩ := List.forall_mem_cons.1 hw
  rw [settledPath, List.cons_append, List.length_cons, readPath_name hj hc hword hcs,
    readPath_eq_settled (by simp)]

theorem settledPath_bracket {c : Char} (hc : c = '[' ∨ c = '(') (cs : List Char) :
    settledPath q j (c :: cs) = readIndexer settledChain (closing c) j.scans cs >>= fun found =>
      (settledPath q .indexer (found.2.drop 1)).map fun (more, rest) =>
        (found.1 ++ more, rest) := by
  rw [settledPath, List.length_cons, readPath_bracket hc,
    ← readIndexer_congr (readChain_agrees cs.length) (Nat.le_refl _)]
  cases hr : readIndexer (readChain cs.length) (closing c) j.scans cs with
  | error e => rfl
  | ok found =>
    have hleaves := (readChain_progresses cs.length).leavesSuffix
    have hshort := (readIndexer_progresses hleaves hr).shorter
    simp only [bind, Except.bind]
    rw [readPath_eq_settled (by rw [List.length_drop]; omega)]

end

end JsonQuery
