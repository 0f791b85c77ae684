import JsonQuery.Proofs.OnePass.Gathered

/-!
# The loop and the readers of the kinds

What was gathered stands for a place in the reader of one kind: behind a comma in the reader of
positions, behind a colon in one of the readers of slices, and before that in the reader of array
indexers. A turn keeps what is read there (`Sound.turn_reading`), so the loop gives what the readers
give, faults included, and finds every slot (`gather_eq`).
-/

namespace JsonQuery

open Text

namespace Gathered

/-! ## The word -/

/-- The text that is left, behind the word that was gathered of it. -/
def pending (s : Gathered) (cs : List Char) : List Char :=
  s.word ++ if s.ended then ' ' :: cs else cs

section

variable {c : Char} {s : Gathered} {rest : List Char}

theorem pending_addChar (h : s.ended = false) (c : Char) (cs : List Char) :
    (s.addChar c).pending cs = s.pending (c :: cs) := by
  simp [pending, addChar, h]

theorem ends_blank (hb : isBlank c = true) (t : List Char) : Ends isIndexChar (c :: t) := by
  refine ends_cons.2 (Bool.eq_false_iff.2 fun hc => ?_)
  rw [not_blank_of_isIndexChar hc] at hb
  cases hb

theorem Sound.readWord_behind (h : s.Sound) {t : List Char} (ht : Ends isIndexChar t) :
    readWord (s.word ++ t) = (s.word, dropBlanks t) := by
  rw [readWord, takeWhile_run h.word ht, dropWhile_run h.word ht]

theorem Sound.readWord_ended (h : s.Sound) (rest : List Char) :
    readWord (s.word ++ ' ' :: rest) = (s.word, dropBlanks rest) := by
  have hspace : isBlank ' ' = true := by decide
  rw [h.readWord_behind (ends_blank hspace rest), dropBlanks_cons_blank hspace]

theorem Sound.readWord_nil (h : s.Sound) : readWord (s.pending []) = (s.word, []) := by
  unfold pending
  split
  · exact h.readWord_ended []
  · exact h.readWord_behind (by simp [Ends])

/-- A word at its end is read up to the next character that is not blank. -/
theorem Sound.readWord_pending (h : s.Sound) (hb : isBlank c = false)
    (hc : isIndexChar c = false ∨ s.ended = true) (rest : List Char) :
    readWord (s.pending (c :: rest)) = (s.word, c :: rest) := by
  unfold pending
  split
  · rw [h.readWord_ended, dropBlanks_cons_other hb]
  · next hended =>
    rw [h.readWord_behind (ends_cons.2 (hc.resolve_right hended)), dropBlanks_cons_other hb]

theorem Sound.readWord_blank (h : s.Sound) (hb : isBlank c = true) (rest : List Char) :
    readWord (s.pending (c :: rest)) = readWord (s.endWord.pending (dropBlanks rest)) := by
  have hright : readWord (s.endWord.pending (dropBlanks rest)) = (s.word, dropBlanks rest) := by
    have hidem : dropBlanks (dropBlanks rest) = dropBlanks rest :=
      dropBlanks_of_head (ends_dropWhile rest)
    have hread := h.readWord_ended (dropBlanks rest)
    rwa [hidem] at hread
  rw [hright]
  unfold pending
  split
  · rw [h.readWord_ended, dropBlanks_cons_blank hb]
  · rw [h.readWord_behind (ends_blank hb rest), dropBlanks_cons_blank hb]

end

end Gathered

/-! ## What the readers of the kinds give -/

theorem readIndexes_eq (close : Char) (cs : List Char) :
    readIndexes close cs = match readWord cs with
      | (_, []) => .error .openIndexer
      | (word, c :: rest) =>
        if c = close then (parseIndex word).map fun i => ([i], c :: rest)
        else if c = ',' then parseIndex word >>= fun i =>
          (readIndexes close (dropBlanks rest)).map fun (more, rest) => (i :: more, rest)
        else .error (.unexpectedInIndexer c) := by
  rw [readIndexes]
  split
  · next h => rw [h]
  · next word c rest h =>
    rw [h]
    dsimp only
    cases parseIndex word with
    | error e => rfl
    | ok i => cases readIndexes close (dropBlanks rest) <;> rfl

variable [Regex.Engine]

/-- What the reader of the kind gives, behind what was gathered. -/
def Gathered.reading (close : Char) (s : Gathered) (cs : List Char) :
    Except PathError (Selector × List Char) :=
  match s.positions with
  | some is => (readIndexes close (s.pending cs)).map fun (more, rest) =>
      (.indexes (is ++ more), rest)
  | none =>
    if s.colons = 0 then readArrayIndexer close (s.pending cs)
    else if s.colons = 1 then
      (readStopStep close (s.pending cs)).map fun ((stop, step), rest) =>
        (.slice s.start stop step, rest)
    else
      (readStep close (s.pending cs)).map fun (step, rest) =>
        (.slice s.start s.stop step, rest)

def Turn.reading (close : Char) : Turn → Except PathError (Selector × List Char)
  | .done selector rest => .ok (selector, rest)
  | .again s rest => s.reading close rest

namespace Gathered

section

variable {close c : Char} {s s' : Gathered} {cs rest : List Char}

theorem reading_positions {is : List Int} (hp : s.positions = some is) (cs : List Char) :
    s.reading close cs = (readIndexes close (s.pending cs)).map fun (more, rest) =>
      (.indexes (is ++ more), rest) := by
  rw [reading, hp]

theorem reading_first (hp : s.positions = none) (hk : s.colons = 0) (cs : List Char) :
    s.reading close cs = readArrayIndexer close (s.pending cs) := by
  rw [reading, hp]
  exact if_pos hk

theorem reading_second (hp : s.positions = none) (hk : s.colons = 1) (cs : List Char) :
    s.reading close cs = (readStopStep close (s.pending cs)).map fun ((stop, step), rest) =>
      (.slice s.start stop step, rest) := by
  rw [reading, hp]
  dsimp only
  rw [if_neg (by omega), if_pos hk]

theorem reading_third (hp : s.positions = none) (hk : s.colons = 2) (cs : List Char) :
    s.reading close cs = (readStep close (s.pending cs)).map fun (step, rest) =>
      (.slice s.start s.stop step, rest) := by
  rw [reading, hp]
  dsimp only
  rw [if_neg (by omega), if_neg (by omega)]

/-- Every reader begins with the word, and sees nothing else of what was gathered last. -/
theorem reading_congr (hw : readWord (s.pending cs) = readWord (s'.pending rest))
    (hp : s.positions = s'.positions) (hk : s.colons = s'.colons) (hs : s.slots = s'.slots) :
    s.reading close cs = s'.reading close rest := by
  unfold reading start stop
  rw [hp, hk, hs]
  cases s'.positions with
  | some is =>
    dsimp only
    rw [readIndexes_eq, readIndexes_eq, hw]
  | none =>
    rw [readArrayIndexer, readArrayIndexer, readStopStep, readStopStep, readStep, readStep, hw]

theorem Sound.reading_nil (h : s.Sound) : s.reading close [] = .error .openIndexer := by
  obtain ⟨is, hp, -⟩ | ⟨hp, hk | hk | hk⟩ := h.kinds
  · rw [reading_positions hp, readIndexes_eq, h.readWord_nil]
    rfl
  · rw [reading_first hp hk, readArrayIndexer, h.readWord_nil]
  · rw [reading_second hp hk, readStopStep, h.readWord_nil]
    rfl
  · rw [reading_third hp hk, readStep, h.readWord_nil]
    rfl

theorem Sound.reading_close (h : s.Sound) (hc : IsCloser close) (rest : List Char) :
    (s.selector.map fun selector => (selector, close :: rest)) =
      orHalt (s.reading close (close :: rest)) := by
  have hw := h.readWord_pending hc.endsWord.2 (.inl hc.endsWord.1) rest
  obtain ⟨is, hp, -⟩ | ⟨hp, hk | hk | hk⟩ := h.kinds
  · rw [reading_positions hp, readIndexes_eq, hw, selector, hp]
    dsimp only
    rw [if_pos rfl]
    cases parseIndex s.word <;> rfl
  · rw [reading_first hp hk, readArrayIndexer, hw, selector, hp]
    dsimp only
    rw [if_pos rfl, if_pos hk]
    cases parseIndex s.word <;> rfl
  · have hstep : s.slots[2] = none := h.unfilled 2 (by decide) (by omega)
    rw [reading_second hp hk, readStopStep, hw, selector, hp]
    dsimp only
    rw [if_pos rfl, if_neg (by omega), h.stored_eq]
    cases parseBound s.word with
    | error e => rfl
    | ok bound =>
      simp [hk, hstep, start, orHalt, Except.mapError, Except.map, bind,
        Except.bind, pure, Except.pure]
  · rw [reading_third hp hk, readStep, hw, selector, hp]
    dsimp only
    rw [if_pos rfl, if_neg (by omega), h.stored_eq]
    cases parseBound s.word with
    | error e => rfl
    | ok bound =>
      simp [hk, start, stop, orHalt, Except.mapError, Except.map, bind, Except.bind, pure,
        Except.pure]

theorem Sound.reading_comma (h : s.Sound) (hc : IsCloser close) (hk : s.colons = 0)
    (rest : List Char) : s.reading close (',' :: rest) =
      parseIndex s.word >>= fun i => (s.addPosition i).reading close (dropBlanks rest) := by
  have hne : ',' ≠ close := hc.ne (by decide) (by decide)
  have hw := h.readWord_pending endsWord_comma.2 (.inl endsWord_comma.1) rest
  have hnext : ∀ i, (s.addPosition i).reading close (dropBlanks rest) =
      (readIndexes close (dropBlanks rest)).map fun (more, rest) =>
        (.indexes (s.positions.getD [] ++ [i] ++ more), rest) := fun i => reading_positions rfl _
  simp only [hnext]
  cases hp : s.positions with
  | some is =>
    rw [reading_positions hp, readIndexes_eq, hw]
    dsimp only
    rw [if_neg hne, if_pos rfl]
    cases parseIndex s.word with
    | error e => rfl
    | ok i => cases readIndexes close (dropBlanks rest) <;> simp [Except.map, bind, Except.bind]
  | none =>
    rw [reading_first hp hk, readArrayIndexer, hw]
    dsimp only
    rw [if_neg hne, if_pos rfl]
    cases parseIndex s.word with
    | error e => rfl
    | ok i => cases readIndexes close (dropBlanks rest) <;> rfl

theorem Sound.reading_colon (h : s.Sound) (hc : IsCloser close) (hp : s.positions = none)
    (hk : s.colons < 2) (rest : List Char) :
    s.reading close (':' :: rest) = parseBound s.word >>= fun bound =>
      (s.addColon (s.slots.set s.colons bound h.colons)).reading close (dropBlanks rest) := by
  have hne : ':' ≠ close := hc.ne (by decide) (by decide)
  have hw := h.readWord_pending endsWord_colon.2 (.inl endsWord_colon.1) rest
  obtain hk | hk : s.colons = 0 ∨ s.colons = 1 := by omega
  · have hnext : ∀ slots, (s.addColon slots).reading close (dropBlanks rest) =
        (readStopStep close (dropBlanks rest)).map fun ((stop, step), rest) =>
          (.slice slots[0] stop step, rest) :=
      fun slots => reading_second (s := s.addColon slots) hp (congrArg (· + 1) hk) _
    simp only [hnext]
    rw [reading_first hp hk, readArrayIndexer, hw]
    dsimp only
    rw [if_neg hne, if_neg (by decide), if_pos rfl]
    cases parseBound s.word with
    | error e => rfl
    | ok bound =>
      cases readStopStep close (dropBlanks rest) <;>
        simp [hk, Except.map, bind, Except.bind, pure, Except.pure]
  · have hnext : ∀ slots, (s.addColon slots).reading close (dropBlanks rest) =
        (readStep close (dropBlanks rest)).map fun (step, rest) =>
          (.slice slots[0] slots[1] step, rest) :=
      fun slots => reading_third (s := s.addColon slots) hp (congrArg (· + 1) hk) _
    simp only [hnext]
    rw [reading_second hp hk, readStopStep, hw]
    dsimp only
    rw [if_neg hne, if_pos rfl]
    cases parseBound s.word with
    | error e => rfl
    | ok bound =>
      cases readStep close (dropBlanks rest) <;>
        simp [hk, start, Except.map, bind, Except.bind, pure, Except.pure]

theorem Sound.reading_star (h : s.Sound) (hc : IsCloser close) (hword : s.word = [])
    (hp : s.positions = none) (hk : s.colons = 0) (rest : List Char) :
    s.reading close ('*' :: rest) = match dropBlanks rest with
      | [] => .error .openIndexer
      | d :: rest =>
        if d = close then .ok (.index none, d :: rest) else .error (.unexpectedInIndexer d) := by
  have hne : '*' ≠ close := hc.ne (by decide) (by decide)
  have hw := h.readWord_pending endsWord_star.2 (.inl endsWord_star.1) rest
  rw [reading_first hp hk, readArrayIndexer, hw]
  dsimp only
  rw [if_neg hne, if_neg (by decide), if_neg (by decide), if_pos ⟨rfl, hword⟩]
  rfl

/-- No reader goes on with a character that the loop has no turn for. -/
theorem Sound.reading_other (h : s.Sound) (hb : isBlank c = false) (hclose : c ≠ close)
    (hcomma : ¬(c = ',' ∧ s.colons = 0)) (hcolon : ¬(c = ':' ∧ s.positions = none ∧ s.colons < 2))
    (hstar : ¬(c = '*' ∧ s.word = [] ∧ s.positions = none ∧ s.colons = 0))
    (hchar : ¬(isIndexChar c = true ∧ s.ended = false)) (rest : List Char) :
    s.reading close (c :: rest) = .error (.unexpectedInIndexer c) := by
  have hend : isIndexChar c = false ∨ s.ended = true := by
    cases hi : isIndexChar c with
    | false => exact .inl rfl
    | true => exact .inr (by simpa [hi] using hchar)
  have hw := h.readWord_pending hb hend rest
  obtain ⟨is, hp, hk⟩ | ⟨hp, hk | hk | hk⟩ := h.kinds
  · rw [reading_positions hp, readIndexes_eq, hw]
    dsimp only
    rw [if_neg hclose, if_neg fun hc => hcomma ⟨hc, hk⟩]
    rfl
  · rw [reading_first hp hk, readArrayIndexer, hw]
    dsimp only
    rw [if_neg hclose, if_neg fun hc => hcomma ⟨hc, hk⟩,
      if_neg fun hc => hcolon ⟨hc, hp, by omega⟩, if_neg fun hc => hstar ⟨hc.1, hc.2, hp, hk⟩]
  · rw [reading_second hp hk, readStopStep, hw]
    dsimp only
    rw [if_neg hclose, if_neg fun hc => hcolon ⟨hc, hp, by omega⟩]
    rfl
  · rw [reading_third hp hk, readStep, hw]
    dsimp only
    rw [if_neg hclose]
    rfl

/-! ## Turn by turn -/

/-- What a turn has gathered and left is read as what stood there before it, faults included. -/
theorem Sound.turn_reading (h : s.Sound) (hc : IsCloser close) (cs : List Char) :
    (s.turn close cs >>= fun t => orHalt (t.reading close)) = orHalt (s.reading close cs) := by
  cases cs with
  | nil =>
    rw [h.reading_nil]
    rfl
  | cons c rest =>
    rw [Gathered.turn]
    by_cases hb : isBlank c = true
    · rw [if_pos hb]
      exact congrArg orHalt (reading_congr (h.readWord_blank hb rest) rfl rfl rfl).symm
    rw [if_neg hb]
    by_cases hclose : c = close
    · subst hclose
      rw [if_pos rfl, ← h.reading_close hc]
      cases s.selector <;> rfl
    rw [if_neg hclose]
    by_cases hcomma : c = ',' ∧ s.colons = 0
    · obtain ⟨rfl, hk⟩ := id hcomma
      rw [if_pos hcomma, h.reading_comma hc hk]
      cases parseIndex s.word <;> rfl
    rw [if_neg hcomma]
    by_cases hcolon : c = ':' ∧ s.positions = none ∧ s.colons < 2
    · obtain ⟨rfl, hp, hk⟩ := id hcolon
      rw [if_pos hcolon, h.reading_colon hc hp hk, h.stored_eq]
      cases parseBound s.word <;> rfl
    rw [if_neg hcolon]
    by_cases hstar : c = '*' ∧ s.word = [] ∧ s.positions = none ∧ s.colons = 0
    · obtain ⟨rfl, hword, hp, hk⟩ := id hstar
      rw [if_pos hstar, h.reading_star hc hword hp hk]
      cases dropBlanks rest with
      | nil => rfl
      | cons d rest =>
        by_cases hd : d = close
        · simp only [if_pos hd]
          rfl
        · simp only [if_neg hd]
          rfl
    rw [if_neg hstar]
    by_cases hchar : isIndexChar c = true ∧ s.ended = false
    · rw [if_pos hchar]
      have hw := congrArg readWord (pending_addChar hchar.2 c rest)
      exact congrArg orHalt (reading_congr hw rfl rfl rfl)
    rw [if_neg hchar, h.reading_other (by simpa using hb) hclose hcomma hcolon hstar hchar]
    rfl

end

end Gathered

/-- The loop gives what the readers of the kinds give, and finds every slot. -/
theorem gather_eq {close : Char} (hc : IsCloser close) {s : Gathered} (h : s.Sound)
    (cs : List Char) : gather close s cs = orHalt (s.reading close cs) := by
  fun_induction gather close s cs with
  | case1 s cs e ht =>
    rw [← h.turn_reading hc, ht]
    rfl
  | case2 s cs selector rest ht =>
    rw [← h.turn_reading hc, ht]
    rfl
  | case3 s cs s' rest ht ih =>
    rw [ih (h.turn ht), ← h.turn_reading hc, ht]
    rfl

theorem gather_start {close : Char} (hc : IsCloser close) (cs : List Char) :
    gather close {} cs = orHalt (readArrayIndexer close cs) :=
  gather_eq hc Gathered.sound_start cs

end JsonQuery
