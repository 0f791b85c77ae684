import JsonQuery.Proofs.Progress.Agreement

/-!
# The loop of a path

The loop looks at one character a turn and keeps a name in hand until the name ends. It gives what
the reader of paths gives, which takes a name as a whole: what the loop has in hand always stands
for a text in front of the rest (`Course.reading`).
-/

namespace JsonQuery

open Text

variable [Regex.Engine]

namespace Course

/-- Where the loop stands, in front of the name that may go on. -/
def junction (s : Course) : Junction :=
  if s.behindIndexer then .indexer
  else if s.behindDot then if s.scan then .dots else .dot
  else .start

/-- Where it stands when the name is ended. -/
def before (s : Course) : Junction := if s.name = [] then s.junction else .name

/-- The selectors so far, and those that the name and the rest of the text come to. -/
def reading (q : Bool) (s : Course) (cs : List Char) : Except Halt (Path × List Char) :=
  (settledPath q s.junction (s.name ++ cs)).map fun (more, rest) => (s.path ++ more, rest)

/-- What the loop can have in hand. A dot is taken with the one behind it, so none stands behind a
single dot. -/
structure Sound (q : Bool) (s : Course) (cs : List Char) : Prop where
  name : ∀ c ∈ s.name, isNameChar q c = true
  indexer : s.behindIndexer = true → s.name = [] ∧ s.scan = false ∧ s.behindDot = false
  scan : s.scan = true → s.behindDot = true
  dot : s.behindDot = true → s.scan = false → s.name = [] → cs.head? ≠ some '.'

theorem Sound.start (q : Bool) (cs : List Char) : Sound q {} cs where
  name := nofun
  indexer := nofun
  scan := nofun
  dot := nofun

theorem junction_addDot (s : Course) : s.addDot.junction = if s.scan then .dots else .dot := rfl

theorem endName_name (s : Course) : s.endName.name = [] := by
  unfold endName
  split
  · assumption
  · rfl

section

variable {q : Bool} {s : Course} {cs : List Char}

/-- The marks, junction by junction. -/
theorem Sound.marks (h : s.Sound q cs) :
    (s.junction = .start ∧ s.behindIndexer = false ∧ s.behindDot = false ∧ s.scan = false) ∨
    (s.junction = .dot ∧ s.behindIndexer = false ∧ s.behindDot = true ∧ s.scan = false) ∨
    (s.junction = .dots ∧ s.behindIndexer = false ∧ s.behindDot = true ∧ s.scan = true) ∨
    (s.junction = .indexer ∧ s.behindIndexer = true ∧ s.behindDot = false ∧ s.scan = false) := by
  have hindexer := h.indexer
  have hscan := h.scan
  unfold junction
  cases hi : s.behindIndexer <;> cases hd : s.behindDot <;> cases hs : s.scan <;> simp_all

theorem Sound.junction_scans (h : s.Sound q cs) : s.junction.scans = s.scan := by
  obtain ⟨hj, -, -, hs⟩ | ⟨hj, -, -, hs⟩ | ⟨hj, -, -, hs⟩ | ⟨hj, -, -, hs⟩ := h.marks <;>
    rw [hj, hs] <;> rfl

theorem Sound.before_scans (h : s.Sound q cs) : s.before.scans = s.endName.scan := by
  unfold before endName
  split
  · exact h.junction_scans
  · rfl

theorem Sound.before_isDot (h : s.Sound q cs) :
    s.before.isDot = true ↔ s.name = [] ∧ s.behindDot = true := by
  unfold before
  split
  · next hn =>
    obtain ⟨hj, -, hd, -⟩ | ⟨hj, -, hd, -⟩ | ⟨hj, -, hd, -⟩ | ⟨hj, -, hd, -⟩ := h.marks <;>
      simp [hj, hd, hn, Junction.isDot]
  · next hn => simp [hn, Junction.isDot]

/-- Where a name cannot go on, it has become a selector. -/
theorem Sound.reading_endName (h : s.Sound q cs) (hcs : Ends (isNameChar q) cs) :
    s.reading q cs =
      (settledPath q s.before cs).map fun (more, rest) => (s.endName.path ++ more, rest) := by
  unfold reading before endName
  by_cases hn : s.name = []
  · simp [hn]
  have hj : s.junction ≠ .indexer := by
    obtain ⟨hj, -⟩ | ⟨hj, -⟩ | ⟨hj, -⟩ | ⟨-, hi, -⟩ := h.marks
    · simp [hj]
    · simp [hj]
    · simp [hj]
    · exact absurd (h.indexer hi).1 hn
  rw [settledPath_name hn hj h.name hcs, h.junction_scans, if_neg hn, if_neg hn]
  cases settledPath q .name cs <;> simp [Except.map]

theorem reading_addChar (c : Char) : (s.addChar c).reading q cs = s.reading q (c :: cs) := by
  rw [reading, reading, List.append_cons]
  rfl

end

/-! ### The state behind a turn -/

section

variable {q : Bool} {s s' : Course} {cs rest : List Char}

/-- What a turn leaves in hand is sound, whatever the indexers in it are. -/
theorem Sound.turn_again {read : ChainReader} (h : s.Sound q cs)
    (ht : s.turn read q cs = .ok (.again s' rest)) : s'.Sound q rest := by
  have hempty := endName_name s
  obtain ⟨c, tail, here, mid, -, -, rfl, -⟩ | ⟨-, rfl⟩ | ⟨-, hhead, rfl⟩ | ⟨c, -, hc, hi, rfl⟩ :=
    turn_eq_again ht
  · exact ⟨by simp [addIndexer, hempty], fun _ => ⟨hempty, rfl, rfl⟩, nofun, nofun⟩
  · exact ⟨by simp [addDots, addDot, hempty], nofun, fun _ => rfl, nofun⟩
  · exact ⟨by simp [addDot, hempty], nofun, fun _ => rfl, fun _ _ _ => hhead⟩
  · refine ⟨?_, fun hi' => by simp [addChar, hi] at hi', h.scan, fun _ _ hn => ?_⟩
    · intro d hd
      obtain hd | rfl : d ∈ s.name ∨ d = c := by simpa [addChar] using hd
      · exact h.name d hd
      · exact hc
    · simp [addChar] at hn

end

/-! ### What a turn finds -/

section

variable {q : Bool} {s : Course} {cs rest : List Char}

theorem Sound.finish_eq (h : s.Sound q cs) (atEnd : Bool) :
    s.finish q atEnd = if s.before.isDot && (atEnd || q) then .error (.fault .unexpectedEnd)
      else .ok s.endName.path := by
  have hdot := h.before_isDot
  unfold finish
  by_cases hn : s.name = [] ∧ s.behindDot = true
  · simp [hn, hdot.2 hn]
  · have hb : s.before.isDot = false := by simpa using fun hd => hn (hdot.1 hd)
    rw [if_neg fun hall => hn ⟨hall.1, hall.2.1⟩, hb]
    rfl

theorem Sound.reading_nil (h : s.Sound q []) :
    s.reading q [] = (s.finish q true).map fun path => (path, []) := by
  rw [h.reading_endName nofun, settledPath_nil, h.finish_eq, Bool.true_or, Bool.and_true]
  split <;> simp [Except.map]

theorem Sound.reading_end {c : Char} (h : s.Sound q (c :: rest)) (hc : endsPath q c = true) :
    s.reading q (c :: rest) = (s.finish q false).map fun path => (path, c :: rest) := by
  have hcs : isNameChar q c = false := by simp [isNameChar, hc]
  rw [h.reading_endName (ends_cons.2 hcs), settledPath_end hc, h.finish_eq, Bool.false_or]
  split <;> simp [Except.map]

theorem Sound.reading_bracket {c : Char} (h : s.Sound q (c :: rest)) (hc : c = '[' ∨ c = '(') :
    s.reading q (c :: rest) =
      readIndexer settledChain (closing c) s.endName.scan rest >>= fun (here, mid) =>
        (s.endName.addIndexer here).reading q (mid.drop 1) := by
  have hcs : isNameChar q c = false := by rcases hc with rfl | rfl <;> rfl
  rw [h.reading_endName (ends_cons.2 hcs), settledPath_bracket hc, h.before_scans]
  cases readIndexer settledChain (closing c) s.endName.scan rest with
  | error e => rfl
  | ok found =>
    obtain ⟨here, mid⟩ := found
    simp only [bind, Except.bind, reading, addIndexer, endName_name, List.nil_append, junction,
      if_true]
    cases settledPath q .indexer (mid.drop 1) <;> simp [Except.map]

/-- The second of two dots is taken with the first one, so a single one is the first. -/
theorem Sound.before_addDot (h : s.Sound q ('.' :: rest)) :
    s.before.addDot = s.endName.addDot.junction := by
  rw [junction_addDot]
  unfold before endName
  split
  · next hn =>
    obtain ⟨hj, -, -, hs⟩ | ⟨-, -, hd, hs⟩ | ⟨hj, -, -, hs⟩ | ⟨hj, -, -, hs⟩ := h.marks
    · rw [hj, hs]
      rfl
    · exact absurd rfl (h.dot hd hs hn)
    · rw [hj, hs]
      rfl
    · rw [hj, hs]
      rfl
  · rfl

theorem Sound.reading_dot (h : s.Sound q ('.' :: rest)) :
    s.reading q ('.' :: rest) = s.endName.addDot.reading q rest := by
  have hcs : isNameChar q '.' = false := by cases q <;> rfl
  rw [h.reading_endName (ends_cons.2 hcs), settledPath_dot, h.before_addDot, reading,
    addDot, endName_name, List.nil_append]

theorem Sound.reading_dots (h : s.Sound q ('.' :: '.' :: rest)) :
    s.reading q ('.' :: '.' :: rest) = s.endName.addDots.reading q rest := by
  have hcs : isNameChar q '.' = false := by cases q <;> rfl
  have hdots : s.before.addDot.addDot = .dots := by cases s.before <;> rfl
  rw [h.reading_endName (ends_cons.2 hcs), settledPath_dot, settledPath_dot, hdots, reading,
    addDots, addDot, endName_name, List.nil_append]
  rfl

theorem Sound.reading_nameAfterIndexer {c : Char} (h : s.Sound q (c :: rest))
    (hi : s.behindIndexer = true) (hc : isNameChar q c = true) :
    s.reading q (c :: rest) = .error (.fault (.nameAfterIndexer c)) := by
  rw [reading, (h.indexer hi).1, List.nil_append, junction, if_pos hi,
    settledPath_nameAfterIndexer hc]
  rfl

end

/-! ### A turn -/

theorem turn_reading {read : ChainReader} {n : Nat} (hagree : AgreeBelow n read settledChain)
    {q : Bool} {s : Course} {cs : List Char} (h : s.Sound q cs) (hn : cs.length ≤ n) :
    s.reading q cs = s.turn read q cs >>= Round.reading (reading q) := by
  unfold turn
  cases cs with
  | nil =>
    rw [h.reading_nil]
    cases s.finish q true <;> rfl
  | cons c rest =>
    dsimp only
    by_cases hbracket : c = '[' ∨ c = '('
    · rw [h.reading_bracket hbracket, if_pos hbracket,
        readIndexer_congr hagree (Nat.le_of_succ_le hn)]
      cases readIndexer settledChain (closing c) s.endName.scan rest <;> rfl
    by_cases hend : endsPath q c = true
    · rw [h.reading_end hend, if_neg hbracket, if_pos hend]
      cases s.finish q false <;> rfl
    rw [if_neg hbracket, if_neg hend]
    by_cases hdot : c = '.'
    · subst hdot
      rw [if_pos rfl]
      split
      · exact h.reading_dots
      · exact h.reading_dot
    rw [if_neg hdot]
    have hc : isNameChar q c = true := isNameChar_iff.2 (by simp_all)
    by_cases hi : s.behindIndexer = true
    · rw [if_pos hi, h.reading_nameAfterIndexer hi hc]
      rfl
    · rw [if_neg hi]
      exact (reading_addChar c).symm

theorem reading_start (q : Bool) (cs : List Char) : reading q {} cs = settledPath q .start cs := by
  change Except.map _ (settledPath q .start cs) = _
  cases settledPath q .start cs <;> rfl

end Course

theorem pathLoop_agrees {chains : SuffixReader Chain} {n : Nat}
    (h : AgreeBelow n chains.read settledChain) (q : Bool) :
    AgreeBelow (n + 1) ((pathLoop q chains).run {}) (settledPath q .start) := by
  intro cs hn
  have hrun : (pathLoop q chains).run {} cs = Course.reading q {} cs := by
    refine (pathLoop q chains).run_eq (fun s cs => s.Sound q cs ∧ cs.length ≤ n)
      (Course.reading q) ?_ (fun ⟨hs, hle⟩ => Course.turn_reading h hs hle)
      ⟨.start q cs, Nat.le_of_lt_succ hn⟩
    intro s s' cs rest ⟨hs, hle⟩ ht
    have hrest := ((pathLoop q chains).consumes ht).shorter
    exact ⟨hs.turn_again ht, by omega⟩
  rw [hrun, Course.reading_start]

/-! ## Paths inside paths -/

/-- A condition stands behind a character of its path and a path behind a character of its
condition, so each level is enough for texts that are longer by two. -/
theorem nested_agrees (depth : Nat) (q : Bool) :
    AgreeBelow (2 * depth + 2) (nested depth q).read (settledPath q .start) := by
  induction depth generalizing q with
  | zero =>
    have hnone : AgreeBelow 0 SuffixReader.exhausted.read (settledPath true .start) :=
      fun _ h => absurd h (Nat.not_lt_zero _)
    exact pathLoop_agrees (testsLoop_agrees hnone) q
  | succ depth ih => exact pathLoop_agrees (testsLoop_agrees (ih true)) q

/-- Paths stand inside each other no deeper than the text has characters. -/
theorem nested_eq {depth : Nat} (q : Bool) {cs : List Char} (h : cs.length ≤ depth) :
    (nested depth q).read cs = settledPath q .start cs :=
  nested_agrees depth q cs (by omega)

end JsonQuery
