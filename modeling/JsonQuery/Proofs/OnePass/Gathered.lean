import JsonQuery.Proofs.Grammar.Indexer

/-!
# Array indexers in one pass

One loop can read an array indexer of every kind. It looks at one character a turn and gathers the
word in front of it, the positions in front of commas, the number of colons and, in three slots, the
parts of a slice; of which kind the indexer is shows on the way. Every turn consumes a character. A
turn may fail to find the slot that it writes to; in the states that the loop can reach
(`Gathered.Sound`) the slot is there.
-/

namespace JsonQuery

open Text

/-- What the loop has gathered. -/
structure Gathered where
  word : List Char := []
  /-- Blanks stand behind the word, so it does not go on. -/
  ended : Bool := false
  positions : Option (List Int) := none
  colons : Nat := 0
  slots : Vector (Option Int) 3 := #v[none, none, none]

/-- Why the loop has no selector. -/
inductive IndexerHalt
  | fault (e : PathError)
  | noSlot

def orHalt {α : Type} (r : Except PathError α) : Except IndexerHalt α := r.mapError .fault

namespace Gathered

def addChar (s : Gathered) (c : Char) : Gathered := { s with word := s.word ++ [c] }

def endWord (s : Gathered) : Gathered := { s with ended := true }

def addPosition (s : Gathered) (i : Int) : Gathered :=
  { s with word := [], ended := false, positions := some (s.positions.getD [] ++ [i]) }

def addColon (s : Gathered) (slots : Vector (Option Int) 3) : Gathered :=
  { s with word := [], ended := false, colons := s.colons + 1, slots := slots }

/-- The slots with the word, if there is one, in the slot behind the colons so far. -/
def stored (s : Gathered) : Except IndexerHalt (Vector (Option Int) 3) := do
  if s.word = [] then return s.slots
  else
    let i ← orHalt (parseIndex s.word)
    if h : s.colons < 3 then return s.slots.set s.colons (some i) else .error .noSlot

/-- The part of a slice in front of the first colon. -/
def start (s : Gathered) : Option Int := s.slots[0]

/-- The part of a slice in front of the second colon. -/
def stop (s : Gathered) : Option Int := s.slots[1]

/-! ## What the loop can have gathered -/

/-- Positions and parts of a slice are not gathered together, and the slots are filled in order. -/
structure Sound (s : Gathered) : Prop where
  word : ∀ c ∈ s.word, isIndexChar c = true
  oneKind : s.positions = none ∨ s.colons = 0
  colons : s.colons < 3
  unfilled : ∀ i (hi : i < 3), s.colons ≤ i → s.slots[i] = none

theorem sound_start : Sound {} where
  word := nofun
  oneKind := .inl rfl
  colons := by decide
  unfilled := by
    intro i hi hle
    obtain rfl | rfl | rfl : i = 0 ∨ i = 1 ∨ i = 2 := by omega
    · rfl
    · rfl
    · rfl

/-- The slot for the word is there, and a missing word leaves it empty. -/
theorem Sound.stored_eq {s : Gathered} (h : s.Sound) : s.stored =
    orHalt ((parseBound s.word).map fun bound => s.slots.set s.colons bound h.colons) := by
  have hslot := h.colons
  unfold stored parseBound
  by_cases hw : s.word = []
  · have hempty : s.slots[s.colons] = none := h.unfilled _ hslot (Nat.le_refl _)
    have hset : s.slots.set s.colons none h.colons = s.slots := by
      rw [← hempty, Vector.set_getElem_self]
    rw [if_pos hw, if_pos hw, Except.map, hset]
    rfl
  · rw [if_neg hw, if_neg hw]
    cases parseIndex s.word with
    | error e => rfl
    | ok i => exact dif_pos hslot

theorem Sound.addColon {s : Gathered} {slots : Vector (Option Int) 3} (h : s.Sound)
    (hp : s.positions = none) (hk : s.colons < 2) (hstored : s.stored = .ok slots) :
    (s.addColon slots).Sound := by
  refine ⟨nofun, .inl hp, Nat.succ_lt_succ hk, ?_⟩
  rw [h.stored_eq] at hstored
  cases hbound : parseBound s.word with
  | error e =>
    rw [hbound] at hstored
    cases hstored
  | ok bound =>
    rw [hbound] at hstored
    cases hstored
    intro i hi hle
    have hlt : s.colons < i := hle
    change (s.slots.set s.colons bound h.colons)[i] = none
    rw [Vector.getElem_set_ne _ _ (Nat.ne_of_lt hlt)]
    exact h.unfilled i hi (Nat.le_of_lt hlt)

theorem Sound.kinds {s : Gathered} (h : s.Sound) :
    (∃ is, s.positions = some is ∧ s.colons = 0) ∨
      (s.positions = none ∧ (s.colons = 0 ∨ s.colons = 1 ∨ s.colons = 2)) := by
  have hcolons := h.colons
  cases hp : s.positions with
  | some is => exact .inl ⟨is, rfl, h.oneKind.resolve_left (by simp [hp])⟩
  | none => exact .inr ⟨rfl, by omega⟩

end Gathered

/-! ## Turn after turn -/

variable [Regex.Engine]

inductive Turn
  | done (selector : Selector) (rest : List Char)
  | again (s : Gathered) (rest : List Char)

namespace Gathered

/-- The selector at the closing bracket. -/
def selector (s : Gathered) : Except IndexerHalt Selector := do
  match s.positions with
  | some is => return .indexes (is ++ [← orHalt (parseIndex s.word)])
  | none =>
    if s.colons = 0 then return .index (some (← orHalt (parseIndex s.word)))
    else
      let slots ← s.stored
      return .slice slots[0] slots[1] slots[2]

/-- One turn. Blanks that stand together are taken together. -/
def turn (close : Char) (s : Gathered) : List Char → Except IndexerHalt Turn
  | [] => .error (.fault .openIndexer)
  | c :: rest => do
    if isBlank c then return .again s.endWord (dropBlanks rest)
    else if c = close then return .done (← s.selector) (c :: rest)
    else if c = ',' ∧ s.colons = 0 then
      return .again (s.addPosition (← orHalt (parseIndex s.word))) (dropBlanks rest)
    else if c = ':' ∧ s.positions = none ∧ s.colons < 2 then
      return .again (s.addColon (← s.stored)) (dropBlanks rest)
    else if c = '*' ∧ s.word = [] ∧ s.positions = none ∧ s.colons = 0 then
      match dropBlanks rest with
      | [] => .error (.fault .openIndexer)
      | d :: rest =>
        if d = close then return .done (.index none) (d :: rest)
        else .error (.fault (.unexpectedInIndexer d))
    else if isIndexChar c ∧ s.ended = false then return .again (s.addChar c) rest
    else .error (.fault (.unexpectedInIndexer c))

/-- What a turn that goes on has consumed and gathered. -/
theorem turn_eq_again {close : Char} {s s' : Gathered} {cs rest' : List Char}
    (h : s.turn close cs = .ok (.again s' rest')) : ∃ c rest, cs = c :: rest ∧
      ((s' = s.endWord ∧ rest' = dropBlanks rest) ∨
      (∃ i, s.colons = 0 ∧ s' = s.addPosition i ∧ rest' = dropBlanks rest) ∨
      (∃ slots, s.positions = none ∧ s.colons < 2 ∧ s.stored = .ok slots ∧
        s' = s.addColon slots ∧ rest' = dropBlanks rest) ∨
      (isIndexChar c = true ∧ s' = s.addChar c ∧ rest' = rest)) := by
  cases cs with
  | nil => cases h
  | cons c rest =>
    refine ⟨c, rest, rfl, ?_⟩
    rw [turn] at h
    split at h
    · cases h
      exact .inl ⟨rfl, rfl⟩
    split at h
    · obtain ⟨selector, -, he⟩ := bind_eq_ok.1 h
      cases he
    split at h
    · next hcomma =>
      obtain ⟨i, -, he⟩ := bind_eq_ok.1 h
      cases he
      exact .inr (.inl ⟨i, hcomma.2, rfl, rfl⟩)
    split at h
    · next hcolon =>
      obtain ⟨slots, hslots, he⟩ := bind_eq_ok.1 h
      cases he
      exact .inr (.inr (.inl ⟨slots, hcolon.2.1, hcolon.2.2, hslots, rfl, rfl⟩))
    split at h
    · split at h
      · cases h
      · split at h <;> cases h
    split at h
    · next hchar =>
      cases h
      exact .inr (.inr (.inr ⟨hchar.1, rfl, rfl⟩))
    · cases h

theorem turn_length {close : Char} {s s' : Gathered} {cs rest : List Char}
    (h : s.turn close cs = .ok (.again s' rest)) : rest.length < cs.length := by
  obtain ⟨c, tail, rfl, hcase⟩ := turn_eq_again h
  have hblanks := dropBlanks_length_le tail
  rw [List.length_cons]
  obtain ⟨-, rfl⟩ | ⟨i, -, -, rfl⟩ | ⟨slots, -, -, -, -, rfl⟩ | ⟨-, -, rfl⟩ := hcase <;> omega

theorem Sound.turn {close : Char} {s s' : Gathered} {cs rest : List Char} (h : s.Sound)
    (ht : s.turn close cs = .ok (.again s' rest)) : s'.Sound := by
  obtain ⟨c, tail, -, hcase⟩ := turn_eq_again ht
  obtain ⟨rfl, -⟩ | ⟨i, hk, rfl, -⟩ | ⟨slots, hp, hk, hstored, rfl, -⟩ | ⟨hc, rfl, -⟩ := hcase
  · exact ⟨h.word, h.oneKind, h.colons, h.unfilled⟩
  · exact ⟨nofun, .inr hk, h.colons, h.unfilled⟩
  · exact h.addColon hp hk hstored
  · refine ⟨?_, h.oneKind, h.colons, h.unfilled⟩
    intro d hd
    obtain hd | hd := List.mem_append.1 hd
    · exact h.word d hd
    · rw [List.mem_singleton.1 hd]
      exact hc

end Gathered

/-- Turn after turn, up to the selector or a fault. -/
def gather (close : Char) (s : Gathered) (cs : List Char) :
    Except IndexerHalt (Selector × List Char) :=
  match _h : s.turn close cs with
  | .error e => .error e
  | .ok (.done selector rest) => .ok (selector, rest)
  | .ok (.again s rest) => gather close s rest
termination_by cs.length
decreasing_by exact Gathered.turn_length _h

end JsonQuery
