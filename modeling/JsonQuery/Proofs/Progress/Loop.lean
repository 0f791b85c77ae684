import JsonQuery.Proofs.Progress.Readers

/-!
# Loops

A loop takes turns on a text. A turn ends the loop or consumes characters before the next one, so
there are no more turns than characters and a last one: the loop ends on every text.
-/

namespace JsonQuery

/-- What a turn comes to. -/
inductive Round (σ α : Type)
  | done (x : α) (rest : List Char)
  | again (s : σ) (rest : List Char)

def Round.rest {σ α : Type} : Round σ α → List Char
  | .done _ rest => rest
  | .again _ rest => rest

/-- What is read in the end, where `reading` says it of a loop that goes on. -/
def Round.reading {ε σ α : Type} (reading : σ → List Char → Except ε (α × List Char)) :
    Round σ α → Except ε (α × List Char)
  | .done x rest => .ok (x, rest)
  | .again s rest => reading s rest

/-- A turn that goes on has read at least one character. -/
def Consumes {ε σ α : Type} (turn : σ → List Char → Except ε (Round σ α)) : Prop :=
  ∀ ⦃s s' cs rest⦄, turn s cs = .ok (.again s' rest) → ProperSuffix rest cs

/-- The turns of a loop, with the proof that each of them consumes or is the last. -/
structure Loop (ε σ α : Type) where
  turn : σ → List Char → Except ε (Round σ α)
  consumes : Consumes turn
  leaves : ∀ {s x cs rest}, turn s cs = .ok (.done x rest) → rest <:+ cs

namespace Loop

variable {ε σ α : Type} (loop : Loop ε σ α)

def run (s : σ) (cs : List Char) : Except ε (α × List Char) :=
  match _h : loop.turn s cs with
  | .error e => .error e
  | .ok (.done x rest) => .ok (x, rest)
  | .ok (.again s rest) => run s rest
termination_by cs.length
decreasing_by exact (loop.consumes _h).shorter

theorem run_leavesSuffix (s : σ) : LeavesSuffix (loop.run s) := by
  intro cs x rest h
  fun_induction loop.run s cs with
  | case1 => cases h
  | case2 s cs x' rest' ht =>
    cases h
    exact loop.leaves ht
  | case3 s cs s' rest' ht ih => exact (ih h).trans (loop.consumes ht).suffix

/-- What the loop comes to if it ends within so many turns. -/
def within : (turns : Nat) → σ → List Char → Option (Except ε (α × List Char))
  | 0, _, _ => none
  | turns + 1, s, cs =>
    match loop.turn s cs with
    | .error e => some (.error e)
    | .ok (.done x rest) => some (.ok (x, rest))
    | .ok (.again s rest) => within turns s rest

/-- All turns but the last consume a character, so there is at most one more than there are
characters. -/
theorem within_eq_run {turns : Nat} {s : σ} {cs : List Char} (h : cs.length < turns) :
    loop.within turns s cs = some (loop.run s cs) := by
  induction turns generalizing s cs with
  | zero => exact absurd h (Nat.not_lt_zero _)
  | succ turns ih =>
    rw [within, run]
    split
    · next ht =>
      rw [ht]
    · next ht =>
      rw [ht]
    · next s' rest ht =>
      have hrest := (loop.consumes ht).shorter
      rw [ht, ih (by omega)]

/-- A loop reads what every turn keeps to be read. -/
theorem run_eq (Sound : σ → List Char → Prop) (reading : σ → List Char → Except ε (α × List Char))
    (hsound : ∀ {s s' cs rest}, Sound s cs → loop.turn s cs = .ok (.again s' rest) → Sound s' rest)
    (hturn : ∀ {s cs}, Sound s cs → reading s cs = loop.turn s cs >>= Round.reading reading)
    {s : σ} {cs : List Char} (h : Sound s cs) : loop.run s cs = reading s cs := by
  fun_induction loop.run s cs with
  | case1 s cs e ht =>
    rw [hturn h, ht]
    rfl
  | case2 s cs x rest ht =>
    rw [hturn h, ht]
    rfl
  | case3 s cs s' rest ht ih =>
    rw [ih (hsound h ht), hturn h, ht]
    rfl

end Loop

/-- A reader with the proof that it leaves what it does not read as it is. -/
structure SuffixReader (α : Type) where
  read : List Char → Except Halt (α × List Char)
  leaves : LeavesSuffix read

/-- Reads nothing, having no steps to read it with. -/
def SuffixReader.exhausted {α : Type} : SuffixReader α := ⟨fun _ => .error .exhausted, nofun⟩

def Loop.reader {σ α : Type} (loop : Loop Halt σ α) (s : σ) : SuffixReader α :=
  ⟨loop.run s, loop.run_leavesSuffix s⟩

end JsonQuery
