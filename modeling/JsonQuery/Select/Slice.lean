import JsonQuery.Number.Basic

/-!
# Slices

The positions that a start, a stop and a step select from an array. Bounds below zero count from the
end, and bounds beyond the array are moved to its ends; a step below zero walks backwards. Positions
are words, and a sum that is no word ends the slice.
-/

namespace JsonQuery.Slice

/-- A bound counted from the front. -/
def fromFront (length : Nat) (bound : Int) : Int := if bound < 0 then bound + length else bound

/-- Where a slice begins. -/
def first (length : Nat) (start : Option Int) (step : Int) : Int :=
  if 0 < step then
    match start with
    | none => 0
    | some bound => min (max (fromFront length bound) 0) length
  else
    match start with
    | none => length - 1
    | some bound => min (fromFront length bound) (length - 1)

/-- The position that a slice does not reach. -/
def limit (length : Nat) (stop : Option Int) (step : Int) : Int :=
  match stop with
  | none => if 0 < step then length else -1
  | some bound => min (max (fromFront length bound) (-1)) length

/-- The next position, if it is a word. -/
def advance? (position step : Int) : Option Int :=
  if InWord (position + step) then some (position + step) else none

/-- The positions from one on until the limit is reached, at most so many. -/
def walk (limit step : Int) : (rounds : Nat) → (position : Int) → List Nat
  | 0, _ => []
  | rounds + 1, position =>
    if (0 < step ∧ position < limit) ∨ (¬ 0 < step ∧ limit < position) then
      position.toNat :: match advance? position step with
        | some next => walk limit step rounds next
        | none => []
    else []

/-- An array has no more positions than elements, and no position comes twice. -/
def positions (length : Nat) (start stop : Option Int) (step : Int) : List Nat :=
  walk (limit length stop step) step length (first length start step)

end JsonQuery.Slice
