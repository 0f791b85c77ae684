import JsonQuery.Number.Basic
import JsonQuery.Path.Basic
import JsonQuery.Path.Quoted
import JsonQuery.Text.CodeRange

/-!
# Array indexers and lists of names

What stands in brackets and is no condition: positions separated by commas, the parts of a slice
separated by colons, a star, or names in quotes separated by commas. Readers start behind the
opening bracket and leave the closing one. Blanks may stand around positions and names, but not
inside a position.
-/

namespace JsonQuery

open Text

def isIndexChar (c : Char) : Bool := c.isDigit || c == '-'

/-- The characters of a position, none if there is none, and what follows the blanks behind them. -/
def readWord (cs : List Char) : List Char × List Char :=
  (cs.takeWhile isIndexChar, dropBlanks (cs.dropWhile isIndexChar))

theorem readWord_length (cs : List Char) : (readWord cs).2.length ≤ cs.length :=
  Nat.le_trans (dropBlanks_length_le _) (List.dropWhile_suffix _).length_le

/-- A position that has to be there. -/
def parseIndex (word : List Char) : Except PathError Int :=
  if word = [] then .error .indexExpected
  else
    match intOfText? word with
    | some i => if InWord i then .ok i else .error (.invalidNumber (String.ofList word))
    | none => .error (.invalidNumber (String.ofList word))

/-- A part of a slice, which may be missing. -/
def parseBound (word : List Char) : Except PathError (Option Int) :=
  if word = [] then .ok none else (parseIndex word).map some

/-- The positions behind a comma. -/
def readIndexes (close : Char) (cs : List Char) : Except PathError (List Int × List Char) := do
  match _h : readWord cs with
  | (_, []) => .error .openIndexer
  | (word, c :: rest) =>
    if c = close then return ([← parseIndex word], c :: rest)
    else if c = ',' then
      let i ← parseIndex word
      let (more, rest) ← readIndexes close (dropBlanks rest)
      return (i :: more, rest)
    else .error (.unexpectedInIndexer c)
termination_by cs.length
decreasing_by
  have hw := readWord_length cs
  rw [_h] at hw
  have hb := dropBlanks_length_le rest
  simp only [List.length_cons] at hw
  omega

/-- The last part of a slice. -/
def readStep (close : Char) (cs : List Char) : Except PathError (Option Int × List Char) := do
  match readWord cs with
  | (_, []) => .error .openIndexer
  | (word, c :: rest) =>
    if c = close then return (← parseBound word, c :: rest)
    else .error (.unexpectedInIndexer c)

/-- The parts of a slice behind its first colon. -/
def readStopStep (close : Char) (cs : List Char) :
    Except PathError ((Option Int × Option Int) × List Char) := do
  match readWord cs with
  | (_, []) => .error .openIndexer
  | (word, c :: rest) =>
    if c = close then return ((← parseBound word, none), c :: rest)
    else if c = ':' then
      let stop ← parseBound word
      let (step, rest) ← readStep close (dropBlanks rest)
      return ((stop, step), rest)
    else .error (.unexpectedInIndexer c)

/-- Positions, a slice or a star. -/
def readArrayIndexer [Regex.Engine] (close : Char) (cs : List Char) :
    Except PathError (Selector × List Char) := do
  match readWord cs with
  | (_, []) => .error .openIndexer
  | (word, c :: rest) =>
    if c = close then return (.index (some (← parseIndex word)), c :: rest)
    else if c = ',' then
      let i ← parseIndex word
      let (more, rest) ← readIndexes close (dropBlanks rest)
      return (.indexes (i :: more), rest)
    else if c = ':' then
      let start ← parseBound word
      let ((stop, step), rest) ← readStopStep close (dropBlanks rest)
      return (.slice start stop step, rest)
    else if c = '*' ∧ word = [] then
      match dropBlanks rest with
      | [] => .error .openIndexer
      | d :: rest =>
        if d = close then return (.index none, d :: rest) else .error (.unexpectedInIndexer d)
    else .error (.unexpectedInIndexer c)

/-- Names in quotes, at least one. -/
def readNames (close : Char) (cs : List Char) : Except PathError (List String × List Char) := do
  match cs with
  | [] => .error .openIndexer
  | quote :: rest =>
    if quote ≠ '\'' then .error (.unexpectedInIndexer quote)
    else
      match _h : readQuoted rest with
      | .error e => .error e
      | .ok (name, afterName) =>
        match _hb : dropBlanks afterName with
        | [] => .error .openIndexer
        | c :: rest =>
          if c = close then return ([String.ofList name], c :: rest)
          else if c = ',' then
            let (more, rest) ← readNames close (dropBlanks rest)
            return (String.ofList name :: more, rest)
          else .error (.unexpectedInIndexer c)
termination_by cs.length
decreasing_by
  have hq := readQuoted_length _h
  have hb := dropBlanks_length_le afterName
  rw [_hb] at hb
  have := dropBlanks_length_le rest
  simp only [List.length_cons] at hb ⊢
  omega

end JsonQuery
