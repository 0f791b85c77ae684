import JsonQuery.Path.Indexer
import JsonQuery.Path.Literal

/-!
# Reading of paths

Paths and conditions contain each other, so their readers take an allowance of steps. The length of
the text is enough for a path, since every step reads a character; running out is an outcome of its
own. The text of a path as a whole has blanks around it, the marker of the document in front of it,
and nothing behind it that does not belong to it.
-/

namespace JsonQuery

open Text

/-! ## Places inside a path -/

/-- What stands in front of the reader inside a path. -/
inductive Junction
  | start
  | name
  | dot
  | dots
  | indexer
deriving DecidableEq, Repr

namespace Junction

/-- Two dots or more make the selector that follows look at everything below. -/
def scans (j : Junction) : Bool := j = .dots

/-- A path does not end with a dot. -/
def isDot (j : Junction) : Bool := j = .dot ∨ j = .dots

/-- The junction behind one more dot. -/
def addDot (j : Junction) : Junction := if j.isDot then .dots else .dot

end Junction

/-- The characters that end a path; in a condition the operators end it too. -/
def endsPath (inQuery : Bool) (c : Char) : Bool :=
  c == ']' || c == ')' || isBlank c ||
    inQuery && (c == '=' || c == '<' || c == '!' || c == '>' || c == '|' || c == '&')

/-- The characters of a name without quotes. -/
def isNameChar (inQuery : Bool) (c : Char) : Bool :=
  !(c == '[' || c == '(' || c == '.' || endsPath inQuery c)

/-- The bracket that closes an opening one. -/
def closing (c : Char) : Char := if c = '[' then ']' else ')'

/-! ## Readers -/

variable [Regex.Engine]

/-- Why a reader has no answer. -/
inductive Halt
  | fault (e : PathError)
  | exhausted
deriving DecidableEq, Repr

/-- A reader of paths, for the readers of what contains them. -/
abbrev PathReader := List Char → Except Halt (Path × List Char)

def orFault {α : Type} (r : Except PathError α) : Except Halt α := r.mapError .fault

/-- Tests, each but the last with the connective behind it. -/
structure Chain where
  tests : List (Condition × Connective)
  last : Condition

abbrev ChainReader := List Char → Except Halt (Chain × List Char)

def Chain.condition (chain : Chain) : Condition := Condition.group chain.tests chain.last

/-- A path from the document or from the candidate, or a literal. -/
def readSide (readPath : PathReader) : List Char → Except Halt (Operand × List Char)
  | '$' :: rest => (readPath rest).map fun (path, rest) => (.path (.root :: path), rest)
  | '@' :: rest => (readPath rest).map fun (path, rest) => (.path path, rest)
  | cs => orFault (readLiteral cs)

/-- One side of a test, blanks around it aside. Something has to follow it. -/
def readOperand (readPath : PathReader) (cs : List Char) : Except Halt (Operand × List Char) := do
  let (operand, rest) ← readSide readPath (dropBlanks cs)
  match dropBlanks rest with
  | [] => .error (.fault .openQuery)
  | rest => return (operand, rest)

/-- A comparison, or an operand alone, which has to be present. -/
def readTest (readPath : PathReader) (cs : List Char) : Except Halt (Condition × List Char) := do
  let (left, rest) ← readOperand readPath cs
  match rest with
  | ')' :: _ | '|' :: _ | '&' :: _ => return (.test .present left none, rest)
  | _ => do
    let (operator, rest) ← orFault (readOperator rest)
    let (right, rest) ← readOperand readPath rest
    return (.test operator left (some right), rest)

/-- A condition from behind its question mark up to the bracket that closes the indexer. -/
def readFilter (readChain : ChainReader) (close : Char) (scan : Bool)
    (cs : List Char) : Except Halt (Selector × List Char) := do
  match cs with
  | [] => .error (.fault .openIndexer)
  | c :: rest =>
    if c ≠ '(' then .error (.fault (.unexpectedInIndexer c))
    else
      let (chain, rest) ← readChain rest
      match dropBlanks (rest.drop 1) with
      | [] => .error (.fault .openIndexer)
      | d :: rest =>
        if d = close then
          let condition := chain.condition
          return (if scan then .scanFilter condition else .filter condition, d :: rest)
        else .error (.fault (.unexpectedInIndexer d))

/-- What stands in brackets, up to the closing one. An array indexer behind two dots selects from
every node below. -/
def readIndexer (readChain : ChainReader) (close : Char) (scan : Bool)
    (cs : List Char) : Except Halt (Path × List Char) := do
  match dropBlanks cs with
  | [] => .error (.fault .openIndexer)
  | '\'' :: rest =>
    let (names, rest) ← orFault (readNames close ('\'' :: rest))
    return ([.members scan names], rest)
  | '?' :: rest =>
    let (selector, rest) ← readFilter readChain close scan rest
    return ([selector], rest)
  | cs =>
    let (selector, rest) ← orFault (readArrayIndexer close cs)
    return (if scan then [.scan none, selector] else [selector], rest)

mutual

/-- The selectors of a path up to its end, which a condition has at an operator too. -/
def readPath : (allowance : Nat) → (inQuery : Bool) → Junction → List Char →
    Except Halt (Path × List Char)
  | _, _, before, [] => if before.isDot then .error (.fault .unexpectedEnd) else .ok ([], [])
  | 0, _, _, _ :: _ => .error .exhausted
  | allowance + 1, inQuery, before, c :: rest =>
    if c = '[' ∨ c = '(' then do
      let (selectors, rest) ← readIndexer (readChain allowance) (closing c) before.scans rest
      let (more, rest) ← readPath allowance inQuery .indexer (rest.drop 1)
      return (selectors ++ more, rest)
    else if endsPath inQuery c then
      if before.isDot && inQuery then .error (.fault .unexpectedEnd) else .ok ([], c :: rest)
    else if c = '.' then readPath allowance inQuery before.addDot rest
    else if before = .indexer then .error (.fault (.nameAfterIndexer c))
    else do
      let name := c :: rest.takeWhile (isNameChar inQuery)
      let (more, rest) ← readPath allowance inQuery .name (rest.dropWhile (isNameChar inQuery))
      return (.member before.scans (String.ofList name) :: more, rest)

/-- The tests of a condition up to its closing parenthesis. -/
def readChain : (allowance : Nat) → List Char → Except Halt (Chain × List Char)
  | 0, _ => .error .exhausted
  | allowance + 1, cs => do
    let (test, rest) ← readTest (readPath allowance true .start) cs
    match rest with
    | [] => .error (.fault .openQuery)
    | ')' :: _ => return (⟨[], test⟩, rest)
    | c :: _ =>
      match readSpelling connectiveSpellings rest with
      | none => .error (.fault (.unexpectedInQuery c))
      | some (connective, rest) => do
        let (chain, rest) ← readChain allowance rest
        return (⟨(test, connective) :: chain.tests, chain.last⟩, rest)

end

/-! ## Path texts -/

/-- Reads a path whose root marker is gone. All of the text has to belong to it. -/
def parseChars (cs : List Char) : Except PathError Path :=
  match readPath cs.length false .start cs with
  | .ok (path, []) => .ok path
  | .ok (path, c :: rest) =>
    if (Cursor.ofList (c :: rest)).skipBlanks.isAtEnd.1 then .ok path
    else .error (.unexpectedCharacter c)
  | .error (.fault e) => .error e
  | .error .exhausted => .error .unexpectedEnd

/-- Reads the text of a path, blanks around it aside. A dollar sign marks the document when nothing,
a dot or a square bracket follows it, and else begins a name. -/
def Path.parse (text : String) : Except PathError Path :=
  let cursor := Cursor.ofList (trimBlanks text.toList)
  if (cursor.peek 0).1 = some '$' then
    match (cursor.peek 1).1 with
    | none => .ok []
    | some c => if c = '.' ∨ c = '[' then parseChars (cursor.skip 1).remaining
      else parseChars cursor.remaining
  else parseChars cursor.remaining

end JsonQuery
