import JsonQuery.Path.Basic
import JsonQuery.Path.Quoted
import JsonQuery.Text.Cursor
import JsonQuery.Text.Letter

/-!
# Operators and literals of a condition

Operators, connectives and words have fixed spellings, which are looked up in lists. The first that
comes next counts; a spelling that begins another one stands behind it, so the longer one is found.
Literals are strings, numbers, the three words `true`, `false` and `null`, and patterns between
slashes.
-/

namespace JsonQuery

open Text

/-! ## Spellings -/

/-- The meaning of the first listed spelling that comes next, which is consumed. -/
def readSpelling {α : Type} : List (List Char × α) → List Char → Option (α × List Char)
  | [], _ => none
  | (spelling, meaning) :: others, cs =>
    match (Cursor.ofList cs).matchText spelling with
    | (true, cursor) => some (meaning, cursor.remaining)
    | (false, _) => readSpelling others cs

def operatorSpellings : List (List Char × Operator) :=
  [("==".toList, .equals), ("=~".toList, .matchesPattern), ("!=".toList, .notEquals),
   ("<>".toList, .notEquals), ("<=".toList, .lessOrEqual), ("<".toList, .less),
   (">=".toList, .greaterOrEqual), (">".toList, .greater)]

/-- No operator is the last character of a text. -/
def readOperator (cs : List Char) : Except PathError (Operator × List Char) :=
  if ((Cursor.ofList cs).peek 1).1.isNone then .error .openQuery
  else
    match readSpelling operatorSpellings cs with
    | some found => .ok found
    | none => .error .operatorExpected

def connectiveSpellings : List (List Char × Connective) :=
  [("&&".toList, .and), ("||".toList, .or)]

/-! ## Literals -/

def wordSpellings : List (List Char × Json) :=
  [("true".toList, .bool true), ("false".toList, .bool false), ("null".toList, .null)]

def isNumberChar (c : Char) : Bool :=
  c.isDigit || c == '-' || c == '+' || c == '.' || c == 'e' || c == 'E'

/-- The longest run of characters that numbers are made of has to be a number. -/
def readNumber (cs : List Char) : Except PathError (Number × List Char) :=
  let text := cs.takeWhile isNumberChar
  match Number.ofText? text with
  | some n => .ok (n, cs.dropWhile isNumberChar)
  | none => .error (.invalidNumber (String.ofList text))

/-- The text of a pattern from behind its opening slash to behind its closing one. A slash behind a
backslash does not close it, and the backslash stays. -/
def readPatternText : List Char → Except PathError (List Char × List Char)
  | [] => .error .openPattern
  | '/' :: rest => .ok ([], rest)
  | '\\' :: [] => .error .openPattern
  | '\\' :: c :: rest => do
    let (text, rest) ← readPatternText rest
    return ('\\' :: c :: text, rest)
  | c :: rest => do
    let (text, rest) ← readPatternText rest
    return (c :: text, rest)

section

variable [Regex.Engine]

/-- A pattern and the letters behind it, which are its flags. -/
def readPatternLiteral (cs : List Char) : Except PathError (Regex.Literal × List Char) := do
  let (pattern, rest) ← readPatternText cs
  let pattern := String.ofList pattern
  match Regex.Literal.ofText pattern (String.ofList (rest.takeWhile isLetter)) with
  | .ok literal => .ok (literal, rest.dropWhile isLetter)
  | .error reason => .error (.invalidPattern pattern reason)

def readLiteral (cs : List Char) : Except PathError (Operand × List Char) := do
  match cs with
  | [] => .error .openQuery
  | '\'' :: rest =>
    let (text, rest) ← readQuoted rest
    return (.literal (.str (String.ofList text)), rest)
  | '/' :: rest =>
    let (pattern, rest) ← readPatternLiteral rest
    return (.pattern pattern, rest)
  | c :: _ =>
    if c.isDigit || c == '-' then
      let (n, rest) ← readNumber cs
      return (.literal (.num n), rest)
    else
      match readSpelling wordSpellings cs with
      | some (value, rest) => .ok (.literal value, rest)
      | none => .error (.unexpectedInQuery c)

end

end JsonQuery
