import JsonQuery.Regex.Builtin.Flags

/-!
# Groups and repetitions

What an opening parenthesis begins: a group, named or not, or flags that hold from there on. A
look-around is refused. What an opening brace begins: the counts of a repetition, one, two in order,
or a least one alone.
-/

namespace JsonQuery.Regex.Builtin

open Text

def isNameStart (c : Char) : Bool := c == '_' || isLetter c

def isNameChar (c : Char) : Bool :=
  c == '_' || c == '.' || c == '[' || c == ']' || isLetter c || isNumeral c

/-- The name of a group up to its closing angle bracket. -/
def readGroupName (cs : List Char) : Option (List Char × List Char) :=
  match cs.dropWhile (· != '>') with
  | '>' :: rest =>
    match cs.takeWhile (· != '>') with
    | [] => none
    | c :: name => if isNameStart c && name.all isNameChar then some (c :: name, rest) else none
  | _ => none

/-- What an opening parenthesis begins. -/
inductive GroupHead
  | group (flags : Flags) (captures : Bool) (name : Option (List Char))
  | flags (flags : Flags)
deriving Repr

def readGroupHead (flags : Flags) (cs : List Char) : Option (GroupHead × List Char) :=
  let named (rest : List Char) :=
    (readGroupName rest).map fun (name, rest) => (GroupHead.group flags true (some name), rest)
  match flags.skip cs with
  | '?' :: '=' :: _ | '?' :: '!' :: _ | '?' :: '<' :: '=' :: _ | '?' :: '<' :: '!' :: _ => none
  | '?' :: 'P' :: '<' :: rest => named rest
  | '?' :: '<' :: rest => named rest
  | '?' :: ')' :: _ => none
  | '?' :: rest =>
    match readFlags flags true [] rest with
    | some (flags, ':' :: rest) => some (.group flags false none, rest)
    | some (flags, _ :: rest) => some (.flags flags, rest)
    | _ => none
  | cs => some (.group flags true none, cs)

/-! ## Repetitions -/

/-- The digits of a count, layout between and behind them left out. -/
def readCountDigits (flags : Flags) : (allowance : Nat) → List Char → List Char × List Char
  | 0, cs => ([], cs)
  | allowance + 1, cs =>
    match cs with
    | [] => ([], [])
    | c :: rest =>
      if c.isDigit then
        let (digits, rest) := readCountDigits flags allowance (flags.skip rest)
        (c :: digits, rest)
      else ([], cs)

/-- A count of 32 bits, blanks around it aside. -/
def readCount (flags : Flags) (cs : List Char) : Option (Nat × List Char) :=
  let (digits, rest) := readCountDigits flags cs.length (dropBlanks (flags.skip cs))
  if digits = [] then none
  else
    let count := Nat.ofDigitChars 10 digits 0
    if count < 0x100000000 then some (count, flags.skip (dropBlanks rest)) else none

/-- The counts of a repetition from behind its opening brace to behind its closing one. -/
def readCounts (flags : Flags) (cs : List Char) : Option (Nat × Option Nat × List Char) := do
  let (least, rest) ← readCount flags cs
  match rest with
  | '\x7d' :: rest => some (least, some least, rest)
  | ',' :: rest =>
    match flags.skip rest with
    | '\x7d' :: rest => some (least, none, rest)
    | rest =>
      let (most, rest) ← readCount flags rest
      match rest with
      | '\x7d' :: rest => if least ≤ most then some (least, some most, rest) else none
      | _ => none
  | _ => none

/-- A question mark after a repetition makes it lazy. -/
def dropLazy : List Char → List Char
  | '?' :: rest => rest
  | cs => cs

end JsonQuery.Regex.Builtin
