import JsonQuery.Regex.Builtin.Flags
import JsonQuery.Text.Property

/-!
# Escapes

What a backslash begins: a character, a set or an anchor. An escape of a letter that names nothing
is refused, and so is one outside ASCII.
-/

namespace JsonQuery.Regex.Builtin

open Text

inductive Escape
  | char (c : Char)
  | set (s : CharSet)
  | anchor (a : Anchor)
deriving DecidableEq, Repr

def hexValue? (c : Char) : Option Nat :=
  if c.isDigit then some (c.toNat - '0'.toNat)
  else if 'a' ≤ c ∧ c ≤ 'f' then some (c.toNat - 'a'.toNat + 10)
  else if 'A' ≤ c ∧ c ≤ 'F' then some (c.toNat - 'A'.toNat + 10)
  else none

def charOfCode? (n : Nat) : Option Char := if n.isValidChar then some (Char.ofNat n) else none

/-- Exactly `count` hexadecimal digits. -/
def readHexDigits (flags : Flags) : (count value : Nat) → List Char → Option (Nat × List Char)
  | 0, value, cs => some (value, cs)
  | count + 1, value, cs =>
    match flags.skip cs with
    | [] => none
    | c :: rest => (hexValue? c).bind fun d => readHexDigits flags count (16 * value + d) rest

/-- Hexadecimal digits, at least one, up to the closing brace. -/
def readHexBraced (flags : Flags) :
    (allowance : Nat) → (value? : Option Nat) → List Char → Option (Nat × List Char)
  | 0, _, _ => none
  | allowance + 1, value?, cs =>
    match flags.skip cs with
    | [] => none
    | '\x7d' :: rest => value?.map fun value => (value, rest)
    | c :: rest => (hexValue? c).bind fun d =>
        readHexBraced flags allowance (some (16 * value?.getD 0 + d)) rest

/-- A code point behind `\x`, `\u` or `\U`: so many digits, or any number of them in braces. Outside
Unicode two digits write a byte, and only an ASCII one is allowed. -/
def readHex (flags : Flags) (digits : Nat) (cs : List Char) : Option (Char × List Char) :=
  match flags.skip cs with
  | '\x7b' :: rest => do
    let (value, rest) ← readHexBraced flags (rest.length + 1) none rest
    return (← charOfCode? value, rest)
  | cs => do
    let (value, rest) ← readHexDigits flags digits 0 cs
    if !flags.unicode && digits == 2 && 128 ≤ value then none
    else return (← charOfCode? value, rest)

def isMeta (c : Char) : Bool := "\\.+*?()|[]\x7b\x7d^$#&-~".toList.contains c

def wordEdge? (name : String) : Option WordEdge :=
  match name with
  | "start" => some .start
  | "end" => some .stop
  | "start-half" => some .startHalf
  | "end-half" => some .stopHalf
  | _ => none

def isEdgeNameChar (c : Char) : Bool := c.isAlpha || c == '-'

/-- The letters of a name, layout between them left out. -/
def readEdgeName (flags : Flags) : (allowance : Nat) → List Char → List Char × List Char
  | 0, cs => ([], cs)
  | allowance + 1, cs =>
    match flags.skip cs with
    | [] => ([], [])
    | c :: rest =>
      if isEdgeNameChar c then
        let (name, rest) := readEdgeName flags allowance rest
        (c :: name, rest)
      else ([], c :: rest)

/-- What follows `\b`: a name in braces, or nothing that belongs to it. A brace not followed by a
letter begins a repetition. -/
def readBoundary (flags : Flags) (cs : List Char) : Option (WordEdge × List Char) :=
  match cs with
  | '\x7b' :: rest =>
    match readEdgeName flags (rest.length + 1) rest with
    | ([], []) => none
    | ([], _) => some (.boundary, cs)
    | (name, '\x7d' :: rest) => (wordEdge? (String.ofList name)).map fun edge => (edge, rest)
    | _ => none
  | _ => some (.boundary, cs)

/-- The characters up to a closing brace, layout left out. -/
def readBraced (flags : Flags) : (allowance : Nat) → List Char → Option (List Char × List Char)
  | 0, _ => none
  | allowance + 1, cs =>
    match flags.skip cs with
    | [] => none
    | '\x7d' :: rest => some ([], rest)
    | c :: rest => (readBraced flags allowance rest).map fun (name, rest) => (c :: name, rest)

/-- The set named in braces, with a property and its value apart when a colon or an equals sign is
between them. An exclamation mark before the equals sign changes nothing. -/
def rangesInBraces? (name : List Char) : Option (List CodeRange) :=
  let property := name.takeWhile fun c => c != ':' && c != '='
  match name.drop property.length with
  | [] => namedRanges? name
  | ':' :: value => valueRanges? property value
  | _ :: value =>
    valueRanges? (if property.getLast? = some '!' then property.dropLast else property) value

/-- The name behind `\p` or `\P`: one character, or any number of them in braces. -/
def readPropertyName (flags : Flags) (cs : List Char) : Option (List CodeRange × List Char) :=
  match flags.skip cs with
  | [] => none
  | '\\' :: _ => none
  | '\x7b' :: rest =>
    (readBraced flags (rest.length + 1) rest).bind fun (name, rest) =>
      (rangesInBraces? name).map fun runs => (runs, rest)
  | c :: rest => (namedRanges? [c]).map fun runs => (runs, rest)

/-- The set of a property. There are none outside Unicode. -/
def readProperty (flags : Flags) (negated : Bool) (cs : List Char) :
    Option (CharSet × List Char) := do
  if !flags.unicode then none
  else
    let (runs, rest) ← readPropertyName flags cs
    return (← flags.negate? negated (flags.closeCase (.codes runs)), rest)

/-- What follows a backslash. -/
def readEscape (flags : Flags) (cs : List Char) : Option (Escape × List Char) :=
  match cs with
  | [] => none
  | c :: rest =>
    let char (c : Char) := some (Escape.char c, rest)
    let edge (e : WordEdge) := Escape.anchor (.wordEdge e !flags.unicode)
    if isMeta c then char c
    else match c with
      | 'x' => (readHex flags 2 rest).map fun (c, rest) => (.char c, rest)
      | 'u' => (readHex flags 4 rest).map fun (c, rest) => (.char c, rest)
      | 'U' => (readHex flags 8 rest).map fun (c, rest) => (.char c, rest)
      | 'd' | 's' | 'w' | 'D' | 'S' | 'W' => (flags.classSet? c).map fun s => (.set s, rest)
      | 'p' => (readProperty flags false rest).map fun (s, rest) => (.set s, rest)
      | 'P' => (readProperty flags true rest).map fun (s, rest) => (.set s, rest)
      | 'a' => char '\x07'
      | 'f' => char '\x0c'
      | 't' => char '\t'
      | 'n' => char '\n'
      | 'r' => char '\r'
      | 'v' => char '\x0b'
      | 'A' => some (.anchor .textStart, rest)
      | 'z' => some (.anchor .textEnd, rest)
      | 'b' => (readBoundary flags rest).map fun (e, rest) => (edge e, rest)
      | 'B' => some (edge .noBoundary, rest)
      | '<' => some (edge .start, rest)
      | '>' => some (edge .stop, rest)
      | c => if c.toNat < 128 && !c.isAlphanum then char c else none

end JsonQuery.Regex.Builtin
