import JsonQuery.Regex.Builtin.Pattern

/-!
# Flags

The flags a pattern is read under, what they make of the sets and anchors it names, and how a group
sets them. In the extended form blanks and comments stand for nothing, also inside sets.
-/

namespace JsonQuery.Regex.Builtin

open Text

structure Flags where
  ignoreCase : Bool
  multiLine : Bool
  dotAll : Bool
  extended : Bool
  unicode : Bool
  crlf : Bool
deriving DecidableEq, Repr

/-! ## Layout -/

/-- Drops blanks and comments; a comment runs to the end of its line. -/
def dropLayout : (inComment : Bool) → List Char → List Char
  | _, [] => []
  | true, c :: rest => dropLayout (c != '\n') rest
  | false, c :: rest =>
    if isBlank c then dropLayout false rest
    else if c = '#' then dropLayout true rest
    else c :: rest

def Flags.skip (flags : Flags) (cs : List Char) : List Char :=
  if flags.extended then dropLayout false cs else cs

/-! ## Sets and anchors by flag -/

/-- A set closed under case where the flags ask for it. -/
def Flags.closeCase (flags : Flags) (set : CharSet) : CharSet :=
  if flags.ignoreCase then (if flags.unicode then .anyCase set else .anyAsciiCase set) else set

/-- The complement of a set. Outside Unicode sets hold ASCII only and have no complement. -/
def Flags.negate? (flags : Flags) (negated : Bool) (set : CharSet) : Option CharSet :=
  if !negated then some set
  else if flags.unicode then some (.compl set)
  else none

/-- The set behind `\d`, `\s`, `\w` and their complements. -/
def Flags.classSet? (flags : Flags) (name : Char) : Option CharSet :=
  let set := match name.toLower with
    | 'd' => if flags.unicode then .digit else CharSet.asciiDigit
    | 's' => if flags.unicode then .space else CharSet.asciiSpace
    | _ => if flags.unicode then .word else CharSet.asciiWord
  flags.negate? name.isUpper set

def Flags.dot? (flags : Flags) : Option CharSet :=
  if flags.unicode then
    some (.compl (if flags.dotAll then .empty
      else if flags.crlf then .ranges [('\n', '\n'), ('\r', '\r')]
      else .char '\n'))
  else none

def Flags.lineStart (flags : Flags) : Anchor :=
  if flags.multiLine then (if flags.crlf then .crlfLineStart else .lineStart) else .textStart

def Flags.lineEnd (flags : Flags) : Anchor :=
  if flags.multiLine then (if flags.crlf then .crlfLineEnd else .lineEnd) else .textEnd

/-! ## Flags in a group -/

def Flags.set? (flags : Flags) (on : Bool) : Char → Option Flags
  | 'i' => some { flags with ignoreCase := on }
  | 'm' => some { flags with multiLine := on }
  | 's' => some { flags with dotAll := on }
  | 'x' => some { flags with extended := on }
  | 'u' => some { flags with unicode := on }
  | 'R' => some { flags with crlf := on }
  | 'U' => some flags
  | _ => none

/-- Flags from behind their question mark up to the colon or the parenthesis that ends them: each
letter once, after at most one minus sign, which is not the last. -/
def readFlags (flags : Flags) (on : Bool) (seen : List Char) :
    List Char → Option (Flags × List Char)
  | [] => none
  | c :: rest =>
    if c = ':' ∨ c = ')' then if seen.head? = some '-' then none else some (flags, c :: rest)
    else if c ∈ seen then none
    else if c = '-' then readFlags flags false (c :: seen) rest
    else (flags.set? on c).bind fun flags => readFlags flags on (c :: seen) rest

end JsonQuery.Regex.Builtin
