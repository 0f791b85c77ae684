import JsonQuery.Text.CodeRange
import JsonQuery.Text.CaseFold
import JsonQuery.Text.WordChar

/-!
# Sets of characters

The sets that a pattern can write down: ranges, the properties behind `\d`, `\s` and `\w`, and what
the set operators make of them. A property holds of no character newer than its version of the
standard. A set closed under case holds a character as soon as it holds one of its case variants.
-/

namespace JsonQuery.Regex.Builtin

open Text

inductive CharSet
  | ranges (runs : List (Char × Char))
  | codes (runs : List CodeRange)
  | digit
  | space
  | word
  | union (a b : CharSet)
  | inter (a b : CharSet)
  | diff (a b : CharSet)
  | symmDiff (a b : CharSet)
  | compl (a : CharSet)
  | anyCase (a : CharSet)
  | anyAsciiCase (a : CharSet)
deriving DecidableEq, Repr

namespace CharSet

def empty : CharSet := .ranges []

def char (c : Char) : CharSet := .ranges [(c, c)]

def asciiVariants (c : Char) : List Char := [c.toLower, c.toUpper]

def contains : CharSet → Char → Bool
  | .ranges runs, c => runs.any fun run => run.1 ≤ c && c ≤ run.2
  | .codes runs, c => inRanges runs c
  | .digit, c => isDecimalDigit c && !isAdded c
  | .space, c => isBlank c
  | .word, c => isWordChar c && !isAdded c
  | .union a b, c => a.contains c || b.contains c
  | .inter a b, c => a.contains c && b.contains c
  | .diff a b, c => a.contains c && !b.contains c
  | .symmDiff a b, c => a.contains c != b.contains c
  | .compl a, c => !a.contains c
  | .anyCase a, c => (caseVariants c).any a.contains
  | .anyAsciiCase a, c => (asciiVariants c).any a.contains

def asciiDigit : CharSet := .ranges [('0', '9')]

def asciiSpace : CharSet := .ranges [('\t', '\r'), (' ', ' ')]

def asciiWord : CharSet := .ranges [('0', '9'), ('A', 'Z'), ('_', '_'), ('a', 'z')]

/-- The sets with a name, written `[:name:]` inside a set. -/
def named? (name : String) : Option CharSet :=
  match name with
  | "alnum" => some (.ranges [('0', '9'), ('A', 'Z'), ('a', 'z')])
  | "alpha" => some (.ranges [('A', 'Z'), ('a', 'z')])
  | "ascii" => some (.ranges [('\x00', '\x7f')])
  | "blank" => some (.ranges [('\t', '\t'), (' ', ' ')])
  | "cntrl" => some (.ranges [('\x00', '\x1f'), ('\x7f', '\x7f')])
  | "digit" => some asciiDigit
  | "graph" => some (.ranges [('!', '~')])
  | "lower" => some (.ranges [('a', 'z')])
  | "print" => some (.ranges [(' ', '~')])
  | "punct" => some (.ranges [('!', '/'), (':', '@'), ('[', '\x60'), ('\x7b', '~')])
  | "space" => some asciiSpace
  | "upper" => some (.ranges [('A', 'Z')])
  | "word" => some asciiWord
  | "xdigit" => some (.ranges [('0', '9'), ('A', 'F'), ('a', 'f')])
  | _ => none

end CharSet

end JsonQuery.Regex.Builtin
