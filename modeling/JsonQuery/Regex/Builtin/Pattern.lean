import JsonQuery.Regex.Builtin.CharSet

/-!
# Patterns

A pattern over a type of sets, of which it consumes members, and a type of anchors, which hold or
fail between two characters. Groups and laziness have no trace in it: they change which match is
found first, not whether there is one.
-/

namespace JsonQuery.Regex.Builtin

/-- What an anchor for words asks of the two sides of a position. -/
inductive WordEdge
  | boundary
  | noBoundary
  | start
  | stop
  | startHalf
  | stopHalf
deriving DecidableEq, Repr

inductive Anchor
  | textStart
  | textEnd
  | lineStart
  | lineEnd
  | crlfLineStart
  | crlfLineEnd
  | wordEdge (edge : WordEdge) (ascii : Bool)
deriving DecidableEq, Repr

inductive Pattern (Set Anchor : Type)
  | empty
  | one (set : Set)
  | anchor (a : Anchor)
  | seq (p q : Pattern Set Anchor)
  | alt (p q : Pattern Set Anchor)
  | iterate (p : Pattern Set Anchor) (least : Nat) (most : Option Nat)
deriving Repr

namespace WordEdge

def holds : WordEdge → (before after : Bool) → Bool
  | .boundary, b, a => b != a
  | .noBoundary, b, a => b == a
  | .start, b, a => !b && a
  | .stop, b, a => b && !a
  | .startHalf, b, _ => !b
  | .stopHalf, _, a => !a

end WordEdge

namespace Anchor

/-- Whether the anchor holds between two characters, or at an end of the text where one is
missing. -/
def holds : Anchor → (before after : Option Char) → Bool
  | .textStart, b, _ => b.isNone
  | .textEnd, _, a => a.isNone
  | .lineStart, b, _ => b.isNone || b == some '\n'
  | .lineEnd, _, a => a.isNone || a == some '\n'
  | .crlfLineStart, b, a => b.isNone || b == some '\n' || (b == some '\r' && a != some '\n')
  | .crlfLineEnd, b, a => a.isNone || a == some '\r' || (a == some '\n' && b != some '\r')
  | .wordEdge edge ascii, b, a =>
    let inWord := if ascii then CharSet.asciiWord else CharSet.word
    edge.holds (b.any inWord.contains) (a.any inWord.contains)

end Anchor

/-!
## Terms

A pattern as it is written. Groups and the brackets of sets have no part in what it matches, but a
pattern in which too much stands inside something else is refused.
-/

abbrev Program := Pattern CharSet Anchor

inductive Term
  /-- Nothing, or flags for what follows. -/
  | empty
  | one (set : CharSet)
  /-- A set in brackets, and how deep its members stand in it. -/
  | bracket (set : CharSet) (depth : Nat)
  | anchor (a : Anchor)
  | group (captures : Bool) (t : Term)
  | iterate (t : Term) (least : Nat) (most : Option Nat)
  | seq (t u : Term)
  | alt (t u : Term)
deriving Repr

namespace Term

def program : Term → Program
  | .empty => .empty
  | .one set | .bracket set _ => .one set
  | .anchor a => .anchor a
  | .group _ t => t.program
  | .iterate t least most => .iterate t.program least most
  | .seq t u => .seq t.program u.program
  | .alt t u => .alt t.program u.program

/-- How deep a term goes: through brackets, groups, repetitions, sequences and alternatives, a
sequence of several items and a choice of several alternatives being one each. -/
def depth : Term → Nat
  | .empty | .one _ | .anchor _ => 0
  | .bracket _ inner => inner + 1
  | .group _ t => t.depth + 1
  | .iterate t _ _ => t.depth + 1
  | .seq t u =>
    max (match t with | .seq _ _ => t.depth | _ => t.depth + 1) (u.depth + 1)
  | .alt t u =>
    max (match t with | .alt _ _ => t.depth | _ => t.depth + 1) (u.depth + 1)

end Term

end JsonQuery.Regex.Builtin
