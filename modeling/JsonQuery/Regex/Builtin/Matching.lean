import JsonQuery.Regex.Builtin.Reader
import JsonQuery.Regex.Literal

/-!
# Matching

A set of positions in a text is a natural number with a bit for each. A set of characters and an
anchor become, for one text, the positions where they hold; a pattern then takes the positions
where it starts to those where it ends, all of them at once. Repetition follows the positions
reached for the first time, so it ends after as many rounds as the text has positions, and no
pattern takes exponential time.

With this and the reader of patterns there is an engine that runs. It is no part of any statement
about paths but those about fixed texts.
-/

namespace JsonQuery.Regex.Builtin

/-- The positions at which a list of answers says yes, the first position being bit 0. -/
def positions : List Bool → Nat
  | [] => 0
  | b :: bs => 2 * positions bs + b.toNat

/-- The characters on both sides of every position of a text. -/
def surroundings (text : List Char) : List (Option Char × Option Char) :=
  (none :: text.map some).zip (text.map some ++ [none])

namespace Pattern

/-- A pattern with its sets and anchors replaced by the positions of a text where they hold. -/
def locate (text : List Char) : Pattern CharSet Anchor → Pattern Nat Nat
  | .empty => .empty
  | .one set => .one (positions (text.map set.contains))
  | .anchor a => .anchor (positions ((surroundings text).map fun s => a.holds s.1 s.2))
  | .seq p q => .seq (p.locate text) (q.locate text)
  | .alt p q => .alt (p.locate text) (q.locate text)
  | .iterate p least most => .iterate (p.locate text) least most

end Pattern

/-- What `advance` reaches from `fresh` in at most `rounds` rounds, together with `reached`. Only
positions not reached before start a further round. -/
def spread (advance : Nat → Nat) : (rounds reached fresh : Nat) → Nat
  | 0, reached, _ => reached
  | rounds + 1, reached, fresh =>
    let next := advance fresh
    let new := next ^^^ (next &&& reached)
    if new = 0 then reached else spread advance rounds (reached ||| new) new

namespace Pattern

/-- The positions where a match can end that starts at one of `starts`. A count beyond the number
of positions changes nothing: the rounds past it do not move. -/
def ends (positionCount : Nat) : Pattern Nat Nat → (starts : Nat) → Nat
  | .empty, starts => starts
  | .one here, starts => (starts &&& here) <<< 1
  | .anchor here, starts => starts &&& here
  | .seq p q, starts => q.ends positionCount (p.ends positionCount starts)
  | .alt p q, starts => p.ends positionCount starts ||| q.ends positionCount starts
  | .iterate p least most, starts =>
    let required := Nat.repeat (p.ends positionCount) (min least positionCount) starts
    let optional := match most with
      | none => positionCount
      | some most => most - least
    spread (p.ends positionCount) optional required required

/-- Whether the pattern matches somewhere in the text. -/
def matchesIn (p : Pattern CharSet Anchor) (text : List Char) : Bool :=
  (p.locate text).ends (text.length + 1) ((1 <<< (text.length + 1)) - 1) != 0

end Pattern

/-! ## The engine -/

def Flags.ofOptions (options : Options) : Flags where
  ignoreCase := options.ignoreCase
  multiLine := options.multiLine
  dotAll := options.dotAll
  extended := options.extended
  unicode := true
  crlf := false

scoped instance engine : Engine where
  Program := Program
  compile pattern options :=
    match (Flags.ofOptions options).compile? pattern.toList with
    | some program => .ok program
    | none => .error "not understood, too deep or too large"
  isMatch program text := program.matchesIn text

end JsonQuery.Regex.Builtin
