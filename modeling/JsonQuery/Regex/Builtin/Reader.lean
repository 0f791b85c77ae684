import JsonQuery.Regex.Builtin.Bracket
import JsonQuery.Regex.Builtin.Group
import JsonQuery.Regex.Builtin.Size

/-!
# Pattern syntax

Reading of a written pattern. Flags hold from where they are set to the end of the group they are
set in, alternatives included. What has no meaning is refused: a repetition of nothing, a group left
open, a second group of the same name.

The reader takes an allowance of steps; the length of the pattern is enough, as every step reads a
character.
-/

namespace JsonQuery.Regex.Builtin

/-- A pattern read in part: the alternatives before the present one, the items of the present one
before its last, and the last item where a repetition may follow it. -/
structure Draft where
  alternatives : Option Term
  items : Option Term
  last : Option Term

namespace Draft

def start : Draft := ⟨none, none, none⟩

def sequence (d : Draft) : Option Term :=
  match d.items, d.last with
  | some t, some u => some (.seq t u)
  | some t, none => some t
  | none, u => u

def push (d : Draft) (t : Term) : Draft := { d with items := d.sequence, last := some t }

/-- Where flags are set there is an empty item, which cannot be repeated. -/
def interrupt (d : Draft) : Draft := { d with items := (d.push .empty).sequence, last := none }

def finish (d : Draft) : Term :=
  let present := d.sequence.getD .empty
  match d.alternatives with
  | none => present
  | some before => .alt before present

def alternate (d : Draft) : Draft := ⟨some d.finish, none, none⟩

def iterate? (d : Draft) (least : Nat) (most : Option Nat) : Option Draft :=
  d.last.map fun t => { d with last := some (.iterate t least most) }

end Draft

def Flags.literal (flags : Flags) (c : Char) : Term := .one (flags.closeCase (.char c))

/-- A pattern up to the end of the text or to a closing parenthesis, which it leaves, together with
the names of the groups so far. -/
def readPattern : (allowance : Nat) → Flags → (names : List (List Char)) → Draft → List Char →
    Option (Term × List (List Char) × List Char)
  | 0, _, _, _, _ => none
  | allowance + 1, flags, names, draft, cs =>
    let continueWith (t : Term) (rest : List Char) :=
      readPattern allowance flags names (draft.push t) rest
    let repeated (least : Nat) (most : Option Nat) (rest : List Char) :=
      (draft.iterate? least most).bind fun draft =>
        readPattern allowance flags names draft (dropLazy rest)
    match flags.skip cs with
    | [] => some (draft.finish, names, [])
    | ')' :: rest => some (draft.finish, names, ')' :: rest)
    | '|' :: rest => readPattern allowance flags names draft.alternate rest
    | '*' :: rest => repeated 0 none rest
    | '+' :: rest => repeated 1 none rest
    | '?' :: rest => repeated 0 (some 1) rest
    | '\x7b' :: rest =>
      (readCounts flags rest).bind fun (least, most, rest) => repeated least most (flags.skip rest)
    | '.' :: rest => flags.dot?.bind fun set => continueWith (.one set) rest
    | '^' :: rest => continueWith (.anchor flags.lineStart) rest
    | '$' :: rest => continueWith (.anchor flags.lineEnd) rest
    | '[' :: rest =>
      (readSet flags allowance rest).bind fun (set, depth, rest) =>
        continueWith (.bracket set depth) rest
    | '\\' :: rest =>
      (readEscape flags rest).bind fun (escape, rest) =>
        match escape with
        | .char c => continueWith (flags.literal c) rest
        | .set set => continueWith (.one set) rest
        | .anchor a => continueWith (.anchor a) rest
    | '(' :: rest =>
      (readGroupHead flags rest).bind fun (head, rest) =>
        match head with
        | .flags flags => readPattern allowance flags names draft.interrupt rest
        | .group inner captures name =>
          if name.any names.contains then none
          else
            match readPattern allowance inner (name.toList ++ names) .start rest with
            | some (t, names, ')' :: rest) =>
              readPattern allowance flags names (draft.push (.group captures t)) rest
            | _ => none
    | c :: rest => continueWith (flags.literal c) rest

def depthLimit : Nat := 250

/-- The largest set of all takes less than 160 kibibytes, so that a pattern of so few leaves is not
too large whatever they are. -/
def safeLeaves : Nat := 64

/-- The program of a whole pattern, which no closing parenthesis ends early, and which neither goes
too deep nor takes too much. -/
def Flags.compile? (flags : Flags) (pattern : List Char) : Option Program :=
  match readPattern (pattern.length + 1) flags [] .start pattern with
  | some (t, _, []) =>
    if t.depth ≤ depthLimit && (t.leaves ≤ safeLeaves || t.fits) then some t.program else none
  | _ => none

end JsonQuery.Regex.Builtin
