import JsonQuery.Regex.Builtin.Escape

/-!
# Sets in brackets

A set lists characters, ranges, escapes, named sets and sets within it. The operators of
intersection and difference all bind alike, to the left, and more loosely than listing does.

Readers take an allowance of steps; the length of the pattern is enough, as every step reads a
character.
-/

namespace JsonQuery.Regex.Builtin

/-- Outside Unicode a set lists ASCII characters only. -/
def Flags.allowsInSet (flags : Flags) (c : Char) : Bool := flags.unicode || c.toNat < 128

/-- A named set, from behind its opening bracket: `:name:]` or `:^name:]`. -/
def readNamedSet (cs : List Char) : Option (Bool × CharSet × List Char) :=
  match cs with
  | ':' :: rest =>
    let (negated, rest) := match rest with
      | '^' :: rest => (true, rest)
      | rest => (false, rest)
    match rest.dropWhile (· != ':') with
    | ':' :: ']' :: after =>
      (CharSet.named? (String.ofList (rest.takeWhile (· != ':')))).map fun set =>
        (negated, set, after)
    | _ => none
  | _ => none

inductive SetOperator
  | inter
  | diff
  | symmDiff
deriving DecidableEq, Repr

def SetOperator.apply : SetOperator → CharSet → CharSet → CharSet
  | .inter => .inter
  | .diff => .diff
  | .symmDiff => .symmDiff

/-- What is read of a set: its members so far, how many are listed, and how deep the deepest of them
is in sets of its own. -/
structure SetDraft where
  set : CharSet
  count : Nat
  depth : Nat

def SetDraft.empty : SetDraft := ⟨.empty, 0, 0⟩

def SetDraft.add (d : SetDraft) (set : CharSet) (depth : Nat) : SetDraft :=
  ⟨.union d.set set, d.count + 1, max d.depth depth⟩

/-- A list of several members is one step deeper than they are. -/
def SetDraft.listDepth (d : SetDraft) : Nat := if d.count ≤ 1 then d.depth else d.depth + 1

/-- The left operand of an operator, which waits for the right one. -/
structure PendingSet where
  left : CharSet
  operator : SetOperator
  depth : Nat

/-- What is read since the last operator, as its right operand, with the depth of the outcome. -/
def Flags.finishSet (flags : Flags) (pending : Option PendingSet) (d : SetDraft) : CharSet × Nat :=
  match pending with
  | none => (d.set, d.listDepth)
  | some p =>
    (p.operator.apply (flags.closeCase p.left) (flags.closeCase d.set), max p.depth d.listDepth + 1)

/-- A single character or a set written with a backslash; anchors are no members. -/
def readSetItem (flags : Flags) (cs : List Char) : Option (Escape × List Char) :=
  match cs with
  | [] => none
  | '\\' :: rest =>
    match readEscape flags rest with
    | some (.anchor _, _) => none
    | item => item
  | c :: rest => some (.char c, rest)

def Escape.toSet? (flags : Flags) : Escape → Option CharSet
  | .char c => if flags.allowsInSet c then some (.char c) else none
  | .set s => some s
  | .anchor _ => none

/-- A member or a range of characters. A hyphen before the end of the set or before another hyphen
makes no range. -/
def readSetRange (flags : Flags) (cs : List Char) : Option (CharSet × List Char) := do
  let (first, rest) ← readSetItem flags cs
  match flags.skip rest with
  | [] => none
  | '-' :: afterHyphen =>
    match flags.skip afterHyphen with
    | [] => none
    | c :: _ =>
      if c = ']' ∨ c = '-' then return (← first.toSet? flags, '-' :: afterHyphen)
      else
        let (last, rest) ← readSetItem flags (flags.skip afterHyphen)
        match first, last with
        | .char a, .char b =>
          if a ≤ b && flags.allowsInSet a && flags.allowsInSet b then
            return (.ranges [(a, b)], rest)
          else none
        | _, _ => none
  | rest => return (← first.toSet? flags, rest)

/-- The number of hyphens at the start of a set, which stand for themselves. -/
def readHyphens (flags : Flags) : (allowance : Nat) → List Char → Nat × List Char
  | 0, cs => (0, cs)
  | allowance + 1, cs =>
    match flags.skip cs with
    | '-' :: rest =>
      let (count, rest) := readHyphens flags allowance rest
      (count + 1, rest)
    | cs => (0, cs)

/-- The members in front of all others: hyphens, or a closing bracket. -/
def readFirstMembers (flags : Flags) (cs : List Char) : SetDraft × List Char :=
  match readHyphens flags cs.length cs with
  | (0, ']' :: rest) => (SetDraft.empty.add (.char ']') 0, rest)
  | (0, rest) => (.empty, rest)
  | (count, rest) => (⟨.char '-', count, 0⟩, rest)

mutual

/-- A set from behind its opening bracket to behind its closing one, with the depth of what is in
it. A closing bracket that comes first is a member. -/
def readSet (flags : Flags) : (allowance : Nat) → List Char → Option (CharSet × Nat × List Char)
  | 0, _ => none
  | allowance + 1, cs => do
    let (negated, cs) := match flags.skip cs with
      | '^' :: rest => (true, flags.skip rest)
      | cs => (false, cs)
    let (members, cs) := readFirstMembers flags cs
    let (set, depth, rest) ← readSetMembers flags allowance none members cs
    return (← flags.negate? negated (flags.closeCase set), depth, rest)

def readSetMembers (flags : Flags) :
    (allowance : Nat) → (pending : Option PendingSet) → SetDraft → List Char →
    Option (CharSet × Nat × List Char)
  | 0, _, _, _ => none
  | allowance + 1, pending, members, cs =>
    let operator (o : SetOperator) (rest : List Char) :=
      let (left, depth) := flags.finishSet pending members
      readSetMembers flags allowance (some ⟨left, o, depth⟩) .empty rest
    match flags.skip cs with
    | [] => none
    | ']' :: rest =>
      let (set, depth) := flags.finishSet pending members
      some (set, depth, rest)
    | '&' :: '&' :: rest => operator .inter rest
    | '-' :: '-' :: rest => operator .diff rest
    | '~' :: '~' :: rest => operator .symmDiff rest
    | '[' :: rest =>
      match readNamedSet rest with
      | some (negated, set, rest) => do
        let set ← flags.negate? negated (flags.closeCase set)
        readSetMembers flags allowance pending (members.add set 0) rest
      | none => do
        let (set, depth, rest) ← readSet flags allowance rest
        readSetMembers flags allowance pending (members.add set (depth + 1)) rest
    | cs => do
      let (set, rest) ← readSetRange flags cs
      readSetMembers flags allowance pending (members.add set 0) rest

end

end JsonQuery.Regex.Builtin
