import JsonQuery.Regex.Builtin.Pattern

/-!
# Sizes

A pattern stands for a machine over bytes that runs through a text forwards and for one that runs
backwards, and neither may take more than ten mebibytes. A state takes 32 bytes, every range of
bytes in a state that tells ranges apart eight more, and every way out of a branch four more.
Counted repetitions are written out, and a capture takes a state on each side of it, but not in the
machine that runs backwards.

A run of code points is written with one sequence of byte ranges for every block of it that is
encoded alike. Surrogates are not encoded.
-/

namespace JsonQuery.Regex.Builtin

open Text

/-! ## Runs of code points in UTF-8 -/

/-- The first and the last of a run of bytes. -/
abbrev ByteRange := Nat × Nat

/-- The numbers from `low` to `high` as a leading byte above `lead` and so many continuation bytes
of six bits each. A block of the last byte that is not whole is a sequence of its own, and so on
upwards. -/
def splitRun : (continuations : Nat) → (lead low high : Nat) → List (List ByteRange)
  | 0, lead, low, high => [[(lead + low, lead + high)]]
  | n + 1, lead, low, high =>
    let block := 1 <<< (6 * (n + 1))
    let first := low / block
    let last := high / block
    let within (byte low high : Nat) : List (List ByteRange) :=
      (splitRun n 0x80 low high).map ((lead + byte, lead + byte) :: ·)
    if first = last then within first (low % block) (high % block)
    else
      let cutLow := low % block != 0
      let cutHigh := high % block != block - 1
      let firstWhole := if cutLow then first + 1 else first
      let endWhole := if cutHigh then last else last + 1
      (if cutLow then within first (low % block) (block - 1) else []) ++
        (if firstWhole < endWhole then
          [(lead + firstWhole, lead + endWhole - 1) :: List.replicate (n + 1) (0x80, 0xBF)]
        else []) ++
        (if cutHigh then within last 0 (high % block) else [])

/-- The blocks of code points with their number of continuation bytes and what is added to the
leading byte. -/
def utf8Blocks : List (CodeRange × Nat × Nat) :=
  [((0x0, 0x7F), 0, 0x0), ((0x80, 0x7FF), 1, 0xC0), ((0x800, 0xD7FF), 2, 0xE0),
   ((0xE000, 0xFFFF), 2, 0xE0), ((0x10000, 0x10FFFF), 3, 0xF0)]

def byteSequences (run : CodeRange) : List (List ByteRange) :=
  utf8Blocks.flatMap fun (block, continuations, lead) =>
    let low := max run.1 block.1
    let high := min run.2 block.2
    if low ≤ high then splitRun continuations lead low high else []

/-! ## Sets as runs of code points -/

/-- The variants of the characters in the runs that have any. -/
def variantRuns (variants : Char → List Char) (cased : List Char) (runs : List CodeRange) :
    List CodeRange :=
  cased.flatMap fun c =>
    if inRanges runs c then (variants c).map fun v => (v.toNat, v.toNat) else []

def asciiLetters : List Char := "abcdefghijklmnopqrstuvwxyzABCDEFGHIJKLMNOPQRSTUVWXYZ".toList

namespace CharSet

def runs : CharSet → List CodeRange
  | .ranges runs => joinRuns (runs.map fun run => (run.1.toNat, run.2.toNat))
  | .codes runs => joinRuns runs
  | .digit => diffRuns (('0'.toNat, '9'.toNat) :: decimalDigitRanges) addedRanges
  | .space => joinRuns blankRanges
  | .word => diffRuns wordRanges addedRanges
  | .union a b => joinRuns (a.runs ++ b.runs)
  | .inter a b => interRuns a.runs b.runs
  | .diff a b => diffRuns a.runs b.runs
  | .symmDiff a b => joinRuns (diffRuns a.runs b.runs ++ diffRuns b.runs a.runs)
  | .compl a => complRuns a.runs
  | .anyCase a => joinRuns (a.runs ++ variantRuns caseVariants casedChars a.runs)
  | .anyAsciiCase a => joinRuns (a.runs ++ variantRuns asciiVariants asciiLetters a.runs)

/-! ## Machines for sets -/

/-- A state that tells ranges of bytes apart, each with the number of the state behind it. The end
has the number zero. -/
abbrev ByteState := List (ByteRange × Nat)

/-- Adds the states for sequences of at most so many bytes to those there are, of which equal ones
are shared, and gives the number of the first. -/
def addStates : (length : Nat) → (states : List ByteState) → List (List ByteRange) →
    Nat × List ByteState
  | 0, states, _ => (0, states)
  | length + 1, states, sequences =>
    let groups := sequences.splitBy fun a b => a.head? == b.head?
    let (state, states) := groups.foldl (fun (state, states) group =>
      match group with
      | (range :: []) :: _ => (state ++ [(range, 0)], states)
      | (range :: _) :: _ =>
        let (next, states) := addStates length states (group.map List.tail)
        (state ++ [(range, next)], states)
      | _ => (state, states)) ([], states)
    match states.idxOf? state with
    | some i => (i + 1, states)
    | none => (states.length + 1, states ++ [state])

/-- How many ranges of bytes the sequences have when those with the same beginning share it. -/
def sharedRanges : (length : Nat) → List (List ByteRange) → Nat
  | 0, _ => 0
  | length + 1, sequences =>
    let groups := sequences.splitBy fun a b => a.head? == b.head?
    groups.foldl (fun count group =>
      count + 1 + sharedRanges length ((group.map List.tail).filter (· ≠ []))) 0

/-- Forwards the ends of the sequences are shared, backwards their beginnings. -/
def size (forwards : Bool) (set : CharSet) : Nat :=
  let runs := set.runs
  let sequences := runs.flatMap byteSequences
  match runs with
  | [(low, high)] =>
    if low = high then 32 * sequences.flatten.length else machine runs sequences
  | _ => machine runs sequences
where
  machine (runs : List CodeRange) (sequences : List (List ByteRange)) : Nat :=
    if runs.all (·.2 < 128) then 64 + 8 * runs.length
    else if forwards then
      let states := (addStates 4 [] sequences).2
      32 + 32 * states.length + 8 * states.flatten.length
    else 64 + 4 * sequences.length + 32 * sharedRanges 4 sequences

end CharSet

/-! ## Sizes of terms -/

namespace Term

/-- Matches nothing but the empty text. -/
def isBlank : Term → Bool
  | .empty | .anchor _ => true
  | .one _ | .bracket _ _ => false
  | .group _ t => t.isBlank
  | .iterate t _ most => t.isBlank || most == some 0
  | .seq t u | .alt t u => t.isBlank && u.isBlank

/-- Never matches the empty text. -/
def consumes : Term → Bool
  | .empty | .anchor _ => false
  | .one _ | .bracket _ _ => true
  | .group _ t => t.consumes
  | .iterate t least _ => 0 < least && t.consumes
  | .seq t u => t.consumes || u.consumes
  | .alt t u => t.consumes && u.consumes

/-- The set that the term matches one character of, if it is written as nothing more. -/
def set? : Term → Option CharSet
  | .one set | .bracket set _ => some set
  | .group false t => t.set?
  | .alt t u => do return .union (← t.set?) (← u.set?)
  | _ => none

/-- The size of a repetition of something of a size. -/
def iterateSize (consumes : Bool) (size least : Nat) : (most : Option Nat) → Nat
  | none => if least = 0 ∧ ¬ consumes then size + 112 else max least 1 * size + 40
  | some most =>
    if most = 0 then 32
    else if least = most then least * size
    else if most = 1 then size + 72
    else (if least = 0 then 32 else least * size) + 32 + (most - least) * (size + 40)

def size (forwards : Bool) : Term → Nat
  | .empty | .anchor _ => 32
  | .one set | .bracket set _ => set.size forwards
  | .group captures t => t.size forwards + if captures && forwards then 64 else 0
  | .iterate t least most =>
    if t.isBlank then iterateSize false (t.size forwards) (min least 1) (some (min (most.getD 1) 1))
    else iterateSize t.consumes (t.size forwards) least most
  | .seq t u => t.size forwards + u.size forwards
  | .alt t u =>
    match (Term.alt t u).set? with
    | some set => set.size forwards
    | none => (match t with | .alt _ _ => 4 | _ => 72) + t.size forwards + u.size forwards

/-- How many sets, anchors and empty parts the term has when its repetitions are written out. -/
def leaves : Term → Nat
  | .empty | .one _ | .bracket _ _ | .anchor _ => 1
  | .group _ t => t.leaves
  | .iterate t least most => (1 + max least (most.getD 1)) * t.leaves
  | .seq t u | .alt t u => t.leaves + u.leaves

def sizeLimit : Nat := 10 * 1024 * 1024

/-- The states around a pattern: forwards those that skip what is before a match, a capture and the
end; backwards no capture. -/
def fits (t : Term) : Bool :=
  t.size true + 208 ≤ sizeLimit && t.size false + 144 ≤ sizeLimit

end Term

end JsonQuery.Regex.Builtin
