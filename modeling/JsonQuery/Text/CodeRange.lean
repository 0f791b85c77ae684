/-!
# Runs of code points

Character properties are kept as lists of runs. A property that ASCII decides by itself is tested
there first, so that its list only holds the characters beyond ASCII. Blanks are the first of them:
the Unicode white space characters, which may stand around the parts of a path without meaning
anything, the line separators and the no-break spaces among them.
-/

namespace JsonQuery.Text

/-- The first and the last code point of a run. -/
abbrev CodeRange := Nat × Nat

def inRanges (runs : List CodeRange) (c : Char) : Bool :=
  runs.any fun run => run.1 ≤ c.toNat && c.toNat ≤ run.2

theorem inRanges_iff {runs : List CodeRange} {c : Char} :
    inRanges runs c = true ↔ ∃ run ∈ runs, run.1 ≤ c.toNat ∧ c.toNat ≤ run.2 := by
  simp [inRanges]

/-- Puts runs in order and joins those that meet. -/
def joinRuns (runs : List CodeRange) : List CodeRange :=
  let extend (joined : List CodeRange) (run : CodeRange) : List CodeRange :=
    match joined with
    | [] => [run]
    | last :: others =>
      if run.1 ≤ last.2 + 1 then (last.1, max last.2 run.2) :: others else run :: joined
  ((runs.mergeSort fun a b => a.1 ≤ b.1).foldl extend []).reverse

/-- The code points from `start` on that are in none of the runs, which are in order. -/
def gaps (start : Nat) : List CodeRange → List CodeRange
  | [] => if start ≤ 0x10FFFF then [(start, 0x10FFFF)] else []
  | run :: rest =>
    if start < run.1 then (start, run.1 - 1) :: gaps (run.2 + 1) rest else gaps (run.2 + 1) rest

def complRuns (runs : List CodeRange) : List CodeRange := gaps 0 (joinRuns runs)

def interRuns (a b : List CodeRange) : List CodeRange := complRuns (complRuns a ++ complRuns b)

def diffRuns (a b : List CodeRange) : List CodeRange := complRuns (complRuns a ++ b)

/-! ## Blanks -/

def blankRanges : List CodeRange :=
  [(0x9, 0xD), (0x20, 0x20), (0x85, 0x85), (0xA0, 0xA0), (0x1680, 0x1680), (0x2000, 0x200A),
   (0x2028, 0x2029), (0x202F, 0x202F), (0x205F, 0x205F), (0x3000, 0x3000)]

def isBlank (c : Char) : Bool := inRanges blankRanges c

def dropBlanks (cs : List Char) : List Char := cs.dropWhile isBlank

/-- Blanks taken off both ends. -/
def trimBlanks (cs : List Char) : List Char := (dropBlanks (dropBlanks cs).reverse).reverse

theorem dropBlanks_suffix (cs : List Char) : dropBlanks cs <:+ cs := List.dropWhile_suffix _

theorem dropBlanks_length_le (cs : List Char) : (dropBlanks cs).length ≤ cs.length :=
  (dropBlanks_suffix cs).length_le

@[simp] theorem dropBlanks_nil : dropBlanks [] = [] := rfl

theorem dropBlanks_cons_blank {c : Char} (h : isBlank c = true) (cs : List Char) :
    dropBlanks (c :: cs) = dropBlanks cs := List.dropWhile_cons_of_pos h

theorem dropBlanks_cons_other {c : Char} (h : isBlank c = false) (cs : List Char) :
    dropBlanks (c :: cs) = c :: cs := List.dropWhile_cons_of_neg (by simp [h])

end JsonQuery.Text
