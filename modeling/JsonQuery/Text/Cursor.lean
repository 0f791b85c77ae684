import JsonQuery.Text.CodeRange

/-!
# Cursors

A cursor reads a source character by character and can look ahead. What it has looked at but not
consumed is kept in `ahead`; the source is only read as far as a question needs. To its user a
cursor is the list of characters that remain, in `ahead` first and then in the source.
-/

namespace JsonQuery.Text

structure Cursor where
  ahead : List Char
  source : List Char
deriving DecidableEq, Repr

namespace Cursor

def ofList (cs : List Char) : Cursor := ⟨[], cs⟩

def remaining (c : Cursor) : List Char := c.ahead ++ c.source

/-- Reads from the source until `count` characters are ahead or the source is at its end. -/
def fill (c : Cursor) (count : Nat) : Cursor :=
  let missing := count - c.ahead.length
  ⟨c.ahead ++ c.source.take missing, c.source.drop missing⟩

/-- The character at a distance, without consuming any. A distance is meant to be a machine word
other than the greatest, so that one more than it does not overflow. -/
def peek (c : Cursor) (distance : Nat) : Option Char × Cursor :=
  let filled := c.fill (distance + 1)
  (filled.ahead[distance]?, filled)

def next (c : Cursor) : Option Char × Cursor :=
  let (seen, c) := c.peek 0
  (seen, { c with ahead := c.ahead.drop 1 })

/-- Consumes that many characters, or all there are. -/
def skip (c : Cursor) : (count : Nat) → Cursor
  | 0 => c
  | count + 1 =>
    match c.next with
    | (some _, c) => c.skip count
    | (none, c) => c

/-- Whether the characters from a distance on spell the text. -/
def spells (c : Cursor) : (text : List Char) → (distance : Nat) → Bool × Cursor
  | [], _ => (true, c)
  | expected :: text, distance =>
    let (seen, c) := c.peek distance
    if seen = some expected then c.spells text (distance + 1) else (false, c)

/-- Consumes the text if it comes next, and nothing otherwise. -/
def matchText (c : Cursor) (text : List Char) : Bool × Cursor :=
  let (found, c) := c.spells text 0
  (found, if found then c.skip text.length else c)

def isAtEnd (c : Cursor) : Bool × Cursor :=
  let (seen, c) := c.peek 0
  (seen.isNone, c)

theorem remaining_fill (c : Cursor) (count : Nat) : (c.fill count).remaining = c.remaining := by
  simp [fill, remaining]

theorem remaining_peek (c : Cursor) (distance : Nat) :
    (c.peek distance).2.remaining = c.remaining := remaining_fill _ _

theorem peek_eq (c : Cursor) (distance : Nat) :
    (c.peek distance).1 = c.remaining[distance]? := by
  simp only [peek, fill, remaining]
  by_cases h : distance < c.ahead.length
  · rw [List.getElem?_append_left (by omega), List.getElem?_append_left h]
  · rw [List.getElem?_append_right (by omega), List.getElem?_append_right (by omega),
      List.getElem?_take_of_lt (by omega)]

theorem next_eq (c : Cursor) : c.next.1 = c.remaining.head? := by
  simp [next, peek_eq, List.head?_eq_getElem?]

theorem remaining_next (c : Cursor) : c.next.2.remaining = c.remaining.drop 1 := by
  obtain ⟨ahead, source⟩ := c
  cases ahead with
  | nil => cases source <;> simp [next, peek, fill, remaining]
  | cons a ahead => simp [next, peek, fill, remaining]

theorem remaining_skip (c : Cursor) (count : Nat) :
    (c.skip count).remaining = c.remaining.drop count := by
  induction count generalizing c with
  | zero => rfl
  | succ count ih =>
    have hn := remaining_next c
    have he := next_eq c
    rw [skip]
    split
    · next c' h =>
      rw [h] at hn
      rw [ih, hn, List.drop_drop, Nat.add_comm]
    · next c' h =>
      rw [h] at hn he
      have hr : c.remaining = [] := List.head?_eq_none_iff.1 he.symm
      rw [hn, hr, List.drop_nil, List.drop_nil]

/-- Consumes the blanks that come next. The character behind them has been looked at then. -/
def skipBlanks (c : Cursor) : Cursor :=
  match _h : c.peek 0 with
  | (some seen, c) => if isBlank seen then (c.skip 1).skipBlanks else c
  | (none, c) => c
termination_by c.remaining.length
decreasing_by
  rename_i start _
  have hseen : start.remaining[0]? = some seen := by rw [← peek_eq, _h]
  have hleft : c.remaining = start.remaining := by rw [← remaining_peek start 0, _h]
  rw [remaining_skip, hleft, List.length_drop]
  have := (List.getElem?_eq_some_iff.1 hseen).1
  omega

end Cursor

end JsonQuery.Text
