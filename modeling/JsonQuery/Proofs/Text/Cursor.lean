import JsonQuery.Text.Cursor

/-!
# Cursors as lists

What each operation of a cursor says of the characters that remain, and which of them it leaves.
-/

namespace JsonQuery.Text.Cursor

@[simp] theorem remaining_ofList (cs : List Char) : (ofList cs).remaining = cs := rfl

theorem remaining_spells (c : Cursor) (text : List Char) (distance : Nat) :
    (c.spells text distance).2.remaining = c.remaining := by
  induction text generalizing c distance with
  | nil => rfl
  | cons expected text ih =>
    rw [spells]
    dsimp only
    split
    · rw [ih, remaining_peek]
    · exact remaining_peek c distance

theorem spells_eq (c : Cursor) (text : List Char) (distance : Nat) :
    (c.spells text distance).1 = text.isPrefixOf (c.remaining.drop distance) := by
  induction text generalizing c distance with
  | nil => simp [spells]
  | cons expected text ih =>
    have hp := peek_eq c distance
    have hr := remaining_peek c distance
    rw [spells]
    cases hd : c.remaining.drop distance with
    | nil =>
      have : c.remaining[distance]? = none := by
        rw [← List.head?_drop, hd, List.head?_nil]
      simp [hp, this]
    | cons d rest =>
      have hg : c.remaining[distance]? = some d := by
        rw [← List.head?_drop, hd, List.head?_cons]
      have ht : c.remaining.drop (distance + 1) = rest := by
        rw [← List.drop_drop, hd, List.drop_one, List.tail_cons]
      by_cases he : d = expected
      · simp [hp, hg, he, ih, hr, ht]
      · simp [hp, hg, he, List.isPrefixOf, Ne.symm he]

theorem matchText_eq (c : Cursor) (text : List Char) :
    (c.matchText text).1 = text.isPrefixOf c.remaining := by
  simp [matchText, spells_eq]

theorem remaining_matchText (c : Cursor) (text : List Char) :
    (c.matchText text).2.remaining =
      if text.isPrefixOf c.remaining then c.remaining.drop text.length else c.remaining := by
  simp only [matchText, spells_eq, List.drop_zero]
  split
  · rw [remaining_skip, remaining_spells]
  · exact remaining_spells c text 0

theorem isAtEnd_eq (c : Cursor) : c.isAtEnd.1 = c.remaining.isEmpty := by
  simp only [isAtEnd, peek_eq]
  cases c.remaining <;> rfl

theorem remaining_skipBlanks (c : Cursor) : c.skipBlanks.remaining = dropBlanks c.remaining := by
  fun_induction skipBlanks c with
  | case1 c seen c' h hb ih =>
    have hp : c.remaining[0]? = some seen := by rw [← peek_eq, h]
    have hc : c'.remaining = c.remaining := by rw [← remaining_peek c 0, h]
    rw [ih, remaining_skip, hc]
    cases hr : c.remaining with
    | nil => simp [hr] at hp
    | cons d rest =>
      obtain rfl : d = seen := by simpa [hr] using hp
      rw [dropBlanks_cons_blank hb, List.drop_one, List.tail_cons]
  | case2 c seen c' h hb =>
    have hp : c.remaining[0]? = some seen := by rw [← peek_eq, h]
    have hc : c'.remaining = c.remaining := by rw [← remaining_peek c 0, h]
    rw [hc]
    cases hr : c.remaining with
    | nil => rfl
    | cons d rest =>
      obtain rfl : d = seen := by simpa [hr] using hp
      exact (dropBlanks_cons_other (by simpa using hb) rest).symm
  | case3 c c' h =>
    have hp : c.remaining[0]? = none := by rw [← peek_eq, h]
    have hc : c'.remaining = c.remaining := by rw [← remaining_peek c 0, h]
    have hr : c.remaining = [] := by simpa using hp
    rw [hc, hr, dropBlanks_nil]

end JsonQuery.Text.Cursor
