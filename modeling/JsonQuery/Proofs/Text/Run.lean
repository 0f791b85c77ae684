import JsonQuery.Proofs.Text.Gap
import JsonQuery.Text.Letter

/-!
# Runs of a class

A word that is read as the longest run of some characters ends where a text goes on with another
one, or ends itself. Two classes of characters have none in common when no run of one meets a run of
the other.
-/

namespace JsonQuery.Text

/-- The text does not go on with a character of the class. -/
def Ends (p : Char → Bool) (rest : List Char) : Prop := ∀ c, rest.head? = some c → p c = false

section

variable {p : Char → Bool} {word rest rest' : List Char}

theorem ends_cons {c : Char} : Ends p (c :: rest) ↔ p c = false := by simp [Ends]

theorem ends_dropWhile (cs : List Char) : Ends p (cs.dropWhile p) := by
  intro c hc
  have := List.head?_dropWhile_not p cs
  simpa [hc] using this

theorem Ends.of_head_eq (h : Ends p rest) (he : rest'.head? = rest.head?) : Ends p rest' :=
  fun c hc => h c (he ▸ hc)

theorem takeWhile_run (hw : ∀ c ∈ word, p c = true) (hr : Ends p rest) :
    (word ++ rest).takeWhile p = word := by
  rw [List.takeWhile_append_of_pos hw]
  cases rest with
  | nil => simp
  | cons c rest => rw [List.takeWhile_cons_of_neg (by simp [ends_cons.1 hr]), List.append_nil]

theorem dropWhile_run (hw : ∀ c ∈ word, p c = true) (hr : Ends p rest) :
    (word ++ rest).dropWhile p = rest := by
  rw [List.dropWhile_append_of_pos hw]
  cases rest with
  | nil => rfl
  | cons c rest => exact List.dropWhile_cons_of_neg (by simp [ends_cons.1 hr])

end

/-! ## Disjoint classes -/

/-- No run of one list meets a run of the other. -/
def Apart (as bs : List CodeRange) : Prop := ∀ a ∈ as, ∀ b ∈ bs, a.2 < b.1 ∨ b.2 < a.1

instance (as bs : List CodeRange) : Decidable (Apart as bs) :=
  inferInstanceAs (Decidable (∀ a ∈ as, ∀ b ∈ bs, _))

theorem Apart.not_inRanges {as bs : List CodeRange} (h : Apart as bs) {c : Char}
    (hc : inRanges as c = true) : inRanges bs c = false := by
  obtain ⟨a, ha, hl, hu⟩ := inRanges_iff.1 hc
  rw [Bool.eq_false_iff]
  intro hb
  obtain ⟨b, hb, hl', hu'⟩ := inRanges_iff.1 hb
  obtain h | h := h a ha b hb <;> omega

def latinRanges : List CodeRange := [(0x41, 0x5A), (0x61, 0x7A)]

theorem isAlpha_eq (c : Char) : c.isAlpha = inRanges latinRanges c := by
  have h : c.isAlpha = (decide (c.val ≥ 'A'.val ∧ c.val ≤ 'Z'.val) ||
    (decide (c.val ≥ 'a'.val) && decide (c.val ≤ 'z'.val))) := rfl
  simp [h, inRanges, latinRanges, UInt32.le_iff_toNat_le]

theorem not_letter_of_isBlank {c : Char} (h : isBlank c = true) : isLetter c = false := by
  have latin : Apart blankRanges latinRanges := by decide
  have letters : Apart blankRanges letterRanges := by decide +kernel
  simp [isLetter, isAlpha_eq, latin.not_inRanges h, letters.not_inRanges h]

end JsonQuery.Text
