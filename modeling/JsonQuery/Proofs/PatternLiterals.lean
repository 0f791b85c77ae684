import JsonQuery.Proofs.Grammar.Literal
import JsonQuery.Regex.Builtin.Matching

/-!
# Texts of patterns

A pattern between slashes keeps its backslashes, and its flags go on as far as there are letters. So
a pattern and its flags are written as they were read: the text of a pattern literal is what it was
read from, and is read back as the same literal wherever no letter follows.
-/

namespace JsonQuery

open Text

section

variable [Regex.Engine]

theorem Regex.Literal.toList_text (l : Regex.Literal) :
    l.text.toList = '/' :: (l.pattern.toList ++ '/' :: l.flags.toList) := by
  simp [Regex.Literal.text]

/-- What a pattern literal is written as behind its opening slash. -/
theorem drop_text_append (l : Regex.Literal) (rest : List Char) :
    (l.text.toList ++ rest).drop 1 = l.pattern.toList ++ '/' :: (l.flags.toList ++ rest) := by
  rw [l.toList_text]
  simp

/-- **The text of a pattern literal is what it was read from.** Its slash, pattern, slash and flags
are the characters consumed, and in front of anything but a letter they are read as the same
literal. -/
theorem readPatternLiteral_text {cs rest : List Char} {l : Regex.Literal}
    (h : readPatternLiteral cs = .ok (l, rest)) : '/' :: cs = l.text.toList ++ rest ∧
      ∀ rest', Ends isLetter rest' →
        readPatternLiteral ((l.text.toList ++ rest').drop 1) = .ok (l, rest') := by
  obtain ⟨hpattern, hflags, -, rfl⟩ := readPatternLiteral_eq_ok_iff.1 h
  constructor
  · rw [l.toList_text]
    simp
  · intro rest' hends
    rw [drop_text_append]
    exact readPatternLiteral_eq_ok_iff.2 ⟨hpattern, hflags, hends, rfl⟩

end

open scoped Regex.Builtin

/-- A slash that is no end of the pattern, and flags in front of a bracket and of a digit. -/
theorem readPatternLiteral_text_escaped : ∃ l : Regex.Literal,
    readPatternLiteral "\\/b*/im)".toList = .ok (l, [')']) ∧ Ends isLetter "9/".toList ∧
      "/\\/b*/im)".toList = l.text.toList ++ [')'] ∧
      readPatternLiteral ((l.text.toList ++ "9/".toList).drop 1) = .ok (l, "9/".toList) := by
  have hrest : (readPatternLiteral "\\/b*/im)".toList).map Prod.snd = .ok [')'] := by
    decide +kernel
  obtain ⟨⟨l, rest⟩, hread, rfl⟩ := map_eq_ok.1 hrest
  have hends : Ends isLetter "9/".toList := ends_cons.2 (by decide +kernel)
  obtain ⟨htext, hback⟩ := readPatternLiteral_text hread
  exact ⟨l, hread, hends, htext, hback _ hends⟩

end JsonQuery
