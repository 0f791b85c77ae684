import JsonQuery.Path.Reader
import JsonQuery.Proofs.Grammar.Settled
import JsonQuery.Proofs.Text.Cursor

/-!
# Whole texts

A text is a path when, with the blanks around it and the marker of the document taken off, the
grammar relates it to one and leaves nothing.
-/

namespace JsonQuery

open Text

/-- A text without the marker of the document. A dollar sign that begins a name is no marker. -/
def withoutRoot : List Char → List Char
  | '$' :: cs =>
    if cs.head? = none ∨ cs.head? = some '.' ∨ cs.head? = some '[' then cs else '$' :: cs
  | cs => cs

theorem withoutRoot_marker {cs : List Char}
    (h : cs.head? = none ∨ cs.head? = some '.' ∨ cs.head? = some '[') :
    withoutRoot ('$' :: cs) = cs := if_pos h

theorem withoutRoot_name {cs : List Char}
    (h : ¬(cs.head? = none ∨ cs.head? = some '.' ∨ cs.head? = some '[')) :
    withoutRoot ('$' :: cs) = '$' :: cs := if_neg h

theorem withoutRoot_other {cs : List Char} (h : cs.head? ≠ some '$') : withoutRoot cs = cs := by
  unfold withoutRoot
  split
  · exact absurd rfl h
  · rfl

theorem withoutRoot_suffix (cs : List Char) : withoutRoot cs <:+ cs := by
  unfold withoutRoot
  split
  · split
    · exact List.suffix_cons _ _
    · exact List.suffix_refl _
  · exact List.suffix_refl _

variable [Regex.Engine]

theorem parseChars_nil : parseChars [] = .ok [] := rfl

theorem parse_eq (text : String) :
    Path.parse text = parseChars (withoutRoot (trimBlanks text.toList)) := by
  unfold Path.parse
  generalize trimBlanks text.toList = cs
  simp only [Cursor.peek_eq, Cursor.remaining_ofList, Cursor.remaining_skip]
  cases cs with
  | nil => rfl
  | cons c cs =>
    by_cases hc : c = '$'
    · subst hc
      cases cs with
      | nil => exact parseChars_nil.symm
      | cons d cs =>
        by_cases hd : d = '.' ∨ d = '['
        · simp [withoutRoot, hd]
        · simp [withoutRoot, hd]
    · rw [withoutRoot_other (by simpa using hc)]
      simp [hc]

/-- What a reader of paths left, judged at the end of the text. -/
def endOfText : Except Halt (Path × List Char) → Except PathError Path
  | .ok (path, rest) => if dropBlanks rest = [] then .ok path else
    .error (.unexpectedCharacter (rest.headD ' '))
  | .error (.fault e) => .error e
  | .error .exhausted => .error .unexpectedEnd

theorem parseChars_eq (cs : List Char) :
    parseChars cs = endOfText (readPath cs.length false .start cs) := by
  unfold parseChars endOfText
  split
  · next h => rw [h]; rfl
  · next c rest h =>
    rw [h, Cursor.isAtEnd_eq, Cursor.remaining_skipBlanks, Cursor.remaining_ofList]
    simp
  · next h => rw [h]
  · next h => rw [h]

theorem parseChars_eq_ok_iff {cs : List Char} {path : Path} :
    parseChars cs = .ok path ↔ ∃ g, Gap g ∧ ReadsPath false .start cs path g := by
  rw [parseChars_eq]
  constructor
  · intro h
    cases hr : readPath cs.length false .start cs with
    | error e => cases e <;> simp [hr, endOfText] at h
    | ok found =>
      obtain ⟨path', rest⟩ := found
      simp only [hr, endOfText] at h
      split at h
      · next hg =>
        cases h
        exact ⟨rest, dropBlanks_eq_nil_iff.1 hg, readsPath_of_readPath hr⟩
      · cases h
  · rintro ⟨g, hg, h⟩
    rw [h.readPath (Nat.le_refl _)]
    simp [endOfText, dropBlanks_of_gap hg]

/-- A text that begins and ends without blanks is read up to its end. -/
theorem parseChars_trimmed_iff {cs : List Char} {path : Path}
    (h : ∀ c, cs.getLast? = some c → isBlank c = false) :
    parseChars cs = .ok path ↔ ReadsPath false .start cs path [] := by
  rw [parseChars_eq_ok_iff]
  constructor
  · rintro ⟨g, hg, hr⟩
    obtain ⟨word, he, -⟩ := hr.lookahead
    obtain rfl : g = [] := hg.eq_nil_of_suffix ⟨word, he.symm⟩ h
    exact hr
  · intro hr
    exact ⟨[], Gap.nil, hr⟩

theorem parse_eq_ok_iff {text : String} {path : Path} :
    Path.parse text = .ok path ↔
      ReadsPath false .start (withoutRoot (trimBlanks text.toList)) path [] := by
  rw [parse_eq]
  obtain ⟨g, h, -, -, -, ht⟩ := exists_trimmed text.toList
  refine parseChars_trimmed_iff fun c hc => ht.2 c ?_
  obtain ⟨front, hf⟩ := withoutRoot_suffix (trimBlanks text.toList)
  rw [← hf, List.getLast?_append, hc]
  rfl

end JsonQuery
