import JsonQuery.Path.Reader

/-!
# Outcomes of readers

When a chain of readers succeeds and with what, and how far a reader looks.
-/

namespace JsonQuery

section

variable {ε α β : Type}

theorem bind_eq_ok {r : Except ε α} {f : α → Except ε β} {b : β} :
    r >>= f = .ok b ↔ ∃ a, r = .ok a ∧ f a = .ok b := by
  cases r <;> simp [bind, Except.bind]

theorem map_eq_ok {r : Except ε α} {f : α → β} {b : β} :
    r.map f = .ok b ↔ ∃ a, r = .ok a ∧ f a = b := by
  cases r <;> simp [Except.map]

theorem orFault_ok (a : α) : orFault (.ok a) = .ok a := rfl

theorem orFault_error (e : PathError) : orFault (.error e : Except PathError α) =
    .error (.fault e) := rfl

theorem orFault_eq_ok {r : Except PathError α} {a : α} : orFault r = .ok a ↔ r = .ok a := by
  cases r <;> simp [orFault_ok, orFault_error]

/-- A reader that succeeds takes a word, and looks one character past it: it takes the same word
off any text that goes on behind it with the same character. -/
def LooksOneAhead (read : List Char → Except ε (α × List Char)) : Prop :=
  ∀ cs x rest, read cs = .ok (x, rest) → ∃ word, word ≠ [] ∧ cs = word ++ rest ∧
    ∀ rest', rest'.head? = rest.head? → read (word ++ rest') = .ok (x, rest')

/-- The word begins as the text does. -/
theorem LooksOneAhead.cons {read : List Char → Except ε (α × List Char)} (h : LooksOneAhead read)
    {c : Char} {cs rest : List Char} {x : α} (hr : read (c :: cs) = .ok (x, rest)) :
    ∃ word, cs = word ++ rest ∧
      ∀ rest', rest'.head? = rest.head? → read (c :: (word ++ rest')) = .ok (x, rest') := by
  obtain ⟨word, hne, he, hw⟩ := h _ _ _ hr
  cases word with
  | nil => exact absurd rfl hne
  | cons d word =>
    obtain ⟨rfl, rfl⟩ := List.cons.inj he
    exact ⟨word, rfl, hw⟩

end

end JsonQuery
