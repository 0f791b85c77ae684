import JsonQuery.Proofs.Grammar.Allowance

/-!
# Settled readers

From some allowance on, a reader gives one answer, which is not that it ran out of steps. For a path
that allowance is the length of its text. So how a text is read, with whichever fault, does not
depend on how much more is allowed.
-/

namespace JsonQuery

open Text

/-- The answer is the same from that allowance on. -/
def Settles {α : Type} (n : Nat) (f : Nat → Except Halt α) : Prop :=
  ∃ r : Except PathError α, ∀ a, n ≤ a → f a = orFault r

section

variable {α β : Type} {n m : Nat} {f : Nat → Except Halt α}

theorem settles_orFault (n : Nat) (r : Except PathError α) : Settles n fun _ => orFault r :=
  ⟨r, fun _ _ => rfl⟩

theorem settles_ok (n : Nat) (x : α) : Settles n fun _ => (.ok x : Except Halt α) :=
  settles_orFault n (.ok x)

theorem settles_fault (n : Nat) (e : PathError) :
    Settles n fun _ => (.error (.fault e) : Except Halt α) :=
  settles_orFault n (.error e)

theorem Settles.mono (h : Settles n f) (hm : n ≤ m) : Settles m f := by
  obtain ⟨r, hr⟩ := h
  exact ⟨r, fun a ha => hr a (by omega)⟩

theorem Settles.eq (h : Settles n f) {a b : Nat} (ha : n ≤ a) (hb : n ≤ b) : f a = f b := by
  obtain ⟨r, hr⟩ := h
  rw [hr a ha, hr b hb]

theorem Settles.ne_exhausted (h : Settles n f) {a : Nat} (ha : n ≤ a) :
    f a ≠ .error .exhausted := by
  obtain ⟨r, hr⟩ := h
  rw [hr a ha]
  cases r <;> simp [orFault_ok, orFault_error]

theorem Settles.succ (h : Settles n fun a => f (a + 1)) : Settles (n + 1) f := by
  obtain ⟨r, hr⟩ := h
  refine ⟨r, fun a ha => ?_⟩
  obtain ⟨a, rfl⟩ := Nat.exists_eq_succ_of_ne_zero (n := a) (by omega)
  exact hr a (by omega)

theorem Settles.bind (h : Settles n f) {g : Nat → α → Except Halt β}
    (hg : ∀ x, f n = .ok x → Settles n fun a => g a x) : Settles n fun a => f a >>= g a := by
  obtain ⟨r, hr⟩ := h
  cases r with
  | error e =>
    refine ⟨.error e, fun a ha => ?_⟩
    dsimp only
    rw [hr a ha]
    rfl
  | ok x =>
    obtain ⟨r', hr'⟩ := hg x (hr n (Nat.le_refl n))
    refine ⟨r', fun a ha => ?_⟩
    dsimp only
    rw [hr a ha]
    exact hr' a ha

theorem Settles.map (h : Settles n f) (g : α → β) : Settles n fun a => (f a).map g := by
  obtain ⟨r, hr⟩ := h
  refine ⟨r.map g, fun a ha => ?_⟩
  dsimp only
  rw [hr a ha]
  cases r <;> rfl

end

variable [Regex.Engine]

/-- Every path inside a text of that length settles. -/
def PathsSettle (n : Nat) : Prop :=
  ∀ q j cs, cs.length < n → Settles cs.length fun a => readPath a q j cs

section

variable {n : Nat} (hp : PathsSettle n)

include hp

theorem readSide_settles {cs : List Char} (hn : cs.length ≤ n) :
    Settles n fun a => readSide (readPath a true .start) cs := by
  by_cases hd : ∃ rest, cs = '$' :: rest
  · obtain ⟨rest, rfl⟩ := hd
    simp only [readSide_document]
    exact ((hp _ _ rest hn).mono (Nat.le_of_lt hn)).map _
  by_cases hc : ∃ rest, cs = '@' :: rest
  · obtain ⟨rest, rfl⟩ := hc
    simp only [readSide_candidate]
    exact ((hp _ _ rest hn).mono (Nat.le_of_lt hn)).map _
  have hd' : cs.head? ≠ some '$' := fun h => hd (List.head?_eq_some_iff.1 h)
  have hc' : cs.head? ≠ some '@' := fun h => hc (List.head?_eq_some_iff.1 h)
  simp only [readSide_literal hd' hc']
  exact settles_orFault n _

theorem readOperand_settles {cs : List Char} (hn : cs.length ≤ n) :
    Settles n fun a => readOperand (readPath a true .start) cs := by
  have hside := readSide_settles hp (Nat.le_trans (dropBlanks_length_le cs) hn)
  refine hside.bind fun found _ => ?_
  obtain ⟨operand, rest⟩ := found
  dsimp only
  cases dropBlanks rest with
  | nil => exact settles_fault n _
  | cons c rest => exact settles_ok n _

theorem readTest_settles {cs : List Char} (hn : cs.length ≤ n) :
    Settles n fun a => readTest (readPath a true .start) cs := by
  refine (readOperand_settles hp hn).bind fun found hleft => ?_
  obtain ⟨left, rest⟩ := found
  dsimp only
  split
  · exact settles_ok n _
  · exact settles_ok n _
  · exact settles_ok n _
  refine (settles_orFault n _).bind fun found hop => ?_
  obtain ⟨operator, mid⟩ := found
  refine Settles.bind (readOperand_settles hp ?_) fun _ _ => settles_ok n _
  have hreads := readsOperand_of_readOperand readsPath_of_readPath hleft
  obtain ⟨word, -, rfl, -⟩ := hreads.lookahead
  obtain ⟨op, -, rfl, -⟩ := readOperator_looksOneAhead _ _ _ (orFault_eq_ok.1 hop)
  simp only [List.length_append] at hn ⊢
  omega

end

/-- Every condition inside a text of that length settles. -/
def ChainsSettle (n : Nat) : Prop :=
  ∀ cs, cs.length < n → Settles (cs.length + 1) fun a => readChain a cs

theorem readFilter_settles {n : Nat} (hc : ChainsSettle n) {close : Char} {scan : Bool}
    {cs : List Char} (hn : cs.length ≤ n) :
    Settles n fun a => readFilter (readChain a) close scan cs := by
  cases cs with
  | nil => exact settles_fault n _
  | cons c cs =>
    rw [List.length_cons] at hn
    unfold readFilter
    by_cases ho : c ≠ '('
    · simp only [if_pos ho]
      exact settles_fault n _
    simp only [if_neg ho]
    refine ((hc cs (by omega)).mono hn).bind fun found _ => ?_
    obtain ⟨chain, rest⟩ := found
    dsimp only
    split
    · exact settles_fault n _
    split
    · exact settles_ok n _
    · exact settles_fault n _

theorem readIndexer_settles {n : Nat} (hc : ChainsSettle n) {close : Char} {scan : Bool}
    {cs : List Char} (hn : cs.length ≤ n) :
    Settles n fun a => readIndexer (readChain a) close scan cs := by
  have hlen := dropBlanks_length_le cs
  unfold readIndexer
  split
  · exact settles_fault n _
  · exact (settles_orFault n _).bind fun _ _ => settles_ok n _
  · next rest hd =>
    rw [hd, List.length_cons] at hlen
    refine Settles.bind (readFilter_settles hc (by omega)) fun _ _ => settles_ok n _
  · exact (settles_orFault n _).bind fun _ _ => settles_ok n _

theorem readPath_settles_succ {n : Nat} (hp : PathsSettle n) (hc : ChainsSettle n) :
    PathsSettle (n + 1) := by
  intro q j cs hn
  cases cs with
  | nil =>
    simp only [readPath_nil]
    split
    · exact settles_fault _ _
    · exact settles_ok _ _
  | cons c cs =>
    have hcs : cs.length < n := by simpa using hn
    refine Settles.succ ?_
    obtain hb | he | rfl | hname := pathChar_cases q c
    · simp only [readPath_bracket hb]
      have hchains : ChainsSettle cs.length := fun t ht => hc t (by omega)
      refine (readIndexer_settles hchains (Nat.le_refl _)).bind fun found hr => ?_
      obtain ⟨here, rest⟩ := found
      obtain ⟨mid, rfl, hmid⟩ := readsIndexer_of_readIndexer (readers_sound cs.length).chain hr
      obtain ⟨word, he, -⟩ := hmid.lookahead (isCloser_closing c)
      have hlen := congrArg List.length he
      rw [List.length_append] at hlen
      exact ((hp q .indexer mid (by omega)).mono (by omega)).map _
    · simp only [readPath_end he]
      split
      · exact settles_fault _ _
      · exact settles_ok _ _
    · simp only [readPath_dot]
      exact hp q _ cs hcs
    · by_cases hj : j = .indexer
      · subst hj
        simp only [readPath_nameAfterIndexer hname]
        exact settles_fault _ _
      obtain ⟨word, mid, rfl, hw, hmid⟩ := exists_word q cs
      simp only [readPath_name hj hname hw hmid]
      rw [List.length_append] at hcs
      exact ((hp q .name mid (by omega)).mono (by simp)).map _

theorem readChain_settles_succ {n : Nat} (hp : PathsSettle n) (hc : ChainsSettle n) :
    ChainsSettle (n + 1) := by
  intro cs hn
  refine Settles.succ ?_
  have hpaths : PathsSettle cs.length := fun q j t ht => hp q j t (by omega)
  simp only [readChain]
  refine (readTest_settles hpaths (Nat.le_refl cs.length)).bind fun found hr => ?_
  obtain ⟨test, rest⟩ := found
  have hreads := readsTest_of_readTest readsPath_of_readPath hr
  dsimp only
  split
  · exact settles_fault _ _
  · exact settles_ok _ _
  split
  · exact settles_fault _ _
  · next connective mid hs =>
    obtain ⟨word, hne, rfl, -⟩ := hreads.lookahead
    obtain ⟨spelling, -, he, -⟩ := readSpelling_lookahead connectiveSpellings_length hs
    have hpos := List.length_pos_iff.2 hne
    have hlen := congrArg List.length he
    simp only [List.length_append] at hlen hn ⊢
    refine Settles.bind ((hc mid (by omega)).mono (by omega)) fun _ _ => settles_ok _ _

theorem readers_settle (n : Nat) : PathsSettle n ∧ ChainsSettle n := by
  induction n with
  | zero => exact ⟨fun _ _ _ h => absurd h (by omega), fun _ h => absurd h (by omega)⟩
  | succ n ih =>
    obtain ⟨ihp, ihc⟩ := ih
    exact ⟨readPath_settles_succ ihp ihc, readChain_settles_succ ihp ihc⟩

theorem readPath_settles (q : Bool) (j : Junction) (cs : List Char) :
    Settles cs.length fun a => readPath a q j cs :=
  (readers_settle (cs.length + 1)).1 q j cs (by omega)

/-- The length of a text is enough steps to read it, well formed or not. -/
theorem readPath_ne_exhausted (q : Bool) (j : Junction) (cs : List Char) :
    readPath cs.length q j cs ≠ .error .exhausted :=
  (readPath_settles q j cs).ne_exhausted (Nat.le_refl _)

end JsonQuery
