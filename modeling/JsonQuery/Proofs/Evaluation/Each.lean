import JsonQuery.Proofs.Grammar.Outcome
import JsonQuery.Select.Evaluate
import Mathlib.Data.List.Forall2

/-!
# Selection on every node

What a selection on a list of nodes says of each node alone, and how two selections one after the
other come apart. A run over a list fails with its first node that fails, so two runs can fail
differently where each node goes through both; they succeed together.
-/

namespace JsonQuery

/-! ## The first of a list -/

/-- The first item of a list with a property. -/
def First {α : Type} (P : α → Prop) (items : List α) (a : α) : Prop :=
  ∃ before after, items = before ++ a :: after ∧ (∀ b ∈ before, ¬ P b) ∧ P a

section

variable {α : Type} {P : α → Prop} {items : List α} {a b : α}

theorem First.mem (h : First P items a) : a ∈ items := by
  obtain ⟨before, after, rfl, -, -⟩ := h
  simp

theorem First.holds (h : First P items a) : P a := by
  obtain ⟨before, after, -, -, ha⟩ := h
  exact ha

theorem first_nil : ¬ First P [] a := by
  rintro ⟨before, after, h, -, -⟩
  cases before <;> cases h

theorem first_cons_iff : First P (b :: items) a ↔ (P b ∧ a = b) ∨ (¬ P b ∧ First P items a) := by
  constructor
  · rintro ⟨before, after, h, hbefore, ha⟩
    cases before with
    | nil =>
      obtain ⟨rfl, rfl⟩ := List.cons.inj h
      exact .inl ⟨ha, rfl⟩
    | cons c before =>
      obtain ⟨rfl, rfl⟩ := List.cons.inj h
      obtain ⟨hc, hbefore⟩ := List.forall_mem_cons.1 hbefore
      exact .inr ⟨hc, before, after, rfl, hbefore, ha⟩
  · rintro (⟨hb, rfl⟩ | ⟨hb, before, after, rfl, hbefore, ha⟩)
    · exact ⟨[], items, rfl, nofun, hb⟩
    · exact ⟨b :: before, after, rfl, List.forall_mem_cons.2 ⟨hb, hbefore⟩, ha⟩

theorem exists_first_iff : (∃ a, First P items a) ↔ ∃ a ∈ items, P a := by
  constructor
  · rintro ⟨a, h⟩
    exact ⟨a, h.mem, h.holds⟩
  · intro h
    induction items with
    | nil => simp at h
    | cons b items ih =>
      simp only [first_cons_iff]
      by_cases hb : P b
      · exact ⟨b, .inl ⟨hb, rfl⟩⟩
      · obtain ⟨a, ha⟩ := ih (by simpa [hb] using h)
        exact ⟨a, .inr ⟨hb, ha⟩⟩

end

/-! ## Runs on every node -/

section

variable {f g : Node → Except SelectError (List Node)} {input output : List Node}

theorem onEach_singleton (f : Node → Except SelectError (List Node)) (n : Node) :
    onEach f [n] = f n := by
  cases h : f n with
  | error e => simp [onEach, h, bind, Except.bind]
  | ok here => simp [onEach, h, bind, Except.bind, pure, Except.pure]

theorem onEach_ok (f : Node → List Node) (input : List Node) :
    onEach (fun n => .ok (f n)) input = .ok (input.flatMap f) := by
  induction input with
  | nil => rfl
  | cons n input ih => rw [onEach, ih]; rfl

theorem onEach_cons_eq_ok {n : Node} : onEach f (n :: input) = .ok output ↔
    ∃ here there, f n = .ok here ∧ onEach f input = .ok there ∧ output = here ++ there := by
  rw [onEach]
  constructor
  · intro h
    obtain ⟨here, hn, h⟩ := bind_eq_ok.1 h
    obtain ⟨there, hi, h⟩ := bind_eq_ok.1 h
    cases h
    exact ⟨here, there, hn, hi, rfl⟩
  · rintro ⟨here, there, hn, hi, rfl⟩
    rw [hn, hi]
    rfl

/-- Two outcomes joined fail as the first one does, or else as the second one. -/
theorem join_eq_error_iff {r s : Except SelectError (List Node)} {e : SelectError} :
    (do
      let here ← r
      let there ← s
      return here ++ there) = .error e ↔ r = .error e ∨ (∃ here, r = .ok here) ∧ s = .error e := by
  cases r <;> cases s <;> simp [bind, Except.bind, pure, Except.pure]

theorem first_error_cons_iff {α : Type} {f : α → Except SelectError (List Node)} {a : α}
    {items : List α} {e : SelectError} :
    (∃ b, First (fun c => ∃ e, f c = .error e) (a :: items) b ∧ f b = .error e) ↔
      f a = .error e ∨ (∃ here, f a = .ok here) ∧
        ∃ b, First (fun c => ∃ e, f c = .error e) items b ∧ f b = .error e := by
  cases h : f a with
  | error e' => simp [first_cons_iff, h]
  | ok here => simp [first_cons_iff, h]

/-- A run fails as it does on the first node on which it does. -/
theorem onEach_eq_error_iff {e : SelectError} : onEach f input = .error e ↔
    ∃ n, First (fun m => ∃ e, f m = .error e) input n ∧ f n = .error e := by
  induction input with
  | nil => simp [onEach, first_nil]
  | cons n input ih => rw [onEach, join_eq_error_iff, first_error_cons_iff, ih]

/-- A run succeeds when it does on every node, and joins what the nodes give. -/
theorem onEach_eq_ok_iff : onEach f input = .ok output ↔
    ∃ founds, List.Forall₂ (fun n found => f n = .ok found) input founds ∧
      output = founds.flatten := by
  induction input generalizing output with
  | nil =>
    constructor
    · intro h
      cases h
      exact ⟨[], .nil, rfl⟩
    · rintro ⟨founds, hf, rfl⟩
      cases hf
      rfl
  | cons n input ih =>
    rw [onEach_cons_eq_ok]
    constructor
    · rintro ⟨here, there, hn, hi, rfl⟩
      obtain ⟨founds, hf, rfl⟩ := ih.1 hi
      exact ⟨here :: founds, .cons hn hf, rfl⟩
    · rintro ⟨founds, hf, rfl⟩
      obtain _ | ⟨hn, hf⟩ := hf
      exact ⟨_, _, hn, ih.2 ⟨_, hf, rfl⟩, rfl⟩

theorem onEach_append_eq_ok {input' : List Node} : onEach f (input ++ input') = .ok output ↔
    ∃ here there, onEach f input = .ok here ∧ onEach f input' = .ok there ∧
      output = here ++ there := by
  induction input generalizing output with
  | nil =>
    constructor
    · intro h
      exact ⟨[], output, rfl, h, rfl⟩
    · rintro ⟨here, there, hi, hi', rfl⟩
      cases hi
      exact hi'
  | cons n input ih =>
    rw [List.cons_append, onEach_cons_eq_ok]
    constructor
    · rintro ⟨here, there, hn, hrest, rfl⟩
      obtain ⟨mid, last, hi, hi', rfl⟩ := ih.1 hrest
      refine ⟨here ++ mid, last, onEach_cons_eq_ok.2 ⟨here, mid, hn, hi, rfl⟩, hi', ?_⟩
      rw [List.append_assoc]
    · rintro ⟨first, last, hfirst, hi', rfl⟩
      obtain ⟨here, mid, hn, hi, rfl⟩ := onEach_cons_eq_ok.1 hfirst
      refine ⟨here, mid ++ last, hn, ih.2 ⟨mid, last, hi, hi', rfl⟩, ?_⟩
      rw [List.append_assoc]

/-- Two runs one after the other succeed as the run that takes each node through both. -/
theorem onEach_bind_eq_ok : (onEach f input >>= onEach g) = .ok output ↔
    onEach (fun n => f n >>= onEach g) input = .ok output := by
  induction input generalizing output with
  | nil => rfl
  | cons n input ih =>
    rw [bind_eq_ok, onEach_cons_eq_ok]
    constructor
    · rintro ⟨mid, hmid, hg⟩
      obtain ⟨here, there, hn, hi, rfl⟩ := onEach_cons_eq_ok.1 hmid
      obtain ⟨first, last, hhere, hthere, rfl⟩ := onEach_append_eq_ok.1 hg
      refine ⟨first, last, bind_eq_ok.2 ⟨here, hn, hhere⟩, ?_, rfl⟩
      exact ih.1 (bind_eq_ok.2 ⟨there, hi, hthere⟩)
    · rintro ⟨first, last, hn, hi, rfl⟩
      obtain ⟨here, hn, hhere⟩ := bind_eq_ok.1 hn
      obtain ⟨there, hi, hthere⟩ := bind_eq_ok.1 (ih.2 hi)
      refine ⟨here ++ there, onEach_cons_eq_ok.2 ⟨here, there, hn, hi, rfl⟩, ?_⟩
      exact onEach_append_eq_ok.2 ⟨first, last, hhere, hthere, rfl⟩

/-- What is known of the nodes found from one node, on a run that succeeds. -/
theorem onEach_map_eq {β : Type} {view : Node → β} {found : Node → List β}
    (h : ∀ n nodes, f n = .ok nodes → nodes.map view = found n)
    (hf : onEach f input = .ok output) : output.map view = input.flatMap found := by
  induction input generalizing output with
  | nil =>
    cases hf
    rfl
  | cons n input ih =>
    obtain ⟨here, there, hhere, hthere, rfl⟩ := onEach_cons_eq_ok.1 hf
    rw [List.map_append, h n here hhere, ih hthere, List.flatMap_cons]

/-- A selection that keeps the outcomes of another one keeps them on a list. -/
theorem onEach_mono (h : ∀ n found, f n = .ok found → g n = .ok found)
    (hf : onEach f input = .ok output) : onEach g input = .ok output := by
  obtain ⟨founds, hfounds, rfl⟩ := onEach_eq_ok_iff.1 hf
  exact onEach_eq_ok_iff.2 ⟨founds, hfounds.imp h, rfl⟩

/-- A selection that does not look at where its node is gives the same on nodes moved elsewhere. -/
theorem onEach_map {place : Node → Node} (h : ∀ n, f (place n) = (f n).map (List.map place))
    (input : List Node) : onEach f (input.map place) = (onEach f input).map (List.map place) := by
  induction input with
  | nil => rfl
  | cons n input ih =>
    rw [List.map_cons, onEach, onEach, h, ih]
    cases f n with
    | error e => rfl
    | ok here =>
      cases onEach f input with
      | error e => rfl
      | ok there => simp [bind, Except.bind, pure, Except.pure, Except.map]

end

section

variable [Regex.Engine] (strict : Bool) (document : Json)

/-- A selector runs on every node of its input alone. -/
theorem Selector.select_eq_onEach {selector : Selector} (hroot : selector ≠ .root)
    (hstep : ∀ start stop, selector ≠ .slice start stop (some 0)) (input : List Node) :
    selector.select strict document input =
      onEach (fun n => selector.select strict document [n]) input := by
  cases selector with
  | root => exact absurd rfl hroot
  | field name => simp only [select, onEach_singleton]
  | fields names => simp only [select, onEach_singleton]
  | index position =>
    cases position with
    | none => simp only [select, onEach_singleton]
    | some i => simp only [select, onEach_singleton]
  | indexes positions => simp only [select, onEach_singleton]
  | slice start stop step =>
    have hzero : step ≠ some 0 := fun h => hstep start stop (by rw [h])
    simp only [select, if_neg hzero, onEach_singleton]
  | scan name => simp only [select, onEach_ok, List.flatMap_singleton]
  | scanFields names => simp only [select, onEach_ok, List.flatMap_singleton]
  | filter condition => simp only [select, onEach_ok, List.flatMap_singleton]
  | scanFilter condition => simp only [select, onEach_ok, List.flatMap_singleton]

theorem Path.selectFrom_cons (selector : Selector) (path : Path) (input : List Node) :
    Path.selectFrom strict document (selector :: path) input =
      selector.select strict document input >>= Path.selectFrom strict document path := by
  rw [Path.selectFrom]
  cases selector.select strict document input <;> rfl

theorem Path.selectFrom_singleton (selector : Selector) (input : List Node) :
    Path.selectFrom strict document [selector] input = selector.select strict document input := by
  rw [Path.selectFrom]
  cases selector.select strict document input <;> rfl

theorem Path.selectFrom_append (p q : Path) (input : List Node) :
    Path.selectFrom strict document (p ++ q) input =
      Path.selectFrom strict document p input >>= Path.selectFrom strict document q := by
  induction p generalizing input with
  | nil => rfl
  | cons selector p ih =>
    rw [List.cons_append, Path.selectFrom_cons, Path.selectFrom_cons]
    cases selector.select strict document input with
    | error e => rfl
    | ok nodes => exact ih nodes

end

end JsonQuery
