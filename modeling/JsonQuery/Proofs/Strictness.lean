import JsonQuery.Proofs.Evaluation.Each
import JsonQuery.Regex.Builtin.Matching

/-!
# Strict and lenient selection

Strict selection only adds failures. Where it succeeds no node lacked anything, so lenient selection
had nothing to pass over and finds the same nodes in the same order. Conditions are not touched by
it: the paths inside them are lenient in both.
-/

namespace JsonQuery

/-- What one selection finds from a node the other one finds too. -/
def Relaxes (strictly leniently : Node → Except SelectError (List Node)) : Prop :=
  ∀ n found, strictly n = .ok found → leniently n = .ok found

theorem missing_strict_ne_ok (e : SelectError) (found : List Node) :
    missing true e ≠ .ok found := nofun

theorem relaxes_fieldOf (name : Option String) :
    Relaxes (Node.fieldOf true name) (Node.fieldOf false name) := by
  intro n found h
  unfold Node.fieldOf at h ⊢
  split at h
  · next members name _ =>
    -- a member that is not there is what strict selection fails on
    cases hv : members.lookup name with
    | none =>
      rw [hv] at h
      exact absurd h (missing_strict_ne_ok _ _)
    | some v => rwa [hv] at h
  · exact h
  · exact absurd h (missing_strict_ne_ok _ _)

theorem relaxes_fieldsOf (names : List String) :
    Relaxes (Node.fieldsOf true names) (Node.fieldsOf false names) := by
  intro n found h
  unfold Node.fieldsOf at h ⊢
  split at h
  · dsimp only at h
    rw [if_pos rfl] at h
    split at h
    · exact h
    · cases h
    · cases h
  · exact absurd h (missing_strict_ne_ok _ _)

theorem relaxes_indexOf (position : Int) :
    Relaxes (Node.indexOf true position) (Node.indexOf false position) := by
  intro n found h
  unfold Node.indexOf at h ⊢
  split at h
  · split at h
    · exact h
    · exact absurd h (missing_strict_ne_ok _ _)
  · exact absurd h (missing_strict_ne_ok _ _)

theorem relaxes_elementsOf : Relaxes (Node.elementsOf true) (Node.elementsOf false) := by
  intro n found h
  unfold Node.elementsOf at h ⊢
  split at h
  · exact h
  · exact absurd h (missing_strict_ne_ok _ _)

theorem relaxes_indexesOf (positions : List Int) :
    Relaxes (Node.indexesOf true positions) (Node.indexesOf false positions) := by
  intro n
  induction positions with
  | nil =>
    intro found h
    exact h
  | cons position rest ih =>
    intro found h
    rw [Node.indexesOf] at h ⊢
    obtain ⟨here, hhere, h⟩ := bind_eq_ok.1 h
    obtain ⟨there, hthere, h⟩ := bind_eq_ok.1 h
    have hhere' : n.indexOf false position = .ok here := relaxes_indexOf position n here hhere
    have hthere' : Node.indexesOf false rest n = .ok there := ih there hthere
    rw [hhere', hthere']
    exact h

theorem relaxes_sliceOf (start stop : Option Int) (step : Int) :
    Relaxes (Node.sliceOf true start stop step) (Node.sliceOf false start stop step) := by
  intro n found h
  unfold Node.sliceOf at h ⊢
  split at h
  · split at h
    · exact absurd h (missing_strict_ne_ok _ _)
    · exact h
  · exact absurd h (missing_strict_ne_ok _ _)

section

variable [Regex.Engine] {document : Json}

theorem Selector.select_relaxes (selector : Selector) {input found : List Node}
    (h : selector.select true document input = .ok found) :
    selector.select false document input = .ok found := by
  cases selector with
  | root => exact h
  | field name => exact onEach_mono (relaxes_fieldOf name) h
  | fields names => exact onEach_mono (relaxes_fieldsOf names) h
  | index position =>
    cases position with
    | none => exact onEach_mono relaxes_elementsOf h
    | some i => exact onEach_mono (relaxes_indexOf i) h
  | indexes positions => exact onEach_mono (relaxes_indexesOf positions) h
  | slice start stop step =>
    rw [select] at h ⊢
    split at h
    · cases h
    · next hstep =>
      rw [if_neg hstep]
      exact onEach_mono (relaxes_sliceOf start stop _) h
  | scan name => exact h
  | scanFields names => exact h
  | filter condition => exact h
  | scanFilter condition => exact h

theorem Path.selectFrom_relaxes (path : Path) {input found : List Node}
    (h : Path.selectFrom true document path input = .ok found) :
    Path.selectFrom false document path input = .ok found := by
  induction path generalizing input with
  | nil => exact h
  | cons selector path ih =>
    rw [Path.selectFrom_cons] at h ⊢
    obtain ⟨nodes, hs, hp⟩ := bind_eq_ok.1 h
    exact bind_eq_ok.2 ⟨nodes, selector.select_relaxes hs, ih hp⟩

theorem Path.selectOne_relaxes (path : Path) {found : Option Node}
    (h : path.selectOne true document = .ok found) :
    path.selectOne false document = .ok found := by
  rw [Path.selectOne] at h ⊢
  obtain ⟨nodes, hall, h⟩ := bind_eq_ok.1 h
  exact bind_eq_ok.2 ⟨nodes, path.selectFrom_relaxes hall, h⟩

end

/-- Strict selection finds what lenient selection finds, or fails. -/
theorem Path.lenient_of_strict [Regex.Engine] (path : Path) (document : Json)
    (start : List Node) :
    (∀ found, Path.selectFrom true document path start = .ok found →
      Path.selectFrom false document path start = .ok found) ∧
    (∀ e, Path.selectFrom false document path start = .error e →
      ∃ e', Path.selectFrom true document path start = .error e') ∧
    ∀ found, path.selectOne true document = .ok found →
      path.selectOne false document = .ok found := by
  refine ⟨fun found => path.selectFrom_relaxes, fun e he => ?_, fun found => path.selectOne_relaxes⟩
  cases hs : Path.selectFrom true document path start with
  | error e' => exact ⟨e', rfl⟩
  | ok found =>
    rw [path.selectFrom_relaxes hs] at he
    cases he

open scoped Regex.Builtin

/-- The paths of a condition miss a member without failing, strictly as well. -/
theorem Path.lenient_of_strict_filter :
    let document : Json := .arr [.obj [("v", .null)], .obj [("k", .str "x"), ("v", .bool true)]]
    let isX : Condition := .test .equals (.path [.field (some "k")]) (some (.literal (.str "x")))
    let path : Path := [.filter isX, .field (some "v")]
    let found : List Node := [⟨[.position 1, .key "v"], .bool true⟩]
    Path.selectFrom true document path [Node.root document] = .ok found ∧
      Path.selectFrom false document path [Node.root document] = .ok found ∧
      path.selectOne true document = .ok found.head? ∧
      path.selectOne false document = .ok found.head? := by
  intro document isX path found
  have hall : Path.selectFrom true document path [Node.root document] = .ok found := rfl
  have hone : path.selectOne true document = .ok found.head? := rfl
  have hlenient := Path.lenient_of_strict path document [Node.root document]
  exact ⟨hall, hlenient.1 _ hall, hone, hlenient.2.2 _ hone⟩

end JsonQuery
