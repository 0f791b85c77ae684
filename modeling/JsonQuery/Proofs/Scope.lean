import JsonQuery.Proofs.Evaluation.Document

/-!
# What a condition sees

A condition looks at two values, at the document through paths that start with it and at the
candidate through the others. Without paths of one kind that value makes no difference to it. The
conditions inside a path have candidates of their own, so a path from the document stays one
whatever they look at.
-/

namespace JsonQuery

variable [Regex.Engine]

/-- A literal, a pattern, or a path from the document. -/
def Operand.Anchored : Operand → Prop
  | .path (.root :: _) => True
  | .path _ => False
  | _ => True

mutual

/-- No operand of its own tests is a path from the candidate. -/
def Condition.Anchored : Condition → Prop
  | .test _ left none => left.Anchored
  | .test _ left (some right) => left.Anchored ∧ right.Anchored
  | .compound _ parts => Condition.PartsAnchored parts

def Condition.PartsAnchored : List Condition → Prop
  | [] => True
  | part :: parts => part.Anchored ∧ Condition.PartsAnchored parts

end

section

variable {document : Json} {candidate candidate' : Json}

theorem Operand.Anchored.agrees {operand : Operand} (h : operand.Anchored) :
    operand.Agrees document candidate document candidate' := by
  cases operand with
  | literal value => exact ⟨rfl, by cases value <;> rfl⟩
  | pattern p => exact ⟨rfl, rfl⟩
  | path path =>
    match path, h with
    | .root :: path, _ => exact ⟨rfl, rfl⟩

mutual

theorem Condition.Anchored.holds_eq : ∀ {condition : Condition}, condition.Anchored →
    condition.holds document candidate = condition.holds document candidate'
  | .compound .and _, h => Condition.PartsAnchored.allHold_eq h
  | .compound .or _, h => Condition.PartsAnchored.anyHolds_eq h
  | .test _ left none, h =>
    have hleft : left.Anchored := h
    Condition.holds_test_congr hleft.agrees nofun
  | .test _ left (some right), h =>
    have hleft : left.Anchored := h.1
    have hright : right.Anchored := h.2
    Condition.holds_test_congr hleft.agrees fun _ hr => Option.some.inj hr ▸ hright.agrees

theorem Condition.PartsAnchored.allHold_eq : ∀ {parts : List Condition},
    Condition.PartsAnchored parts →
      Condition.allHold document parts candidate = Condition.allHold document parts candidate'
  | [], _ => rfl
  | _ :: _, h => by
    rw [Condition.allHold, Condition.allHold, h.1.holds_eq, Condition.PartsAnchored.allHold_eq h.2]

theorem Condition.PartsAnchored.anyHolds_eq : ∀ {parts : List Condition},
    Condition.PartsAnchored parts →
      Condition.anyHolds document parts candidate = Condition.anyHolds document parts candidate'
  | [], _ => rfl
  | _ :: _, h => by
    rw [Condition.anyHolds, Condition.anyHolds, h.1.holds_eq,
      Condition.PartsAnchored.anyHolds_eq h.2]

end

end

/-- A filter whose condition holds of all candidates keeps every child. -/
theorem Selector.select_filter_of_holds {condition : Condition} {document : Json}
    (h : ∀ candidate, condition.holds document candidate = true) (strict : Bool)
    (input : List Node) : (Selector.filter condition).select strict document input =
      .ok (input.flatMap Node.children) := by
  have hall : ∀ n : Node,
      (n.children.filter fun child => condition.holds document child.value) = n.children :=
    fun n => List.filter_eq_self.2 fun child _ => h child.value
  simp only [select, hall]

theorem Selector.select_filter_of_not_holds {condition : Condition} {document : Json}
    (h : ∀ candidate, condition.holds document candidate = false) (strict : Bool)
    (input : List Node) : (Selector.filter condition).select strict document input = .ok [] := by
  simp [select, h]

/-- A condition in which no path goes back to the document holds of a candidate in every document or
in none. One whose own operands are no paths from the candidate holds of all candidates or of none,
and then a filter keeps all children of all nodes or not one. -/
theorem Condition.holds_in_scope (condition : Condition) :
    (condition.RootFree → ∀ document document' candidate,
      condition.holds document candidate = condition.holds document' candidate) ∧
    (condition.Anchored →
      (∀ document candidate candidate',
        condition.holds document candidate = condition.holds document candidate') ∧
      ∀ strict document,
        (∀ input, (Selector.filter condition).select strict document input =
          .ok (input.flatMap Node.children)) ∨
        ∀ input, (Selector.filter condition).select strict document input = .ok []) := by
  refine ⟨fun h _ _ => h.holds_eq, fun h => ⟨fun _ _ _ => h.holds_eq, fun strict document => ?_⟩⟩
  cases hnull : condition.holds document .null with
  | true =>
    have hall : ∀ candidate, condition.holds document candidate = true :=
      fun candidate => h.holds_eq.trans hnull
    exact .inl fun input => Selector.select_filter_of_holds hall strict input
  | false =>
    have hnone : ∀ candidate, condition.holds document candidate = false :=
      fun candidate => h.holds_eq.trans hnull
    exact .inr fun input => Selector.select_filter_of_not_holds hnone strict input

/-- Each row is a candidate of the condition nested in the path. The condition around it sees the
candidate alone, or the document alone. -/
theorem Condition.holds_in_scope_rows :
    let hasKey : Condition := .test .equals (.path [.field (some "k")]) (some (.literal (.str "x")))
    let below : Condition := .test .present (.path [.field (some "rows"), .filter hasKey]) none
    let anywhere : Condition :=
      .test .present (.path [.root, .field (some "rows"), .filter hasKey]) none
    let rows : Json := .obj [("rows", .arr [.obj [("k", .str "x")]]), ("other", .null)]
    below.RootFree ∧ anywhere.Anchored ∧
      (∀ document, below.holds document rows = true) ∧
      (∀ candidate, anywhere.holds rows candidate = true) ∧
      (Selector.filter anywhere).select true rows [Node.root rows] =
        .ok (Node.root rows).children := by
  intro hasKey below anywhere rows
  have free : below.RootFree := ⟨trivial, ⟨⟨trivial, trivial⟩, trivial⟩, trivial⟩
  have anchored : anywhere.Anchored := trivial
  obtain ⟨hcandidate, hfilter⟩ := (Condition.holds_in_scope anywhere).2 anchored
  have hrows : anywhere.holds rows .null = true := rfl
  refine ⟨free, anchored, ?_, ?_, ?_⟩
  · intro document
    exact (Condition.holds_in_scope below).1 free document .null rows
  · intro candidate
    exact (hcandidate rows candidate .null).trans hrows
  · obtain hall | hnone := hfilter true rows
    · exact hall [Node.root rows]
    · cases hnone [Node.root rows]

end JsonQuery
