import JsonQuery.Proofs.Evaluation.Test

/-!
# Paths that do not name the document

A path that never goes back to the document, in a condition at any depth as little as at its own
level, selects the same in every document. What it selects depends on the nodes it starts from.
-/

namespace JsonQuery

variable [Regex.Engine]

mutual

def Selector.RootFree : Selector → Prop
  | .root => False
  | .filter condition => condition.RootFree
  | .scanFilter condition => condition.RootFree
  | _ => True

def Path.RootFree : Path → Prop
  | [] => True
  | selector :: path => selector.RootFree ∧ Path.RootFree path

def Condition.RootFree : Condition → Prop
  | .test _ left none => left.RootFree
  | .test _ left (some right) => left.RootFree ∧ right.RootFree
  | .compound _ parts => Condition.PartsRootFree parts

def Condition.PartsRootFree : List Condition → Prop
  | [] => True
  | part :: parts => part.RootFree ∧ Condition.PartsRootFree parts

def Operand.RootFree : Operand → Prop
  | .path path => Path.RootFree path
  | _ => True

end

theorem Selector.RootFree.ne_root {selector : Selector} (h : selector.RootFree) :
    selector ≠ .root := by
  rintro rfl
  exact h

theorem Path.RootFree.root_not_mem {path : Path} (h : Path.RootFree path) :
    Selector.root ∉ path := by
  induction path with
  | nil => exact List.not_mem_nil
  | cons first path ih =>
    exact List.not_mem_cons_of_ne_of_not_mem h.1.ne_root.symm (ih h.2)

section

variable {document document' : Json}

mutual

theorem Selector.RootFree.select_eq : ∀ {selector : Selector}, selector.RootFree →
    ∀ (strict : Bool) (input : List Node), selector.select strict document input =
      selector.select strict document' input
  | .root, h, _, _ => h.elim
  | .field _, _, _, _ => rfl
  | .fields _, _, _, _ => rfl
  | .index none, _, _, _ => rfl
  | .index (some _), _, _, _ => rfl
  | .indexes _, _, _, _ => rfl
  | .slice _ _ _, _, _, _ => rfl
  | .scan _, _, _, _ => rfl
  | .scanFields _, _, _, _ => rfl
  | .filter condition, h, strict, input => by
    have hc : ∀ candidate,
        condition.holds document candidate = condition.holds document' candidate :=
      Condition.RootFree.holds_eq h
    simp only [Selector.select, hc]
  | .scanFilter condition, h, strict, input => by
    have hc : ∀ candidate,
        condition.holds document candidate = condition.holds document' candidate :=
      Condition.RootFree.holds_eq h
    simp only [Selector.select, hc]

theorem Path.RootFree.selectFrom_eq : ∀ {path : Path}, Path.RootFree path →
    ∀ (strict : Bool) (input : List Node), Path.selectFrom strict document path input =
      Path.selectFrom strict document' path input
  | [], _, _, _ => rfl
  | selector :: path, h, strict, input => by
    rw [Path.selectFrom, Path.selectFrom, h.1.select_eq strict input]
    cases selector.select strict document' input with
    | error e => rfl
    | ok nodes => exact Path.RootFree.selectFrom_eq h.2 strict nodes

theorem Condition.RootFree.holds_eq : ∀ {condition : Condition}, condition.RootFree →
    ∀ candidate, condition.holds document candidate = condition.holds document' candidate
  | .compound .and _, h, candidate => Condition.PartsRootFree.allHold_eq h candidate
  | .compound .or _, h, candidate => Condition.PartsRootFree.anyHolds_eq h candidate
  | .test _ left none, h, candidate =>
    have hleft : left.RootFree := h
    Condition.holds_test_congr (hleft.agrees candidate) nofun
  | .test _ left (some right), h, candidate =>
    have hleft : left.RootFree := h.1
    have hright : right.RootFree := h.2
    Condition.holds_test_congr (hleft.agrees candidate) fun _ hr =>
      Option.some.inj hr ▸ hright.agrees candidate

theorem Condition.PartsRootFree.allHold_eq : ∀ {parts : List Condition},
    Condition.PartsRootFree parts → ∀ candidate,
      Condition.allHold document parts candidate = Condition.allHold document' parts candidate
  | [], _, _ => rfl
  | _ :: _, h, candidate => by
    rw [Condition.allHold, Condition.allHold, h.1.holds_eq candidate,
      Condition.PartsRootFree.allHold_eq h.2 candidate]

theorem Condition.PartsRootFree.anyHolds_eq : ∀ {parts : List Condition},
    Condition.PartsRootFree parts → ∀ candidate,
      Condition.anyHolds document parts candidate = Condition.anyHolds document' parts candidate
  | [], _, _ => rfl
  | _ :: _, h, candidate => by
    rw [Condition.anyHolds, Condition.anyHolds, h.1.holds_eq candidate,
      Condition.PartsRootFree.anyHolds_eq h.2 candidate]

theorem Operand.RootFree.agrees : ∀ {operand : Operand}, operand.RootFree →
    ∀ candidate, operand.Agrees document candidate document' candidate
  | .literal value, _, _ => ⟨rfl, by cases value <;> rfl⟩
  | .pattern _, _, _ => ⟨rfl, rfl⟩
  | .path path, h, candidate => by
    have hpath : Path.RootFree path := h
    have hselect := hpath.selectFrom_eq false [Node.root candidate]
    exact ⟨by rw [Operand.value?, Operand.value?, hselect],
      by rw [Operand.isPresent, Operand.isPresent, hselect]⟩

end

end

end JsonQuery
