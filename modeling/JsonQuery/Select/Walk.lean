import JsonQuery.Json.Node

/-!
# Walks

A walk visits a node and everything below it, a node before what it contains. The value of a member
is visited twice: under its name, and then without a name when its own walk begins. A stack of
visits still to come drives the walk.
-/

namespace JsonQuery

structure Visit where
  name : Option String
  node : Node
deriving Repr

namespace Walk

/-- A visit to come, and whether the walk goes on below its node. -/
structure Pending where
  visit : Visit
  descend : Bool
deriving Repr

/-- The visits that a node adds in front of the others. -/
def below (n : Node) : List Pending :=
  match n.value with
  | .arr items => (n.elements items).map fun child => ⟨⟨none, child⟩, true⟩
  | .obj members =>
    (n.members members).flatMap fun (name, child) =>
      [⟨⟨some name, child⟩, false⟩, ⟨⟨none, child⟩, true⟩]
  | _ => []

/-- One visit and the stack after it. -/
def step : List Pending → Option (Visit × List Pending)
  | [] => none
  | next :: rest =>
    some (next.visit, if next.descend then below next.visit.node ++ rest else rest)

def run : (rounds : Nat) → List Pending → List Visit
  | 0, _ => []
  | rounds + 1, stack =>
    match step stack with
    | none => []
    | some (visit, stack) => visit :: run rounds stack

end Walk

mutual

/-- How many visits a walk of the value makes: one for every node, and one more for every member. -/
def Json.visitCount : Json → Nat
  | .arr items => 1 + Json.visitCountItems items
  | .obj members => 1 + Json.visitCountMembers members
  | _ => 1

def Json.visitCountItems : List Json → Nat
  | [] => 0
  | v :: vs => v.visitCount + Json.visitCountItems vs

def Json.visitCountMembers : List (String × Json) → Nat
  | [] => 0
  | (_, v) :: ms => 1 + v.visitCount + Json.visitCountMembers ms

end

/-- The walk of a node. -/
def Node.walk (n : Node) : List Visit := Walk.run n.value.visitCount [⟨⟨none, n⟩, true⟩]

end JsonQuery
