import JsonQuery.Json.Basic

/-!
# Nodes

A location is the way from a document to a value in it, and a node is a value together with its
location. Nodes at different locations are different, equal values or not.
-/

namespace JsonQuery

inductive Step
  | key (name : String)
  | position (i : Nat)
deriving DecidableEq, Repr

abbrev Location := List Step

namespace Json

def child? : Json → Step → Option Json
  | .obj members, .key name => members.lookup name
  | .arr items, .position i => items[i]?
  | _, _ => none

def at? (v : Json) : Location → Option Json
  | [] => some v
  | step :: rest => (v.child? step).bind (·.at? rest)

end Json

structure Node where
  location : Location
  value : Json
deriving Repr

namespace Node

def root (document : Json) : Node := ⟨[], document⟩

def child (n : Node) (step : Step) (value : Json) : Node := ⟨n.location ++ [step], value⟩

def ofLocation? (document : Json) (location : Location) : Option Node :=
  (document.at? location).map fun value => ⟨location, value⟩

def elements (n : Node) (items : List Json) : List Node :=
  items.zipIdx.map fun (value, i) => n.child (.position i) value

def members (n : Node) (members : List (String × Json)) : List (String × Node) :=
  members.map fun (name, value) => (name, n.child (.key name) value)

/-- The nodes one step below, in the order of the document. -/
def children (n : Node) : List Node :=
  match n.value with
  | .arr items => n.elements items
  | .obj members => (n.members members).map Prod.snd
  | _ => []

end Node

end JsonQuery
