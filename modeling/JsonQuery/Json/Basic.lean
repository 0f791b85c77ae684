import JsonQuery.Number.Basic

/-!
# Documents

JSON values. The members of an object keep their order; a document in use has no key twice in one
object, which `UniqueKeys` says of it and of everything in it.
-/

namespace JsonQuery

inductive Json
  | null
  | bool (b : Bool)
  | num (n : Number)
  | str (s : String)
  | arr (items : List Json)
  | obj (members : List (String × Json))
deriving Repr, Inhabited

inductive Kind
  | null
  | boolean
  | number
  | string
  | array
  | object
deriving DecidableEq, Repr

def Kind.name : Kind → String
  | .null => "Null"
  | .boolean => "Boolean"
  | .number => "Number"
  | .string => "String"
  | .array => "Array"
  | .object => "Object"

namespace Json

def kind : Json → Kind
  | .null => .null
  | .bool _ => .boolean
  | .num _ => .number
  | .str _ => .string
  | .arr _ => .array
  | .obj _ => .object

/-- The text that a pattern is matched against; containers and null have none. -/
def matchText? : Json → Option (List Char)
  | .str s => some s.toList
  | .num n => some n.text
  | .bool true => some "true".toList
  | .bool false => some "false".toList
  | _ => none

theorem mem_of_lookup {members : List (String × Json)} {key : String} {v : Json}
    (h : members.lookup key = some v) : (key, v) ∈ members := by
  obtain ⟨before, after, rfl, -⟩ := List.lookup_eq_some_iff.1 h
  simp

mutual

def UniqueKeys : Json → Prop
  | .arr items => UniqueKeysList items
  | .obj members => (members.map Prod.fst).Nodup ∧ UniqueKeysMembers members
  | _ => True

def UniqueKeysList : List Json → Prop
  | [] => True
  | v :: vs => UniqueKeys v ∧ UniqueKeysList vs

def UniqueKeysMembers : List (String × Json) → Prop
  | [] => True
  | (_, v) :: ms => UniqueKeys v ∧ UniqueKeysMembers ms

end

end Json

end JsonQuery
