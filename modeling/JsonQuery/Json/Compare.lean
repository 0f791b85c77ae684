import JsonQuery.Json.Basic
import JsonQuery.Text.CodeRange

/-!
# Equality and order of values

Equality never crosses kinds: arrays are equal item by item, objects member by member in any order.
Two equalities differ in their numbers: `equal` takes numbers by value, `same` also tells whole
numbers from doubles. Order exists between two numbers, two strings, two booleans and two nulls, and
between a number and a string that reads as one.
-/

namespace JsonQuery

open Text

namespace Json

mutual

/-- Equality under an equality of numbers. Objects are compared by their number of members and by
looking up every member of the left one in the right one. -/
def equalBy (numbers : Number → Number → Bool) : Json → Json → Bool
  | .null, .null => true
  | .bool a, .bool b => a == b
  | .num a, .num b => numbers a b
  | .str a, .str b => a == b
  | .arr as, .arr bs => as.length == bs.length && equalItemsBy numbers as bs
  | .obj as, .obj bs => as.length == bs.length && equalMembersBy numbers as bs
  | _, _ => false

def equalItemsBy (numbers : Number → Number → Bool) : List Json → List Json → Bool
  | a :: as, b :: bs => equalBy numbers a b && equalItemsBy numbers as bs
  | _, _ => true

def equalMembersBy (numbers : Number → Number → Bool) :
    List (String × Json) → List (String × Json) → Bool
  | [], _ => true
  | (key, a) :: as, bs =>
    (match bs.lookup key with
      | some b => equalBy numbers a b
      | none => false) && equalMembersBy numbers as bs

end

/-- Equality by value. -/
def equal : Json → Json → Bool := equalBy fun a b => a.compare b == .eq

/-- Equality of what was written. -/
def same : Json → Json → Bool := equalBy Number.same

/-- The double that a string spells, blanks around it aside. -/
def numberOfString? (s : String) : Option Double := doubleOfText? (trimBlanks s.toList)

def order : Json → Json → Option Ordering
  | .num a, .num b => some (a.compare b)
  | .num a, .str b => (numberOfString? b).map a.toDouble.compare
  | .str a, .num b => (numberOfString? a).map (·.compare b.toDouble)
  | .str a, .str b => some (compare a b)
  | .bool a, .bool b => some (compare a b)
  | .null, .null => some .eq
  | _, _ => none

end Json

end JsonQuery
