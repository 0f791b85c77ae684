import JsonQuery.Json.Basic
import JsonQuery.Regex.Literal

/-!
# Paths

A path is a list of selectors. Each takes the nodes that the one before it selected and selects
from them; conditions inside a selector test a candidate through paths of their own.
-/

namespace JsonQuery

inductive Connective
  | and
  | or
deriving DecidableEq, Repr

inductive Operator
  | equals
  | notEquals
  | present
  | less
  | lessOrEqual
  | greater
  | greaterOrEqual
  | matchesPattern
deriving DecidableEq, Repr

section

variable [Regex.Engine]

mutual

inductive Selector
  /-- The document, whatever was selected before. -/
  | root
  /-- The member of that name, or every member. -/
  | field (name : Option String)
  /-- The members of these names, in this order. -/
  | fields (names : List String)
  /-- The element at that position, or every element. -/
  | index (position : Option Int)
  /-- The elements at these positions, in this order. -/
  | indexes (positions : List Int)
  | slice (start stop step : Option Int)
  /-- The members of that name anywhere below, or every node from here down. -/
  | scan (name : Option String)
  | scanFields (names : List String)
  /-- The elements or members that meet the condition. -/
  | filter (condition : Condition)
  /-- The nodes that meet the condition, of all from here down. -/
  | scanFilter (condition : Condition)

inductive Condition
  | test (operator : Operator) (left : Operand) (right : Option Operand)
  | compound (connective : Connective) (parts : List Condition)

inductive Operand
  | literal (value : Json)
  | pattern (pattern : Regex.Literal)
  /-- A path from the candidate; one that starts with `root` is a path from the document. -/
  | path (selectors : List Selector)

end

instance : Inhabited Selector := ⟨.root⟩

instance : Inhabited Condition := ⟨.compound .and []⟩

abbrev Path := List Selector

/-- A name selects a member of an object or, after two dots, of every object below. The name `*` is
any name. -/
def Selector.member (scan : Bool) (name : String) : Selector :=
  let name := if name = "*" then none else some name
  if scan then .scan name else .field name

/-- One name in quotes stands for itself, also if it is `*`; several select together. -/
def Selector.members (scan : Bool) (names : List String) : Selector :=
  match names, scan with
  | [name], false => .field (some name)
  | [name], true => .scan (some name)
  | names, false => .fields names
  | names, true => .scanFields names

/-!
## Grouping of tests

Tests joined by connectives are grouped from left to right. A run of one connective is one compound;
another connective opens a compound inside the last one, which takes over everything that follows.
So `a && b || c` holds when `a` does and one of `b` and `c` does.
-/

/-- A compound that still takes parts. -/
structure OpenCompound where
  connective : Connective
  parts : List Condition

namespace Condition

/-- Adds a test and the connective behind it to the open compounds, the innermost of which comes
first. -/
def extend (compounds : List OpenCompound) (test : Condition) (connective : Connective) :
    List OpenCompound :=
  match compounds with
  | innermost :: others =>
    if innermost.connective = connective then
      { innermost with parts := innermost.parts ++ [test] } :: others
    else ⟨connective, [test]⟩ :: compounds
  | [] => [⟨connective, [test]⟩]

/-- Ends the open compounds, each as the last part of the one around it. -/
def close (compounds : List OpenCompound) (last : Condition) : Condition :=
  compounds.foldl (fun inner c => .compound c.connective (c.parts ++ [inner])) last

/-- The condition that a chain of tests makes, each but the last with the connective behind it. -/
def group (tests : List (Condition × Connective)) (last : Condition) : Condition :=
  close (tests.foldl (fun compounds t => extend compounds t.1 t.2) []) last

end Condition

end

end JsonQuery
