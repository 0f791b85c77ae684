import JsonQuery.Error
import JsonQuery.Json.Compare
import JsonQuery.Path.Basic
import JsonQuery.Select.Slice
import JsonQuery.Select.Walk

/-!
# Selection

Each selector is run on every node that the one before it selected, in order, and its results are
joined. Strict selection stops at the first node that lacks what a selector names; lenient selection
passes over it. Conditions never fail: an operand that cannot be resolved is absent.
-/

namespace JsonQuery

/-- What a node that lacks something contributes. -/
def missing (strict : Bool) (e : SelectError) : Except SelectError (List Node) :=
  if strict then .error e else .ok []

/-- Runs a selection on every node, from the first to the last. -/
def onEach (select : Node → Except SelectError (List Node)) :
    List Node → Except SelectError (List Node)
  | [] => .ok []
  | n :: rest => do
    let here ← select n
    let there ← onEach select rest
    return here ++ there

namespace Node

def fieldOf (strict : Bool) (name : Option String) (n : Node) : Except SelectError (List Node) :=
  match n.value, name with
  | .obj members, some name =>
    match members.lookup name with
    | some v => .ok [n.child (.key name) v]
    | none => missing strict (.propertyNotFound name .object)
  | .obj _, none => .ok n.children
  | v, name => missing strict (.propertyNotValid name v.kind)

/-- The members that are there, in the order of the names. All the names that are not are told
together. -/
def fieldsOf (strict : Bool) (names : List String) (n : Node) : Except SelectError (List Node) :=
  match n.value with
  | .obj members =>
    let found := names.filterMap fun name =>
      (members.lookup name).map fun v => n.child (.key name) v
    if strict then
      match names.filter fun name => (members.lookup name).isNone with
      | [] => .ok found
      | [name] => .error (.propertyNotFound name .object)
      | absent => .error (.propertiesNotFound absent .object)
    else .ok found
  | v => missing strict (.propertiesNotValid names v.kind)

/-- Positions count from zero; there is none before the first. -/
def indexOf (strict : Bool) (position : Int) (n : Node) : Except SelectError (List Node) :=
  match n.value with
  | .arr items =>
    match (if 0 ≤ position then items[position.toNat]? else none) with
    | some v => .ok [n.child (.position position.toNat) v]
    | none => missing strict (.indexOutOfBounds position .array)
  | v => missing strict (.indexNotValid (some position) v.kind)

def elementsOf (strict : Bool) (n : Node) : Except SelectError (List Node) :=
  match n.value with
  | .arr _ => .ok n.children
  | v => missing strict (.indexNotValid none v.kind)

def indexesOf (strict : Bool) : List Int → Node → Except SelectError (List Node)
  | [], _ => .ok []
  | position :: rest, n => do
    let here ← n.indexOf strict position
    let there ← indexesOf strict rest n
    return here ++ there

def sliceOf (strict : Bool) (start stop : Option Int) (step : Int) (n : Node) :
    Except SelectError (List Node) :=
  match n.value with
  | .arr items =>
    match Slice.positions items.length start stop step with
    | [] => missing strict (.sliceNoResults start stop)
    | positions => .ok (positions.filterMap fun i =>
        items[i]?.map fun v => n.child (.position i) v)
  | v => missing strict (.sliceNotValid v.kind)

/-- The nodes visited under that name, or without one. -/
def scanFor (name : Option String) (n : Node) : List Node :=
  (n.walk.filter fun visit => visit.name == name).map Visit.node

/-- The nodes visited under one of the names, once for every time it is listed. -/
def scanForFields (names : List String) (n : Node) : List Node :=
  n.walk.flatMap fun visit => (names.filter fun name => visit.name == some name).map fun _ =>
    visit.node

end Node

/-- Comparison of two values. The operators that do not compare never hold. -/
def Operator.holds (operator : Operator) (left right : Json) : Bool :=
  match operator with
  | .equals => left.equal right
  | .notEquals => !left.equal right
  | .less => left.order right == some .lt
  | .lessOrEqual => left.order right == some .lt || left.order right == some .eq
  | .greater => left.order right == some .gt
  | .greaterOrEqual => left.order right == some .gt || left.order right == some .eq
  | .present | .matchesPattern => false

section

variable [Regex.Engine]

mutual

def Selector.select (strict : Bool) (document : Json) :
    Selector → List Node → Except SelectError (List Node)
  | .root, _ => .ok [Node.root document]
  | .field name, input => onEach (Node.fieldOf strict name) input
  | .fields names, input => onEach (Node.fieldsOf strict names) input
  | .index (some position), input => onEach (Node.indexOf strict position) input
  | .index none, input => onEach (Node.elementsOf strict) input
  | .indexes positions, input => onEach (Node.indexesOf strict positions) input
  | .slice start stop step, input =>
    if step = some 0 then .error .zeroStep
    else onEach (Node.sliceOf strict start stop (step.getD 1)) input
  | .scan name, input => .ok (input.flatMap (Node.scanFor name))
  | .scanFields names, input => .ok (input.flatMap (Node.scanForFields names))
  | .filter condition, input =>
    .ok (input.flatMap fun n => n.children.filter fun child => condition.holds document child.value)
  | .scanFilter condition, input =>
    .ok (input.flatMap fun n =>
      (n.walk.map Visit.node).filter fun visited => condition.holds document visited.value)

def Path.selectFrom (strict : Bool) (document : Json) :
    Path → List Node → Except SelectError (List Node)
  | [], nodes => .ok nodes
  | selector :: rest, nodes =>
    match selector.select strict document nodes with
    | .ok nodes => Path.selectFrom strict document rest nodes
    | .error e => .error e

/-- Whether the condition holds of a candidate in a document. -/
def Condition.holds (document : Json) : Condition → (candidate : Json) → Bool
  | .compound .and parts, candidate => Condition.allHold document parts candidate
  | .compound .or parts, candidate => Condition.anyHolds document parts candidate
  | .test .present left _, candidate => left.isPresent document candidate
  | .test .matchesPattern left (some (.pattern p)), candidate =>
    ((left.value? document candidate).bind Json.matchText?).any p.isMatch
  | .test .matchesPattern _ _, _ => false
  | .test operator left (some right), candidate =>
    match left.value? document candidate, right.value? document candidate with
    | some l, some r => operator.holds l r
    | _, _ => false
  | .test _ _ none, _ => false

def Condition.allHold (document : Json) : List Condition → (candidate : Json) → Bool
  | [], _ => true
  | c :: rest, candidate => c.holds document candidate && Condition.allHold document rest candidate

def Condition.anyHolds (document : Json) : List Condition → (candidate : Json) → Bool
  | [], _ => false
  | c :: rest, candidate => c.holds document candidate || Condition.anyHolds document rest candidate

/-- The value of an operand: a literal is its own, a path has the first one that it selects
leniently, a pattern has none. -/
def Operand.value? (document : Json) : Operand → (candidate : Json) → Option Json
  | .literal v, _ => some v
  | .pattern _, _ => none
  | .path selectors, candidate =>
    match Path.selectFrom false document selectors [Node.root candidate] with
    | .ok nodes => nodes.head?.map Node.value
    | .error _ => none

/-- A literal is present unless it is null, a pattern always, a path when it selects something. -/
def Operand.isPresent (document : Json) : Operand → (candidate : Json) → Bool
  | .literal .null, _ => false
  | .literal _, _ => true
  | .pattern _, _ => true
  | .path selectors, candidate =>
    match Path.selectFrom false document selectors [Node.root candidate] with
    | .ok nodes => !nodes.isEmpty
    | .error _ => false

end

namespace Path

/-- The nodes that a path selects from a document, repeats included. -/
def selectAll (path : Path) (strict : Bool) (document : Json) : Except SelectError (List Node) :=
  selectFrom strict document path [Node.root document]

/-- The outcome of every selector, run on the outcome of the one before it, up to the first
failure. -/
def stages (strict : Bool) (document : Json) :
    Path → List Node → List (Except SelectError (List Node))
  | [], _ => []
  | selector :: rest, input =>
    match selector.select strict document input with
    | .ok output => .ok output :: stages strict document rest output
    | .error e => [.error e]

/-- The node that a path selects, if any. Several are a failure in lenient selection too. -/
def selectOne (path : Path) (strict : Bool) (document : Json) :
    Except SelectError (Option Node) := do
  match ← path.selectAll strict document with
  | [] => return none
  | [n] => return some n
  | _ => .error .multipleResults

end Path

end

/-!
## Settings

How a selection treats what is missing. Settings are given as a value of the document format: an
object, of which one member counts, or a list of at most that one setting.
-/

structure Settings where
  /-- Missing members, positions and empty slices are failures. -/
  errorWhenNoMatch : Bool := false
deriving DecidableEq, Repr

namespace Settings

def strict : Settings := ⟨true⟩

def ofJson? : Json → Option Settings
  | .obj members =>
    match members.lookup "error_when_no_match" with
    | none => some ⟨false⟩
    | some (.bool b) => some ⟨b⟩
    | some _ => none
  | .arr [] => some ⟨false⟩
  | .arr [.bool b] => some ⟨b⟩
  | _ => none

end Settings

def Path.selectWith [Regex.Engine] (path : Path) (settings : Settings) (document : Json) :
    Except SelectError (List Node) :=
  path.selectAll settings.errorWhenNoMatch document

end JsonQuery
