import JsonQuery.Json.Compare
import JsonQuery.Path.Basic

/-!
# Equality of paths

Two paths are the same when they are built the same way from the same names, positions and
literals. A whole number is never the same as a double; patterns are compared as written.
-/

namespace JsonQuery

variable [Regex.Engine]

mutual

def Selector.same : Selector → Selector → Bool
  | .root, .root => true
  | .field a, .field b => a == b
  | .fields a, .fields b => a == b
  | .index a, .index b => a == b
  | .indexes a, .indexes b => a == b
  | .slice start stop step, .slice start' stop' step' =>
    start == start' && stop == stop' && step == step'
  | .scan a, .scan b => a == b
  | .scanFields a, .scanFields b => a == b
  | .filter a, .filter b => a.same b
  | .scanFilter a, .scanFilter b => a.same b
  | _, _ => false
termination_by structural left => left

def Condition.same : Condition → Condition → Bool
  | .test o l none, .test o' l' none => o == o' && l.same l'
  | .test o l (some r), .test o' l' (some r') => o == o' && l.same l' && r.same r'
  | .compound c as, .compound c' bs => c == c' && Condition.sameParts as bs
  | _, _ => false
termination_by structural left => left

def Condition.sameParts : List Condition → List Condition → Bool
  | [], [] => true
  | a :: as, b :: bs => a.same b && Condition.sameParts as bs
  | _, _ => false
termination_by structural left => left

def Operand.same : Operand → Operand → Bool
  | .literal a, .literal b => a.same b
  | .pattern a, .pattern b => a == b
  | .path a, .path b => Path.same a b
  | _, _ => false
termination_by structural left => left

def Path.same : Path → Path → Bool
  | [], [] => true
  | a :: as, b :: bs => a.same b && Path.same as bs
  | _, _ => false
termination_by structural left => left

end

end JsonQuery
