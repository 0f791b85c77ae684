import JsonQuery.Number.Basic
import JsonQuery.Path.Basic

/-!
# Paths as texts

One text for every path that can be read from any. Names stand in quotes, a list in one pair of
brackets, and the tests of a condition from left to right, however they are grouped.
-/

namespace JsonQuery

variable [Regex.Engine]

/-- A quote and a backslash need a backslash in front of them. -/
def escape (cs : List Char) : List Char :=
  cs.flatMap fun c => if c = '\'' ∨ c = '\\' then ['\\', c] else [c]

def quoted (s : String) : List Char := '\'' :: (escape s.toList ++ ['\''])

/-- A part of a slice, which is empty when it is missing. -/
def boundText : Option Int → List Char
  | none => []
  | some i => intText i

def listText {α : Type} (write : α → List Char) : List α → List Char
  | [] => []
  | [x] => write x
  | x :: xs => write x ++ ',' :: listText write xs

/-- Arrays and objects have no text in a path. -/
def Json.literalText : Json → List Char
  | .null => "null".toList
  | .bool true => "true".toList
  | .bool false => "false".toList
  | .num n => n.text
  | .str s => quoted s
  | .arr _ | .obj _ => []

def patternText (l : Regex.Literal) : List Char :=
  '/' :: (l.pattern.toList ++ '/' :: l.flags.toList)

def Operator.text : Operator → List Char
  | .equals => "==".toList
  | .notEquals => "!=".toList
  | .present => []
  | .less => "<".toList
  | .lessOrEqual => "<=".toList
  | .greater => ">".toList
  | .greaterOrEqual => ">=".toList
  | .matchesPattern => "=~".toList

def Connective.text : Connective → List Char
  | .and => "&&".toList
  | .or => "||".toList

mutual

def Selector.text : Selector → List Char
  | .root => []
  | .field none => ".*".toList
  | .field (some name) => '[' :: (quoted name ++ [']'])
  | .fields names => '[' :: (listText quoted names ++ [']'])
  | .index none => "[*]".toList
  | .index (some i) => '[' :: (intText i ++ [']'])
  | .indexes positions => '[' :: (listText intText positions ++ [']'])
  | .slice start stop step =>
    '[' :: (boundText start ++ ':' :: (boundText stop ++ ':' :: boundText step) ++ [']'])
  | .scan none => "..*".toList
  | .scan (some name) => '.' :: '.' :: '[' :: (quoted name ++ [']'])
  | .scanFields names => '.' :: '.' :: '[' :: (listText quoted names ++ [']'])
  | .filter condition => '[' :: ('?' :: '(' :: (condition.text ++ [')']) ++ [']'])
  | .scanFilter condition => '.' :: '.' :: '[' :: ('?' :: '(' :: (condition.text ++ [')']) ++ [']'])

def Path.text : Path → List Char
  | [] => []
  | selector :: path => selector.text ++ Path.text path

def Condition.text : Condition → List Char
  | .test _ left none => left.text
  | .test operator left (some right) => left.text ++ operator.text ++ right.text
  | .compound connective parts => Condition.partsText connective parts

def Condition.partsText (connective : Connective) : List Condition → List Char
  | [] => []
  | [last] => last.text
  | part :: parts => part.text ++ connective.text ++ Condition.partsText connective parts

def Operand.text : Operand → List Char
  | .literal value => value.literalText
  | .pattern l => patternText l
  | .path (.root :: path) => '$' :: Path.text path
  | .path path => '@' :: Path.text path

end

end JsonQuery
