import JsonQuery.Json.Basic

/-!
# Faults and failures

Why a text is no path, and why a path selects nothing from a document. A text has one fault: the
first met from left to right. Apart from a step of zero and from several results where one was asked
for, failures only arise in strict selection.
-/

namespace JsonQuery

inductive PathError
  | unexpectedCharacter (c : Char)
  | unexpectedEnd
  | openIndexer
  | unexpectedInIndexer (c : Char)
  | indexExpected
  | nameAfterIndexer (c : Char)
  | openPattern
  | openString
  | unknownEscape (c : Char)
  | unexpectedInQuery (c : Char)
  | openQuery
  | operatorExpected
  | invalidNumber (text : String)
  | invalidPattern (pattern reason : String)
deriving DecidableEq, Repr

def PathError.message : PathError → String
  | .unexpectedCharacter c => "Unexpected character while parsing path: " ++ c.toString
  | .unexpectedEnd => "Unexpected end while parsing path."
  | .openIndexer => "Path ended with open indexer."
  | .unexpectedInIndexer c => "Unexpected character while parsing path indexer: " ++ c.toString
  | .indexExpected => "Array index expected."
  | .nameAfterIndexer c => "Unexpected character following indexer: " ++ c.toString
  | .openPattern => "Path ended with an open regex."
  | .openString => "Path ended with an open string."
  | .unknownEscape c => "Unknown escape character: \\" ++ c.toString
  | .unexpectedInQuery c => "Unexpected character while parsing path query: " ++ c.toString
  | .openQuery => "Path ended with open query."
  | .operatorExpected => "Could not read query operator."
  | .invalidNumber text => "Invalid number in path: " ++ text
  | .invalidPattern pattern reason => "Invalid regex /" ++ pattern ++ "/: " ++ reason

inductive SelectError
  | propertyNotFound (name : String) (kind : Kind)
  | propertiesNotFound (names : List String) (kind : Kind)
  /-- No name is any name. -/
  | propertyNotValid (name : Option String) (kind : Kind)
  | propertiesNotValid (names : List String) (kind : Kind)
  | indexOutOfBounds (position : Int) (kind : Kind)
  /-- No position is any position. -/
  | indexNotValid (position : Option Int) (kind : Kind)
  | sliceNotValid (kind : Kind)
  | sliceNoResults (start stop : Option Int)
  | zeroStep
  | multipleResults
deriving DecidableEq, Repr

namespace SelectError

def quoteNames (names : List String) : String :=
  ", ".intercalate (names.map fun name => "'" ++ name ++ "'")

/-- A missing position or bound is written as a star. -/
def positionText : Option Int → String
  | some i => String.ofList (intText i)
  | none => "*"

def message : SelectError → String
  | .propertyNotFound name kind =>
    "Property '" ++ name ++ "' does not exist on " ++ kind.name ++ "."
  | .propertiesNotFound names kind =>
    "Properties " ++ quoteNames names ++ " do not exist on " ++ kind.name ++ "."
  | .propertyNotValid name kind =>
    "Property '" ++ name.getD "*" ++ "' not valid on " ++ kind.name ++ "."
  | .propertiesNotValid names kind =>
    "Properties " ++ quoteNames names ++ " not valid on " ++ kind.name ++ "."
  | .indexOutOfBounds position kind =>
    "Index " ++ positionText (some position) ++ " outside the bounds of " ++ kind.name ++ "."
  | .indexNotValid position kind =>
    "Index " ++ positionText position ++ " not valid on " ++ kind.name ++ "."
  | .sliceNotValid kind => "Array slice is not valid on " ++ kind.name ++ "."
  | .sliceNoResults start stop =>
    "Array slice of " ++ positionText start ++ " to " ++ positionText stop ++
      " returned no results."
  | .zeroStep => "Step cannot be zero."
  | .multipleResults => "Path returned multiple tokens."

end SelectError

end JsonQuery
