/-!
# Pattern literals

A pattern with its flags as they are written, and the program they compile to. What patterns mean is
left to an engine, which compiles them and runs them; of the flags `i`, `m`, `s` and `x` have a
meaning for it, and any other letter has none.
-/

namespace JsonQuery.Regex

/-- What an engine is told beside the pattern. -/
structure Options where
  ignoreCase : Bool
  multiLine : Bool
  dotAll : Bool
  /-- Blanks and comments in the pattern stand for nothing. -/
  extended : Bool
deriving DecidableEq, Repr

def Options.ofFlags (flags : String) : Options where
  ignoreCase := flags.toList.contains 'i'
  multiLine := flags.toList.contains 'm'
  dotAll := flags.toList.contains 's'
  extended := flags.toList.contains 'x'

/-- What compiles patterns and runs them. Nothing is asked of it but that it always gives the same
answer, so all that is proved of paths holds with every engine. -/
class Engine where
  Program : Type
  /-- The program of a pattern, or the reason why there is none. -/
  compile (pattern : String) (options : Options) : Except String Program
  /-- Whether there is a match somewhere in the text. -/
  isMatch (program : Program) (text : List Char) : Bool

variable [Engine]

structure Literal where
  pattern : String
  flags : String
  program : Engine.Program
  compiled : Engine.compile pattern (.ofFlags flags) = .ok program

namespace Literal

def ofText (pattern flags : String) : Except String Literal :=
  match h : Engine.compile pattern (.ofFlags flags) with
  | .ok program => .ok ⟨pattern, flags, program, h⟩
  | .error reason => .error reason

theorem ext {a b : Literal} (hp : a.pattern = b.pattern) (hf : a.flags = b.flags) : a = b := by
  obtain ⟨p, f, g, hg⟩ := a
  obtain ⟨p', f', g', hg'⟩ := b
  cases hp
  cases hf
  cases hg.symm.trans hg'
  rfl

instance : DecidableEq Literal := fun a b =>
  if h : a.pattern = b.pattern ∧ a.flags = b.flags then isTrue (ext h.1 h.2)
  else isFalse fun e => h (e ▸ ⟨rfl, rfl⟩)

def isMatch (l : Literal) (text : List Char) : Bool := Engine.isMatch l.program text

def text (l : Literal) : String := "/" ++ l.pattern ++ "/" ++ l.flags

instance : Repr Literal := ⟨fun l _ => l.text⟩

end Literal

end JsonQuery.Regex
