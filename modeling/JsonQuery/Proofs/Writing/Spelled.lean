import JsonQuery.Proofs.Shape.WellFormed
import JsonQuery.Proofs.Writing.Canonical

/-!
# Ways to write a path

All the texts that differ from the one of `Path.text` in what does not matter: blanks around what
stands in brackets, between commas or colons, and around operands, parentheses for brackets, and the
two spellings of an inequality.
-/

namespace JsonQuery

open Text

/-- The text between two gaps. -/
def Spaced (t u : List Char) : Prop := ∃ g h, Gap g ∧ Gap h ∧ u = g ++ (t ++ h)

/-- Several between commas. -/
inductive Listed {α : Type} (write : α → List Char) : List α → List Char → Prop
  | one {x : α} {t : List Char} : Spaced (write x) t → Listed write [x] t
  | more {x : α} {xs : List α} {t u : List Char} : Spaced (write x) t → Listed write xs u →
      Listed write (x :: xs) (t ++ ',' :: u)

theorem Spaced.refl (t : List Char) : Spaced t t := ⟨[], [], Gap.nil, Gap.nil, by simp⟩

theorem listed_listText {α : Type} (write : α → List Char) {xs : List α} (h : xs ≠ []) :
    Listed write xs (listText write xs) := by
  induction xs with
  | nil => exact absurd rfl h
  | cons x xs ih =>
    cases xs with
    | nil => exact .one (.refl _)
    | cons y xs => exact .more (.refl _) (ih (List.cons_ne_nil _ _))

theorem mem_operatorSpellings {operator : Operator} (h : operator ≠ .present) :
    (operator.text, operator) ∈ operatorSpellings := by
  revert h
  cases operator <;> decide

variable [Regex.Engine]

/-- Literals, as `Json.literalText` and `patternText` write them. -/
inductive SpellsLeaf : Operand → List Char → Prop
  | null : SpellsLeaf (.literal .null) "null".toList
  | bool (b : Bool) : SpellsLeaf (.literal (.bool b)) (Json.bool b).literalText
  | int (i : Integer) : SpellsLeaf (.literal (.num (.int i))) (intText i.val)
  | str (s : String) : SpellsLeaf (.literal (.str s)) (quoted s)
  | pattern {l : Regex.Literal} : PatternText l.pattern.toList →
      (∀ c ∈ l.flags.toList, isLetter c = true) → SpellsLeaf (.pattern l) (patternText l)

mutual

inductive SpellsSelector : Selector → List Char → Prop
  | anyField : SpellsSelector (.field none) ".*".toList
  | anyBelow : SpellsSelector (.scan none) "..*".toList
  | bracket {selector : Selector} {c : Char} {t : List Char} : c = '[' ∨ c = '(' →
      SpellsContent false selector t → SpellsSelector selector (c :: (t ++ [closing c]))
  | scanBracket {selector : Selector} {c : Char} {t : List Char} : c = '[' ∨ c = '(' →
      SpellsContent true selector t →
      SpellsSelector selector ('.' :: '.' :: c :: (t ++ [closing c]))

/-- What stands in brackets, behind two dots or not. -/
inductive SpellsContent : (scan : Bool) → Selector → List Char → Prop
  | field {name : String} {t : List Char} : Spaced (quoted name) t →
      SpellsContent false (.field (some name)) t
  | fields {names : List String} {t : List Char} : Listed quoted names t →
      SpellsContent false (.fields names) t
  | scan {name : String} {t : List Char} : Spaced (quoted name) t →
      SpellsContent true (.scan (some name)) t
  | scanFields {names : List String} {t : List Char} : Listed quoted names t →
      SpellsContent true (.scanFields names) t
  | anyIndex {t : List Char} : Spaced ['*'] t → SpellsContent false (.index none) t
  | index {i : Int} {t : List Char} : Spaced (intText i) t →
      SpellsContent false (.index (some i)) t
  | indexes {positions : List Int} {t : List Char} : Listed intText positions t →
      SpellsContent false (.indexes positions) t
  | slice {start stop step : Option Int} {t u v : List Char} : Spaced (boundText start) t →
      Spaced (boundText stop) u → Spaced (boundText step) v →
      SpellsContent false (.slice start stop step) (t ++ ':' :: (u ++ ':' :: v))
  | filter {condition : Condition} {g h t : List Char} : Gap g → SpellsCondition condition t →
      Gap h → SpellsContent false (.filter condition) (g ++ '?' :: '(' :: (t ++ ')' :: h))
  | scanFilter {condition : Condition} {g h t : List Char} : Gap g → SpellsCondition condition t →
      Gap h → SpellsContent true (.scanFilter condition) (g ++ '?' :: '(' :: (t ++ ')' :: h))

inductive SpellsPath : Path → List Char → Prop
  | nil : SpellsPath [] []
  | cons {selector : Selector} {path : Path} {t u : List Char} : SpellsSelector selector t →
      SpellsPath path u → SpellsPath (selector :: path) (t ++ u)

/-- The tests from left to right. The grouping leaves no trace. -/
inductive SpellsCondition : Condition → List Char → Prop
  | present {left : Operand} {t : List Char} : SpellsOperand left t →
      SpellsCondition (.test .present left none) t
  | compare {operator : Operator} {left right : Operand} {spelling t u : List Char} :
      SpellsOperand left t → (spelling, operator) ∈ operatorSpellings → SpellsOperand right u →
      SpellsCondition (.test operator left (some right)) (t ++ (spelling ++ u))
  | compound {connective : Connective} {parts : List Condition} {t : List Char} :
      SpellsParts connective parts t → SpellsCondition (.compound connective parts) t

inductive SpellsParts : Connective → List Condition → List Char → Prop
  | last {connective : Connective} {last : Condition} {t : List Char} : SpellsCondition last t →
      SpellsParts connective [last] t
  | more {connective : Connective} {part : Condition} {parts : List Condition}
      {t u : List Char} : SpellsCondition part t → SpellsParts connective parts u →
      SpellsParts connective (part :: parts) (t ++ (connective.text ++ u))

inductive SpellsOperand : Operand → List Char → Prop
  | leaf {operand : Operand} {t u : List Char} : SpellsLeaf operand t → Spaced t u →
      SpellsOperand operand u
  | document {path : Path} {t u : List Char} : SpellsPath path t → Spaced ('$' :: t) u →
      SpellsOperand (.path (.root :: path)) u
  | candidate {path : Path} {t u : List Char} : SpellsPath path t → Spaced ('@' :: t) u →
      SpellsOperand (.path path) u

end

/-- A whole number is written so that it is read back. -/
def Number.IsWhole (n : Number) : Prop := ∃ i, n = .int i

theorem SpellsContent.filter_text {condition : Condition} (h : SpellsCondition condition
    condition.text) : SpellsContent false (.filter condition)
      ('?' :: '(' :: (condition.text ++ [')'])) := .filter Gap.nil h Gap.nil

theorem SpellsContent.scanFilter_text {condition : Condition} (h : SpellsCondition condition
    condition.text) : SpellsContent true (.scanFilter condition)
      ('?' :: '(' :: (condition.text ++ [')'])) := .scanFilter Gap.nil h Gap.nil

theorem Condition.partsText_cons (connective : Connective) (part : Condition)
    {parts : List Condition} (h : parts ≠ []) : Condition.partsText connective (part :: parts) =
      part.text ++ (connective.text ++ Condition.partsText connective parts) := by
  cases parts with
  | nil => exact absurd rfl h
  | cons next parts => rw [Condition.partsText, List.append_assoc]; exact h

theorem Path.WellFormed.candidate_text {number : Number → Prop} {path : Path}
    (h : Path.WellFormed number path) : (Operand.path path).text = '@' :: Path.text path := by
  cases h with
  | nil => rfl
  | cons h _ => cases h <;> rfl

theorem Operand.IsLeaf.spells_text {operand : Operand} (h : operand.IsLeaf Number.IsWhole) :
    SpellsLeaf operand operand.text := by
  cases h with
  | null => exact .null
  | bool b => exact .bool b
  | num hn =>
    obtain ⟨i, rfl⟩ := hn
    exact .int i
  | str s => exact .str s
  | pattern hp hf => exact .pattern hp hf

mutual

theorem Selector.WellFormed.spells_text {selector : Selector} :
    selector.WellFormed Number.IsWhole → SpellsSelector selector selector.text
  | .field none => .anyField
  | .field (some name) => .bracket (.inl rfl) (.field (.refl (quoted name)))
  | .fields h => .bracket (.inl rfl) (.fields (listed_listText quoted (by rintro rfl; simp at h)))
  | @Selector.WellFormed.index _ _ none _ => .bracket (.inl rfl) (.anyIndex (.refl _))
  | @Selector.WellFormed.index _ _ (some i) _ => .bracket (.inl rfl) (.index (.refl (intText i)))
  | .indexes h _ =>
    .bracket (.inl rfl) (.indexes (listed_listText intText (by rintro rfl; simp at h)))
  | .slice _ _ _ => .bracket (.inl rfl) (.slice (.refl _) (.refl _) (.refl _))
  | .scan none => .anyBelow
  | .scan (some name) => .scanBracket (.inl rfl) (.scan (.refl (quoted name)))
  | .scanFields h =>
    .scanBracket (.inl rfl) (.scanFields (listed_listText quoted (by rintro rfl; simp at h)))
  | .filter h => .bracket (.inl rfl) (.filter_text h.spells_text)
  | .scanFilter h => .scanBracket (.inl rfl) (.scanFilter_text h.spells_text)

theorem Path.WellFormed.spells_text {path : Path} :
    Path.WellFormed Number.IsWhole path → SpellsPath path (Path.text path)
  | .nil => .nil
  | .cons h hp => .cons h.spells_text hp.spells_text

theorem Condition.WellFormed.spells_text {condition : Condition} :
    condition.WellFormed Number.IsWhole → SpellsCondition condition condition.text
  | .present h => .present h.spells_text
  | .compare ho hl hr => by
    rw [Condition.text, List.append_assoc]
    exact .compare hl.spells_text (mem_operatorSpellings ho) hr.spells_text
  | .compound _ h hp => .compound (hp.spells_text h.spells_text)

theorem Condition.PartsWellFormed.spells_text {connective : Connective} {first : Condition}
    {parts : List Condition} (hfirst : SpellsCondition first first.text) :
    Condition.PartsWellFormed Number.IsWhole connective parts →
      SpellsParts connective (first :: parts) (Condition.partsText connective (first :: parts))
  | .last _ h => by
    rw [Condition.partsText_cons _ _ (List.cons_ne_nil _ _), Condition.partsText]
    exact .more hfirst (.last h.spells_text)
  | .more _ h hp => by
    rw [Condition.partsText_cons _ _ (List.cons_ne_nil _ _)]
    exact .more hfirst (hp.spells_text h.spells_text)

theorem Operand.WellFormed.spells_text {operand : Operand} :
    operand.WellFormed Number.IsWhole → SpellsOperand operand operand.text
  | .leaf h => .leaf h.spells_text (.refl _)
  | .document h => .document h.spells_text (.refl _)
  | .candidate h => by
    rw [h.candidate_text]
    exact .candidate h.spells_text (.refl _)

end

end JsonQuery
