import JsonQuery.Proofs.Writing.RoundTrip
import JsonQuery.Regex.Builtin.Matching
import JsonQuery.Select.Evaluate

/-!
# Addresses

Every location in a document has a text: its keys in quotes and its positions, each in brackets. It
is read as a path that selects the node at that location and nothing else.
-/

namespace JsonQuery

open Text

def Step.text : Step → List Char
  | .key name => '[' :: (quoted name ++ [']'])
  | .position i => '[' :: (intText i ++ [']'])

/-- The address of a location. -/
def Location.text : Location → List Char
  | [] => []
  | step :: rest => step.text ++ Location.text rest

mutual

/-- Arrays are no longer than memory can hold, so that every position in them is a word. -/
def Json.Fits : Json → Prop
  | .arr items => items.length ≤ 0x8000000000000000 ∧ Json.FitsItems items
  | .obj members => Json.FitsMembers members
  | _ => True

def Json.FitsItems : List Json → Prop
  | [] => True
  | v :: vs => v.Fits ∧ Json.FitsItems vs

def Json.FitsMembers : List (String × Json) → Prop
  | [] => True
  | (_, v) :: ms => v.Fits ∧ Json.FitsMembers ms

end

theorem Json.FitsItems.getElem? {items : List Json} (h : Json.FitsItems items) {i : Nat}
    {v : Json} (hv : items[i]? = some v) : v.Fits := by
  induction items generalizing i with
  | nil => cases hv
  | cons w items ih =>
    cases i with
    | zero =>
      obtain rfl : w = v := by simpa using hv
      exact h.1
    | succ i => exact ih h.2 (by simpa using hv)

theorem Json.FitsMembers.lookup {members : List (String × Json)} (h : Json.FitsMembers members)
    {name : String} {v : Json} (hv : members.lookup name = some v) : v.Fits := by
  induction members with
  | nil => cases hv
  | cons m members ih =>
    obtain ⟨key, w⟩ := m
    rw [List.lookup_cons] at hv
    split at hv
    · obtain rfl := Option.some.inj hv
      exact h.1
    · exact ih h.2 hv

theorem Json.Fits.child? {v w : Json} (h : v.Fits) {step : Step} (hc : v.child? step = some w) :
    w.Fits ∧ ∀ i, step = .position i → InWord i := by
  unfold Json.child? at hc
  split at hc
  · exact ⟨Json.FitsMembers.lookup h hc, by simp⟩
  · next items i =>
    refine ⟨Json.FitsItems.getElem? h.2 hc, ?_⟩
    rintro _ ⟨⟩
    obtain ⟨hi, -⟩ := List.getElem?_eq_some_iff.1 hc
    have hlen := h.1
    constructor <;> omega
  · cases hc

section

variable [Regex.Engine]

def Step.selector : Step → Selector
  | .key name => .field (some name)
  | .position i => .index (some i)

def Location.path (location : Location) : Path := location.map Step.selector

/-- The keys and positions on the way to a value are read as they are written. -/
theorem Location.wellFormed {v w : Json} {location : Location} (hfits : v.Fits)
    (h : v.at? location = some w) : Path.WellFormed Number.IsWhole location.path := by
  induction location generalizing v with
  | nil => exact .nil
  | cons step rest ih =>
    obtain ⟨u, hu, hw⟩ := Option.bind_eq_some_iff.1 h
    obtain ⟨hfits', hpos⟩ := hfits.child? hu
    refine .cons ?_ (ih hfits' hw)
    cases step with
    | key name => exact .field (some name)
    | position i => exact .index (by simpa using hpos i rfl)

theorem Location.spells (location : Location) : SpellsPath location.path location.text := by
  induction location with
  | nil => exact .nil
  | cons step rest ih =>
    refine .cons ?_ ih
    cases step with
    | key name => exact .bracket (.inl rfl) (.field (.refl (quoted name)))
    | position i => exact .bracket (.inl rfl) (.index (.refl (intText i)))

theorem Step.select_selector {n : Node} {step : Step} {v : Json}
    (h : n.value.child? step = some v) (strict : Bool) (document : Json) :
    step.selector.select strict document [n] = .ok [n.child step v] := by
  obtain ⟨location, value⟩ := n
  unfold Json.child? at h
  split at h
  · next members name hvalue =>
    obtain rfl : value = .obj members := hvalue
    simp [Step.selector, Selector.select, onEach, Node.fieldOf, h, bind, Except.bind, pure,
      Except.pure]
  · next items i hvalue =>
    obtain rfl : value = .arr items := hvalue
    simp [Step.selector, Selector.select, onEach, Node.indexOf, h, bind, Except.bind, pure,
      Except.pure]
  · cases h

theorem Location.select_path {n : Node} {location : Location} {v : Json}
    (h : n.value.at? location = some v) (strict : Bool) (document : Json) :
    Path.selectFrom strict document location.path [n] = .ok [⟨n.location ++ location, v⟩] := by
  induction location generalizing n with
  | nil =>
    obtain rfl := Option.some.inj h
    simp [Location.path, Path.selectFrom]
  | cons step rest ih =>
    obtain ⟨u, hu, hv⟩ := Option.bind_eq_some_iff.1 h
    have hrest := @ih (n.child step u) hv
    rw [Location.path, List.map_cons, Path.selectFrom, Step.select_selector hu strict document]
    rw [Node.child, List.append_assoc] at hrest
    exact hrest

/-- The address of a location selects the one node there, strictly and leniently. -/
theorem Location.select_address {document value : Json} {location : Location}
    (hfits : document.Fits) (h : document.at? location = some value) :
    ∃ path, Path.parse (String.ofList location.text) = .ok path ∧ ∀ strict,
      path.selectAll strict document = .ok [⟨location, value⟩] ∧
      path.selectOne strict document = .ok (some ⟨location, value⟩) := by
  have hparse := location.spells.parse (Location.wellFormed hfits h) Gap.nil Gap.nil
  rw [List.nil_append, List.append_nil] at hparse
  refine ⟨location.path, hparse, fun strict => ?_⟩
  have hall : Path.selectAll location.path strict document = .ok [⟨location, value⟩] :=
    @Location.select_path _ (Node.root document) _ _ h strict document
  refine ⟨hall, ?_⟩
  rw [Path.selectOne, hall]
  rfl

end

open scoped Regex.Builtin

theorem Location.select_address_escaped :
    ∃ path, Path.parse "['it\\'s \\\\ [*].'][1]" = .ok path ∧ ∀ strict,
      path.selectAll strict (.obj [("", .null), ("it's \\ [*].", .arr [.null, .bool true])]) =
        .ok [⟨[.key "it's \\ [*].", .position 1], .bool true⟩] ∧
      path.selectOne strict (.obj [("", .null), ("it's \\ [*].", .arr [.null, .bool true])]) =
        .ok (some ⟨[.key "it's \\ [*].", .position 1], .bool true⟩) := by
  have fits : Json.Fits (.obj [("", .null), ("it's \\ [*].", .arr [.null, .bool true])]) := by
    simp [Json.Fits, Json.FitsMembers, Json.FitsItems]
  obtain ⟨path, hparse, hselect⟩ := Location.select_address fits
    (show Json.at? _ [.key "it's \\ [*].", .position 1] = some (.bool true) from rfl)
  exact ⟨path, (congrArg Path.parse rfl).trans hparse, hselect⟩

end JsonQuery
