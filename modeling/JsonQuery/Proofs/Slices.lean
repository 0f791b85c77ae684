import JsonQuery.Proofs.Evaluation.Slice
import JsonQuery.Select.Evaluate
import Mathlib.Data.List.Chain
import Mathlib.Data.List.Range

/-!
# Slices as ranges

The positions of a slice follow Python's rule: they are an arithmetic sequence between two bounds,
each counted from the end when it is below zero and then moved into the array. The walk moves its
bounds less far than the rule does, which only matters where nothing is selected.
-/

namespace JsonQuery

namespace Slice

/-! ## The rule -/

/-- The least bound. Down to it a walk takes the first element too, so it lies in front of that. -/
def lowest (step : Int) : Int := if step < 0 then -1 else 0

/-- The greatest bound. A walk down begins on it, and a walk up ends in front of it. -/
def highest (length : Nat) (step : Int) : Int := if step < 0 then length - 1 else length

/-- A bound counted from the front and moved between the lowest and the highest. -/
def clamp (length : Nat) (step bound : Int) : Int :=
  if bound < 0 then max (bound + length) (lowest step) else min bound (highest length step)

def startIndex (length : Nat) (start : Option Int) (step : Int) : Int :=
  match start with
  | none => if step < 0 then highest length step else lowest step
  | some bound => clamp length step bound

def stopIndex (length : Nat) (stop : Option Int) (step : Int) : Int :=
  match stop with
  | none => if step < 0 then lowest step else highest length step
  | some bound => clamp length step bound

/-- How many terms a sequence has in front of its end. Those are the terms that `lt_rangeLength_iff`
describes, none if the first one is not in front of it. -/
def rangeLength (start stop step : Int) : Nat :=
  if 0 < step then ((stop - start + step - 1) / step).toNat
  else ((start - stop - step - 1) / -step).toNat

/-- The terms themselves, the first one being where the sequence starts. -/
def range (start stop step : Int) : List Int :=
  (List.range (rangeLength start stop step)).map fun (i : Nat) => start + i * step

/-- The end has not been reached in the direction of the step. -/
def Precedes (step position stop : Int) : Prop :=
  (0 < step ∧ position < stop) ∨ (step < 0 ∧ stop < position)

theorem lt_rangeLength_iff {start stop step : Int} (hstep : step ≠ 0) (i : Nat) :
    i < rangeLength start stop step ↔ Precedes step (start + i * step) stop := by
  unfold rangeLength Precedes
  by_cases hpos : 0 < step
  · rw [if_pos hpos, Int.lt_toNat, ← Int.add_one_le_iff, Int.le_ediv_iff_mul_le hpos,
      Int.add_mul, Int.one_mul]
    omega
  · have hneg : 0 < -step := by omega
    rw [if_neg hpos, Int.lt_toNat, ← Int.add_one_le_iff, Int.le_ediv_iff_mul_le hneg,
      Int.add_mul, Int.one_mul, Int.mul_neg]
    omega

theorem range_of_precedes {start stop step : Int} (h : Precedes step start stop) :
    range start stop step = start :: range (start + step) stop step := by
  have hstep : step ≠ 0 := by
    unfold Precedes at h
    omega
  have hfirst : 0 < rangeLength start stop step := by
    rw [lt_rangeLength_iff hstep]
    simpa using h
  have hrest : ∀ i, i < rangeLength (start + step) stop step ↔
      i + 1 < rangeLength start stop step := by
    intro i
    have hterm : start + step + i * step = start + (i.succ : Int) * step := by
      rw [Int.natCast_succ, Int.add_mul, Int.one_mul]
      omega
    rw [lt_rangeLength_iff hstep, lt_rangeLength_iff hstep, hterm]
  have hlength : rangeLength start stop step = rangeLength (start + step) stop step + 1 := by
    have hlast := hrest (rangeLength (start + step) stop step)
    have hbefore := hrest (rangeLength (start + step) stop step - 1)
    omega
  rw [range, hlength, List.range_succ_eq_map, List.map_cons, List.map_map]
  congr 1
  · simp
  · apply List.map_congr_left
    intro i _
    simp only [Function.comp_apply, Int.natCast_succ, Int.add_mul, Int.one_mul]
    omega

theorem range_of_not_precedes {start stop step : Int} (hstep : step ≠ 0)
    (h : ¬ Precedes step start stop) : range start stop step = [] := by
  have hlength : ¬ 0 < rangeLength start stop step := by
    rw [lt_rangeLength_iff hstep]
    simpa using h
  rw [range, Nat.eq_zero_of_not_pos hlength]
  rfl

theorem isChain_range (start stop step : Int) :
    (range start stop step).IsChain fun i j => j = i + step := by
  rw [range, List.isChain_map, List.isChain_range]
  intro i _
  rw [Int.natCast_succ, Int.add_mul, Int.one_mul]
  omega

/-! ## The walk -/

/-- Where a walk stands that began inside an array and does not end outside of it. -/
structure Within (length : Nat) (step limit position : Int) : Prop where
  limit_low : -1 ≤ limit
  limit_high : limit ≤ length
  front : 0 < step → 0 ≤ position
  back : step < 0 → position < length

theorem Within.position {length : Nat} {step limit position : Int}
    (h : Within length step limit position) (hp : Precedes step position limit) :
    0 ≤ position ∧ position < length := by
  obtain ⟨hlow, hhigh, hfront, hback⟩ := h
  unfold Precedes at hp
  omega

theorem Within.next {length : Nat} {step limit position : Int}
    (h : Within length step limit position) (hp : Precedes step position limit) :
    Within length step limit (position + step) := by
  obtain ⟨hnonneg, hlt⟩ := h.position hp
  exact ⟨h.limit_low, h.limit_high, by omega, by omega⟩

/-- A sum that is no word lies beyond the limit. -/
theorem Within.not_precedes_of_not_inWord {length : Nat} {step limit position : Int}
    (h : Within length step limit position) (hlength : InWord length)
    (hp : Precedes step position limit) (hsum : ¬ InWord (position + step)) :
    ¬ Precedes step (position + step) limit := by
  obtain ⟨hnonneg, hlt⟩ := h.position hp
  have hlow := h.limit_low
  have hhigh := h.limit_high
  unfold Precedes InWord at *
  omega

/-- With a round for every number up to the limit, a walk gets to its end. -/
theorem walk_eq_range {length : Nat} (hlength : InWord length) {step limit : Int}
    (rounds : Nat) {position : Int} (h : Within length step limit position)
    (hstep : step ≠ 0) (hup : 0 < step → limit - position ≤ rounds)
    (hdown : step < 0 → position - limit ≤ rounds) :
    (walk limit step rounds position).map Int.ofNat = range position limit step := by
  induction rounds generalizing position with
  | zero =>
    have hend : ¬ Precedes step position limit := by
      unfold Precedes
      omega
    rw [range_of_not_precedes hstep hend]
    rfl
  | succ rounds ih =>
    rw [walk]
    by_cases hp : Precedes step position limit
    · have hgo : (0 < step ∧ position < limit) ∨ (¬ 0 < step ∧ limit < position) := by
        unfold Precedes at hp
        omega
      have hposition : Int.ofNat position.toNat = position :=
        Int.toNat_of_nonneg (h.position hp).1
      rw [if_pos hgo, List.map_cons, hposition, range_of_precedes hp, advance?]
      congr 1
      by_cases hsum : InWord (position + step)
      · rw [if_pos hsum]
        exact ih (h.next hp) (by omega) (by omega)
      · rw [if_neg hsum, range_of_not_precedes hstep (h.not_precedes_of_not_inWord hlength hp hsum)]
        rfl
    · have hstay : ¬((0 < step ∧ position < limit) ∨ (¬ 0 < step ∧ limit < position)) := by
        unfold Precedes at hp
        omega
      rw [if_neg hstay, range_of_not_precedes hstep hp]
      rfl

/-- A sequence within an array has its terms there. -/
theorem Within.of_mem_range {length : Nat} {step limit position i : Int}
    (h : Within length step limit position) (hstep : step ≠ 0)
    (hi : i ∈ range position limit step) : 0 ≤ i ∧ i < length := by
  obtain ⟨hlow, hhigh, hfront, hback⟩ := h
  obtain ⟨k, hk, rfl⟩ := List.mem_map.1 hi
  have hprecedes := (lt_rangeLength_iff hstep k).1 (List.mem_range.1 hk)
  have hk : (0 : Int) ≤ k := Int.natCast_nonneg k
  rcases hprecedes with ⟨hpos, hlt⟩ | ⟨hneg, hlt⟩
  · have hforward := Int.mul_nonneg hk (Int.le_of_lt hpos)
    have hposition := hfront hpos
    omega
  · have hbackward := Int.mul_nonneg hk (Int.neg_nonneg_of_nonpos (Int.le_of_lt hneg))
    have hposition := hback hneg
    rw [Int.mul_neg] at hbackward
    omega

/-! ## The bounds -/

section

variable (length : Nat) (start stop : Option Int) (step : Int)

theorem neg_one_le_limit : -1 ≤ limit length stop step := by
  unfold limit
  split
  · split <;> omega
  · omega

theorem first_lt (h : step < 0) : first length start step < length := by
  unfold first
  rw [if_neg (by omega)]
  split <;> omega

theorem within_first :
    Within length step (limit length stop step) (first length start step) :=
  ⟨neg_one_le_limit length stop step, limit_le length stop step,
    fun h => first_nonneg h length start, first_lt length start step⟩

theorem clamp_eq (bound : Int) : clamp length step bound =
    max (min (fromFront length bound) (highest length step)) (lowest step) := by
  unfold clamp fromFront lowest highest
  by_cases hneg : step < 0
  · rw [if_pos hneg, if_pos hneg]
    split <;> omega
  · rw [if_neg hneg, if_neg hneg]
    split <;> omega

/-- Going up, the walk begins where the rule says. Going down, it can begin below everything. -/
theorem startIndex_eq (hstep : step ≠ 0) : startIndex length start step =
    if 0 < step then first length start step else max (first length start step) (-1) := by
  unfold startIndex first
  simp only [clamp_eq, lowest, highest]
  by_cases hpos : 0 < step
  · have hneg : ¬ step < 0 := by omega
    simp only [if_pos hpos, if_neg hneg]
    cases start with
    | none => rfl
    | some bound =>
      dsimp only
      omega
  · have hneg : step < 0 := by omega
    simp only [if_neg hpos, if_pos hneg]
    cases start with
    | none =>
      dsimp only
      omega
    | some bound => rfl

/-- Each direction has one end at which the walk lets a stop lie one further. -/
theorem stopIndex_eq (hstep : step ≠ 0) : stopIndex length stop step =
    if 0 < step then max (limit length stop step) 0
    else min (limit length stop step) (length - 1) := by
  unfold stopIndex limit
  simp only [clamp_eq, lowest, highest]
  by_cases hpos : 0 < step
  · have hneg : ¬ step < 0 := by omega
    simp only [if_pos hpos, if_neg hneg]
    cases stop with
    | none =>
      dsimp only
      omega
    | some bound =>
      dsimp only
      omega
  · have hneg : step < 0 := by omega
    simp only [if_neg hpos, if_pos hneg]
    cases stop with
    | none =>
      dsimp only
      omega
    | some bound =>
      dsimp only
      omega

/-- Moving a bound further into the array changes nothing but how nothing is selected. -/
theorem range_bounds (hstep : step ≠ 0) :
    range (first length start step) (limit length stop step) step =
      range (startIndex length start step) (stopIndex length stop step) step := by
  have hlow := neg_one_le_limit length stop step
  have hhigh := limit_le length stop step
  rw [startIndex_eq length start step hstep, stopIndex_eq length stop step hstep]
  generalize hfirst : first length start step = position
  generalize limit length stop step = limit at *
  by_cases hpos : 0 < step
  · rw [if_pos hpos, if_pos hpos]
    have hnonneg := first_nonneg hpos length start
    by_cases hlimit : 0 ≤ limit
    · rw [Int.max_eq_left hlimit]
    · rw [range_of_not_precedes hstep, range_of_not_precedes hstep] <;> unfold Precedes <;> omega
  · rw [if_neg hpos, if_neg hpos]
    have hlt := first_lt length start step (by omega)
    by_cases hmoved : -1 ≤ position ∧ limit ≤ length - 1
    · rw [Int.max_eq_left hmoved.1, Int.min_eq_left hmoved.2]
    · rw [range_of_not_precedes hstep, range_of_not_precedes hstep] <;> unfold Precedes <;> omega

theorem map_positions (hlength : InWord length) (hstep : step ≠ 0) :
    (positions length start stop step).map Int.ofNat =
      range (first length start step) (limit length stop step) step := by
  have hwithin := within_first length start stop step
  have hlow := hwithin.limit_low
  have hhigh := hwithin.limit_high
  have hfront := hwithin.front
  have hback := hwithin.back
  exact walk_eq_range hlength length hwithin hstep (by omega) (by omega)

theorem positions_lt (hlength : InWord length) (hstep : step ≠ 0) :
    ∀ i ∈ positions length start stop step, i < length := by
  intro i hi
  have hmem : (i : Int) ∈ range (first length start step) (limit length stop step) step := by
    rw [← map_positions length start stop step hlength hstep]
    exact List.mem_map_of_mem hi
  have hbounds := (within_first length start stop step).of_mem_range hstep hmem
  omega

theorem isChain_positions (hlength : InWord length) (hstep : step ≠ 0) :
    (positions length start stop step).IsChain fun (i j : Nat) => (j : Int) = i + step := by
  have hchain := isChain_range (first length start step) (limit length stop step) step
  rw [← map_positions length start stop step hlength hstep, List.isChain_map] at hchain
  exact hchain

/-! ## Words -/

variable {length start stop step}

/-- A word below zero and a length add up to a word. -/
theorem inWord_fromFront (hlength : InWord length) {bound : Int} (h : InWord bound) :
    InWord (fromFront length bound) := by
  unfold fromFront InWord at *
  split <;> omega

theorem inWord_first (hlength : InWord length) (hstart : ∀ bound ∈ start, InWord bound) :
    InWord (first length start step) := by
  have hbound : ∀ bound ∈ start, InWord (fromFront length bound) :=
    fun bound hmem => inWord_fromFront hlength (hstart bound hmem)
  unfold first
  cases start with
  | none =>
    dsimp only
    unfold InWord at *
    split <;> omega
  | some bound =>
    have hword := hbound bound rfl
    dsimp only
    unfold InWord at *
    split <;> omega

theorem inWord_limit (hlength : InWord length) : InWord (limit length stop step) := by
  have hlow := neg_one_le_limit length stop step
  have hhigh := limit_le length stop step
  unfold InWord at *
  omega

end

end Slice

/-- A slice has a node for each of its positions. -/
theorem Node.sliceOf_locations {n : Node} {items : List Json} (hvalue : n.value = .arr items)
    {start stop : Option Int} {step : Int} (hlength : InWord items.length) (hstep : step ≠ 0) :
    ∃ found, n.sliceOf false start stop step = .ok found ∧ found.map Node.location =
      (Slice.positions items.length start stop step).map fun i => n.location ++ [.position i] := by
  have hlt := Slice.positions_lt items.length start stop step hlength hstep
  unfold Node.sliceOf
  rw [hvalue]
  dsimp only
  split
  · next hnone =>
    rw [hnone]
    exact ⟨[], rfl, rfl⟩
  · refine ⟨_, rfl, ?_⟩
    rw [List.map_filterMap, ← List.filterMap_eq_map]
    apply List.filterMap_congr
    intro i hi
    rw [List.getElem?_eq_getElem (hlt i hi)]
    rfl

/-- The positions of a slice are the range between its bounds by Python's rule. All of them are in
the array, so there is an element at each, and each is a step behind the one before it. The length
being a word, so is every number on the way to them, but for the sum with the step, which is looked
at before it is used. -/
theorem Slice.positions_eq_range {length : Nat} {start stop : Option Int} {step : Int}
    (hlength : InWord length) (hstart : ∀ bound ∈ start, InWord bound)
    (hstop : ∀ bound ∈ stop, InWord bound) (hstep : step ≠ 0) :
    (positions length start stop step).map Int.ofNat =
      range (startIndex length start step) (stopIndex length stop step) step ∧
    (∀ i ∈ positions length start stop step, i < length) ∧
    ((positions length start stop step).IsChain fun (i j : Nat) => (j : Int) = i + step) ∧
    (InWord (length - 1) ∧ (∀ bound ∈ start, InWord (fromFront length bound)) ∧
      (∀ bound ∈ stop, InWord (fromFront length bound)) ∧ InWord (first length start step) ∧
      InWord (limit length stop step)) ∧
    ∀ (n : Node) (items : List Json), n.value = .arr items → items.length = length →
      ∃ found, n.sliceOf false start stop step = .ok found ∧ found.map Node.location =
        (positions length start stop step).map fun i => n.location ++ [.position i] := by
  have hlast : InWord (length - 1) := by
    unfold InWord at *
    omega
  refine ⟨?_, positions_lt length start stop step hlength hstep,
    isChain_positions length start stop step hlength hstep, ⟨hlast, ?_, ?_, ?_, ?_⟩, ?_⟩
  · rw [map_positions length start stop step hlength hstep,
      range_bounds length start stop step hstep]
  · exact fun bound hmem => inWord_fromFront hlength (hstart bound hmem)
  · exact fun bound hmem => inWord_fromFront hlength (hstop bound hmem)
  · exact inWord_first hlength hstart
  · exact inWord_limit hlength
  · rintro n items hvalue rfl
    exact Node.sliceOf_locations hvalue hlength hstep

/-- From the last element on, with the longest step: the next sum is no word. -/
theorem Slice.positions_eq_range_longest :
    let longest : Int := 9223372036854775807
    InWord 3 ∧ InWord (-1) ∧ InWord longest ∧ ¬ InWord (2 + longest) ∧
      positions 3 (some (-1)) (some longest) longest = [2] ∧
      range (startIndex 3 (some (-1)) longest) (stopIndex 3 (some longest) longest) longest = [2] ∧
      ∃ found, (Node.root (.arr [.null, .null, .null])).sliceOf false (some (-1)) (some longest)
        longest = .ok found ∧ found.map Node.location = [[.position 2]] := by
  intro longest
  have hpositions : positions 3 (some (-1)) (some longest) longest = [2] := by decide
  have hstart : ∀ bound ∈ some (-1 : Int), InWord bound := by
    rintro _ ⟨⟩
    decide
  have hstop : ∀ bound ∈ some longest, InWord bound := by
    rintro _ ⟨⟩
    decide
  obtain ⟨hrange, -, -, -, hfound⟩ :=
    @Slice.positions_eq_range 3 _ _ _ (by decide) hstart hstop (show longest ≠ 0 by decide)
  have hnode := hfound (Node.root (.arr [.null, .null, .null])) _ rfl rfl
  rw [hpositions] at hrange hnode
  exact ⟨by decide, by decide, by decide, by decide, hpositions, hrange.symm, hnode⟩

end JsonQuery
