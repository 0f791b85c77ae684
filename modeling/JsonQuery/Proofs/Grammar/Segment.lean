import JsonQuery.Proofs.Grammar.Allowance

/-!
# Segments

A path text in pieces: each is a name or an indexer, with the dots that introduce it. A segment
selects by itself, in one of two forms. The plain form is one selector, whatever stands in the
brackets; the form that scans looks for the same at every node below, and belongs to the segments
behind two dots or more.
-/

namespace JsonQuery

open Text

/-! ## Dots -/

/-- The junction behind so many dots. -/
def Junction.afterDots (j : Junction) : Nat → Junction
  | 0 => j
  | n + 1 => (j.afterDots n).addDot

theorem Junction.afterDots_dots {j : Junction} (h : j.isDot = false) (n : Nat) :
    j.afterDots 1 = .dot ∧ j.afterDots (n + 2) = .dots := by
  have hone : j.afterDots 1 = .dot := addDot_eq_dot h
  refine ⟨hone, ?_⟩
  induction n with
  | zero =>
    rw [afterDots, hone]
    rfl
  | succ n ih =>
    rw [afterDots, ih]
    rfl

theorem Junction.afterDots_cases {j : Junction} (h : j.isDot = false) (n : Nat) :
    (n = 0 ∧ j.afterDots n = j) ∨ (n = 1 ∧ j.afterDots n = .dot) ∨
      (2 ≤ n ∧ j.afterDots n = .dots) := by
  match n with
  | 0 => exact .inl ⟨rfl, rfl⟩
  | 1 => exact .inr (.inl ⟨rfl, (afterDots_dots h 0).1⟩)
  | n + 2 => exact .inr (.inr ⟨by omega, (afterDots_dots h n).2⟩)

theorem Junction.scans_afterDots {j : Junction} (h : j.isDot = false) (n : Nat) :
    (j.afterDots n).scans = decide (2 ≤ n) := by
  obtain ⟨rfl, he⟩ | ⟨rfl, he⟩ | ⟨hn, he⟩ := afterDots_cases h n
  · rw [he, scans_eq_false h]
    rfl
  · rw [he]
    rfl
  · rw [he, decide_eq_true hn]
    rfl

theorem Junction.isDot_afterDots {j : Junction} (h : j.isDot = false) (n : Nat) :
    (j.afterDots n).isDot = decide (1 ≤ n) := by
  obtain ⟨rfl, he⟩ | ⟨rfl, he⟩ | ⟨hn, he⟩ := afterDots_cases h n
  · rw [he, h]
    rfl
  · rw [he]
    rfl
  · rw [he, decide_eq_true (show 1 ≤ n by omega)]
    rfl

variable [Regex.Engine]

/-! ## Segments -/

structure Segment where
  /-- How many dots stand in front. -/
  dots : Nat
  body : List Char
  /-- What the body selects behind no dots. -/
  selector : Selector

/-- The selector on every node from here down. -/
def Selector.scanForm : Selector → Path
  | .field name => [.scan name]
  | .fields names => [.scanFields names]
  | .filter condition => [.scanFilter condition]
  | selector => [.scan none, selector]

def Selector.form (scan : Bool) (selector : Selector) : Path :=
  if scan then selector.scanForm else [selector]

namespace Segment

def text (s : Segment) : List Char := List.replicate s.dots '.' ++ s.body

def path (s : Segment) : Path := s.selector.form (decide (2 ≤ s.dots))

/-- A name without quotes. -/
def IsName (s : Segment) : Prop :=
  s.body ≠ [] ∧ (∀ c ∈ s.body, isNameChar false c = true) ∧
    s.selector = .member false (String.ofList s.body)

/-- Brackets with what is read between them as one selector, up to the closing one. -/
def IsIndexer (s : Segment) : Prop :=
  ∃ c inner a, (c = '[' ∨ c = '(') ∧ s.body = c :: (inner ++ [closing c]) ∧
    readIndexer (readChain a) (closing c) false (inner ++ [closing c]) =
      .ok ([s.selector], [closing c])

end Segment

theorem Segment.IsIndexer.head {s : Segment} (h : s.IsIndexer) :
    ∃ c cs, (c = '[' ∨ c = '(') ∧ s.body = c :: cs := by
  obtain ⟨c, inner, -, hc, hbody, -⟩ := h
  exact ⟨c, _, hc, hbody⟩

theorem Segment.IsIndexer.ends {s : Segment} (h : s.IsIndexer) {p : Char → Bool}
    (hsquare : p '[' = false) (hround : p '(' = false) (t : List Char) : Ends p (s.body ++ t) := by
  obtain ⟨c, cs, hc, hbody⟩ := h.head
  rw [hbody]
  rcases hc with rfl | rfl
  · exact ends_cons.2 hsquare
  · exact ends_cons.2 hround

theorem Segment.IsName.head {s : Segment} (h : s.IsName) :
    ∃ c word, isNameChar false c = true ∧ s.body = c :: word := by
  obtain ⟨hne, hall, -⟩ := h
  obtain ⟨c, word, hbody⟩ := List.exists_cons_of_ne_nil hne
  exact ⟨c, word, hall c (by simp [hbody]), hbody⟩

theorem Segment.IsIndexer.not_isName {s : Segment} (h : s.IsIndexer) : ¬ s.IsName := by
  intro hname
  obtain ⟨c, cs, hc, hbody⟩ := h.head
  obtain ⟨d, word, hd, hbody'⟩ := hname.head
  obtain ⟨rfl, -⟩ := List.cons.inj (hbody.symm.trans hbody')
  rcases hc with rfl | rfl
  · exact absurd hd (by decide)
  · exact absurd hd (by decide)

/-- Every segment is a name or an indexer, and only the first can be a name without dots. -/
def Segmented (segments : List Segment) : Prop :=
  (∀ s ∈ segments, s.IsName ∨ s.IsIndexer) ∧ ∀ s ∈ segments.tail, s.IsName → 1 ≤ s.dots

/-- Segments that go on behind another one. -/
def Continued (segments : List Segment) : Prop :=
  (∀ s ∈ segments, s.IsName ∨ s.IsIndexer) ∧ ∀ s ∈ segments, s.IsName → 1 ≤ s.dots

theorem segmented_nil : Segmented [] := ⟨nofun, nofun⟩

theorem continued_nil : Continued [] := ⟨nofun, nofun⟩

theorem segmented_cons {s : Segment} {segments : List Segment} :
    Segmented (s :: segments) ↔ (s.IsName ∨ s.IsIndexer) ∧ Continued segments := by
  simp only [Segmented, Continued, List.forall_mem_cons, List.tail_cons, and_assoc]

theorem continued_cons {s : Segment} {segments : List Segment} :
    Continued (s :: segments) ↔
      (s.IsName ∨ s.IsIndexer) ∧ (s.IsName → 1 ≤ s.dots) ∧ Continued segments := by
  simp only [Continued, List.forall_mem_cons]
  constructor
  · rintro ⟨⟨h, hs⟩, hd, hds⟩
    exact ⟨h, hd, hs, hds⟩
  · rintro ⟨h, hd, hs, hds⟩
    exact ⟨⟨h, hs⟩, hd, hds⟩

/-! ## Readings -/

theorem ReadsPath.dots {q : Bool} {j : Junction} {cs rest : List Char} {path : Path} (n : Nat)
    (h : ReadsPath q (j.afterDots n) cs path rest) :
    ReadsPath q j (List.replicate n '.' ++ cs) path rest := by
  induction n generalizing cs with
  | zero => exact h
  | succ n ih =>
    rw [List.replicate_succ', List.append_assoc]
    exact ih (.dot h)

theorem ReadsIndexer.exists_inner {close : Char} {scan : Bool} {cs rest : List Char} {here : Path}
    (h : ReadsIndexer close scan cs here rest) : ∃ inner, cs = inner ++ close :: rest := by
  cases h with
  | @names _ _ g cs _ names hg hn =>
    obtain ⟨t, r, -, he, hcs⟩ := namesText_of_readNames hn
    cases he
    exact ⟨g ++ t, by rw [hcs, List.append_assoc]⟩
  | @array _ _ g cs _ c selector hg hb hq hf ha =>
    obtain ⟨t, r, -, he, hcs⟩ := arrayText_of_readArrayIndexer ha
    cases he
    exact ⟨g ++ t, by rw [hcs, List.append_assoc]⟩
  | @filter _ _ g h cs _ chain hg hc hh =>
    obtain ⟨word, -, rfl, -⟩ := hc.lookahead
    exact ⟨g ++ '?' :: '(' :: (word ++ h), by simp⟩

theorem Selector.form_member (scan : Bool) (name : String) :
    (Selector.member false name).form scan = [.member scan name] := by
  cases scan <;> rfl

theorem Selector.form_members (scan : Bool) (names : List String) :
    (Selector.members false names).form scan = [.members scan names] := by
  match names, scan with
  | _, false => rfl
  | [], true => rfl
  | [_], true => rfl
  | _ :: _ :: _, true => rfl

theorem ArrayText.form {selector : Selector} {t : List Char} (h : ArrayText selector t)
    (scan : Bool) :
    selector.form scan = if scan then [.scan none, selector] else [selector] := by
  cases h with
  | star | index | indexes | slice | stepped => rfl

/-- What stands in brackets is one selector, in the form that the dots ask for. -/
theorem ReadsIndexer.form {close : Char} {scan : Bool} {cs rest : List Char} {here : Path}
    (h : ReadsIndexer close scan cs here rest) : ∃ selector : Selector,
      here = selector.form scan ∧
        ∀ scan', ReadsIndexer close scan' cs (selector.form scan') rest := by
  cases h with
  | @names _ _ g cs _ names hg hn =>
    refine ⟨.members false names, (Selector.form_members scan names).symm, fun scan' => ?_⟩
    rw [Selector.form_members]
    exact .names hg hn
  | @array _ _ g cs _ c selector hg hb hq hf ha =>
    obtain ⟨t, r, ht, -⟩ := arrayText_of_readArrayIndexer ha
    refine ⟨selector, (ht.form scan).symm, fun scan' => ?_⟩
    rw [ht.form]
    exact .array hg hb hq hf ha
  | @filter _ _ g h cs _ chain hg hc hh =>
    have hform : ∀ scan, (Selector.filter chain.condition).form scan =
        [if scan then .scanFilter chain.condition else .filter chain.condition] := by
      intro scan
      cases scan <;> rfl
    refine ⟨.filter chain.condition, (hform scan).symm, fun scan' => ?_⟩
    rw [hform]
    exact .filter hg hc hh

/-- An indexer of a path is a segment, whatever stands behind it. -/
theorem ReadsIndexer.segment {c : Char} (hc : c = '[' ∨ c = '(') {scan : Bool}
    {cs rest : List Char} {here : Path} (h : ReadsIndexer (closing c) scan cs here rest) (n : Nat) :
    ∃ s : Segment, s.dots = n ∧ s.IsIndexer ∧ c :: cs = s.body ++ rest ∧
      here = s.selector.form scan := by
  obtain ⟨selector, hhere, hform⟩ := h.form
  obtain ⟨inner, rfl⟩ := h.exists_inner
  -- the reader looks at nothing behind the bracket, so it reads the same with nothing there
  obtain ⟨word, he, hword⟩ := (hform false).lookahead (isCloser_closing c)
  have hinner : inner ++ [closing c] = word := by
    have happ : (inner ++ [closing c]) ++ rest = word ++ rest := by simpa using he
    exact List.append_cancel_right happ
  have hread := (hword []).readIndexer (isCloser_closing c) (Nat.le_refl _)
  rw [List.append_nil, ← hinner] at hread
  refine ⟨⟨n, c :: (inner ++ [closing c]), selector⟩, rfl, ?_, by simp, hhere⟩
  exact ⟨c, inner, _, hc, rfl, hread⟩

/-- A segment in brackets is read as an indexer in front of whatever stands behind it. -/
theorem Segment.IsIndexer.reads {s : Segment} (h : s.IsIndexer) (scan : Bool) (rest : List Char) :
    ∃ c cs, (c = '[' ∨ c = '(') ∧ s.body ++ rest = c :: cs ∧
      ReadsIndexer (closing c) scan cs (s.selector.form scan) rest := by
  obtain ⟨c, inner, a, hc, hbody, hread⟩ := h
  obtain ⟨r, hr, hreads⟩ := readsIndexer_of_readIndexer (readers_sound a).chain hread
  obtain rfl : [] = r := (List.cons.inj hr).2
  obtain ⟨word, he, hword⟩ := hreads.lookahead (isCloser_closing c)
  rw [List.append_nil] at he
  obtain ⟨selector, hselector, hform⟩ := (hword rest).form
  obtain rfl : s.selector = selector := by simpa [Selector.form] using hselector
  refine ⟨c, inner ++ [closing c] ++ rest, hc, by rw [hbody]; simp, ?_⟩
  rw [he]
  exact hform scan

end JsonQuery
