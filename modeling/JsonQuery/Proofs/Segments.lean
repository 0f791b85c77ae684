import JsonQuery.Proofs.Grammar.Segment
import JsonQuery.Proofs.Grammar.Whole
import JsonQuery.Regex.Builtin.Matching

/-!
# Path texts by segments

The texts of paths are the sequences of segments, with the marker of the document in front or not.
Dots only stand in front of a segment. Any number of them is read: one is as good as none in front
of an indexer, and more than two are as good as two.
-/

namespace JsonQuery

open Text

/-! ## The marker of the document -/

/-- A text with the marker in front or not. The marker needs nothing, a dot or a square bracket
behind it; there a dollar sign is always the marker. -/
inductive Marked (t : List Char) : List Char → Prop
  | marker : t.head? = none ∨ t.head? = some '.' ∨ t.head? = some '[' → Marked t ('$' :: t)
  | unmarked : (∀ rest, t = '$' :: rest →
      ¬(rest.head? = none ∨ rest.head? = some '.' ∨ rest.head? = some '[')) → Marked t t

theorem marked_iff {t whole : List Char} : Marked t whole ↔ withoutRoot whole = t := by
  constructor
  · rintro (h | h)
    · exact withoutRoot_marker h
    · by_cases hd : t.head? = some '$'
      · obtain ⟨rest, rfl⟩ := List.head?_eq_some_iff.1 hd
        exact withoutRoot_name (h rest rfl)
      · exact withoutRoot_other hd
  · rintro rfl
    by_cases hd : whole.head? = some '$'
    · obtain ⟨rest, rfl⟩ := List.head?_eq_some_iff.1 hd
      by_cases hm : rest.head? = none ∨ rest.head? = some '.' ∨ rest.head? = some '['
      · rw [withoutRoot_marker hm]
        exact .marker hm
      · rw [withoutRoot_name hm]
        refine .unmarked fun rest' he => ?_
        obtain rfl := (List.cons.inj he).2
        exact hm
    · rw [withoutRoot_other hd]
      refine .unmarked fun rest he => ?_
      rw [he] at hd
      exact absurd rfl hd

/-! ## Segments -/

/-- With no dot in front the name before would go on, or an indexer stand right before. -/
theorem one_le_dots_of_name {before : Junction} {n : Nat} {c : Char} {cs : List Char}
    (hb : before.isDot = false) (hstart : before ≠ .start) (hc : isNameChar false c = true)
    (hindexer : before.afterDots n ≠ .indexer)
    (hends : before = .name → n = 0 → Ends (isNameChar false) (c :: cs)) : 1 ≤ n := by
  rw [Nat.one_le_iff_ne_zero]
  rintro rfl
  cases before with
  | start => exact hstart rfl
  | name =>
    have hend := ends_cons.1 (hends rfl rfl)
    rw [hc] at hend
    cases hend
  | indexer => exact hindexer rfl
  | dot | dots => cases hb

section

variable [Regex.Engine]

/-- A text of segments, which stand behind something unless the junction is the start. -/
def SegmentsFrom (before : Junction) (t : List Char) (path : Path) : Prop :=
  ∃ segments, t = segments.flatMap Segment.text ∧ path = segments.flatMap Segment.path ∧
    Segmented segments ∧ (before ≠ .start → Continued segments)

theorem segmentsFrom_nil (before : Junction) : SegmentsFrom before [] [] :=
  ⟨[], rfl, rfl, segmented_nil, fun _ => continued_nil⟩

theorem SegmentsFrom.cons {before next : Junction} {t : List Char} {path : Path} {s : Segment}
    (h : SegmentsFrom next t path) (hnext : next ≠ .start) (hs : s.IsName ∨ s.IsIndexer)
    (hdots : before ≠ .start → s.IsName → 1 ≤ s.dots) :
    SegmentsFrom before (s.text ++ t) (s.path ++ path) := by
  obtain ⟨segments, rfl, rfl, -, hcont⟩ := h
  refine ⟨s :: segments, rfl, rfl, segmented_cons.2 ⟨hs, hcont hnext⟩, fun hstart => ?_⟩
  exact continued_cons.2 ⟨hs, hdots hstart, hcont hnext⟩

/-- The segment of a name behind so many dots. -/
def Segment.named (n : Nat) (name : List Char) : Segment :=
  ⟨n, name, .member false (String.ofList name)⟩

theorem Segment.isName_named (n : Nat) {c : Char} {word : List Char}
    (hc : isNameChar false c = true) (hword : ∀ d ∈ word, isNameChar false d = true) :
    (named n (c :: word)).IsName :=
  ⟨List.cons_ne_nil _ _, List.forall_mem_cons.2 ⟨hc, hword⟩, rfl⟩

theorem Segment.path_named {before : Junction} (hb : before.isDot = false) (n : Nat)
    (name : List Char) :
    (named n name).path = [.member (before.afterDots n).scans (String.ofList name)] := by
  rw [Junction.scans_afterDots hb]
  exact Selector.form_member _ _

/-- The segments of a path from a junction on, with the dots that have been read already. -/
theorem ReadsPath.segments {q : Bool} {j : Junction} {cs rest : List Char} {path : Path} :
    ReadsPath q j cs path rest → q = false → rest = [] → ∀ (n : Nat) (before : Junction),
      before.isDot = false → j = before.afterDots n →
      (before = .name → n = 0 → Ends (isNameChar false) cs) →
      SegmentsFrom before (List.replicate n '.' ++ cs) path
  | .done hj, _, _, n, before, hb, hjn, _ => by
    rw [hjn, Junction.isDot_afterDots hb] at hj
    obtain rfl : n = 0 := Nat.lt_one_iff.1 (Nat.not_le.1 (of_decide_eq_false hj))
    exact segmentsFrom_nil before
  | .stop _ _, _, hrest, _, _, _, _, _ => by cases hrest
  | .dot h, hq, hrest, n, before, hb, hjn, _ => by
    have hnext := h.segments hq hrest (n + 1) before hb (congrArg Junction.addDot hjn) nofun
    rwa [List.replicate_succ', List.append_assoc] at hnext
  | @ReadsPath.name _ _ _ c word cs _ path hj hc hw hcs h, hq, hrest, n, before, hb, hjn, he => by
    rw [hq] at hc hw hcs
    rw [hjn] at hj ⊢
    have hnext := h.segments hq hrest 0 .name rfl rfl fun _ _ => hcs
    have hdots : before ≠ .start → (Segment.named n (c :: word)).IsName → 1 ≤ n :=
      fun hstart _ => one_le_dots_of_name hb hstart hc hj he
    have hall := hnext.cons nofun (.inl (Segment.isName_named n hc hw)) hdots
    rwa [Segment.path_named hb, Segment.text, List.append_assoc] at hall
  | @ReadsPath.indexer _ _ _ c cs mid _ here path hc hi h, hq, hrest, n, before, hb, hjn, _ => by
    have hnext : SegmentsFrom .indexer mid path := h.segments hq hrest 0 .indexer rfl rfl nofun
    obtain ⟨s, rfl, hs, he, hhere⟩ := hi.segment hc n
    have hpath : s.path = here := by
      rw [hhere, hjn, Junction.scans_afterDots hb]
      rfl
    have hdots : before ≠ .start → s.IsName → 1 ≤ s.dots :=
      fun _ hname => absurd hname hs.not_isName
    have hall := hnext.cons nofun (.inr hs) hdots
    rwa [hpath, Segment.text, List.append_assoc, ← he] at hall

/-- Behind a name another segment does not go on with the name. -/
theorem Continued.ends {segments : List Segment} (h : Continued segments) {q : Bool}
    {rest : List Char} (hrest : Ends (isNameChar q) rest) :
    Ends (isNameChar q) (segments.flatMap Segment.text ++ rest) := by
  cases segments with
  | nil => exact hrest
  | cons s segments =>
    obtain ⟨hs, hdots, -⟩ := continued_cons.1 h
    rw [List.flatMap_cons, List.append_assoc, Segment.text]
    cases hn : s.dots with
    | succ n => exact ends_cons.2 (by cases q <;> decide)
    | zero =>
      rcases hs with hname | hindexer
      · have := hdots hname
        omega
      · exact hindexer.ends (by cases q <;> decide) (by cases q <;> decide) _

/-- The dots in front of a segment are all that stand there. -/
theorem Segment.split_dots {s : Segment} (h : s.IsName ∨ s.IsIndexer) (t : List Char) :
    (s.text ++ t).takeWhile (· == '.') = List.replicate s.dots '.' ∧
      (s.text ++ t).dropWhile (· == '.') = s.body ++ t := by
  have hdots : ∀ c ∈ List.replicate s.dots '.', (c == '.') = true := by
    intro c hc
    rw [List.eq_of_mem_replicate hc]
    rfl
  have hends : Ends (· == '.') (s.body ++ t) := by
    rcases h with hname | hindexer
    · obtain ⟨c, word, hc, hbody⟩ := hname.head
      rw [hbody]
      refine ends_cons.2 (beq_false_of_ne ?_)
      rintro rfl
      exact absurd hc (by decide)
    · exact hindexer.ends (by decide) (by decide) t
  rw [Segment.text, List.append_assoc]
  exact ⟨takeWhile_run hdots hends, dropWhile_run hdots hends⟩

section

variable {q : Bool} {before : Junction} {cs rest : List Char} {path : Path}

theorem Segment.IsName.reads {s : Segment} (h : s.IsName)
    (hall : ∀ c ∈ s.body, isNameChar q c = true) (hb : before.isDot = false)
    (hdots : before = .start ∨ 1 ≤ s.dots) (hends : Ends (isNameChar q) cs)
    (hnext : ReadsPath q .name cs path rest) :
    ReadsPath q before (s.text ++ cs) (s.path ++ path) rest := by
  obtain ⟨c, word, -, hbody⟩ := h.head
  obtain ⟨-, -, hselector⟩ := h
  obtain ⟨hc, hword⟩ := List.forall_mem_cons.1 (hbody ▸ hall)
  have hj : before.afterDots s.dots ≠ .indexer := by
    obtain ⟨hn, he⟩ | ⟨-, he⟩ | ⟨-, he⟩ := Junction.afterDots_cases hb s.dots
    · rcases hdots with rfl | hdots
      · simp [he]
      · omega
    · simp [he]
    · simp [he]
  have hpath : s.path = [.member (before.afterDots s.dots).scans (String.ofList (c :: word))] := by
    rw [Segment.path, hselector, hbody, Junction.scans_afterDots hb, Selector.form_member]
  rw [hpath, Segment.text, List.append_assoc, hbody]
  exact ReadsPath.dots s.dots (.name hj hc hword hends hnext)

theorem Segment.IsIndexer.reads_path {s : Segment} (h : s.IsIndexer) (hb : before.isDot = false)
    (hnext : ReadsPath q .indexer cs path rest) :
    ReadsPath q before (s.text ++ cs) (s.path ++ path) rest := by
  obtain ⟨c, inner, hc, hbody, hreads⟩ := h.reads (before.afterDots s.dots).scans cs
  have hpath : s.path = s.selector.form (before.afterDots s.dots).scans := by
    rw [Segment.path, Junction.scans_afterDots hb]
  rw [hpath, Segment.text, List.append_assoc, hbody]
  exact ReadsPath.dots s.dots (.indexer hc hreads hnext)

/-- Segments behind another one are read one after the other, up to where a path ends. -/
theorem Continued.reads {segments : List Segment} (h : Continued segments)
    (hnames : ∀ s ∈ segments, s.IsName → ∀ c ∈ s.body, isNameChar q c = true)
    (hends : Ends (isNameChar q) rest) (hrest : ∀ j, j.isDot = false → ReadsPath q j rest [] rest)
    (hb : before.isDot = false) : ReadsPath q before (segments.flatMap Segment.text ++ rest)
      (segments.flatMap Segment.path) rest := by
  induction segments generalizing before with
  | nil => exact hrest before hb
  | cons s segments ih =>
    obtain ⟨hs, hdots, hcont⟩ := continued_cons.1 h
    obtain ⟨hname, hothers⟩ := List.forall_mem_cons.1 hnames
    rw [List.flatMap_cons, List.flatMap_cons, List.append_assoc]
    rcases hs with his | hindexer
    · exact his.reads (hname his) hb (.inr (hdots his)) (hcont.ends hends) (ih hcont hothers rfl)
    · exact hindexer.reads_path hb (ih hcont hothers rfl)

/-- A text of segments is read up to where a path ends, as long as its names do not end one. -/
theorem Segmented.reads {segments : List Segment} (h : Segmented segments)
    (hnames : ∀ s ∈ segments, s.IsName → ∀ c ∈ s.body, isNameChar q c = true)
    (hends : Ends (isNameChar q) rest)
    (hrest : ∀ j, j.isDot = false → ReadsPath q j rest [] rest) :
    ReadsPath q .start (segments.flatMap Segment.text ++ rest)
      (segments.flatMap Segment.path) rest := by
  cases segments with
  | nil => exact hrest .start rfl
  | cons s segments =>
    obtain ⟨hs, hcont⟩ := segmented_cons.1 h
    obtain ⟨hname, hothers⟩ := List.forall_mem_cons.1 hnames
    have hnext : ∀ j : Junction, j.isDot = false → ReadsPath q j
        (segments.flatMap Segment.text ++ rest) (segments.flatMap Segment.path) rest :=
      fun j hj => hcont.reads hothers hends hrest hj
    rw [List.flatMap_cons, List.flatMap_cons, List.append_assoc]
    rcases hs with his | hindexer
    · exact his.reads (hname his) rfl (.inl rfl) (hcont.ends hends) (hnext .name rfl)
    · exact hindexer.reads_path rfl (hnext .indexer rfl)

end

/-- A path is read from a text, all of it, when the text is made of segments. -/
theorem readsPath_iff_segments {cs : List Char} {path : Path} :
    ReadsPath false .start cs path [] ↔ ∃ segments, Segmented segments ∧
      cs = segments.flatMap Segment.text ∧ path = segments.flatMap Segment.path := by
  constructor
  · intro h
    obtain ⟨segments, ht, hp, hs, -⟩ := h.segments rfl rfl 0 .start rfl rfl nofun
    exact ⟨segments, hs, ht, hp⟩
  · rintro ⟨segments, hs, rfl, rfl⟩
    have hnames : ∀ s ∈ segments, s.IsName → ∀ c ∈ s.body, isNameChar false c = true :=
      fun _ _ hname => hname.2.1
    have hread : ReadsPath false .start (segments.flatMap Segment.text ++ []) _ [] :=
      hs.reads hnames (by simp [Ends]) fun _ hj => .done hj
    rwa [List.append_nil] at hread

/-- A text is a path when it is, without the blanks around it and the marker of the document, a
sequence of segments. The selectors are those of the segments, which scan behind two dots or
more. -/
theorem Path.parse_eq_ok_iff_segments {text : String} {path : Path} :
    Path.parse text = .ok path ↔ ∃ segments, Segmented segments ∧
      Marked (segments.flatMap Segment.text) (trimBlanks text.toList) ∧
      path = segments.flatMap Segment.path := by
  rw [parse_eq_ok_iff, readsPath_iff_segments]
  simp only [marked_iff]

end

open scoped Regex.Builtin

/-- Three dots are read, and are those of one segment. -/
theorem Path.parse_three_dots :
    Path.parse "a...b" = .ok [.field (some "a"), .scan (some "b")] ∧
      ¬ ∃ segments, Segmented segments ∧
        Marked (segments.flatMap Segment.text) (trimBlanks "a...b".toList) ∧
        ∀ s ∈ segments, s.dots ≤ 2 := by
  refine ⟨rfl, ?_⟩
  rintro ⟨segments, hs, hmarked, hdots⟩
  have ht : ['a', '.', '.', '.', 'b'] = segments.flatMap Segment.text := marked_iff.1 hmarked
  obtain _ | ⟨first, segments⟩ := segments
  · cases ht
  obtain ⟨hfirst, hcont⟩ := segmented_cons.1 hs
  have hbody : ['a', '.', '.', '.', 'b'] = first.body ++ segments.flatMap Segment.text := by
    rw [← (Segment.split_dots hfirst _).2, ← List.flatMap_cons, ← ht]
    rfl
  have hrest : ['.', '.', '.', 'b'] = segments.flatMap Segment.text := by
    rcases hfirst with ⟨hne, hall, -⟩ | hindexer
    · match hword : first.body, hne with
      | c :: [], _ =>
        rw [hword] at hbody
        exact (List.cons.inj hbody).2
      | c :: d :: word, _ =>
        rw [hword] at hbody hall
        obtain rfl := (List.cons.inj (List.cons.inj hbody).2).1
        exact absurd (hall '.' (by simp)) (by decide)
    · obtain ⟨c, cs, rfl | rfl, he⟩ := hindexer.head <;> simp [he] at hbody
  obtain _ | ⟨second, segments⟩ := segments
  · cases hrest
  have hthree : List.replicate 3 '.' = List.replicate second.dots '.' := by
    rw [← (Segment.split_dots (continued_cons.1 hcont).1 _).1, ← List.flatMap_cons, ← hrest]
    rfl
  have hlength := congrArg List.length hthree
  have htwo : second.dots ≤ 2 := hdots second (by simp)
  simp only [List.length_replicate] at hlength
  omega

end JsonQuery
