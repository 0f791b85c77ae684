import JsonQuery.Text.CodeRange
import Mathlib.Data.List.TakeWhile

/-!
# Gaps

A gap is a run of blanks, possibly empty. Every text is a gap, a part that neither begins nor ends
with a blank, and another gap; trimming takes the two gaps off.
-/

namespace JsonQuery.Text

def Gap (g : List Char) : Prop := ∀ c ∈ g, isBlank c = true

instance (g : List Char) : Decidable (Gap g) := decidable_of_iff _ List.all_eq_true

/-- Neither begins nor ends with a blank. -/
def Trimmed (cs : List Char) : Prop :=
  (∀ c, cs.head? = some c → isBlank c = false) ∧ ∀ c, cs.getLast? = some c → isBlank c = false

theorem not_blank_of_isDigit {c : Char} (h : c.isDigit = true) : isBlank c = false := by
  obtain ⟨hl, hu⟩ := Char.isDigit_iff_toNat.1 h
  simp only [show '0'.toNat = 48 from rfl, show '9'.toNat = 57 from rfl] at hl hu
  simp only [isBlank, inRanges, blankRanges, List.any_cons, List.any_nil, Bool.or_eq_false_iff,
    Bool.and_eq_false_iff, decide_eq_false_iff_not, and_true]
  omega

theorem Gap.nil : Gap [] := by simp [Gap]

theorem Gap.reverse {g : List Char} (h : Gap g) : Gap g.reverse :=
  fun c hc => h c (List.mem_reverse.1 hc)

theorem dropBlanks_gap {g : List Char} (h : Gap g) (cs : List Char) :
    dropBlanks (g ++ cs) = dropBlanks cs := List.dropWhile_append_of_pos h

theorem dropBlanks_of_gap {g : List Char} (h : Gap g) : dropBlanks g = [] := by
  simpa using dropBlanks_gap h []

theorem exists_gap (cs : List Char) : ∃ g, Gap g ∧ cs = g ++ dropBlanks cs :=
  ⟨cs.takeWhile isBlank, fun _ hc => List.mem_takeWhile_imp hc,
    List.takeWhile_append_dropWhile.symm⟩

theorem not_blank_of_dropBlanks {cs rest : List Char} {c : Char}
    (h : dropBlanks cs = c :: rest) : isBlank c = false := by
  have hn := List.head?_dropWhile_not isBlank cs
  simpa [show cs.dropWhile isBlank = c :: rest from h] using hn

theorem dropBlanks_eq_cons_iff {cs rest : List Char} {c : Char} :
    dropBlanks cs = c :: rest ↔ ∃ g, Gap g ∧ isBlank c = false ∧ cs = g ++ c :: rest := by
  constructor
  · intro h
    obtain ⟨g, hg, he⟩ := exists_gap cs
    exact ⟨g, hg, not_blank_of_dropBlanks h, h ▸ he⟩
  · rintro ⟨g, hg, hc, rfl⟩
    rw [dropBlanks_gap hg, dropBlanks_cons_other hc]

theorem dropBlanks_gap_cons {g : List Char} (hg : Gap g) {c : Char} (hc : isBlank c = false)
    (rest : List Char) : dropBlanks (g ++ c :: rest) = c :: rest :=
  dropBlanks_eq_cons_iff.2 ⟨g, hg, hc, rfl⟩

theorem dropBlanks_eq_nil_iff {cs : List Char} : dropBlanks cs = [] ↔ Gap cs := by
  constructor
  · intro h
    obtain ⟨g, hg, he⟩ := exists_gap cs
    rw [he, h, List.append_nil]
    exact hg
  · exact dropBlanks_of_gap

theorem dropBlanks_of_head {cs : List Char} (h : ∀ c, cs.head? = some c → isBlank c = false) :
    dropBlanks cs = cs := by
  cases cs with
  | nil => rfl
  | cons c cs => exact dropBlanks_cons_other (h c rfl) cs

theorem Trimmed.append {cs t : List Char} (hcs : Trimmed cs) (ht : Trimmed t) :
    Trimmed (cs ++ t) := by
  constructor
  · intro c hc
    rw [List.head?_append] at hc
    cases hh : cs.head? with
    | none => exact ht.1 c (by simpa [hh] using hc)
    | some d => exact hcs.1 c (by simpa [hh] using hc)
  · intro c hc
    rw [List.getLast?_append] at hc
    cases hh : t.getLast? with
    | none => exact hcs.2 c (by simpa [hh] using hc)
    | some d => exact ht.2 c (by simpa [hh] using hc)

theorem trimBlanks_gaps {g t h : List Char} (hg : Gap g) (hh : Gap h) (ht : Trimmed t) :
    trimBlanks (g ++ t ++ h) = t := by
  cases t with
  | nil =>
    have : Gap (g ++ h) := fun c hc => (List.mem_append.1 hc).elim (hg c) (hh c)
    simp [trimBlanks, dropBlanks_of_gap this]
  | cons c t =>
    have front : dropBlanks (g ++ (c :: t) ++ h) = (c :: t) ++ h := by
      rw [List.append_assoc]
      exact dropBlanks_gap_cons hg (ht.1 c rfl) (t ++ h)
    have back : dropBlanks (h.reverse ++ (c :: t).reverse) = (c :: t).reverse := by
      rw [dropBlanks_gap hh.reverse]
      exact dropBlanks_of_head fun d hd => ht.2 d (by rwa [List.head?_reverse] at hd)
    rw [trimBlanks, front, List.reverse_append, back, List.reverse_reverse]

theorem Gap.eq_nil_of_prefix {g cs : List Char} (hg : Gap g) (hp : g <+: cs)
    (h : ∀ c, cs.head? = some c → isBlank c = false) : g = [] := by
  obtain ⟨rest, rfl⟩ := hp
  cases g with
  | nil => rfl
  | cons c g =>
    have hb := hg c List.mem_cons_self
    rw [h c rfl] at hb
    cases hb

theorem Gap.eq_nil_of_suffix {g cs : List Char} (hg : Gap g) (hs : g <:+ cs)
    (h : ∀ c, cs.getLast? = some c → isBlank c = false) : g = [] := by
  have hnil := hg.reverse.eq_nil_of_prefix (List.reverse_prefix.2 hs) (by simpa using h)
  simpa using hnil

theorem exists_trimmed (cs : List Char) :
    ∃ g h, Gap g ∧ Gap h ∧ cs = g ++ trimBlanks cs ++ h ∧ Trimmed (trimBlanks cs) := by
  obtain ⟨g, hg, he⟩ := exists_gap cs
  obtain ⟨h, hh, hr⟩ := exists_gap (dropBlanks cs).reverse
  have hd : dropBlanks cs = trimBlanks cs ++ h.reverse := by
    rw [trimBlanks, ← List.reverse_append, ← hr, List.reverse_reverse]
  refine ⟨g, h.reverse, hg, hh.reverse, by rw [List.append_assoc, ← hd, ← he], ?_, ?_⟩
  · intro c hc
    cases ht : trimBlanks cs with
    | nil => simp [ht] at hc
    | cons d t =>
      obtain rfl : d = c := by simpa [ht] using hc
      exact @not_blank_of_dropBlanks cs _ _ (by rw [hd, ht]; rfl)
  · intro c hc
    rw [trimBlanks, List.getLast?_reverse] at hc
    cases ht : dropBlanks (dropBlanks cs).reverse with
    | nil => simp [ht] at hc
    | cons d t =>
      obtain rfl : d = c := by simpa [ht] using hc
      exact not_blank_of_dropBlanks ht

/-- Where no blank stands between two texts, each is trimmed at its outer end. -/
theorem trimBlanks_append {cs t : List Char}
    (hcs : ∀ c, cs.getLast? = some c → isBlank c = false)
    (ht : ∀ c, t.head? = some c → isBlank c = false) :
    trimBlanks (cs ++ t) = trimBlanks cs ++ trimBlanks t := by
  obtain ⟨g, h, hg, hh, he, htrim⟩ := exists_trimmed cs
  obtain ⟨g', h', hg', hh', he', htrim'⟩ := exists_trimmed t
  obtain rfl : h = [] := hh.eq_nil_of_suffix ⟨_, he.symm⟩ hcs
  obtain rfl : g' = [] := hg'.eq_nil_of_prefix ⟨_, (List.append_assoc .. ▸ he').symm⟩ ht
  have hall := trimBlanks_gaps hg hh' (htrim.append htrim')
  rw [← hall]
  congr 1
  rw [List.append_nil] at he
  rw [List.nil_append] at he'
  rw [← List.append_assoc, List.append_assoc, ← he, ← he']

/-- Trimming leaves what stands in front of the last part as it is. -/
theorem Trimmed.trimBlanks_append {cs t : List Char} (hcs : Trimmed cs)
    (ht : ∀ c, t.head? = some c → isBlank c = false) :
    trimBlanks (cs ++ t) = cs ++ trimBlanks t := by
  have hself := trimBlanks_gaps Gap.nil Gap.nil hcs
  rw [List.nil_append, List.append_nil] at hself
  rw [Text.trimBlanks_append hcs.2 ht, hself]

theorem head_trimBlanks {cs : List Char} (h : ∀ c, cs.head? = some c → isBlank c = false) :
    (trimBlanks cs).head? = cs.head? := by
  obtain ⟨g, h', hg, hh, he, htrim⟩ := exists_trimmed cs
  obtain rfl : g = [] := hg.eq_nil_of_prefix ⟨_, (List.append_assoc .. ▸ he).symm⟩ h
  rw [List.nil_append] at he
  cases ht : trimBlanks cs with
  | nil =>
    rw [ht, List.nil_append] at he
    have hgap : Gap cs := he ▸ hh
    rw [hgap.eq_nil_of_prefix (List.prefix_refl cs) h]
  | cons c t => rw [he, ht]; rfl

/-- Blanks at the end are taken off a text that begins with no blank. -/
theorem exists_trimBlanks_cons {c : Char} (hc : isBlank c = false) (t : List Char) :
    ∃ t', t' <+: t ∧ trimBlanks (c :: t) = c :: t' := by
  obtain ⟨g, h, hg, hh, he, -⟩ := exists_trimmed (c :: t)
  have hhead : ∀ d, (c :: t).head? = some d → isBlank d = false := by
    intro d hd
    rwa [← Option.some.inj hd]
  have hfirst := head_trimBlanks hhead
  obtain ⟨t', ht'⟩ := List.head?_eq_some_iff.1 hfirst
  obtain rfl := hg.eq_nil_of_prefix ⟨_, (List.append_assoc .. ▸ he).symm⟩ hhead
  rw [ht'] at he ⊢
  exact ⟨t', ⟨h, (List.cons.inj he).2.symm⟩, rfl⟩

end JsonQuery.Text
