import PullTriage.Text.Basic
import Mathlib.Data.List.TakeWhile

/-!
# What splitting and trimming mean

Trimming, splitting at a separator and taking the part in front of one are functions that scan a
text.  Each of them finds the one decomposition of the text that has a shape, and the shape is what
a statement about them should mention: `TrimsTo`, `SplitsAt` and `StartsBefore`.
-/

namespace PullTriage.Text

open Unicode

/-! ## Trimming -/

/-- The text is `core` with white space at its ends, and `core` has none at its own. -/
structure TrimsTo (text core : List Char) : Prop where
  ends : ∃ before after, text = before ++ core ++ after ∧ (∀ c ∈ before, isBlank c = true) ∧
    ∀ c ∈ after, isBlank c = true
  first : ∀ c rest, core = c :: rest → isBlank c = false
  last : ∀ rest c, core = rest ++ [c] → isBlank c = false

lemma dropWhile_append_of_stops {p : Char → Bool} {before core : List Char}
    (hbefore : ∀ c ∈ before, p c = true) (hfirst : ∀ c rest, core = c :: rest → p c = false) :
    (before ++ core).dropWhile p = core := by
  rw [List.dropWhile_append_of_pos hbefore]
  cases core with
  | nil => rfl
  | cons c rest => rw [List.dropWhile_cons_of_neg (by simp [hfirst c rest rfl])]

lemma exists_append_dropWhile (p : Char → Bool) (text : List Char) :
    ∃ before, text = before ++ text.dropWhile p ∧ (∀ c ∈ before, p c = true) ∧
      ∀ c rest, text.dropWhile p = c :: rest → p c = false := by
  refine ⟨text.takeWhile p, List.takeWhile_append_dropWhile.symm,
    fun c hc => List.mem_takeWhile_imp hc, fun c rest hrest => ?_⟩
  have stops := List.head?_dropWhile_not p text
  rw [hrest] at stops
  exact stops

lemma trimsTo_trim (text : List Char) : TrimsTo text (trim text) := by
  obtain ⟨before, htext, hbefore, hfirst⟩ := exists_append_dropWhile isBlank text
  obtain ⟨after, hrest, hafter, hlast⟩ :=
    exists_append_dropWhile isBlank (text.dropWhile isBlank).reverse
  rw [List.reverse_eq_iff, List.reverse_append] at hrest
  change text.dropWhile isBlank = trim text ++ after.reverse at hrest
  refine ⟨⟨before, after.reverse, ?_, hbefore, ?_⟩, fun c rest hcore => ?_, fun rest c hcore => ?_⟩
  · rw [List.append_assoc, ← hrest]
    exact htext
  · exact fun c hc => hafter c (List.mem_reverse.1 hc)
  · refine hfirst c (rest ++ after.reverse) ?_
    rw [hrest, hcore, List.cons_append]
  · refine hlast c rest.reverse ?_
    rw [List.reverse_eq_iff.1 hcore, List.reverse_append]
    rfl

/-- Trimming finds the one text without white space at its ends. -/
lemma trim_eq_iff {text core : List Char} : trim text = core ↔ TrimsTo text core := by
  constructor
  · rintro rfl
    exact trimsTo_trim text
  · rintro ⟨⟨before, after, rfl, hbefore, hafter⟩, hfirst, hlast⟩
    by_cases hcore : core = []
    · subst hcore
      have blank : ∀ c ∈ before ++ after, isBlank c = true := fun c hc =>
        (List.mem_append.1 hc).elim (hbefore c) (hafter c)
      rw [trim, List.append_nil, List.dropWhile_eq_nil_iff.2 blank]
      rfl
    · have front : (before ++ core ++ after).dropWhile isBlank = core ++ after := by
        rw [List.append_assoc]
        refine dropWhile_append_of_stops hbefore fun c rest hc => ?_
        obtain ⟨d, tail, rfl⟩ := List.exists_cons_of_ne_nil hcore
        exact List.head_eq_of_cons_eq hc ▸ hfirst d tail rfl
      have back : (core ++ after).reverse.dropWhile isBlank = core.reverse := by
        rw [List.reverse_append]
        refine dropWhile_append_of_stops (fun c hc => hafter c (List.mem_reverse.1 hc))
          fun c rest hc => hlast rest.reverse c ?_
        rw [← List.reverse_cons, ← hc, List.reverse_reverse]
      rw [trim, front, back, List.reverse_reverse]

/-! ## Splitting -/

/-- The pieces are those of a text between its separators. -/
structure SplitsAt (separator : Char) (text : List Char) (pieces : List (List Char)) : Prop where
  ne_nil : pieces ≠ []
  free : ∀ piece ∈ pieces, separator ∉ piece
  joined : [separator].intercalate pieces = text

lemma eq_false_of_mem_splitOnP {p : Char → Bool} {text piece : List Char}
    (h : piece ∈ text.splitOnP p) : ∀ c ∈ piece, p c = false := by
  induction text generalizing piece with
  | nil =>
    rw [List.splitOnP_nil, List.mem_singleton] at h
    simp [h]
  | cons c text ih =>
    rw [List.splitOnP_cons_eq_if_modifyHead] at h
    by_cases hc : p c = true
    · rw [if_pos hc] at h
      rcases List.mem_cons.1 h with rfl | h
      · exact List.forall_mem_nil _
      · exact ih h
    · rw [if_neg hc] at h
      obtain ⟨first, others, hsplit⟩ :=
        List.exists_cons_of_ne_nil (List.splitOnP_ne_nil p text)
      rw [hsplit] at ih h
      rcases List.mem_cons.1 h with rfl | h
      · exact List.forall_mem_cons.2 ⟨by simpa using hc, ih List.mem_cons_self⟩
      · exact ih (List.mem_cons_of_mem first h)

lemma not_mem_of_mem_splitOn {separator : Char} {text piece : List Char}
    (h : piece ∈ text.splitOn separator) : separator ∉ piece := by
  rw [List.splitOn_eq_splitOnP] at h
  intro hmem
  simpa using eq_false_of_mem_splitOnP h separator hmem

lemma splitOn_eq_iff {separator : Char} {text : List Char} {pieces : List (List Char)} :
    text.splitOn separator = pieces ↔ SplitsAt separator text pieces := by
  constructor
  · rintro rfl
    exact ⟨List.splitOn_ne_nil separator text, fun piece => not_mem_of_mem_splitOn,
      List.intercalate_splitOn separator⟩
  · rintro ⟨hne, hfree, rfl⟩
    exact List.splitOn_intercalate separator hfree hne

/-! ## The part before a separator -/

/-- The text has `start` in front of its first separator, or is `start` if it has none. -/
def StartsBefore (separator : Char) (text start : List Char) : Prop :=
  separator ∉ start ∧ (text = start ∨ ∃ rest, text = start ++ separator :: rest)

lemma takeWhile_ne_eq_iff {separator : Char} {text start : List Char} :
    text.takeWhile (· != separator) = start ↔ StartsBefore separator text start := by
  have keeps {start : List Char} (hstart : separator ∉ start) :
      ∀ c ∈ start, (c != separator) = true := fun c hc =>
    bne_iff_ne.2 fun heq => hstart (heq ▸ hc)
  constructor
  · rintro rfl
    refine ⟨fun hmem => by simpa using List.mem_takeWhile_imp hmem, ?_⟩
    have parts := List.takeWhile_append_dropWhile (p := (· != separator)) (l := text)
    cases hrest : text.dropWhile (· != separator) with
    | nil => exact .inl (by rw [hrest, List.append_nil] at parts; exact parts.symm)
    | cons c rest =>
      have stops := List.head?_dropWhile_not (· != separator) text
      rw [hrest] at stops parts
      have hc : c = separator := by simpa using stops
      exact .inr ⟨rest, hc ▸ parts.symm⟩
  · rintro ⟨hstart, rfl | ⟨rest, rfl⟩⟩
    · exact List.takeWhile_eq_self_iff.2 (keeps hstart)
    · rw [List.takeWhile_append_of_pos (keeps hstart), List.takeWhile_cons_of_neg (by simp),
        List.append_nil]

end PullTriage.Text
