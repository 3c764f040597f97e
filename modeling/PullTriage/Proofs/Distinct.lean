import Mathlib.Data.List.Basic
import Mathlib.Data.List.Induction
import Mathlib.Data.List.Nodup
import Mathlib.Data.Finset.Insert

/-!
# First occurrences

Labels and owners are listed once each, at the place where they come first, and `List.eraseDups`
makes such a list.  It is built from the front: an item at the end counts if it is new
(`eraseDups_append_singleton`).  So what is put behind a list moves nothing, and adds its own first
occurrences as far as they are new (`eraseDups_append_eq`), and where a list is cut, an item that
comes early enough stays (`mem_take_eraseDups`).

There is one list that has the items in the order of their first places (`firstOccurrences_iff`), and
a scan that remembers what it has seen makes it (`Scan.Covers.visitAll`).
-/

namespace PullTriage.Distinct

variable {α : Type} [DecidableEq α] (l more : List α)

lemma eraseDups_append_singleton (a : α) :
    (l ++ [a]).eraseDups = if a ∈ l then l.eraseDups else l.eraseDups ++ [a] := by
  rw [List.eraseDups_append]
  by_cases h : a ∈ l
  · simp [List.removeAll, h]
  · simp [List.removeAll, List.eraseDups_cons, h]

lemma nodup_eraseDups : l.eraseDups.Nodup := by
  induction l using List.reverseRecOn with
  | nil => exact List.nodup_nil
  | append_singleton l a ih =>
    rw [eraseDups_append_singleton]
    by_cases h : a ∈ l
    · rwa [if_pos h]
    · rw [if_neg h, ← List.concat_eq_append]
      exact ih.concat fun hmem => h (List.mem_eraseDups.1 hmem)

lemma eraseDups_filter (p : α → Bool) : (l.filter p).eraseDups = l.eraseDups.filter p := by
  induction l using List.reverseRecOn with
  | nil => rfl
  | append_singleton l a ih =>
    rw [List.filter_append, eraseDups_append_singleton]
    by_cases hp : p a = true
    · rw [List.filter_cons_of_pos hp, List.filter_nil, eraseDups_append_singleton, ih]
      by_cases h : a ∈ l
      · rw [if_pos h, if_pos (List.mem_filter.2 ⟨h, hp⟩)]
      · rw [if_neg h, if_neg fun hmem => h (List.mem_filter.1 hmem).1, List.filter_append,
          List.filter_cons_of_pos hp, List.filter_nil]
    · rw [List.filter_cons_of_neg hp, List.filter_nil, List.append_nil, ih]
      by_cases h : a ∈ l
      · rw [if_pos h]
      · rw [if_neg h, List.filter_append, List.filter_cons_of_neg hp, List.filter_nil,
          List.append_nil]

lemma eraseDups_append_eq :
    (l ++ more).eraseDups = l.eraseDups ++ more.eraseDups.filter (· ∉ l) := by
  have new : more.removeAll l = more.filter (· ∉ l) :=
    List.filter_congr fun a _ => by simp
  rw [List.eraseDups_append, new, eraseDups_filter]

lemma length_eraseDups_le : l.eraseDups.length ≤ l.length := by
  induction l using List.reverseRecOn with
  | nil => exact Nat.le_refl 0
  | append_singleton l a ih =>
    rw [eraseDups_append_singleton, List.length_append, List.length_singleton]
    by_cases h : a ∈ l
    · rw [if_pos h]
      exact Nat.le_succ_of_le ih
    · rw [if_neg h, List.length_append, List.length_singleton]
      exact Nat.succ_le_succ ih

/-- An item with few others before it is among the first ones. -/
lemma mem_take_eraseDups {front back : List α} {a : α} {n : Nat} (h : front.length < n) :
    a ∈ ((front ++ a :: back).eraseDups).take n := by
  have split : front ++ a :: back = (front ++ [a]) ++ back := by simp
  have hlength : (front ++ [a]).eraseDups.length ≤ n := by
    have hle := length_eraseDups_le (front ++ [a])
    rw [List.length_append, List.length_singleton] at hle
    omega
  have hmem : a ∈ (front ++ [a]).eraseDups := List.mem_eraseDups.2 (by simp)
  rw [split, eraseDups_append_eq, List.take_append, List.take_of_length_le hlength]
  exact List.mem_append_left _ hmem

variable {l} {firsts : List α}

lemma eraseDups_of_nodup (h : l.Nodup) : l.eraseDups = l := by
  induction l using List.reverseRecOn with
  | nil => rfl
  | append_singleton l a ih =>
    obtain ⟨hl, -, hdisjoint⟩ := List.nodup_append.1 h
    rw [eraseDups_append_singleton, if_neg fun hmem => hdisjoint a hmem a (by simp) rfl, ih hl]

/-! ## The order of first occurrences -/

/-- The items of a list, once each, in the order in which they come first. -/
structure FirstOccurrences (l firsts : List α) : Prop where
  mem_iff : ∀ a, a ∈ firsts ↔ a ∈ l
  ordered : firsts.Pairwise fun a b => l.idxOf a < l.idxOf b

lemma firstOccurrences_eraseDups (l : List α) : FirstOccurrences l l.eraseDups := by
  refine ⟨fun a => List.mem_eraseDups, ?_⟩
  induction l using List.reverseRecOn with
  | nil => exact .nil
  | append_singleton l a ih =>
    have before : l.eraseDups.Pairwise fun b c => (l ++ [a]).idxOf b < (l ++ [a]).idxOf c := by
      refine ih.imp_of_mem fun hb hc hlt => ?_
      rwa [List.idxOf_append_of_mem (List.mem_eraseDups.1 hb),
        List.idxOf_append_of_mem (List.mem_eraseDups.1 hc)]
    rw [eraseDups_append_singleton]
    by_cases h : a ∈ l
    · rwa [if_pos h]
    · rw [if_neg h, List.pairwise_append]
      refine ⟨before, List.pairwise_singleton _ _, fun b hb c hc => ?_⟩
      have hb := List.mem_eraseDups.1 hb
      rw [List.mem_singleton.1 hc, List.idxOf_append_of_mem hb, List.idxOf_append_of_notMem h]
      exact Nat.lt_add_right _ (List.idxOf_lt_length_of_mem hb)

/-- There is one such list. -/
lemma firstOccurrences_iff : FirstOccurrences l firsts ↔ l.eraseDups = firsts := by
  constructor
  · rintro ⟨hmem, hordered⟩
    have ordered := (firstOccurrences_eraseDups l).ordered
    have distinct : firsts.Nodup := hordered.imp fun hlt heq => by
      subst heq
      exact Nat.lt_irrefl _ hlt
    have perm : l.eraseDups.Perm firsts := by
      refine (List.perm_ext_iff_of_nodup (nodup_eraseDups l) distinct).2 fun a => ?_
      rw [List.mem_eraseDups, hmem]
    refine perm.eq_of_pairwise (fun a b _ _ hlt hgt => ?_) ordered hordered
    exact absurd hgt (Nat.lt_asymm hlt)
  · rintro rfl
    exact firstOccurrences_eraseDups l

/-! ## Listing with a memory -/

/-- A scan in progress: what it has seen, and what it has listed. -/
structure Scan (α : Type) where
  seen : Finset α := ∅
  listed : List α := []

/-- An item is listed when it is seen for the first time. -/
def Scan.visit (scan : Scan α) (a : α) : Scan α :=
  if a ∈ scan.seen then scan
  else ⟨insert a scan.seen, scan.listed ++ [a]⟩

/-- The scan has gone over these items. -/
structure Scan.Covers (scan : Scan α) (l : List α) : Prop where
  seen : ∀ a, a ∈ scan.seen ↔ a ∈ l
  listed : scan.listed = l.eraseDups

lemma Scan.Covers.visit {scan : Scan α} (h : scan.Covers l) (a : α) :
    (scan.visit a).Covers (l ++ [a]) := by
  rw [Scan.visit]
  by_cases ha : a ∈ scan.seen
  · have hal := (h.seen a).1 ha
    rw [if_pos ha]
    refine ⟨fun b => ?_, ?_⟩
    · rw [h.seen, List.mem_append, List.mem_singleton]
      exact ⟨.inl, fun hb => hb.elim id fun hba => hba ▸ hal⟩
    · rw [h.listed, eraseDups_append_singleton, if_pos hal]
  · have hal := mt (h.seen a).2 ha
    rw [if_neg ha]
    refine ⟨fun b => ?_, ?_⟩
    · rw [Finset.mem_insert, h.seen, List.mem_append, List.mem_singleton, or_comm]
    · rw [h.listed, eraseDups_append_singleton, if_neg hal]

lemma Scan.Covers.visitAll {scan : Scan α} (h : scan.Covers l) (more : List α) :
    (more.foldl Scan.visit scan).Covers (l ++ more) := by
  induction more generalizing scan l with
  | nil => rwa [List.foldl_nil, List.append_nil]
  | cons a more ih =>
    have onward := ih (h.visit a)
    rwa [List.append_assoc] at onward

end PullTriage.Distinct
