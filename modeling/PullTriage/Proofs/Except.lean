import Mathlib.Data.List.Basic
import Mathlib.Data.List.Forall2

/-!
# Computations that may fail

A sequence of computations succeeds when each of them does, and fails with the error of the first
that fails.  The lemmas here say so for two computations, one after the other, for one computation
on every item of a list, with its index or without, and for a check on the value of an option.
-/

namespace PullTriage.Except

variable {ε α β : Type}

lemma bind_eq_ok_iff {x : Except ε α} {f : α → Except ε β} {b : β} :
    x >>= f = .ok b ↔ ∃ a, x = .ok a ∧ f a = .ok b := by
  cases x with
  | error e => exact ⟨nofun, fun ⟨a, ha, _⟩ => nomatch ha⟩
  | ok a => exact ⟨fun h => ⟨a, rfl, h⟩, fun ⟨_, ha, h⟩ => Except.ok.inj ha ▸ h⟩

lemma map_eq_ok_iff {x : Except ε α} {f : α → β} {b : β} :
    x.map f = .ok b ↔ ∃ a, x = .ok a ∧ f a = b := by
  cases x with
  | error e => exact ⟨nofun, fun ⟨a, ha, _⟩ => nomatch ha⟩
  | ok a => exact ⟨fun h => ⟨a, rfl, Except.ok.inj h⟩, fun ⟨_, ha, h⟩ =>
      congrArg _ (Except.ok.inj ha ▸ h)⟩

lemma bind_eq_error_iff {x : Except ε α} {f : α → Except ε β} {e : ε} :
    x >>= f = .error e ↔ x = .error e ∨ ∃ a, x = .ok a ∧ f a = .error e := by
  cases x with
  | error e' =>
    refine ⟨fun h => .inl (congrArg _ (Except.error.inj h)), ?_⟩
    rintro (h | ⟨a, ha, -⟩)
    · exact congrArg _ (Except.error.inj h)
    · nomatch ha
  | ok a =>
    refine ⟨fun h => .inr ⟨a, rfl, h⟩, ?_⟩
    rintro (h | ⟨_, ha, h⟩)
    · nomatch h
    · exact Except.ok.inj ha ▸ h

/-- A computation succeeds on every item of a list if it succeeds on each, and the results stand in
the order of the items. -/
lemma mapM_eq_ok_iff {f : α → Except ε β} {items : List α} {results : List β} :
    items.mapM f = .ok results ↔ List.Forall₂ (fun a b => f a = .ok b) items results := by
  induction items generalizing results with
  | nil =>
    rw [List.mapM_nil, List.forall₂_nil_left_iff]
    exact ⟨fun h => (Except.ok.inj h).symm, fun h => congrArg Except.ok h.symm⟩
  | cons item items ih =>
    rw [List.mapM_cons, bind_eq_ok_iff, List.forall₂_cons_left_iff]
    constructor
    · rintro ⟨b, hb, hrest⟩
      obtain ⟨bs, hbs, hpure⟩ := bind_eq_ok_iff.1 hrest
      exact ⟨b, bs, hb, ih.1 hbs, (Except.ok.inj hpure).symm⟩
    · rintro ⟨b, bs, hb, hbs, rfl⟩
      exact ⟨b, hb, bind_eq_ok_iff.2 ⟨bs, ih.2 hbs, rfl⟩⟩

/-- The first item on which a computation fails, and the error. -/
def FirstFails (f : α → Except ε β) (items : List α) (e : ε) : Prop :=
  ∃ before item after, items = before ++ item :: after ∧ (∀ a ∈ before, ∃ b, f a = .ok b) ∧
    f item = .error e

lemma firstFails_cons_iff {f : α → Except ε β} {item : α} {items : List α} {e : ε} :
    FirstFails f (item :: items) e ↔
      f item = .error e ∨ (∃ b, f item = .ok b) ∧ FirstFails f items e := by
  constructor
  · rintro ⟨before, failing, after, heq, hbefore, hfails⟩
    cases before with
    | nil => exact .inl ((List.cons.inj heq).1 ▸ hfails)
    | cons first before =>
      obtain ⟨rfl, rfl⟩ := List.cons.inj heq
      obtain ⟨hfirst, hbefore⟩ := List.forall_mem_cons.1 hbefore
      exact .inr ⟨hfirst, before, failing, after, rfl, hbefore, hfails⟩
  · rintro (hfails | ⟨hitem, before, failing, after, rfl, hbefore, hfails⟩)
    · exact ⟨[], item, items, rfl, by simp, hfails⟩
    · exact ⟨item :: before, failing, after, rfl, List.forall_mem_cons.2 ⟨hitem, hbefore⟩, hfails⟩

lemma mapM_eq_error_iff {f : α → Except ε β} {items : List α} {e : ε} :
    items.mapM f = .error e ↔ FirstFails f items e := by
  induction items with
  | nil =>
    rw [List.mapM_nil]
    refine ⟨nofun, ?_⟩
    rintro ⟨before, item, after, heq, -⟩
    simp at heq
  | cons item items ih =>
    rw [List.mapM_cons, bind_eq_error_iff, firstFails_cons_iff]
    refine or_congr_right ⟨?_, ?_⟩
    · rintro ⟨b, hb, hrest⟩
      rcases bind_eq_error_iff.1 hrest with hrest | ⟨_, -, hpure⟩
      · exact ⟨⟨b, hb⟩, ih.1 hrest⟩
      · nomatch hpure
    · rintro ⟨⟨b, hb⟩, hrest⟩
      exact ⟨b, hb, bind_eq_error_iff.2 (.inl (ih.2 hrest))⟩

lemma exists_mapM_eq_ok_iff {f : α → Except ε β} {items : List α} :
    (∃ results, items.mapM f = .ok results) ↔ ∀ a ∈ items, ∃ b, f a = .ok b := by
  induction items with
  | nil => exact ⟨nofun, fun _ => ⟨[], mapM_eq_ok_iff.2 .nil⟩⟩
  | cons item items ih =>
    rw [List.forall_mem_cons, ← ih]
    simp only [mapM_eq_ok_iff, List.forall₂_cons_left_iff]
    constructor
    · rintro ⟨_, b, bs, hb, hbs, rfl⟩
      exact ⟨⟨b, hb⟩, bs, hbs⟩
    · rintro ⟨⟨b, hb⟩, bs, hbs⟩
      exact ⟨b :: bs, b, bs, hb, hbs, rfl⟩

/-! ## Items with their indexes -/

variable {f : α × Nat → Except ε β} {items : List α}

lemma mapM_zipIdx_eq_ok_iff {results : List β} :
    items.zipIdx.mapM f = .ok results ↔ results.length = items.length ∧
      ∀ index item result, items[index]? = some item → results[index]? = some result →
        f (item, index) = .ok result := by
  rw [mapM_eq_ok_iff, List.forall₂_iff_get]
  constructor
  · rintro ⟨hlength, h⟩
    rw [List.length_zipIdx] at hlength
    refine ⟨hlength.symm, fun index item result hitem hresult => ?_⟩
    obtain ⟨hi, rfl⟩ := List.getElem?_eq_some_iff.1 hitem
    obtain ⟨hr, rfl⟩ := List.getElem?_eq_some_iff.1 hresult
    simpa using h index (by simpa using hi) hr
  · rintro ⟨hlength, h⟩
    refine ⟨List.length_zipIdx.trans hlength.symm, fun index hi hr => ?_⟩
    rw [List.length_zipIdx] at hi
    simpa using h index _ _ (List.getElem?_eq_getElem hi) (List.getElem?_eq_getElem hr)

lemma forall_mem_zipIdx_iff {p : α × Nat → Prop} :
    (∀ a ∈ items.zipIdx, p a) ↔ ∀ index item, items[index]? = some item → p (item, index) := by
  simp only [Prod.forall, List.mem_zipIdx_iff_getElem?]
  exact forall_comm

lemma firstFails_zipIdx_iff {e : ε} :
    FirstFails f items.zipIdx e ↔ ∃ before item after, items = before ++ item :: after ∧
      (∀ index other, before[index]? = some other → ∃ b, f (other, index) = .ok b) ∧
      f (item, before.length) = .error e := by
  constructor
  · rintro ⟨numbered, failing, rest, heq, hnumbered, hfails⟩
    obtain ⟨before, others, rfl, rfl, hothers⟩ := List.zipIdx_eq_append_iff.1 heq
    obtain ⟨item, after, rfl, rfl, -⟩ := List.zipIdx_eq_cons_iff.1 hothers.symm
    rw [Nat.zero_add] at hfails
    exact ⟨before, item, after, rfl, forall_mem_zipIdx_iff.1 hnumbered, hfails⟩
  · rintro ⟨before, item, after, rfl, hbefore, hfails⟩
    refine ⟨before.zipIdx, (item, before.length), after.zipIdx (before.length + 1), ?_,
      forall_mem_zipIdx_iff.2 hbefore, hfails⟩
    simp [List.zipIdx_append, List.zipIdx_cons]

/-! ## Checks -/

/-- Two checks are passed if both are. -/
lemma seq_eq_ok_iff {x : Except ε Unit} {y : Except ε α} {a : α} :
    (x >>= fun _ => y) = .ok a ↔ x = .ok () ∧ y = .ok a := by
  rw [bind_eq_ok_iff]
  exact ⟨fun ⟨_, hx, hy⟩ => ⟨hx, hy⟩, fun ⟨hx, hy⟩ => ⟨(), hx, hy⟩⟩

lemma forM_eq_ok_iff {o : Option α} {check : α → Except ε Unit} :
    o.forM check = .ok () ↔ ∀ a, o = some a → check a = .ok () := by
  cases o with
  | none => exact ⟨nofun, fun _ => rfl⟩
  | some a => exact ⟨fun h b hb => Option.some.inj hb ▸ h, fun h => h a rfl⟩

lemma discard_eq_ok_iff {x : Except ε α} : discard x = .ok () ↔ ∃ a, x = .ok a := by
  cases x with
  | error e => exact ⟨nofun, fun ⟨a, ha⟩ => nomatch ha⟩
  | ok a => exact ⟨fun _ => ⟨a, rfl⟩, fun _ => rfl⟩

lemma discard_eq_error_iff {x : Except ε α} {e : ε} : discard x = .error e ↔ x = .error e := by
  cases x with
  | error e' => exact ⟨fun h => congrArg _ (Except.error.inj h), fun h => congrArg _
      (Except.error.inj h)⟩
  | ok a => exact ⟨nofun, nofun⟩

end PullTriage.Except
