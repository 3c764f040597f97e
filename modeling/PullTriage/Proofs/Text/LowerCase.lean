import Mathlib.Data.List.Forall2
import Mathlib.Data.List.Infix

/-!
# Searching in lower case

What the lower-case form of a text is differs between editions of Unicode, but not for the letters
that matter here.  A letter of ASCII becomes its small one; two characters outside of ASCII have a
letter of ASCII in their small form, the Kelvin sign and the capital I with a dot above; and all
others have none (`LowerCase`).  So a phrase of ASCII characters without `k` that does not end with
`i` occurs in the lower-case form of a text exactly if it occurs after the letters of ASCII have
been made small and nothing else has been changed: `infix_lowerCase_iff`.
-/

namespace PullTriage.Text

/-- The lower-case forms of a character. -/
inductive LowerCase : Char → List Char → Prop where
  | ascii {c : Char} : c.toNat < 0x80 → LowerCase c [c.toLower]
  /-- The Kelvin sign. -/
  | kelvin : LowerCase '\u212a' ['k']
  /-- The capital I with a dot above becomes a small one and a dot that combines with it. -/
  | dotted : LowerCase '\u0130' ['i', '\u0307']
  | other {c : Char} {form : List Char} : 0x80 ≤ c.toNat → form ≠ [] →
      (∀ d ∈ form, 0x80 ≤ d.toNat) → LowerCase c form

/-- The lower-case forms of a text. -/
def IsLowerCase (text lower : List Char) : Prop :=
  ∃ forms, List.Forall₂ LowerCase text forms ∧ lower = forms.flatten

/-- The phrase is of characters of ASCII, has no `k` in it and no `i` at its end. -/
structure IsPlainPhrase (phrase : List Char) : Prop where
  ascii : ∀ c ∈ phrase, c.toNat < 0x80
  noKelvin : 'k' ∉ phrase
  noDotted : phrase.getLast? ≠ some 'i'

/-- A text of ASCII characters has its letters made small. -/
lemma isLowerCase_of_ascii {text : List Char} (h : ∀ c ∈ text, c.toNat < 0x80) :
    IsLowerCase text (text.map Char.toLower) := by
  refine ⟨text.map fun c => [c.toLower], ?_, ?_⟩
  · exact List.forall₂_map_right_iff.2 (List.forall₂_same.2 fun c hc => .ascii (h c hc))
  · rw [← List.flatMap_def, ← List.map_eq_flatMap]

variable {phrase text lower : List Char} {forms : List (List Char)}

lemma IsPlainPhrase.tail {c : Char} (h : IsPlainPhrase (c :: phrase)) : IsPlainPhrase phrase where
  ascii := fun d hd => h.ascii d (List.mem_cons_of_mem c hd)
  noKelvin := fun hk => h.noKelvin (List.mem_cons_of_mem c hk)
  noDotted := by
    intro hlast
    refine h.noDotted ?_
    rw [List.getLast?_cons, hlast]
    rfl

lemma toLower_of_not_ascii {c : Char} (h : 0x80 ≤ c.toNat) : c.toLower = c := by
  refine dif_neg fun hcapital => ?_
  have small : c.toNat ≤ 90 := hcapital.2
  omega

/-- Outside of ASCII no plain phrase begins. -/
lemma IsPlainPhrase.not_prefix_cons (h : IsPlainPhrase phrase) (hne : phrase ≠ []) {c : Char}
    (hc : 0x80 ≤ c.toNat) (rest : List Char) : ¬ phrase <+: c :: rest := by
  intro hprefix
  obtain ⟨d, more, rfl⟩ := List.exists_cons_of_ne_nil hne
  obtain ⟨rfl, -⟩ := List.cons_prefix_cons.1 hprefix
  exact absurd (h.ascii d List.mem_cons_self) (by omega)

lemma IsPlainPhrase.infix_cons_iff (h : IsPlainPhrase phrase) (hne : phrase ≠ []) {c : Char}
    (hc : 0x80 ≤ c.toNat) (rest : List Char) : phrase <:+: c :: rest ↔ phrase <:+: rest := by
  rw [List.infix_cons_iff, or_iff_right (h.not_prefix_cons hne hc rest)]

lemma IsPlainPhrase.infix_append_iff (h : IsPlainPhrase phrase) (hne : phrase ≠ [])
    {form : List Char} (hform : ∀ d ∈ form, 0x80 ≤ d.toNat) (rest : List Char) :
    phrase <:+: form ++ rest ↔ phrase <:+: rest := by
  induction form with
  | nil => rfl
  | cons c form ih =>
    obtain ⟨hc, hform⟩ := List.forall_mem_cons.1 hform
    rw [List.cons_append, h.infix_cons_iff hne hc, ih hform]

lemma IsPlainPhrase.not_prefix_kelvin (h : IsPlainPhrase phrase) (hne : phrase ≠ [])
    (rest : List Char) : ¬ phrase <+: 'k' :: rest := by
  intro hprefix
  obtain ⟨d, more, rfl⟩ := List.exists_cons_of_ne_nil hne
  obtain ⟨rfl, -⟩ := List.cons_prefix_cons.1 hprefix
  exact h.noKelvin List.mem_cons_self

/-- Behind the `i` of a plain phrase there is a character of ASCII, and not the combining dot. -/
lemma IsPlainPhrase.not_prefix_dotted (h : IsPlainPhrase phrase) (hne : phrase ≠ [])
    (rest : List Char) : ¬ phrase <+: 'i' :: '\u0307' :: rest := by
  intro hprefix
  obtain ⟨d, more, rfl⟩ := List.exists_cons_of_ne_nil hne
  obtain ⟨rfl, hmore⟩ := List.cons_prefix_cons.1 hprefix
  by_cases hnil : more = []
  · subst hnil
    exact h.noDotted rfl
  · exact h.tail.not_prefix_cons hnil (by decide) rest hmore

lemma prefix_lowerCase_iff (h : IsPlainPhrase phrase) (hforms : List.Forall₂ LowerCase text forms) :
    phrase <+: forms.flatten ↔ phrase <+: text.map Char.toLower := by
  induction hforms generalizing phrase with
  | nil => rfl
  | @cons c form text forms hc _ ih =>
    by_cases hne : phrase = []
    · subst hne
      simp
    rw [List.flatten_cons, List.map_cons]
    cases hc with
    | ascii hascii =>
      obtain ⟨d, more, rfl⟩ := List.exists_cons_of_ne_nil hne
      rw [List.singleton_append, List.cons_prefix_cons, List.cons_prefix_cons, ih h.tail]
    | kelvin =>
      have capital : ¬ phrase <+: Char.toLower '\u212a' :: text.map Char.toLower :=
        h.not_prefix_cons hne (by decide) _
      exact iff_of_false (h.not_prefix_kelvin hne _) capital
    | dotted =>
      have capital : ¬ phrase <+: Char.toLower '\u0130' :: text.map Char.toLower :=
        h.not_prefix_cons hne (by decide) _
      exact iff_of_false (h.not_prefix_dotted hne _) capital
    | other hc hnil hform =>
      obtain ⟨d, more, rfl⟩ := List.exists_cons_of_ne_nil hnil
      rw [toLower_of_not_ascii hc]
      exact iff_of_false (h.not_prefix_cons hne (hform d List.mem_cons_self) _)
        (h.not_prefix_cons hne hc _)

lemma infix_flatten_iff (h : IsPlainPhrase phrase) (hforms : List.Forall₂ LowerCase text forms) :
    phrase <:+: forms.flatten ↔ phrase <:+: text.map Char.toLower := by
  by_cases hne : phrase = []
  · subst hne
    simp
  induction hforms with
  | nil => rfl
  | @cons c form text forms hc hrest ih =>
    have begins := prefix_lowerCase_iff h (.cons hc hrest)
    rw [List.flatten_cons, List.map_cons] at begins ⊢
    rw [List.infix_cons_iff, ← begins, ← ih]
    cases hc with
    | ascii hascii => rw [List.singleton_append, List.infix_cons_iff]
    | kelvin => rw [List.singleton_append, List.infix_cons_iff]
    | dotted =>
      rw [List.cons_append, List.singleton_append, List.infix_cons_iff,
        h.infix_cons_iff hne (by decide)]
    | other hc hnil hform =>
      obtain ⟨d, more, rfl⟩ := List.exists_cons_of_ne_nil hnil
      rw [h.infix_append_iff hne hform, List.cons_append,
        or_iff_right (h.not_prefix_cons hne (hform d List.mem_cons_self) _)]

/-- A plain phrase occurs in the lower-case form of a text exactly if it occurs when the capital
letters of ASCII are made small. -/
theorem infix_lowerCase_iff (h : IsPlainPhrase phrase) (hlower : IsLowerCase text lower) :
    phrase <:+: lower ↔ phrase <:+: text.map Char.toLower := by
  obtain ⟨forms, hforms, rfl⟩ := hlower
  exact infix_flatten_iff h hforms

end PullTriage.Text
