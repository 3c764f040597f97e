import PullTriage.Proofs.Text.Split

/-!
# The fields of a text

`HasFields` says which fields a text has: parts without white space, with some between each two of
them, and any amount in front of the first and behind the last.  Every text has one list of fields,
the one that `Text.fields` finds: `fields_eq_iff`.
-/

namespace PullTriage.Text

open Unicode

/-- A field of a line: no white space of any script, and at least one character. -/
def IsField (text : List Char) : Prop :=
  text ≠ [] ∧ ∀ c ∈ text, isBlank c = false

lemma IsField.lineFeed_not_mem {text : List Char} (h : IsField text) : '\n' ∉ text := by
  intro hmem
  have blank := h.2 '\n' hmem
  simp [isBlank, whiteSpace, CodeSet.has] at blank

/-- The fields of a text, with white space between them, and perhaps in front of the first and behind
the last. -/
inductive HasFields : List Char → List (List Char) → Prop where
  | nil {gap : List Char} : (∀ c ∈ gap, isBlank c = true) → HasFields gap []
  | cons {gap field rest : List Char} {others : List (List Char)} :
    (∀ c ∈ gap, isBlank c = true) → IsField field →
      (∀ c more, rest = c :: more → isBlank c = true) → HasFields rest others →
      HasFields (gap ++ field ++ rest) (field :: others)

lemma fields_cons_of_blank {c : Char} (h : isBlank c = true) (text : List Char) :
    fields (c :: text) = fields text := by
  rw [fields, List.splitOnP_cons_eq_if_modifyHead, if_pos h, List.filter_cons_of_neg (by simp)]
  rfl

lemma fields_append_of_blank {gap : List Char} (h : ∀ c ∈ gap, isBlank c = true)
    (text : List Char) : fields (gap ++ text) = fields text := by
  induction gap with
  | nil => rfl
  | cons c gap ih =>
    obtain ⟨hc, hgap⟩ := List.forall_mem_cons.1 h
    rw [List.cons_append, fields_cons_of_blank hc, ih hgap]

lemma fields_append {field rest : List Char} (hfield : IsField field)
    (hrest : ∀ c more, rest = c :: more → isBlank c = true) :
    fields (field ++ rest) = field :: fields rest := by
  have hne := hfield.1
  cases rest with
  | nil =>
    rw [List.append_nil, fields, List.splitOnP_eq_singleton hfield.2]
    simp [hne, fields]
  | cons c rest =>
    have hc := hrest c rest rfl
    rw [fields_cons_of_blank hc, fields, List.splitOnP_append_cons_of_forall_mem hfield.2 c hc]
    simp [hne, fields]

lemma HasFields.fields_eq {text : List Char} {found : List (List Char)} (h : HasFields text found) :
    fields text = found := by
  induction h with
  | @nil gap hgap =>
    have none := fields_append_of_blank hgap []
    rw [List.append_nil] at none
    rw [none]
    rfl
  | cons hgap hfield hrest _ ih =>
    rw [List.append_assoc, fields_append_of_blank hgap, fields_append hfield hrest, ih]

lemma hasFields_fields (text : List Char) : HasFields text (fields text) := by
  induction hlength : text.length using Nat.strong_induction_on generalizing text with
  | _ n ih =>
    obtain ⟨gap, htext, hgap, hstart⟩ := exists_append_dropWhile isBlank text
    generalize text.dropWhile isBlank = core at htext hstart
    subst htext
    rw [fields_append_of_blank hgap]
    cases core with
    | nil =>
      rw [List.append_nil]
      exact .nil hgap
    | cons c tail =>
      obtain ⟨field, hcore, hfield, hrest⟩ :=
        exists_append_dropWhile (fun c => !isBlank c) (c :: tail)
      generalize (c :: tail).dropWhile (fun c => !isBlank c) = rest at hcore hrest
      have first : isBlank c = false := hstart c tail rfl
      have blank : ∀ d more, rest = d :: more → isBlank d = true := by simpa using hrest
      have isField : IsField field := by
        refine ⟨?_, by simpa using hfield⟩
        rintro rfl
        have hblank := blank c tail hcore.symm
        rw [first] at hblank
        cases hblank
      have shorter : rest.length < n := by
        have positive := List.length_pos_iff.2 isField.1
        rw [hcore] at hlength
        simp only [List.length_append] at hlength
        omega
      rw [hcore, fields_append isField blank, ← List.append_assoc]
      exact .cons hgap isField blank (ih rest.length shorter rest rfl)

/-- A text has one list of fields. -/
theorem fields_eq_iff {text : List Char} {found : List (List Char)} :
    fields text = found ↔ HasFields text found := by
  constructor
  · rintro rfl
    exact hasFields_fields text
  · exact HasFields.fields_eq

lemma HasFields.isField {text : List Char} {found : List (List Char)} (h : HasFields text found) :
    ∀ field ∈ found, IsField field := by
  induction h with
  | nil => nofun
  | cons _ hfield _ _ ih => exact List.forall_mem_cons.2 ⟨hfield, ih⟩

end PullTriage.Text
