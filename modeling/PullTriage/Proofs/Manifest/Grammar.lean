import PullTriage.Manifest
import PullTriage.Proofs.Text.Fields
import PullTriage.Proofs.Text.Lines

/-!
# The grammar of manifests

A line of a manifest is trimmed first.  Then it is empty, a comment, or two fields, and a line that
is none of these is malformed (`IsWellFormed`).  The rules are those of the lines with two fields,
in order and under the numbers of their lines (`Lists`).

Reading goes through the lines from the front, so a manifest is read if no line is malformed, and
else the first malformed line is reported: `parse_reads_lines`.  One step of it is one line
(`rulesFrom_cons`), and the number of the line goes along.
-/

namespace PullTriage

namespace Manifest

open Text

/-! ## Lines of a manifest -/

/-- A line that does not count: an empty one or a comment. -/
def IsSkipped (line : List Char) : Prop :=
  line = [] ∨ ∃ comment, line = '#' :: comment

/-- Without the white space at its ends, the line is empty, a comment, or a glob and an owner. -/
def IsWellFormed (raw : List Char) : Prop :=
  ∃ line, TrimsTo raw line ∧ (IsSkipped line ∨ ∃ glob owner, HasFields line [glob, owner])

/-- The rules on some lines, the first of which has this number. -/
inductive Lists : Nat → List (List Char) → List OwnershipRule → Prop where
  | nil {number : Nat} : Lists number [] []
  | skipped {number : Nat} {raw line : List Char} {lines : List (List Char)}
      {rules : List OwnershipRule} :
    TrimsTo raw line → IsSkipped line → Lists (number + 1) lines rules →
      Lists number (raw :: lines) rules
  | rule {number : Nat} {raw line glob owner : List Char} {lines : List (List Char)}
      {rules : List OwnershipRule} :
    TrimsTo raw line → ¬ IsSkipped line → HasFields line [glob, owner] →
      Lists (number + 1) lines rules →
      Lists number (raw :: lines)
        (⟨PathPattern.compile (String.ofList glob), String.ofList owner, number⟩ :: rules)

lemma skips_iff {line : List Char} :
    (line.isEmpty || line.head? == some '#') = true ↔ IsSkipped line := by
  cases line <;> simp [IsSkipped]

lemma ruleOfLine_of_skipped {raw : List Char} (h : IsSkipped (trim raw)) (number : Nat) :
    ruleOfLine number raw = .ok none := by
  unfold ruleOfLine
  exact if_pos (skips_iff.2 h)

lemma ruleOfLine_of_fields {raw glob owner : List Char} (h : ¬ IsSkipped (trim raw))
    (hfields : HasFields (trim raw) [glob, owner]) (number : Nat) :
    ruleOfLine number raw =
      .ok (some ⟨PathPattern.compile (String.ofList glob), String.ofList owner, number⟩) := by
  unfold ruleOfLine
  dsimp only
  rw [if_neg (mt skips_iff.1 h), fields_eq_iff.2 hfields]

lemma ruleOfLine_of_malformed {raw : List Char} (h : ¬ IsWellFormed raw) (number : Nat) :
    ruleOfLine number raw = .error (.malformedLine number (String.ofList (trim raw))) := by
  have counts : ¬ IsSkipped (trim raw) := fun hskipped =>
    h ⟨_, trimsTo_trim raw, .inl hskipped⟩
  unfold ruleOfLine
  dsimp only
  rw [if_neg (mt skips_iff.1 counts)]
  split
  · rename_i glob owner hfields
    exact absurd ⟨_, trimsTo_trim raw, .inr ⟨glob, owner, fields_eq_iff.1 hfields⟩⟩ h
  · rfl

/-- A well-formed line is skipped, or has two fields. -/
lemma IsWellFormed.skipped_or_fields {raw : List Char} (h : IsWellFormed raw) :
    IsSkipped (trim raw) ∨
      ¬ IsSkipped (trim raw) ∧ ∃ glob owner, HasFields (trim raw) [glob, owner] := by
  obtain ⟨line, htrim, hline⟩ := h
  obtain rfl := trim_eq_iff.2 htrim
  by_cases hskipped : IsSkipped (trim raw)
  · exact .inl hskipped
  · exact .inr ⟨hskipped, hline.resolve_left hskipped⟩

/-- Only the line without the white space at its ends counts. -/
lemma ruleOfLine_congr {raw other : List Char} (h : trim raw = trim other) (number : Nat) :
    ruleOfLine number raw = ruleOfLine number other := by
  unfold ruleOfLine
  rw [h]

/-! ## Reading line by line -/

/-- The rules on some lines, or the error of the first malformed one. -/
def rulesFrom (number : Nat) (lines : List (List Char)) : Except ManifestError (List OwnershipRule) :=
  ((lines.zipIdx number).mapM fun line => ruleOfLine line.2 line.1).map (List.filterMap id)

lemma parse_eq (text : String) :
    parse text = (rulesFrom 1 (lines text.toList)).map Manifest.mk := by
  have shape : parse text =
      (((lines text.toList).zipIdx 1).mapM fun line => ruleOfLine line.2 line.1) >>= fun items =>
        .ok ⟨items.filterMap id⟩ := rfl
  rw [shape, rulesFrom]
  cases ((lines text.toList).zipIdx 1).mapM fun line => ruleOfLine line.2 line.1 with
  | error e => rfl
  | ok items => rfl

/-- One line is read, and then the others, under the next number. -/
lemma rulesFrom_cons (number : Nat) (raw : List Char) (lines : List (List Char)) :
    rulesFrom number (raw :: lines) =
      (ruleOfLine number raw).bind fun item =>
        (rulesFrom (number + 1) lines).map (item.toList ++ ·) := by
  rw [rulesFrom, rulesFrom, List.zipIdx_cons, List.mapM_cons]
  dsimp only
  cases ruleOfLine number raw with
  | error e => rfl
  | ok item =>
    cases (lines.zipIdx (number + 1)).mapM fun line => ruleOfLine line.2 line.1 with
    | error e => rfl
    | ok items => cases item <;> rfl

/-- The pieces between line feeds are read as the lines of the text. -/
lemma rulesFrom_of_hasLines {text : List Char} {found : List (List Char)} (h : HasLines text found)
    (number : Nat) : rulesFrom number (lines text) = rulesFrom number found := by
  induction h generalizing number with
  | nil =>
    change rulesFrom number [[]] = _
    rw [rulesFrom_cons, ruleOfLine_of_skipped (.inl rfl)]
    rfl
  | unended _ hfree => rw [lines_of_free hfree]
  | lineFeed hfree _ _ ih => rw [lines_append_cons hfree, rulesFrom_cons, rulesFrom_cons, ih]
  | @carriageReturn line rest found hfree _ ih =>
    have blank : Unicode.isBlank '\r' = true := by decide
    rw [lines_append_return_cons hfree, rulesFrom_cons, rulesFrom_cons, ih,
      ruleOfLine_congr (trim_append_blank blank line)]

lemma Lists.rulesFrom_eq {number : Nat} {lines : List (List Char)} {rules : List OwnershipRule}
    (h : Lists number lines rules) : rulesFrom number lines = .ok rules := by
  induction h with
  | nil => rfl
  | skipped htrim hskipped _ ih =>
    obtain rfl := trim_eq_iff.2 htrim
    rw [rulesFrom_cons, ruleOfLine_of_skipped hskipped, ih]
    rfl
  | rule htrim hcounts hfields _ ih =>
    obtain rfl := trim_eq_iff.2 htrim
    rw [rulesFrom_cons, ruleOfLine_of_fields hcounts hfields, ih]
    rfl

lemma exists_lists_of_wellFormed {lines : List (List Char)} (h : ∀ raw ∈ lines, IsWellFormed raw)
    (number : Nat) : ∃ rules, Lists number lines rules := by
  induction lines generalizing number with
  | nil => exact ⟨[], .nil⟩
  | cons raw lines ih =>
    obtain ⟨hraw, hlines⟩ := List.forall_mem_cons.1 h
    obtain ⟨rules, hrules⟩ := ih hlines (number + 1)
    rcases hraw.skipped_or_fields with hskipped | ⟨hcounts, glob, owner, hfields⟩
    · exact ⟨rules, .skipped (trimsTo_trim raw) hskipped hrules⟩
    · exact ⟨_, .rule (trimsTo_trim raw) hcounts hfields hrules⟩

lemma Lists.wellFormed {number : Nat} {lines : List (List Char)} {rules : List OwnershipRule}
    (h : Lists number lines rules) : ∀ raw ∈ lines, IsWellFormed raw := by
  induction h with
  | nil => nofun
  | skipped htrim hskipped _ ih => exact List.forall_mem_cons.2 ⟨⟨_, htrim, .inl hskipped⟩, ih⟩
  | rule htrim _ hfields _ ih =>
    exact List.forall_mem_cons.2 ⟨⟨_, htrim, .inr ⟨_, _, hfields⟩⟩, ih⟩

lemma Lists.isField {number : Nat} {lines : List (List Char)} {rules : List OwnershipRule}
    (h : Lists number lines rules) :
    ∀ rule ∈ rules, IsField rule.pattern.glob.toList ∧ IsField rule.owner.toList := by
  induction h with
  | nil => nofun
  | skipped _ _ _ ih => exact ih
  | @rule number raw line glob owner lines rules _ _ hfields _ ih =>
    have isField := hfields.isField
    refine List.forall_mem_cons.2 ⟨⟨?_, ?_⟩, ih⟩
    · rw [PathPattern.compile, String.toList_ofList]
      exact isField glob (by simp)
    · rw [String.toList_ofList]
      exact isField owner (by simp)

/-- The first malformed line is reported, with its number, whatever stands behind it. -/
lemma rulesFrom_of_malformed {before after : List (List Char)} {raw : List Char}
    (hbefore : ∀ other ∈ before, IsWellFormed other) (hraw : ¬ IsWellFormed raw) (number : Nat) :
    rulesFrom number (before ++ raw :: after) =
      .error (.malformedLine (number + before.length) (String.ofList (trim raw))) := by
  induction before generalizing number with
  | nil =>
    rw [List.nil_append, rulesFrom_cons, ruleOfLine_of_malformed hraw]
    rfl
  | cons first before ih =>
    obtain ⟨hfirst, hbefore⟩ := List.forall_mem_cons.1 hbefore
    have count : number + 1 + before.length = number + (first :: before).length := by
      rw [List.length_cons]
      omega
    rw [List.cons_append, rulesFrom_cons, ih hbefore, count]
    rcases hfirst.skipped_or_fields with hskipped | ⟨hcounts, glob, owner, hfields⟩
    · rw [ruleOfLine_of_skipped hskipped]
      rfl
    · rw [ruleOfLine_of_fields hcounts hfields]
      rfl

/-- Lines are all well-formed, or there is a first one that is not. -/
lemma wellFormed_or_exists_first (lines : List (List Char)) :
    (∀ raw ∈ lines, IsWellFormed raw) ∨ ∃ before raw after, lines = before ++ raw :: after ∧
      (∀ other ∈ before, IsWellFormed other) ∧ ¬ IsWellFormed raw := by
  induction lines with
  | nil => exact .inl nofun
  | cons first lines ih =>
    by_cases hfirst : IsWellFormed first
    · rcases ih with hlines | ⟨before, raw, after, rfl, hbefore, hraw⟩
      · exact .inl (List.forall_mem_cons.2 ⟨hfirst, hlines⟩)
      · exact .inr ⟨first :: before, raw, after, rfl, List.forall_mem_cons.2 ⟨hfirst, hbefore⟩, hraw⟩
    · exact .inr ⟨[], first, lines, rfl, nofun, hfirst⟩

lemma parse_eq_ok_iff {text : String} {found : List (List Char)}
    (h : HasLines text.toList found) {manifest : Manifest} :
    parse text = .ok manifest ↔ Lists 1 found manifest.rules := by
  rw [parse_eq, rulesFrom_of_hasLines h]
  constructor
  · intro hread
    rcases wellFormed_or_exists_first found with hfound | ⟨before, raw, after, rfl, hbefore, hraw⟩
    · obtain ⟨rules, hrules⟩ := exists_lists_of_wellFormed hfound 1
      rw [hrules.rulesFrom_eq] at hread
      cases hread
      exact hrules
    · rw [rulesFrom_of_malformed hbefore hraw] at hread
      cases hread
  · intro hrules
    rw [hrules.rulesFrom_eq]
    rfl

lemma parse_eq_error_iff {text : String} {found : List (List Char)}
    (h : HasLines text.toList found) {e : ManifestError} :
    parse text = .error e ↔
      ∃ before raw after content, found = before ++ raw :: after ∧
        (∀ other ∈ before, IsWellFormed other) ∧ ¬ IsWellFormed raw ∧ TrimsTo raw content ∧
        e = .malformedLine (before.length + 1) (String.ofList content) := by
  rw [parse_eq, rulesFrom_of_hasLines h]
  constructor
  · intro hread
    rcases wellFormed_or_exists_first found with hfound | ⟨before, raw, after, rfl, hbefore, hraw⟩
    · obtain ⟨rules, hrules⟩ := exists_lists_of_wellFormed hfound 1
      rw [hrules.rulesFrom_eq] at hread
      cases hread
    · rw [rulesFrom_of_malformed hbefore hraw] at hread
      cases hread
      refine ⟨before, raw, after, trim raw, rfl, hbefore, hraw, trimsTo_trim raw, ?_⟩
      rw [Nat.add_comm]
  · rintro ⟨before, raw, after, content, rfl, hbefore, hraw, htrim, rfl⟩
    obtain rfl := trim_eq_iff.2 htrim
    rw [rulesFrom_of_malformed hbefore hraw, Nat.add_comm]
    rfl

/-- A manifest is read by its lines.  It is accepted if each line is well-formed, and then its rules
are those that the lines list, each with the number of its line, and glob and owner are fields.
Otherwise the error names the first line that is malformed, and its trimmed text. -/
theorem parse_reads_lines (text : String) :
    ∃ lines, (∀ found, Text.HasLines text.toList found ↔ found = lines) ∧
      ((∃ manifest, parse text = .ok manifest) ↔ ∀ raw ∈ lines, IsWellFormed raw) ∧
      (∀ manifest, parse text = .ok manifest ↔ Lists 1 lines manifest.rules) ∧
      (∀ manifest, parse text = .ok manifest → ∀ rule ∈ manifest.rules,
        Text.IsField rule.pattern.glob.toList ∧ Text.IsField rule.owner.toList) ∧
      ∀ e, parse text = .error e ↔
        ∃ before raw after content, lines = before ++ raw :: after ∧
          (∀ other ∈ before, IsWellFormed other) ∧ ¬ IsWellFormed raw ∧
          Text.TrimsTo raw content ∧
          e = .malformedLine (before.length + 1) (String.ofList content) := by
  have holds : HasLines text.toList (linesOfPieces (lines text.toList)) := hasLines_iff.2 rfl
  refine ⟨_, fun found => hasLines_iff, ⟨?_, ?_⟩, fun manifest => parse_eq_ok_iff holds, ?_,
    fun e => parse_eq_error_iff holds⟩
  · rintro ⟨manifest, hmanifest⟩
    exact ((parse_eq_ok_iff holds).1 hmanifest).wellFormed
  · intro hlines
    obtain ⟨rules, hrules⟩ := exists_lists_of_wellFormed hlines 1
    exact ⟨⟨rules⟩, (parse_eq_ok_iff holds).2 hrules⟩
  · intro manifest hmanifest
    exact ((parse_eq_ok_iff holds).1 hmanifest).isField

end Manifest

end PullTriage
