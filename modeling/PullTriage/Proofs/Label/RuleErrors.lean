import PullTriage.Proofs.Except
import PullTriage.Proofs.Glob.Groups
import PullTriage.Proofs.Label.GlobRule

/-!
# When a rule cannot be made

A rule is made from a pattern and labels.  If the pattern is an expression, there are two ways to
fail: there is no label, or a label refers to a group that the pattern does not have, and then the
first such label is named, with the highest group that it refers to (`ofPattern_eq_error_iff`).

The pattern of a glob always is an expression, and its groups are those of the wildcards, so what is
left to fail can be read off the glob and the labels: `ofGlob_fails_iff`.
-/

namespace PullTriage

/-! ## References -/

/-- The label refers to the group with this number. -/
def Refers (label : String) (n : Nat) : Prop :=
  ∃ digits, .group n digits ∈ (LabelTemplate.parse label).segments

lemma refers_iff_mem {label : String} {n : Nat} :
    Refers label n ↔
      n ∈ (LabelTemplate.parse label).segments.filterMap LabelTemplate.Segment.index? := by
  rw [List.mem_filterMap]
  constructor
  · rintro ⟨digits, hmem⟩
    exact ⟨_, hmem, rfl⟩
  · rintro ⟨segment, hmem, hindex⟩
    cases segment with
    | literal text => cases hindex
    | group index digits =>
      cases hindex
      exact ⟨digits, hmem⟩

lemma maxGroup?_eq_some_iff {label : String} {n : Nat} :
    (LabelTemplate.parse label).maxGroup? = some n ↔
      Refers label n ∧ ∀ m, Refers label m → m ≤ n := by
  simp only [refers_iff_mem]
  exact List.max?_eq_some_iff

lemma refersWithin_iff {label : String} {count : Nat} :
    RefersWithin label count ↔ ∀ n, Refers label n → n ≤ count := by
  constructor
  · intro h n hn
    cases hmax : (LabelTemplate.parse label).maxGroup? with
    | none =>
      rw [refers_iff_mem, List.max?_eq_none_iff.1 hmax] at hn
      cases hn
    | some highest => exact ((maxGroup?_eq_some_iff.1 hmax).2 n hn).trans (h highest hmax)
  · intro h n hn
    exact h n (maxGroup?_eq_some_iff.1 hn).1

namespace LabelRule

/-! ## Errors -/

/-- The label refers beyond the groups of a pattern, and this is the error that says so. -/
def RefersBeyond (pattern : Regex) (label : String) (e : RuleError) : Prop :=
  ∃ n, (LabelTemplate.parse label).maxGroup? = some n ∧ pattern.groupCount < n ∧
    e = .missingGroup label n pattern.pattern pattern.groupCount

lemma checkedTemplate_eq_error_iff {pattern : Regex} {label : String} {e : RuleError} :
    checkedTemplate pattern label = .error e ↔ RefersBeyond pattern label e := by
  rw [checkedTemplate, RefersBeyond]
  cases (LabelTemplate.parse label).maxGroup? with
  | none => simp
  | some n =>
    by_cases h : pattern.groupCount < n
    · simp [h, eq_comm]
    · simp [h]

lemma exists_checkedTemplate_eq_ok_iff {pattern : Regex} {label : String} :
    (∃ template, checkedTemplate pattern label = .ok template) ↔
      RefersWithin label pattern.groupCount := by
  simp only [checkedTemplate_eq_ok_iff]
  exact ⟨fun ⟨_, h, _⟩ => h, fun h => ⟨_, h, rfl⟩⟩

/-- A pattern that compiles makes no rule if there is no label, or else if a label refers beyond its
groups, and the first such label is the one that is named. -/
theorem ofPattern_eq_error_iff {pattern : String} {regex : Regex}
    (hregex : Regex.compile pattern = some regex) (labels : List String) (e : RuleError) :
    ofPattern pattern labels = .error e ↔
      labels = [] ∧ e = .noLabels pattern ∨
        ∃ before label after, labels = before ++ label :: after ∧
          (∀ other ∈ before, RefersWithin other regex.groupCount) ∧
          RefersBeyond regex label e := by
  have first : labels.mapM (checkedTemplate regex) = .error e ↔
      ∃ before label after, labels = before ++ label :: after ∧
        (∀ other ∈ before, RefersWithin other regex.groupCount) ∧ RefersBeyond regex label e := by
    rw [Except.mapM_eq_error_iff, Except.FirstFails]
    simp only [exists_checkedTemplate_eq_ok_iff, checkedTemplate_eq_error_iff]
  rw [← first, ofPattern, compilePattern, hregex]
  cases labels with
  | nil =>
    constructor
    · intro h
      exact .inl ⟨rfl, (Except.error.inj h).symm⟩
    · rintro (⟨-, rfl⟩ | h)
      · rfl
      · cases h
  | cons label labels =>
    change ((label :: labels).mapM (checkedTemplate regex) >>= fun templates =>
      Except.ok (LabelRule.mk regex none templates)) = .error e ↔ _
    rw [Except.bind_eq_error_iff]
    constructor
    · rintro (h | ⟨templates, -, h⟩)
      · exact .inr h
      · cases h
    · rintro (⟨h, -⟩ | h)
      · cases h
      · exact .inl h

/-! ## Rules from globs -/

/-- The pattern is an expression, and it has this many groups, numbered from one in order. -/
def CompilesWith (pattern : String) (count : Nat) : Prop :=
  ∃ regex, Regex.compile pattern = some regex ∧ regex.groupCount = count ∧
    regex.node.groupNumbers = List.range' 1 count

lemma compilesWith_of_node {pattern : String} {ts : List Glob.Token}
    (h : Regex.compile pattern = some ⟨pattern, Glob.node ts⟩) :
    CompilesWith pattern (Glob.groupTotal ts) :=
  ⟨_, h, Glob.groupCount_node ts, Glob.groupNumbers_node ts⟩

lemma compilesWith_translate (glob : String) :
    CompilesWith (Glob.translate glob) (Glob.groupTotal (Glob.tokens glob.toList)) := by
  rw [← Glob.groupTotal_rooted]
  exact compilesWith_of_node (Glob.compile_translate glob)

lemma compilesWith_translateRelative (glob : String) :
    CompilesWith (Glob.translateRelative glob) (Glob.groupTotal (Glob.tokens glob.toList)) := by
  rw [← Glob.groupTotal_relative]
  exact compilesWith_of_node (Glob.compile_translateRelative glob)

/-- Every glob compiles, from the root and relative to it, and each time the groups are those of
its wildcards.  So a rule of the glob can fail to be made in two ways only: there is no label, or
some label refers beyond these groups. -/
theorem ofGlob_fails_iff (glob : String) :
    ∃ ts, Glob.Tokenizes glob.toList ts ∧
      CompilesWith (Glob.translate glob) (Glob.groupTotal ts) ∧
      CompilesWith (Glob.translateRelative glob) (Glob.groupTotal ts) ∧
      Regex.compile (Glob.translate glob) = some (PathPattern.compile glob).regex ∧
      ∀ labels,
        (∀ pattern complaint, ofGlob glob labels ≠ .error (.invalidPattern pattern complaint)) ∧
        ((∃ pattern, ofGlob glob labels = .error (.noLabels pattern)) ↔ labels = []) ∧
        ((∃ label n pattern available,
            ofGlob glob labels = .error (.missingGroup label n pattern available)) ↔
          ∃ label ∈ labels, ∃ n, Refers label n ∧ Glob.groupTotal ts < n) := by
  have made := compilesWith_translateRelative glob
  refine ⟨_, Glob.tokenizes_iff.2 rfl, compilesWith_translate glob, made, ?_, fun labels => ?_⟩
  · rw [PathPattern.regex_compile, Glob.compile_translate]
  obtain ⟨regex, hregex, hcount, -⟩ := made
  have fails {e : RuleError} := ofPattern_eq_error_iff hregex labels e
  rw [← hcount]
  refine ⟨fun pattern complaint h => ?_, ⟨?_, ?_⟩, ?_, ?_⟩
  · rcases fails.1 h with ⟨-, h⟩ | ⟨_, _, _, -, -, _, -, -, h⟩ <;> cases h
  · rintro ⟨pattern, h⟩
    rcases fails.1 h with ⟨h, -⟩ | ⟨_, _, _, -, -, _, -, -, h⟩
    · exact h
    · cases h
  · intro h
    exact ⟨_, fails.2 (.inl ⟨h, rfl⟩)⟩
  · rintro ⟨_, _, _, _, h⟩
    rcases fails.1 h with ⟨-, h⟩ | ⟨before, label, after, rfl, -, n, hn, hbeyond, -⟩
    · cases h
    · exact ⟨label, by simp, n, (maxGroup?_eq_some_iff.1 hn).1, hbeyond⟩
  · rintro ⟨label, hlabel, n, hrefers, hbeyond⟩
    cases h : ofGlob glob labels with
    | ok rule =>
      have within := ((ofPattern_eq_ok_iff hregex).1 h).1.2 label hlabel
      exact absurd (refersWithin_iff.1 within n hrefers) (Nat.not_le.2 hbeyond)
    | error e =>
      rcases fails.1 h with ⟨hnil, -⟩ | ⟨_, _, _, -, -, _, -, -, rfl⟩
      · rw [hnil] at hlabel
        cases hlabel
      · exact ⟨_, _, _, _, rfl⟩

end LabelRule

end PullTriage
