import PullTriage.Proofs.Label.RuleErrors

/-!
# Making a rule, and applying it

A rule is made from a pattern and labels, and `Makes` lists the ways in which that ends.  The
pattern is looked at first, then whether there is a label, then the labels in their order; exactly
one of the ways is open for a pattern and a list of labels (`ofPattern_eq_iff`).

What is checked there is what rendering relies on.  The check goes by the highest reference of each
label and by the number of groups of the pattern, and rendering by the groups of a match, where the
match as a whole is a group too.  So a reference that a rule leaves as it is written is to a group
that the pattern has and that took no part in the match, also if the rule was given an exclusion
afterwards: `ofPattern_checked`.

Whether a pattern is valid is decided by `Regex.compile`, which knows no limits.  A compiler that
refuses groups nested deeper than 250 levels, or expressions of more than ten megabytes, has more
invalid patterns; of those that it compiles all of this holds.
-/

namespace PullTriage

/-! ## Groups of a match -/

/-- The whole match always has a text, and another group has none if it took no part. -/
lemma Regex.Match.group_eq_none_iff {found : Regex.Match} {n : Nat} :
    found.group n = none ↔ n ≠ 0 ∧ ∀ capture ∈ found.captures, capture.1 ≠ n := by
  unfold Regex.Match.group
  by_cases hn : n = 0
  · simp [hn]
  · rw [if_neg hn]
    cases hfind : found.captures.find? fun c => c.1 == n with
    | none =>
      have absent := List.find?_eq_none.1 hfind
      simpa [hn] using absent
    | some capture =>
      have hmem := List.mem_of_find?_eq_some hfind
      have hnumber := List.find?_some hfind
      refine ⟨nofun, fun h => absurd ?_ (h.2 capture hmem)⟩
      simpa using hnumber

namespace LabelRule

/-! ## The ways in which making a rule ends -/

/-- The ways in which making a rule from a pattern and labels ends. -/
inductive Makes (pattern : String) (labels : List String) : Except RuleError LabelRule → Prop where
  | rule {regex : Regex} : Regex.compile pattern = some regex → labels ≠ [] →
      (∀ label ∈ labels, ∀ n, Refers label n → n ≤ regex.groupCount) →
      Makes pattern labels (.ok ⟨regex, none, labels.map LabelTemplate.parse⟩)
  | invalidPattern : Regex.compile pattern = none →
      Makes pattern labels (.error (.invalidPattern pattern (Regex.complaint pattern)))
  | noLabels {regex : Regex} : Regex.compile pattern = some regex → labels = [] →
      Makes pattern labels (.error (.noLabels pattern))
  /-- The first label with a reference too far, by its highest reference. -/
  | missingGroup {regex : Regex} {before : List String} {label : String} {after : List String}
      {n : Nat} : Regex.compile pattern = some regex → labels = before ++ label :: after →
      (∀ other ∈ before, ∀ m, Refers other m → m ≤ regex.groupCount) →
      Refers label n → (∀ m, Refers label m → m ≤ n) → regex.groupCount < n →
      Makes pattern labels (.error (.missingGroup label n pattern regex.groupCount))

lemma pattern_of_compile {pattern : String} {regex : Regex}
    (h : Regex.compile pattern = some regex) : regex.pattern = pattern := by
  obtain ⟨node, -, rfl⟩ := Option.map_eq_some_iff.1 h
  rfl

lemma ofPattern_of_invalid {pattern : String} (h : Regex.compile pattern = none)
    (labels : List String) : ofPattern pattern labels =
      .error (.invalidPattern pattern (Regex.complaint pattern)) := by
  rw [ofPattern, compilePattern, h]
  rfl

lemma makes_ofPattern (pattern : String) (labels : List String) :
    Makes pattern labels (ofPattern pattern labels) := by
  cases hregex : Regex.compile pattern with
  | none =>
    rw [ofPattern_of_invalid hregex]
    exact .invalidPattern hregex
  | some regex =>
    cases hmade : ofPattern pattern labels with
    | ok rule =>
      obtain ⟨⟨hne, hwithin⟩, rfl⟩ := (ofPattern_eq_ok_iff hregex).1 hmade
      exact .rule hregex hne fun label hlabel => refersWithin_iff.1 (hwithin label hlabel)
    | error e =>
      rcases (ofPattern_eq_error_iff hregex labels e).1 hmade with
        ⟨hnil, rfl⟩ | ⟨before, label, after, hlabels, hbefore, n, hmax, hbeyond, rfl⟩
      · exact .noLabels hregex hnil
      · obtain ⟨hrefers, hhighest⟩ := maxGroup?_eq_some_iff.1 hmax
        rw [pattern_of_compile hregex]
        exact .missingGroup hregex hlabels
          (fun other hother => refersWithin_iff.1 (hbefore other hother)) hrefers hhighest hbeyond

lemma Makes.ofPattern_eq {pattern : String} {labels : List String}
    {outcome : Except RuleError LabelRule} (h : Makes pattern labels outcome) :
    ofPattern pattern labels = outcome := by
  cases h with
  | rule hregex hne hwithin =>
    exact (ofPattern_eq_ok_iff hregex).2
      ⟨⟨hne, fun label hlabel => refersWithin_iff.2 (hwithin label hlabel)⟩, rfl⟩
  | invalidPattern hregex => exact ofPattern_of_invalid hregex labels
  | noLabels hregex hnil => exact (ofPattern_eq_error_iff hregex labels _).2 (.inl ⟨hnil, rfl⟩)
  | @missingGroup regex before label after n hregex hlabels hbefore hrefers hhighest hbeyond =>
    have beyond : RefersBeyond regex label (.missingGroup label n pattern regex.groupCount) :=
      ⟨n, maxGroup?_eq_some_iff.2 ⟨hrefers, hhighest⟩, hbeyond,
        by rw [pattern_of_compile hregex]⟩
    exact (ofPattern_eq_error_iff hregex labels _).2 (.inr ⟨before, label, after, hlabels,
      fun other hother => refersWithin_iff.2 (hbefore other hother), beyond⟩)

/-- Making a rule ends in one way. -/
lemma ofPattern_eq_iff {pattern : String} {labels : List String}
    {outcome : Except RuleError LabelRule} :
    ofPattern pattern labels = outcome ↔ Makes pattern labels outcome := by
  constructor
  · rintro rfl
    exact makes_ofPattern pattern labels
  · exact Makes.ofPattern_eq

/-! ## Rules that were made -/

/-- The rules that are made with these labels, from a pattern or a glob, and with exclusions given
to them afterwards. -/
inductive IsMade (labels : List String) : LabelRule → Prop where
  | ofPattern {pattern : String} {rule : LabelRule} :
    ofPattern pattern labels = .ok rule → IsMade labels rule
  | ofGlob {glob : String} {rule : LabelRule} : ofGlob glob labels = .ok rule → IsMade labels rule
  | excluding {rule narrowed : LabelRule} {exclude : String} :
    IsMade labels rule → rule.excluding exclude = .ok narrowed → IsMade labels narrowed

variable {labels : List String} {rule : LabelRule}

lemma excluding_eq_ok {narrowed : LabelRule} {exclude : String}
    (h : rule.excluding exclude = .ok narrowed) :
    narrowed.pattern = rule.pattern ∧ narrowed.labels = rule.labels := by
  obtain ⟨regex, -, hnarrowed⟩ := Except.bind_eq_ok_iff.1 h
  obtain rfl := Except.ok.inj hnarrowed
  exact ⟨rfl, rfl⟩

/-- The labels of a rule are its templates, and none of them refers beyond the groups. -/
structure Carries (rule : LabelRule) (labels : List String) : Prop where
  labels_eq : rule.labels = labels.map LabelTemplate.parse
  within : ∀ label ∈ labels, ∀ n, Refers label n → n ≤ rule.pattern.groupCount

lemma carries_of_ofPattern {pattern : String} (h : ofPattern pattern labels = .ok rule) :
    rule.Carries labels := by
  cases ofPattern_eq_iff.1 h with
  | rule _ _ hwithin => exact ⟨rfl, hwithin⟩

lemma IsMade.carries (h : IsMade labels rule) : rule.Carries labels := by
  induction h with
  | ofPattern hmade => exact carries_of_ofPattern hmade
  | ofGlob hmade => exact carries_of_ofPattern hmade
  | excluding _ hexcluding ih =>
    obtain ⟨hpattern, hlabels⟩ := excluding_eq_ok hexcluding
    refine ⟨hlabels.trans ih.labels_eq, ?_⟩
    rw [hpattern]
    exact ih.within

/-- The reference is replaced, or it is to a group of the pattern that took no part in the match. -/
def Accounts (rule : LabelRule) (found : Regex.Match) (n : Nat) (digits : String) : Prop :=
  (∃ text, found.group n = some text ∧
      LabelTemplate.Segment.render found (.group n digits) = text) ∨
    (1 ≤ n ∧ n ≤ rule.pattern.groupCount ∧ (∀ capture ∈ found.captures, capture.1 ≠ n) ∧
      LabelTemplate.Segment.render found (.group n digits) = "$" ++ digits)

lemma Carries.accounts (h : rule.Carries labels) {label : String} (hlabel : label ∈ labels)
    {n : Nat} {digits : String} (hrefers : .group n digits ∈ (LabelTemplate.parse label).segments)
    (found : Regex.Match) : rule.Accounts found n digits := by
  have within := h.within label hlabel n ⟨digits, hrefers⟩
  cases hgroup : found.group n with
  | some text =>
    refine .inl ⟨text, hgroup, ?_⟩
    simp [LabelTemplate.Segment.render, hgroup]
  | none =>
    obtain ⟨hn, habsent⟩ := Regex.Match.group_eq_none_iff.1 hgroup
    refine .inr ⟨Nat.one_le_iff_ne_zero.2 hn, within, habsent, ?_⟩
    simp [LabelTemplate.Segment.render, hgroup]

/-- Making a rule ends in one of four ways, tried in this order: the pattern is invalid, there is no
label, a label refers beyond the groups of the pattern, or there is a rule.  Where a rule so made
fires, it gives one label for each of its templates, in order, and a reference in them stays as it is
written only if it is to a group that the pattern has and that took no part in the match. -/
theorem ofPattern_checked (pattern : String) (labels : List String) :
    (∀ outcome, ofPattern pattern labels = outcome ↔ Makes pattern labels outcome) ∧
      ∀ rule, IsMade labels rule → ∀ path found, rule.fires? path = some found →
        rule.pattern.search path = some found ∧
        rule.labelsFor? path =
          some (labels.map fun label => (LabelTemplate.parse label).render found) ∧
        ∀ label ∈ labels, ∀ n digits, .group n digits ∈ (LabelTemplate.parse label).segments →
          rule.Accounts found n digits := by
  refine ⟨fun outcome => ofPattern_eq_iff, fun rule hmade path found hfires => ⟨?_, ?_, ?_⟩⟩
  · unfold fires? at hfires
    split at hfires
    · cases hfires
    · exact hfires
  · rw [labelsFor?, hfires, Option.map_some, hmade.carries.labels_eq, List.map_map]
    rfl
  · intro label hlabel n digits hrefers
    exact hmade.carries.accounts hlabel hrefers found

/-- An optional letter, and a label that names it. -/
def optionalLetter : LabelRule :=
  ⟨⟨"^(a)?b$", .cat (.leaf (.look .textStart))
      (.cat (.alt (.group 1 (.leaf (.one (.codes [(97, 97)])))) .empty)
        (.cat (.leaf (.one (.codes [(98, 98)]))) (.leaf (.look .textEnd))))⟩,
    none, ["[$1]", "$0"].map LabelTemplate.parse⟩

/-- Where the letter is missing its group takes no part, and the label keeps the reference. -/
theorem ofPattern_checked_optionalLetter :
    Makes "^(a)?b$" ["[$1]", "$0"] (.ok optionalLetter) ∧
      IsMade ["[$1]", "$0"] optionalLetter ∧
      optionalLetter.fires? "b" = some ⟨['b'], 0, 1, []⟩ ∧
      optionalLetter.labelsFor? "b" = some ["[$1]", "b"] ∧
      optionalLetter.Accounts ⟨['b'], 0, 1, []⟩ 1 "1" := by
  have made : ofPattern "^(a)?b$" ["[$1]", "$0"] = .ok optionalLetter := by decide +kernel
  have fires : optionalLetter.fires? "b" = some ⟨['b'], 0, 1, []⟩ := by rfl
  obtain ⟨hmakes, hgives⟩ := ofPattern_checked "^(a)?b$" ["[$1]", "$0"]
  obtain ⟨-, hlabels, haccounts⟩ := hgives optionalLetter (.ofPattern made) "b" _ fires
  refine ⟨(hmakes _).1 made, .ofPattern made, fires, ?_, ?_⟩
  · rw [hlabels]
    decide +kernel
  · exact haccounts "[$1]" (by simp) 1 "1" (by decide +kernel)

end LabelRule

end PullTriage
