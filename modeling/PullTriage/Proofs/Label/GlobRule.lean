import PullTriage.Label.Rule
import PullTriage.Proofs.Except
import PullTriage.Proofs.Glob.Pieces

/-!
# Rules from globs

An ownership pattern and a label rule that are made from one glob agree on every path:
`ofGlob_agrees`.  The pattern puts a slash in front of the glob and of the path, the rule takes
it away from both, so the rule searches the rest of the text for the rest of the expression.

The glob without its slash has the same tokens but one (`tokens_rooted`), a literal has no group,
and the expression of the other tokens has no condition on positions.  Hence the ways through it
are the same ways, one position later (`search_node_literal_cons`), the preferred one among them,
and the text of a group does not depend on where the text begins (`groups_shift`).
-/

namespace PullTriage

namespace Regex

/-! ## Groups of a shifted match -/

/-- The match, where the text has one character more in front. -/
def Match.shift (c : Char) (m : Match) : Match :=
  ⟨c :: m.text, m.start, m.stop + 1, m.captures.map fun g => (g.1, g.2.1 + 1, g.2.2 + 1)⟩

lemma group_shift (c : Char) (m : Match) (index : Nat) :
    (m.shift c).group (index + 1) = m.group (index + 1) := by
  have hfind : (m.shift c).captures.find? (fun g => g.1 == index + 1) =
      (m.captures.find? fun g => g.1 == index + 1).map fun g => (g.1, g.2.1 + 1, g.2.2 + 1) := by
    rw [Match.shift, List.find?_map]
    rfl
  rw [Match.group, Match.group, if_neg (Nat.succ_ne_zero index), if_neg (Nat.succ_ne_zero index),
    hfind]
  cases m.captures.find? fun g => g.1 == index + 1 with
  | none => rfl
  | some g => simp [slice, Match.shift]

lemma groups_shift (c : Char) (m : Match) (count : Nat) :
    (m.shift c).groups count = m.groups count := by
  simp only [Match.groups, group_shift]

/-! ## Sequences -/

lemma isLookFree_sequence {parts : List (Node Leaf)} (h : ∀ r ∈ parts, r.IsLookFree) :
    (Node.sequence parts).IsLookFree := by
  induction parts with
  | nil => simp [Node.sequence, Node.IsLookFree, Node.leaves]
  | cons r parts ih =>
    have hr := h r List.mem_cons_self
    cases parts with
    | nil => exact hr
    | cons s parts =>
      have hrest := ih fun r hr => h r (List.mem_cons_of_mem _ hr)
      intro a ha
      rcases List.mem_append.1 ha with ha | ha
      · exact hr a ha
      · exact hrest a ha

lemma groupCount_sequence_cons (r : Node Leaf) (rest : List (Node Leaf)) :
    (Node.sequence (r :: rest)).groupCount = max r.groupCount (Node.sequence rest).groupCount := by
  cases rest with
  | nil => simp [Node.sequence, Node.groupCount]
  | cons s rest => rfl

end Regex

namespace Glob

open Regex

/-! ## A literal in front -/

lemma isLookFree_nodes {n : Nat} {ts : List Token} : ∀ r ∈ nodes n ts, r.IsLookFree := by
  have directories (i : Nat) : (Node.option true (.group i directoriesNode)).IsLookFree := by
    simp [Node.IsLookFree, Node.leaves, Node.option, directoriesNode, lineNode]
  have segment (i : Nat) : (Node.group i segmentNode).IsLookFree := by
    simp [Node.IsLookFree, Node.leaves, segmentNode]
  have below (i : Nat) : (Node.group i lineNode).IsLookFree := by
    simp [Node.IsLookFree, Node.leaves, lineNode]
  have literal (c : Char) : (Node.leaf (.one (.single c))).IsLookFree := by
    simp [Node.IsLookFree, Node.leaves]
  induction ts generalizing n with
  | nil => simp [nodes]
  | cons t ts ih =>
    intro r hr
    rcases List.mem_append.1 hr with hr | hr
    · cases t with
      | literal c => exact List.mem_singleton.1 hr ▸ literal c
      | segment => exact List.mem_singleton.1 hr ▸ segment _
      | directories => exact List.mem_singleton.1 hr ▸ directories _
      | descend =>
        rcases List.mem_pair.1 hr with rfl | rfl
        · exact directories _
        · exact segment _
      | below => exact List.mem_singleton.1 hr ▸ below _
    · exact ih r hr

/-- A literal in front of some tokens matches the same character in front of their texts, and the
match goes on as it would without either. -/
theorem search_node_literal_cons (c : Char) (ts : List Token) (text : List Char) :
    (node (.literal c :: ts)).search (c :: text) =
      ((node ts).search text).map fun found =>
        (found.1, found.2.1 + 1, found.2.2.map fun g => (g.1, g.2.1 + 1, g.2.2 + 1)) := by
  have hfree : (Node.sequence (nodes 0 ts)).IsLookFree := isLookFree_sequence isLookFree_nodes
  have first : (Node.leaf (.one (.single c))).ways (c :: text) 0 = [.stay 1] := by
    simp [Node.ways, Leaf.step?, has_single]
  have ways : (Node.sequence (nodes 0 (.literal c :: ts))).ways (c :: text) 0 =
      ((Node.sequence (nodes 0 ts)).ways text 0).map Way.shift := by
    rw [nodes, Token.nodes, List.singleton_append, ways_sequence_cons, first,
      List.flatMap_singleton, Way.map_stay_andThen, Way.stop_stay]
    exact ways_cons_text _ hfree c text 0
  rw [node, node, ← anchoredSequence, ← anchoredSequence, search_anchoredSequence,
    search_anchoredSequence, ways, List.find?_map]
  have whole : (fun w : Way => decide (w.stop = (c :: text).length)) ∘ Way.shift =
      fun w => decide (w.stop = text.length) := by
    funext w
    simp
  rw [whole, Option.map_map, Option.map_map]
  rfl

lemma groupCount_node_literal_cons (c : Char) (ts : List Token) :
    (node (.literal c :: ts)).groupCount = (node ts).groupCount := by
  rw [node, node, nodes, Token.nodes]
  simp [groupCount_sequence_cons, Node.groupCount, Token.groupCount]

end Glob

/-! ## Making a rule -/

/-- The label refers to the first `count` groups of a pattern only. -/
def RefersWithin (label : String) (count : Nat) : Prop :=
  ∀ n, (LabelTemplate.parse label).maxGroup? = some n → n ≤ count

namespace LabelRule

lemma checkedTemplate_eq_ok_iff {pattern : Regex} {label : String} {template : LabelTemplate} :
    checkedTemplate pattern label = .ok template ↔
      RefersWithin label pattern.groupCount ∧ LabelTemplate.parse label = template := by
  rw [checkedTemplate, RefersWithin]
  cases (LabelTemplate.parse label).maxGroup? with
  | none => simp
  | some n =>
    by_cases h : pattern.groupCount < n
    · simp [h, Nat.not_le.2 h]
    · simp [h, Nat.not_lt.1 h]

/-- Reading the labels of a rule fails at the first one that refers too far. -/
lemma mapM_checkedTemplate_eq_ok_iff {pattern : Regex} {labels : List String}
    {templates : List LabelTemplate} :
    labels.mapM (checkedTemplate pattern) = .ok templates ↔
      (∀ label ∈ labels, RefersWithin label pattern.groupCount) ∧
        labels.map LabelTemplate.parse = templates := by
  have parsed : List.Forall₂ (fun label template => LabelTemplate.parse label = template)
      labels templates ↔ labels.map LabelTemplate.parse = templates := by
    rw [← List.forall₂_map_left_iff (R := Eq), List.forall₂_eq_eq_eq]
  simp only [Except.mapM_eq_ok_iff, checkedTemplate_eq_ok_iff, List.forall₂_and_left, parsed]

/-- A pattern that compiles and some labels make a rule if there is a label and none refers too
far. -/
lemma ofPattern_eq_ok_iff {pattern : String} {regex : Regex} {labels : List String}
    {rule : LabelRule} (hregex : Regex.compile pattern = some regex) :
    ofPattern pattern labels = .ok rule ↔
      (labels ≠ [] ∧ ∀ label ∈ labels, RefersWithin label regex.groupCount) ∧
        rule = ⟨regex, none, labels.map LabelTemplate.parse⟩ := by
  rw [ofPattern, compilePattern, hregex]
  cases labels with
  | nil => exact ⟨nofun, fun h => absurd rfl h.1.1⟩
  | cons label labels =>
    change ((label :: labels).mapM (checkedTemplate regex) >>= fun templates =>
      Except.ok ⟨regex, none, templates⟩) = .ok rule ↔ _
    rw [Except.bind_eq_ok_iff]
    constructor
    · rintro ⟨templates, htemplates, hrule⟩
      obtain ⟨hrefers, rfl⟩ := mapM_checkedTemplate_eq_ok_iff.1 htemplates
      exact ⟨⟨List.cons_ne_nil _ _, hrefers⟩, (Except.ok.inj hrule).symm⟩
    · rintro ⟨⟨-, hrefers⟩, rfl⟩
      exact ⟨_, mapM_checkedTemplate_eq_ok_iff.2 ⟨hrefers, rfl⟩, rfl⟩

lemma groupCount_compile (glob : String) : (PathPattern.compile glob).regex.groupCount =
    (Regex.mk (Glob.translateRelative glob)
      (Glob.node (Glob.tokens (Glob.relative glob.toList)))).groupCount := by
  rw [PathPattern.regex_compile, Regex.groupCount, Regex.groupCount, Glob.tokens_rooted,
    Glob.groupCount_node_literal_cons]

/-- One search is the other, with the slash in front. -/
lemma search_compile_eq (glob path : String) : (PathPattern.compile glob).search path =
    ((Regex.mk (Glob.translateRelative glob)
      (Glob.node (Glob.tokens (Glob.relative glob.toList)))).search
        (String.ofList (Glob.relative path.toList))).map (Regex.Match.shift '/') := by
  rw [PathPattern.search_compile, Glob.tokens_rooted, Glob.rooted_eq_cons,
    Glob.search_node_literal_cons, Regex.search, String.toList_ofList, Option.map_map,
    Option.map_map]
  rfl

lemma fires?_of_exclude_eq_none {rule : LabelRule} (h : rule.exclude = none) (path : String) :
    rule.fires? path = rule.pattern.search path := by
  rw [fires?, h]
  rfl

/-- A glob and labels make a rule if there is a label and none refers to a wildcard that the glob
does not have.  On every path the rule fires exactly if the ownership pattern of the glob matches,
with the same texts for the same groups.  The rule sees the path as the classifier does, relative
to the root. -/
theorem ofGlob_agrees (glob : String) (labels : List String) :
    ((∃ rule, ofGlob glob labels = .ok rule) ↔
      labels ≠ [] ∧ ∀ label ∈ labels,
        RefersWithin label (PathPattern.compile glob).regex.groupCount) ∧
    ∀ rule, ofGlob glob labels = .ok rule → ∀ path : String,
      ((PathPattern.compile glob).matches? path = true ↔
        (rule.fires? (String.ofList (Glob.relative path.toList))).isSome = true) ∧
      (PathPattern.compile glob).captures? path =
        (rule.fires? (String.ofList (Glob.relative path.toList))).map
          fun found => found.groups rule.pattern.groupCount := by
  have made {rule : LabelRule} := @ofPattern_eq_ok_iff _ _ labels rule
    (Glob.compile_translateRelative glob)
  rw [groupCount_compile]
  refine ⟨⟨?_, fun hvalid => ⟨_, made.2 ⟨hvalid, rfl⟩⟩⟩, fun rule hrule path => ?_⟩
  · rintro ⟨rule, hrule⟩
    exact (made.1 hrule).1
  · obtain ⟨-, rfl⟩ := made.1 hrule
    rw [fires?_of_exclude_eq_none rfl, PathPattern.matches?, PathPattern.captures?,
      search_compile_eq, Option.isSome_map, Option.map_map, groupCount_compile]
    refine ⟨Iff.rfl, congrArg (Option.map · _) (funext fun found => ?_)⟩
    exact Regex.groups_shift '/' found _

/-- The glob of the dependencies, whose first wildcard names the second label: what rule and pattern
capture on a path below, and that neither knows a path elsewhere. -/
theorem ofGlob_agrees_deps :
    ∃ rule, ofGlob "deps/*/**" ["dependencies", "$1"] = .ok rule ∧
      ((PathPattern.compile "deps/*/**").matches? "/deps/openssl/openssl.gyp" = true ∧
        (rule.fires? "deps/openssl/openssl.gyp").isSome = true ∧
        (PathPattern.compile "deps/*/**").captures? "/deps/openssl/openssl.gyp" =
          some [some "openssl", some "openssl.gyp"] ∧
        ((rule.fires? "deps/openssl/openssl.gyp").map fun found =>
          found.groups rule.pattern.groupCount) = some [some "openssl", some "openssl.gyp"]) ∧
      ((PathPattern.compile "deps/*/**").matches? "/lib/fs.js" = false ∧
        (rule.fires? "lib/fs.js").isSome = false) := by
  have count : (PathPattern.compile "deps/*/**").regex.groupCount = 2 := by
    rw [PathPattern.regex_compile]
    decide
  have hvalid : ∀ label ∈ ["dependencies", "$1"],
      RefersWithin label (PathPattern.compile "deps/*/**").regex.groupCount := by
    have literal : (LabelTemplate.parse "dependencies").maxGroup? = none := by decide
    have reference : (LabelTemplate.parse "$1").maxGroup? = some 1 := by decide
    intro label hlabel n hn
    rcases List.mem_pair.1 hlabel with rfl | rfl
    · rw [literal] at hn
      cases hn
    · rw [reference, Option.some.injEq] at hn
      omega
  obtain ⟨hmade, hagrees⟩ := ofGlob_agrees "deps/*/**" ["dependencies", "$1"]
  obtain ⟨rule, hrule⟩ := hmade.2 ⟨List.cons_ne_nil _ _, hvalid⟩
  have seen : String.ofList (Glob.relative "/deps/openssl/openssl.gyp".toList) =
      "deps/openssl/openssl.gyp" := by decide
  have seen' : String.ofList (Glob.relative "/lib/fs.js".toList) = "lib/fs.js" := by decide
  have matched : (PathPattern.compile "deps/*/**").matches? "/deps/openssl/openssl.gyp" = true ∧
      (PathPattern.compile "deps/*/**").captures? "/deps/openssl/openssl.gyp" =
        some [some "openssl", some "openssl.gyp"] ∧
      (PathPattern.compile "deps/*/**").matches? "/lib/fs.js" = false := by
    decide +kernel
  obtain ⟨below, captured, elsewhere⟩ := matched
  have agrees := hagrees rule hrule "/deps/openssl/openssl.gyp"
  have agrees' := (hagrees rule hrule "/lib/fs.js").1
  rw [seen] at agrees
  rw [seen'] at agrees'
  refine ⟨rule, hrule, ⟨below, agrees.1.1 below, captured, agrees.2.symm.trans captured⟩,
    elsewhere, Bool.eq_false_iff.2 fun fires => ?_⟩
  rw [agrees'.2 fires] at elsewhere
  cases elsewhere

end LabelRule

end PullTriage
