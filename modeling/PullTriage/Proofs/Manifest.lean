import PullTriage.Proofs.Manifest.Grammar

/-!
# What a manifest says

A rule of a manifest comes from one line, and its glob and its owner are the two fields of that
line.  A field is cut out at white space, so neither of them holds any, a line feed in particular:
`isField_of_mem_uniqueOwners`.
-/

namespace PullTriage.Manifest

variable {text : String} {manifest : Manifest}

lemma mem_uniqueOwners_iff {paths : List String} {owner : String} :
    owner ∈ manifest.uniqueOwners paths ↔
      ∃ path ∈ paths, ∃ rule ∈ manifest.rules, rule.pattern.matches? path = true ∧
        rule.owner = owner := by
  simp [uniqueOwners, ownersOf, matchingRules, List.mem_eraseDups, and_assoc]

lemma isField_of_mem_uniqueOwners (parsed : parse text = .ok manifest) {paths : List String}
    {owner : String} (h : owner ∈ manifest.uniqueOwners paths) : Text.IsField owner.toList := by
  obtain ⟨path, -, rule, hrule, -, rfl⟩ := mem_uniqueOwners_iff.1 h
  have listed := (parse_eq_ok_iff (Text.hasLines_iff.2 rfl)).1 parsed
  exact (listed.isField rule hrule).2

end PullTriage.Manifest
