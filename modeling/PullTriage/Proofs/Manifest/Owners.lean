import PullTriage.Proofs.Glob.Tokens
import PullTriage.Proofs.Label.Paths
import PullTriage.Proofs.Manifest

/-!
# The owners of paths

Every rule that matches a path adds its owner, so the owners of a path have an entry for each of
these rules, in the order of the manifest (`matchingRules_eq_iff`).  The owners of several paths are those of
each path in turn, and each owner counts where it comes first; one scan over the paths finds them,
if it remembers the owners that it has seen (`scan_covers`).

Therefore more paths put new owners behind those that are there, and which owners there are depends
on the set of paths only: `uniqueOwners_exact`.
-/

namespace PullTriage.Manifest

open Distinct LabelClassifier

variable {manifest : Manifest} {path : String} {rules hits : List OwnershipRule}
  {paths others : List String}

/-! ## One path -/

/-- The rules that match a path, in the order in which they are given. -/
inductive Selects (path : String) : List OwnershipRule → List OwnershipRule → Prop
  | nil : Selects path [] []
  | hit {rule : OwnershipRule} {rules hits : List OwnershipRule} :
    rule.pattern.matches? path = true → Selects path rules hits →
      Selects path (rule :: rules) (rule :: hits)
  | miss {rule : OwnershipRule} {rules hits : List OwnershipRule} :
    rule.pattern.matches? path = false → Selects path rules hits →
      Selects path (rule :: rules) hits

lemma selects_filter (path : String) (rules : List OwnershipRule) :
    Selects path rules (rules.filter fun rule => rule.pattern.matches? path) := by
  induction rules with
  | nil => exact .nil
  | cons rule rules ih =>
    rw [List.filter_cons]
    cases h : rule.pattern.matches? path with
    | true => exact .hit h ih
    | false => exact .miss h ih

lemma Selects.filter_eq (h : Selects path rules hits) :
    rules.filter (fun rule => rule.pattern.matches? path) = hits := by
  induction h with
  | nil => rfl
  | hit hmatch _ ih => rw [List.filter_cons, if_pos hmatch, ih]
  | miss hmatch _ ih => rw [List.filter_cons, hmatch, if_neg Bool.false_ne_true, ih]

lemma matchingRules_eq_iff :
    manifest.matchingRules path = hits ↔ Selects path manifest.rules hits := by
  constructor
  · rintro rfl
    exact selects_filter path manifest.rules
  · exact Selects.filter_eq

/-! ## Several paths -/

/-- Goes over the owners of each path in turn. -/
def scan (manifest : Manifest) (paths : List String) : Scan String :=
  paths.foldl (fun scan path => (manifest.ownersOf path).foldl Scan.visit scan) {}

lemma scan_covers (manifest : Manifest) (paths : List String) :
    (manifest.scan paths).Covers (paths.flatMap manifest.ownersOf) := by
  induction paths using List.reverseRecOn with
  | nil => exact ⟨fun _ => Iff.rfl, rfl⟩
  | append_singleton paths path ih =>
    rw [scan, List.foldl_append, List.flatMap_append, List.flatMap_singleton]
    exact ih.visitAll (manifest.ownersOf path)

lemma nodup_uniqueOwners (manifest : Manifest) (paths : List String) :
    (manifest.uniqueOwners paths).Nodup :=
  nodup_eraseDups _

lemma uniqueOwners_append (manifest : Manifest) (paths more : List String) :
    manifest.uniqueOwners (paths ++ more) = manifest.uniqueOwners paths ++
      (manifest.uniqueOwners more).filter (· ∉ manifest.uniqueOwners paths) := by
  simp only [uniqueOwners, List.flatMap_append, eraseDups_append_eq, List.mem_eraseDups]

/-- A glob matches a path whether or not it is written with its slash in front. -/
lemma matches?_of_samePath {path other : String} (h : SamePath path other) (pattern : PathPattern) :
    pattern.matches? path = pattern.matches? other := by
  have rooted : Glob.rooted path.toList = Glob.rooted other.toList := by
    rw [Glob.rooted_eq_cons, Glob.rooted_eq_cons, h.relative_eq]
  rw [PathPattern.matches?, PathPattern.matches?, PathPattern.search, PathPattern.search, rooted]

lemma uniqueOwners_subset (h : SamePaths paths others) :
    manifest.uniqueOwners paths ⊆ manifest.uniqueOwners others := by
  intro owner howner
  obtain ⟨path, hpath, rule, hrule, hmatch, rfl⟩ := mem_uniqueOwners_iff.1 howner
  obtain ⟨other, hother, same⟩ := h.left path hpath
  rw [matches?_of_samePath same] at hmatch
  exact mem_uniqueOwners_iff.2 ⟨other, hother, rule, hrule, hmatch, rfl⟩

lemma uniqueOwners_perm (h : SamePaths paths others) :
    (manifest.uniqueOwners paths).Perm (manifest.uniqueOwners others) :=
  (List.perm_ext_iff_of_nodup (nodup_uniqueOwners _ _) (nodup_uniqueOwners _ _)).2 fun _ =>
    ⟨fun howner => uniqueOwners_subset h howner, fun howner => uniqueOwners_subset h.symm howner⟩

/-- The owners of a path are those of the rules that match it.  The owners of several paths are
listed where they come first among the owners of each path in turn, as a scan would list them: none
of them twice, and the owner of every rule that matches some path.  More paths put their new owners
at the end, and the same paths, in another order, repeated or with a slash in front, have the same
owners. -/
theorem uniqueOwners_exact (manifest : Manifest) :
    (∀ path, (∀ hits, manifest.matchingRules path = hits ↔ Selects path manifest.rules hits) ∧
        manifest.ownersOf path = (manifest.matchingRules path).map (·.owner)) ∧
      (∀ paths,
        (∀ owners, manifest.uniqueOwners paths = owners ↔
          FirstOccurrences (paths.flatMap manifest.ownersOf) owners) ∧
        manifest.uniqueOwners paths = (manifest.scan paths).listed ∧
        (manifest.uniqueOwners paths).Nodup ∧
        ∀ owner, owner ∈ manifest.uniqueOwners paths ↔
          ∃ path ∈ paths, ∃ rule ∈ manifest.rules, rule.pattern.matches? path = true ∧
            rule.owner = owner) ∧
      (∀ paths more, manifest.uniqueOwners (paths ++ more) = manifest.uniqueOwners paths ++
        (manifest.uniqueOwners more).filter (· ∉ manifest.uniqueOwners paths)) ∧
      ∀ paths others, SamePaths paths others →
        (manifest.uniqueOwners paths).Perm (manifest.uniqueOwners others) := by
  refine ⟨fun path => ⟨fun hits => matchingRules_eq_iff, rfl⟩, fun paths => ⟨?_, ?_, ?_, ?_⟩,
    uniqueOwners_append manifest, fun paths others => uniqueOwners_perm⟩
  · exact fun owners => firstOccurrences_iff.symm
  · exact (manifest.scan_covers paths).listed.symm
  · exact nodup_uniqueOwners manifest paths
  · exact fun owner => mem_uniqueOwners_iff

/-- A manifest in which an owner has two rules, with another one between them. -/
def webManifest : Manifest :=
  ⟨[⟨PathPattern.compile "*.js", "@web", 1⟩, ⟨PathPattern.compile "/lib/**", "@core", 2⟩,
    ⟨PathPattern.compile "/lib/*.js", "@web", 3⟩]⟩

/-- A repetition and slashes in front, and the same owners come in another order. -/
theorem uniqueOwners_exact_webManifest :
    SamePaths ["/index.js", "lib/fs.js"] ["lib/fs.js", "index.js", "/lib/fs.js"] ∧
      webManifest.uniqueOwners ["/index.js", "lib/fs.js"] = ["@web", "@core"] ∧
      webManifest.uniqueOwners ["lib/fs.js", "index.js", "/lib/fs.js"] = ["@core", "@web"] ∧
      (webManifest.uniqueOwners ["/index.js", "lib/fs.js"]).Perm
        (webManifest.uniqueOwners ["lib/fs.js", "index.js", "/lib/fs.js"]) := by
  have index : SamePath "/index.js" "index.js" := @SamePath.rooted "index.js" (by decide)
  have index' : SamePath "index.js" "/index.js" := @SamePath.relative "index.js" (by decide)
  have library : SamePath "/lib/fs.js" "lib/fs.js" := @SamePath.rooted "lib/fs.js" (by decide)
  have same : SamePaths ["/index.js", "lib/fs.js"] ["lib/fs.js", "index.js", "/lib/fs.js"] := by
    constructor
    · simp only [List.forall_mem_cons]
      exact ⟨⟨"index.js", by simp, index⟩, ⟨"lib/fs.js", by simp, .refl _⟩, by simp⟩
    · simp only [List.forall_mem_cons]
      exact ⟨⟨"lib/fs.js", by simp, .refl _⟩, ⟨"/index.js", by simp, index'⟩,
        ⟨"lib/fs.js", by simp, library⟩, by simp⟩
  exact ⟨same, by decide +kernel, by decide +kernel,
    (uniqueOwners_exact webManifest).2.2.2 _ _ same⟩

end PullTriage.Manifest
