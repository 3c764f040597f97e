import PullTriage.Config.Load
import PullTriage.Proofs.Config.LabelTables
import PullTriage.Proofs.Text.Split
import PullTriage.Proofs.Toml.Table

/-!
# What a loaded configuration is good for

Loading checks the values once, and everything that is asked of a configuration later is worked out
anew from the same texts: the rules are compiled again, the repository is read again, and the
settings of two scopes are put together.  The main statement, `load_usable`, is that none of this
can fail or lose anything: what loads has a classifier with the cap that was set, it has a
repository if the file sets one, the place of its manifest is not blank, and the address of its
forge is one of HTTP.

The files are a function from paths to what there is, and nothing is assumed about it.
-/

namespace PullTriage

open Unicode

/-! ## What the checks say -/

lemma validateApiBase_eq_ok_iff {apiBase : String} :
    validateApiBase apiBase = .ok () ↔
      "https://".toList <+: apiBase.toList ∨ "http://".toList <+: apiBase.toList := by
  have starts : (Text.startsWith apiBase "https://" || Text.startsWith apiBase "http://") = true ↔
      "https://".toList <+: apiBase.toList ∨ "http://".toList <+: apiBase.toList := by
    rw [Text.startsWith, Text.startsWith, Bool.or_eq_true, List.isPrefixOf_iff_prefix,
      List.isPrefixOf_iff_prefix]
  rw [validateApiBase, ← starts]
  split
  · next h => exact iff_of_true rfl h
  · next h => exact iff_of_false nofun h

lemma Text.trim_eq_nil_iff {text : List Char} :
    trim text = [] ↔ ∀ c ∈ text, isBlank c = true := by
  rw [trim_eq_iff]
  constructor
  · rintro ⟨⟨before, after, rfl, hbefore, hafter⟩, -, -⟩ c hc
    rw [List.append_nil] at hc
    exact (List.mem_append.1 hc).elim (hbefore c) (hafter c)
  · intro h
    exact ⟨⟨text, [], by simp, h, by simp⟩, by simp, by simp⟩

/-- A path that is not blank has a character that is no white space. -/
lemma validateManifestPath_eq_ok_iff {path : String} :
    validateManifestPath path = .ok () ↔ ∃ c ∈ path.toList, isBlank c = false := by
  have blank : (Text.trim path.toList).isEmpty = true ↔ ∀ c ∈ path.toList, isBlank c = true := by
    rw [List.isEmpty_iff, Text.trim_eq_nil_iff]
  rw [validateManifestPath]
  split
  · next h =>
    refine iff_of_false nofun ?_
    rintro ⟨c, hc, hblank⟩
    rw [blank.1 h c hc] at hblank
    cases hblank
  · next h =>
    refine iff_of_true rfl ?_
    rw [blank] at h
    simpa using h

/-- The settings of a user pass the check. -/
lemma GlobalConfig.validate_eq_ok_iff {config : GlobalConfig} :
    config.validate = .ok () ↔
      (∀ apiBase, config.apiBase = some apiBase → validateApiBase apiBase = .ok ()) ∧
      ∀ path, config.codeownersPath = some path → validateManifestPath path = .ok () := by
  rw [validate, Except.seq_eq_ok_iff, Except.forM_eq_ok_iff, Except.forM_eq_ok_iff]

lemma RepoConfig.validate_eq_ok_iff {config : RepoConfig} :
    config.validate = .ok () ↔
      (∀ text, config.repo = some text → ∃ slug, RepoSlug.parseOrRemote text = .ok slug) ∧
      (∀ path, config.codeownersPath = some path → validateManifestPath path = .ok ()) ∧
      ∀ labels, config.labels = some labels → labels.validate = .ok () := by
  have mapError_eq_ok_iff (text : String) :
      (∃ slug, (RepoSlug.parseOrRemote text).mapError
        (fun e => ValueError.invalidValue e.message) = .ok slug) ↔
      ∃ slug, RepoSlug.parseOrRemote text = .ok slug := by
    cases RepoSlug.parseOrRemote text with
    | error e => exact iff_of_false (by simp [Except.mapError]) (by simp)
    | ok slug => exact iff_of_true ⟨slug, rfl⟩ ⟨slug, rfl⟩
  rw [validate, Except.seq_eq_ok_iff, Except.seq_eq_ok_iff]
  simp only [Except.forM_eq_ok_iff, Except.discard_eq_ok_iff, mapError_eq_ok_iff]

lemma Config.validate_eq_ok_iff {config : Config} :
    config.validate = .ok () ↔ config.global.validate = .ok () ∧
      ∀ repo, config.repo = some repo → repo.validate = .ok () := by
  rw [validate, Except.seq_eq_ok_iff, Except.forM_eq_ok_iff]

/-! ## What the settings give -/

/-- Settings for labels that pass the check make a classifier with the cap that they set. -/
lemma LabelsConfig.exists_classifier_eq_ok {config : LabelsConfig}
    (h : config.validate = .ok ()) :
    ∃ classifier, config.classifier = .ok classifier ∧
      classifier.maxLabels = config.maxLabels.getD 5 := by
  have hcap : config.maxLabels ≠ some 0 := by
    intro hzero
    rw [validate, if_pos hzero] at h
    cases h
  rw [validate_eq_discard hcap] at h
  obtain ⟨classifier, hclassifier⟩ := Except.discard_eq_ok_iff.1 h
  exact ⟨classifier, hclassifier, ((classifier_eq_ok_iff hcap).1 hclassifier).maxLabels⟩

lemma Config.exists_classifier_eq_ok {config : Config} (h : config.validate = .ok ()) :
    ∃ classifier, config.classifier = .ok classifier ∧
      classifier.maxLabels = ((config.repo.bind (·.labels)).bind (·.maxLabels)).getD 5 := by
  rw [classifier]
  cases hlabels : config.repo.bind (·.labels) with
  | none => exact ⟨.builtin, rfl, rfl⟩
  | some labels =>
    obtain ⟨repo, hrepo, hlabels⟩ := Option.bind_eq_some_iff.1 hlabels
    have hvalid := (Config.validate_eq_ok_iff.1 h).2 repo hrepo
    exact LabelsConfig.exists_classifier_eq_ok
      ((RepoConfig.validate_eq_ok_iff.1 hvalid).2.2 labels hlabels)

/-- A repository that is set is read again, and not lost. -/
lemma Config.isSome_repoSlug?_iff {config : Config} (h : config.validate = .ok ()) :
    config.repoSlug?.isSome = true ↔ (config.repo.bind (·.repo)).isSome = true := by
  rw [repoSlug?]
  cases htext : config.repo.bind (·.repo) with
  | none => rfl
  | some text =>
    obtain ⟨repo, hrepo, htext⟩ := Option.bind_eq_some_iff.1 htext
    have hvalid := (Config.validate_eq_ok_iff.1 h).2 repo hrepo
    obtain ⟨slug, hslug⟩ := (RepoConfig.validate_eq_ok_iff.1 hvalid).1 text htext
    rw [Option.bind_some, hslug]
    rfl

lemma Config.manifestPath_not_blank {config : Config} (h : config.validate = .ok ()) :
    ∃ c ∈ config.manifestPath.toList, isBlank c = false := by
  obtain ⟨hglobal, hrepo⟩ := Config.validate_eq_ok_iff.1 h
  rw [← validateManifestPath_eq_ok_iff, manifestPath]
  cases hpath : config.repo.bind (·.codeownersPath) with
  | some path =>
    obtain ⟨repo, hset, hpath⟩ := Option.bind_eq_some_iff.1 hpath
    exact (RepoConfig.validate_eq_ok_iff.1 (hrepo repo hset)).2.1 path hpath
  | none =>
    cases hpath : config.global.codeownersPath with
    | some path => exact (GlobalConfig.validate_eq_ok_iff.1 hglobal).2 path hpath
    | none => exact validateManifestPath_eq_ok_iff.2 ⟨'.', by decide, by decide⟩

lemma Config.apiBase_isHttp {config : Config} (h : config.validate = .ok ()) :
    "https://".toList <+: config.apiBase.toList ∨ "http://".toList <+: config.apiBase.toList := by
  rw [apiBase]
  cases hbase : config.global.apiBase with
  | some base =>
    have hglobal := GlobalConfig.validate_eq_ok_iff.1 (Config.validate_eq_ok_iff.1 h).1
    exact validateApiBase_eq_ok_iff.1 (hglobal.1 base hbase)
  | none => exact .inl (by decide)

/-! ## Loading -/

/-- Settings that come from a file, if there is a file. -/
def Settles {α : Type} (files : Files Id) (ofJson? : Json → Option α) (path : Option String)
    (settings : Option α) : Prop :=
  match path with
  | none => settings = none
  | some path => ∃ text value, (files.readText path).run = .ok text ∧
      Config.decode? ofJson? text = some value ∧ settings = some value

lemma readSettings_eq_ok {α : Type} {files : Files Id} {ofJson? : Json → Option α} {path : String}
    {value : α} (h : (Config.readSettings files ofJson? path).run = .ok value) :
    ∃ text, (files.readText path).run = .ok text ∧ Config.decode? ofJson? text = some value := by
  dsimp only [Config.readSettings, bind, pure, Id.run] at h
  split at h
  · cases h
  · next text htext =>
    split at h
    · next settings hdecode => exact ⟨text, htext, Except.ok.inj h ▸ hdecode⟩
    · cases h

lemma settles_of_readSettings? {α : Type} {files : Files Id} {ofJson? : Json → Option α}
    {path : Option String} {settings : Option α}
    (h : (Config.readSettings? files ofJson? path).run = .ok settings) :
    Settles files ofJson? path settings := by
  cases path with
  | none => exact (Except.ok.inj h).symm
  | some path =>
    obtain ⟨value, hvalue, rfl⟩ := Except.map_eq_ok_iff.1 h
    obtain ⟨text, htext, hdecode⟩ := readSettings_eq_ok hvalue
    exact ⟨text, value, htext, hdecode, rfl⟩

/-- A repository is among the settings of a file exactly if the document sets one. -/
lemma RepoConfig.isSome_repo_iff {doc : Toml.Value} {settings : RepoConfig}
    (hdoc : Toml.IsTable doc) (h : RepoConfig.ofJson? false doc.toJson = some settings) :
    settings.repo.isSome = true ↔ Toml.Sets doc "repo" := by
  obtain ⟨origin, members, rfl⟩ := hdoc
  rw [Toml.toJson_table, ofJson?] at h
  obtain ⟨kept, hkept, h⟩ := Option.bind_eq_some_iff.1 h
  obtain ⟨repo, hrepo, h⟩ := Option.bind_eq_some_iff.1 h
  obtain ⟨path, -, h⟩ := Option.bind_eq_some_iff.1 h
  obtain ⟨labels, -, h⟩ := Option.bind_eq_some_iff.1 h
  cases h
  obtain ⟨-, -, rfl⟩ := Json.members?_ofMembers_eq_some_iff.1 hkept
  rw [Json.isSome_of_optional hrepo, Json.get?_known (by decide), Toml.sets_table_iff]

lemma Config.filterM_eq_filter (p : String → Id Bool) (paths : List String) :
    (paths.filterM p : Id (List String)) = paths.filter p := by
  -- The loop collects what it keeps in reverse.
  have collects (found : List String) :
      (paths.filterAuxM p found : Id (List String)) = (paths.filter p).reverse ++ found := by
    induction paths generalizing found with
    | nil => rfl
    | cons path paths ih =>
      change List.filterAuxM p paths (cond (p path) (path :: found) found) = _
      rw [ih]
      cases hp : p path with
      | true => simp [List.filter_cons_of_pos hp]
      | false => rw [List.filter_cons_of_neg (by simp [hp]), cond_false]
  change (paths.filterAuxM p [] : Id (List String)).reverse = _
  rw [collects, List.append_nil, List.reverse_reverse]

namespace Config

/-- The configuration is what the files say: the settings of the user, and those of the repository
in the first of its places where there is something. -/
structure ReadFrom (files : Files Id) (globalPath root : Option String) (config : Config) :
    Prop where
  global : ∃ settings, Settles files (GlobalConfig.ofJson? false) globalPath settings ∧
    config.global = settings.getD .empty
  repoPath : config.repoPath =
    ((root.map fun root => repoCandidates.map (joinPath root)).getD []).find? files.exists?
  repo : Settles files (RepoConfig.ofJson? false) config.repoPath config.repo

lemma ofSettings_eq_ok_iff {globalPath repoPath : Option String} {global : Option GlobalConfig}
    {repo : Option RepoConfig} {config : Config} :
    ofSettings globalPath repoPath global repo = .ok config ↔
      config = ⟨global.getD .empty, repo, globalPath, repoPath⟩ ∧ config.validate = .ok () := by
  unfold ofSettings
  dsimp only
  split
  · next hvalid =>
    constructor
    · intro h
      exact ⟨(Except.ok.inj h).symm, Except.ok.inj h ▸ hvalid⟩
    · rintro ⟨rfl, -⟩
      rfl
  · next cause hinvalid =>
    refine ⟨nofun, ?_⟩
    rintro ⟨rfl, hvalid⟩
    rw [hinvalid] at hvalid
    cases hvalid

lemma readFrom_of_load {files : Files Id} {globalPath root : Option String}
    {loaded : LoadedConfig} (h : (load files globalPath root).run = .ok loaded) :
    loaded.config.ReadFrom files globalPath root ∧ loaded.config.validate = .ok () := by
  dsimp only [load, loadFiles, bind, pure, Id.run] at h
  split at h
  · cases h
  next global hglobal =>
  split at h
  · cases h
  next repo hrepo =>
  obtain ⟨config, hconfig, rfl⟩ := Except.map_eq_ok_iff.1 h
  obtain ⟨rfl, hvalid⟩ := ofSettings_eq_ok_iff.1 hconfig
  refine ⟨⟨⟨global, settles_of_readSettings? hglobal, rfl⟩, ?_, settles_of_readSettings? hrepo⟩,
    hvalid⟩
  rw [filterM_eq_filter, List.head?_filter]

/-- What can be asked of a configuration that was read from some files. -/
structure Usable (files : Files Id) (config : Config) : Prop where
  /-- There is a classifier, with the cap that is set or else the usual one. -/
  classifier : ∃ classifier, config.classifier = .ok classifier ∧
    classifier.maxLabels = ((config.repo.bind (·.labels)).bind (·.maxLabels)).getD 5 ∧
    1 ≤ classifier.maxLabels
  /-- There is a repository exactly if the file of the repository sets one. -/
  repoSlug : config.repoSlug?.isSome = true ↔
    ∃ path text doc, config.repoPath = some path ∧ (files.readText path).run = .ok text ∧
      Toml.ofText? text = some doc ∧ Toml.Sets doc "repo"
  /-- The place of the manifest is not blank. -/
  manifestPath : ∃ c ∈ config.manifestPath.toList, isBlank c = false
  /-- The address of the forge is one of HTTP. -/
  apiBase : "https://".toList <+: config.apiBase.toList ∨
    "http://".toList <+: config.apiBase.toList

/-- The settings of the repository have a repository exactly if their document sets one. -/
lemma isSome_repo_iff_sets {files : Files Id} {config : Config}
    (h : Settles files (RepoConfig.ofJson? false) config.repoPath config.repo) :
    (config.repo.bind (·.repo)).isSome = true ↔
      ∃ path text doc, config.repoPath = some path ∧ (files.readText path).run = .ok text ∧
        Toml.ofText? text = some doc ∧ Toml.Sets doc "repo" := by
  unfold Settles at h
  split at h
  · next hpath =>
    rw [h]
    refine iff_of_false (by simp) ?_
    rintro ⟨path, -, -, hset, -⟩
    rw [hpath] at hset
    cases hset
  · next path hpath =>
    obtain ⟨text, settings, htext, hdecode, hrepo⟩ := h
    obtain ⟨doc, hdoc, hsettings⟩ := Option.bind_eq_some_iff.1 hdecode
    have sets := RepoConfig.isSome_repo_iff (Toml.isTable_of_ofText? hdoc) hsettings
    rw [hrepo, Option.bind_some, sets]
    constructor
    · intro hsets
      exact ⟨path, text, doc, hpath, htext, hdoc, hsets⟩
    · rintro ⟨path', text', doc', hpath', htext', hdoc', hsets⟩
      obtain rfl : path = path' := Option.some.inj (hpath.symm.trans hpath')
      obtain rfl : text = text' := Except.ok.inj (htext.symm.trans htext')
      obtain rfl : doc = doc' := Option.some.inj (hdoc.symm.trans hdoc')
      exact hsets

/-- A configuration that loads is what its files say, and everything can be asked of it. -/
theorem load_usable {files : Files Id} {globalPath root : Option String} {loaded : LoadedConfig}
    (h : (load files globalPath root).run = .ok loaded) :
    loaded.config.ReadFrom files globalPath root ∧ loaded.config.Usable files := by
  obtain ⟨read, hvalid⟩ := readFrom_of_load h
  obtain ⟨classifier, hclassifier, hcap⟩ := exists_classifier_eq_ok hvalid
  exact ⟨read, {
    classifier := ⟨classifier, hclassifier, hcap, classifier.maxLabels_pos⟩
    repoSlug := (isSome_repoSlug?_iff hvalid).trans (isSome_repo_iff_sets read.repo)
    manifestPath := manifestPath_not_blank hvalid
    apiBase := apiBase_isHttp hvalid }⟩

/-- Files of which one has settings: a repository, a cap and a rule. -/
def exampleFiles : Files Id where
  look path :=
    if path = "/srv/.prsieve.toml" then
      .ok (.file ("repo = \"git@github.com:nodejs/node.git\"\n[labels]\nmax_labels = 7\n"
        ++ "[[labels.inclusive]]\nglob = \"deps/*/**\"\nlabels = [\"$1\"]\n").toUTF8)
    else .error .notFound

theorem load_usable_exampleFiles :
    ∃ loaded, (load exampleFiles none (some "/srv")).run = .ok loaded ∧
      loaded.config.ReadFrom exampleFiles none (some "/srv") ∧
      loaded.config.Usable exampleFiles := by
  have h : (load exampleFiles none (some "/srv")).run = .ok
      { config := {
          repo := some ⟨some "git@github.com:nodejs/node.git", none,
            some ⟨some 7, none, none, some [⟨none, some "deps/*/**", none, ["$1"]⟩]⟩⟩
          repoPath := some "/srv/.prsieve.toml" }
        warnings := [] } := by
    decide +kernel
  exact ⟨_, h, load_usable h⟩

end Config

end PullTriage
