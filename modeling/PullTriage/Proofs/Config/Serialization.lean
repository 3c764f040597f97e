import PullTriage.Config.Schema
import PullTriage.Proofs.Json.Fields
import PullTriage.Proofs.Json.RoundTrip

/-!
# Settings that are written and read back

What the members of a record say as settings is a relation (`GlobalConfig.InMembers` and the like),
and the readers decide it.  From that come both halves of the main statement, `settings_survive`.
Settings say themselves when they are written, whether an unset option is left out, as in a rule, or
written as null, as elsewhere; so they are read back as they were.  And a value with a foreign key
says nothing, at whatever level the key stands (`ConfigLevel.AddsKey`): each level is closed, and
the levels above it need what it says.

Only the cap on the number of labels has a condition: it has to be below 2 to the 64th, as every cap
that has been read is.
-/

namespace PullTriage

open Json

variable {exact : Bool}

/-! ## What members say -/

/-- The members say this entry of a table of rules. -/
structure RuleConfig.InMembers (members : Members) (config : RuleConfig) : Prop where
  pattern : States IsText (valuesOf members "pattern") config.pattern
  glob : States IsText (valuesOf members "glob") config.glob
  exclude : States IsText (valuesOf members "exclude") config.exclude
  labels : StatesOne (IsList IsText) (valuesOf members "labels") config.labels

/-- The values of a table are records that say its entries. -/
abbrev RuleConfig.InTable (exact : Bool) : Json → List RuleConfig → Prop :=
  IsList ((form exact).IsRecord InMembers)

/-- The members say these settings for labels. -/
structure LabelsConfig.InMembers (exact : Bool) (members : Members) (config : LabelsConfig) :
    Prop where
  maxLabels : States IsNatural (valuesOf members "max_labels") config.maxLabels
  subsystems : States (IsList IsText) (valuesOf members "subsystems") config.subsystems
  exclusive : States (RuleConfig.InTable exact) (valuesOf members "exclusive") config.exclusive
  inclusive : States (RuleConfig.InTable exact) (valuesOf members "inclusive") config.inclusive

/-- The members say these settings of a repository. -/
structure RepoConfig.InMembers (exact : Bool) (members : Members) (config : RepoConfig) : Prop where
  repo : States IsText (valuesOf members "repo") config.repo
  codeownersPath : States IsText (valuesOf members "codeowners_path") config.codeownersPath
  labels : States ((LabelsConfig.form exact).IsRecord (LabelsConfig.InMembers exact))
    (valuesOf members "labels") config.labels

/-- The members say these settings of a user. -/
structure GlobalConfig.InMembers (members : Members) (config : GlobalConfig) : Prop where
  apiBase : States IsText (valuesOf members "api_base") config.apiBase
  codeownersPath : States IsText (valuesOf members "codeowners_path") config.codeownersPath

lemma texts_eq_some_iff (v : Json) (texts : List String) :
    list? text? v = some texts ↔ IsList IsText v texts :=
  list?_eq_some_iff text?_eq_some_iff v texts

lemma RuleConfig.ofJson?_eq_some_iff (v : Json) (config : RuleConfig) :
    ofJson? exact v = some config ↔ (form exact).IsRecord InMembers v config := by
  refine bind_members?_eq_some_iff (by simp [form]) ?_ fun members honce => ?_
  · intro members h
    simp [Form.HasOnce, form, h.pattern.length_le, h.glob.length_le, h.exclude.length_le,
      h.labels.length_le]
  · simp only [Option.bind_eq_bind, Option.bind_eq_some_iff, Option.pure_def, Option.some.injEq,
      optional_text?_eq_some_iff honce "pattern" rfl,
      optional_text?_eq_some_iff honce "glob" rfl,
      optional_text?_eq_some_iff honce "exclude" rfl,
      required_eq_some_iff honce "labels" rfl texts_eq_some_iff]
    constructor
    · rintro ⟨_, hp, _, hg, _, he, _, hl, rfl⟩
      exact ⟨hp, hg, he, hl⟩
    · rintro ⟨hp, hg, he, hl⟩
      exact ⟨_, hp, _, hg, _, he, _, hl, rfl⟩

lemma LabelsConfig.ofJson?_eq_some_iff (v : Json) (config : LabelsConfig) :
    ofJson? exact v = some config ↔ (form exact).IsRecord (InMembers exact) v config := by
  have rules (v : Json) (configs : List RuleConfig) :
      list? (RuleConfig.ofJson? exact) v = some configs ↔ RuleConfig.InTable exact v configs :=
    list?_eq_some_iff RuleConfig.ofJson?_eq_some_iff v configs
  refine bind_members?_eq_some_iff (by simp [form]) ?_ fun members honce => ?_
  · intro members h
    simp [Form.HasOnce, form, h.maxLabels.length_le, h.subsystems.length_le, h.exclusive.length_le,
      h.inclusive.length_le]
  · simp only [Option.bind_eq_bind, Option.bind_eq_some_iff, Option.pure_def, Option.some.injEq,
      optional_eq_some_iff honce "max_labels" rfl natural?_eq_some_iff not_isNatural_null,
      optional_eq_some_iff honce "subsystems" rfl texts_eq_some_iff not_isList_null,
      optional_eq_some_iff honce "exclusive" rfl rules not_isList_null,
      optional_eq_some_iff honce "inclusive" rfl rules not_isList_null]
    constructor
    · rintro ⟨_, hm, _, hs, _, he, _, hi, rfl⟩
      exact ⟨hm, hs, he, hi⟩
    · rintro ⟨hm, hs, he, hi⟩
      exact ⟨_, hm, _, hs, _, he, _, hi, rfl⟩

lemma RepoConfig.ofJson?_eq_some_iff (v : Json) (config : RepoConfig) :
    ofJson? exact v = some config ↔ (form exact).IsRecord (InMembers exact) v config := by
  refine bind_members?_eq_some_iff (by simp [form]) ?_ fun members honce => ?_
  · intro members h
    simp [Form.HasOnce, form, h.repo.length_le, h.codeownersPath.length_le, h.labels.length_le]
  · simp only [Option.bind_eq_bind, Option.bind_eq_some_iff, Option.pure_def, Option.some.injEq,
      optional_text?_eq_some_iff honce "repo" rfl,
      optional_text?_eq_some_iff honce "codeowners_path" rfl,
      optional_eq_some_iff honce "labels" rfl LabelsConfig.ofJson?_eq_some_iff not_isRecord_null]
    constructor
    · rintro ⟨_, hr, _, hc, _, hl, rfl⟩
      exact ⟨hr, hc, hl⟩
    · rintro ⟨hr, hc, hl⟩
      exact ⟨_, hr, _, hc, _, hl, rfl⟩

lemma GlobalConfig.ofJson?_eq_some_iff (v : Json) (config : GlobalConfig) :
    ofJson? exact v = some config ↔ (form exact).IsRecord InMembers v config := by
  refine bind_members?_eq_some_iff (by simp [form]) ?_ fun members honce => ?_
  · intro members h
    simp [Form.HasOnce, form, h.apiBase.length_le, h.codeownersPath.length_le]
  · simp only [Option.bind_eq_bind, Option.bind_eq_some_iff, Option.pure_def, Option.some.injEq,
      optional_text?_eq_some_iff honce "api_base" rfl,
      optional_text?_eq_some_iff honce "codeowners_path" rfl]
    constructor
    · rintro ⟨_, hb, _, hc, rfl⟩
      exact ⟨hb, hc⟩
    · rintro ⟨hb, hc⟩
      exact ⟨_, hb, _, hc, rfl⟩

/-! ## Settings say themselves -/

/-- An option that is written as null if it is not set. -/
lemma states_orNull {α : Type} {Says : Json → α → Prop} {encode : α → Json} {value : Option α}
    (h : ∀ a, value = some a → Says (encode a) a) :
    States Says [LabelsConfig.orNull encode value] value := by
  cases value with
  | none => exact .null
  | some a => exact .value (h a rfl)

lemma states_ofText? (value : Option String) : States IsText [.ofText? value] value := by
  cases value with
  | none => exact .null
  | some s => exact .value rfl

/-- An option that is left out if it is not set. -/
lemma states_memberOf (value : Option String) :
    States IsText ((value.map Json.text).toList) value := by
  cases value with
  | none => exact .omitted
  | some s => exact .value rfl

lemma valuesOf_memberOf (name other : String) (value : Option String) :
    valuesOf (RuleConfig.memberOf name value) other =
      if name = other then (value.map Json.text).toList else [] := by
  cases value with
  | none => simp [RuleConfig.memberOf]
  | some s => simp [RuleConfig.memberOf, valuesOf_cons]

lemma mem_memberOf {name : String} {value : Option String} {m : String × Json}
    (h : m ∈ RuleConfig.memberOf name value) : m.1 = name := by
  cases value with
  | none => cases h
  | some s => rw [List.mem_singleton.1 h]

lemma RuleConfig.isRecord_toJson (config : RuleConfig) :
    (form exact).IsRecord InMembers config.toJson config := by
  refine ⟨_, .object fun _ m hm => Form.knows_iff.2 ?_, ?_⟩
  · simp only [List.mem_append, List.mem_singleton] at hm
    rcases hm with ((hm | hm) | hm) | rfl
    · exact ⟨⟨"pattern", true⟩, by simp [form], (mem_memberOf hm).symm⟩
    · exact ⟨⟨"glob", true⟩, by simp [form], (mem_memberOf hm).symm⟩
    · exact ⟨⟨"exclude", true⟩, by simp [form], (mem_memberOf hm).symm⟩
    · exact ⟨⟨"labels", false⟩, by simp [form], rfl⟩
  · constructor
    · simpa [valuesOf_append, valuesOf_memberOf, valuesOf_cons] using states_memberOf config.pattern
    · simpa [valuesOf_append, valuesOf_memberOf, valuesOf_cons] using states_memberOf config.glob
    · simpa [valuesOf_append, valuesOf_memberOf, valuesOf_cons] using states_memberOf config.exclude
    · refine ⟨.ofTexts config.labels, ?_, isList_ofTexts _⟩
      simp [valuesOf_append, valuesOf_memberOf, valuesOf_cons]

/-- The cap, if it is set, is below 2 to the 64th. -/
def LabelsConfig.InRange (config : LabelsConfig) : Prop :=
  ∀ cap, config.maxLabels = some cap → cap < UInt64.size

/-- The cap, if it is set, is below 2 to the 64th. -/
def RepoConfig.InRange (config : RepoConfig) : Prop :=
  ∀ labels, config.labels = some labels → labels.InRange

lemma LabelsConfig.isRecord_toJson {config : LabelsConfig} (h : config.InRange) :
    (form exact).IsRecord (InMembers exact) config.toJson config := by
  have table (rules : List RuleConfig) : RuleConfig.InTable exact (rulesJson rules) rules :=
    isList_map fun rule _ => rule.isRecord_toJson
  refine ⟨_, .object fun _ m hm => Form.knows_iff.2 ?_, ?_⟩
  · simp only [List.mem_cons, List.not_mem_nil, or_false] at hm
    rcases hm with rfl | rfl | rfl | rfl <;> simp [form]
  · constructor
    · simpa [valuesOf_cons] using states_orNull fun cap hcap => isNatural_natural (h cap hcap)
    · simpa [valuesOf_cons] using states_orNull fun texts _ => isList_ofTexts texts
    · simpa [valuesOf_cons] using states_orNull fun rules _ => table rules
    · simpa [valuesOf_cons] using states_orNull fun rules _ => table rules

lemma RepoConfig.isRecord_toJson {config : RepoConfig} (h : config.InRange) :
    (form exact).IsRecord (InMembers exact) config.toJson config := by
  refine ⟨_, .object fun _ m hm => Form.knows_iff.2 ?_, ?_⟩
  · simp only [List.mem_cons, List.not_mem_nil, or_false] at hm
    rcases hm with rfl | rfl | rfl <;> simp [form]
  · constructor
    · simpa [valuesOf_cons] using states_ofText? config.repo
    · simpa [valuesOf_cons] using states_ofText? config.codeownersPath
    · simpa [valuesOf_cons] using states_orNull fun labels hlabels =>
        LabelsConfig.isRecord_toJson (h labels hlabels)

lemma GlobalConfig.isRecord_toJson (config : GlobalConfig) :
    (form exact).IsRecord InMembers config.toJson config := by
  refine ⟨_, .object fun _ m hm => Form.knows_iff.2 ?_, ?_⟩
  · simp only [List.mem_cons, List.not_mem_nil, or_false] at hm
    rcases hm with rfl | rfl <;> simp [form]
  · constructor
    · simpa [valuesOf_cons] using states_ofText? config.apiBase
    · simpa [valuesOf_cons] using states_ofText? config.codeownersPath

/-! ## Writing settings -/

lemma wellFormed_memberOf {name : String} {value : Option String} :
    ∀ m ∈ RuleConfig.memberOf name value, WellFormed m.2 := by
  cases value with
  | none => nofun
  | some s => exact List.forall_mem_singleton.2 (.text s)

lemma wellFormed_orNull {α : Type} {encode : α → Json} (h : ∀ a, WellFormed (encode a))
    (value : Option α) : WellFormed (LabelsConfig.orNull encode value) := by
  cases value with
  | none => exact .null
  | some a => exact h a

lemma RuleConfig.wellFormed_toJson (config : RuleConfig) : WellFormed config.toJson := by
  refine .ofMembers fun m hm => ?_
  simp only [List.mem_append, List.mem_singleton] at hm
  rcases hm with ((hm | hm) | hm) | rfl
  · exact wellFormed_memberOf m hm
  · exact wellFormed_memberOf m hm
  · exact wellFormed_memberOf m hm
  · exact .ofTexts config.labels

lemma LabelsConfig.wellFormed_toJson (config : LabelsConfig) : WellFormed config.toJson := by
  have table (rules : List RuleConfig) : WellFormed (rulesJson rules) := by
    refine .array fun v hv => ?_
    obtain ⟨rule, -, rfl⟩ := List.mem_map.1 hv
    exact rule.wellFormed_toJson
  refine .ofMembers fun m hm => ?_
  simp only [List.mem_cons, List.not_mem_nil, or_false] at hm
  rcases hm with rfl | rfl | rfl | rfl
  · exact wellFormed_orNull WellFormed.natural _
  · exact wellFormed_orNull WellFormed.ofTexts _
  · exact wellFormed_orNull table _
  · exact wellFormed_orNull table _

lemma RepoConfig.wellFormed_toJson (config : RepoConfig) : WellFormed config.toJson := by
  refine .ofMembers fun m hm => ?_
  simp only [List.mem_cons, List.not_mem_nil, or_false] at hm
  rcases hm with rfl | rfl | rfl
  · exact .ofText? _
  · exact .ofText? _
  · exact wellFormed_orNull LabelsConfig.wellFormed_toJson _

lemma GlobalConfig.wellFormed_toJson (config : GlobalConfig) : WellFormed config.toJson := by
  refine .ofMembers fun m hm => ?_
  simp only [List.mem_cons, List.not_mem_nil, or_false] at hm
  rcases hm with rfl | rfl
  · exact .ofText? _
  · exact .ofText? _

/-! ## Foreign keys -/

/-- The levels of the settings: those of a user and of a repository, the settings for labels within
the latter, and the entries of the tables in these. -/
inductive ConfigLevel where
  | user
  | repository
  | labels
  | rule

namespace ConfigLevel

/-- The form of the records of a level. -/
def form (exact : Bool) : ConfigLevel → Form
  | user => GlobalConfig.form exact
  | repository => RepoConfig.form exact
  | labels => LabelsConfig.form exact
  | rule => RuleConfig.form exact

/-- A value says settings of a level. -/
def IsSaid (exact : Bool) : ConfigLevel → Json → Prop
  | user, v => ∃ config, (GlobalConfig.form exact).IsRecord GlobalConfig.InMembers v config
  | repository, v =>
    ∃ config, (RepoConfig.form exact).IsRecord (RepoConfig.InMembers exact) v config
  | labels, v =>
    ∃ config, (LabelsConfig.form exact).IsRecord (LabelsConfig.InMembers exact) v config
  | rule, v => ∃ config, (RuleConfig.form exact).IsRecord RuleConfig.InMembers v config

/-- The second value is the first one with one more member, whose key names no setting of the level
where it stands: the outermost one, or one below. -/
inductive AddsKey : ConfigLevel → Json → Json → Prop where
  | here {level : ConfigLevel} {before after : List (Option String × Json)} {key : Option String}
      {v : Json} : (∀ name, key = some name → (level.form true).knows name = false) →
      AddsKey level (.object (before ++ after)) (.object (before ++ (key, v) :: after))
  | labels {before after : List (Option String × Json)} {v w : Json} : AddsKey .labels v w →
      AddsKey .repository (.object (before ++ (some "labels", v) :: after))
        (.object (before ++ (some "labels", w) :: after))
  | rule {before after : List (Option String × Json)} {table : String} {entries more : List Json}
      {v w : Json} : table = "exclusive" ∨ table = "inclusive" → AddsKey .rule v w →
      AddsKey .labels (.object (before ++ (some table, .array (entries ++ v :: more)) :: after))
        (.object (before ++ (some table, .array (entries ++ w :: more)) :: after))

variable {level : ConfigLevel} {v w : Json}

/-- What says settings of a level writes a record of the form of the level. -/
lemma exists_writes (h : level.IsSaid exact v) :
    ∃ members, (level.form exact).Writes v members := by
  -- At every level what is said is said by a record of its form.
  cases level <;>
  · obtain ⟨_, members, hwrites, -⟩ := h
    exact ⟨members, hwrites⟩

lemma closed_form (level : ConfigLevel) : (level.form exact).closed = true := by
  cases level <;> rfl

lemma knows_form (level : ConfigLevel) (name : String) :
    (level.form exact).knows name = (level.form true).knows name := by
  cases level <;> rfl

lemma AddsKey.ne_null (h : level.AddsKey v w) : w ≠ .null := by
  cases h <;> nofun

/-- The settings of a repository need what their member for labels says. -/
lemma isSaid_labels {before after : List (Option String × Json)}
    (h : repository.IsSaid exact (.object (before ++ (some "labels", v) :: after)))
    (hnull : v ≠ .null) : labels.IsSaid exact v := by
  obtain ⟨config, members, hwrites, hstated⟩ := h
  obtain ⟨name, ⟨⟩, hmem, -⟩ := mem_of_writes_object hwrites
    (List.mem_append_right before List.mem_cons_self)
  exact exists_of_states hstated.labels (mem_valuesOf.2 hmem) hnull

/-- The settings for labels need what the entries of their tables say. -/
lemma isSaid_rule {before after : List (Option String × Json)} {table : String}
    {entries more : List Json} (htable : table = "exclusive" ∨ table = "inclusive")
    (h : labels.IsSaid exact
      (.object (before ++ (some table, .array (entries ++ v :: more)) :: after))) :
    rule.IsSaid exact v := by
  obtain ⟨config, members, hwrites, hstated⟩ := h
  obtain ⟨name, ⟨⟩, hmem, -⟩ := mem_of_writes_object hwrites
    (List.mem_append_right before List.mem_cons_self)
  have said : ∃ rules, RuleConfig.InTable exact (.array (entries ++ v :: more)) rules := by
    rcases htable with rfl | rfl
    · exact exists_of_states hstated.exclusive (mem_valuesOf.2 hmem) nofun
    · exact exists_of_states hstated.inclusive (mem_valuesOf.2 hmem) nofun
  obtain ⟨rules, hrules⟩ := said
  exact exists_of_isList hrules (List.mem_append_right entries List.mem_cons_self)

/-- A value with a key that names no setting says no settings. -/
lemma AddsKey.not_isSaid (h : level.AddsKey v w) : ¬ level.IsSaid exact w := by
  induction h with
  | @here level before after key v hkey =>
    intro hsaid
    obtain ⟨members, hwrites⟩ := exists_writes hsaid
    obtain ⟨name, rfl, -, hknows⟩ := mem_of_writes_object hwrites
      (List.mem_append_right before List.mem_cons_self)
    have known := hknows level.closed_form
    rw [knows_form, hkey name rfl] at known
    cases known
  | labels hinner ih => exact fun hsaid => ih (isSaid_labels hsaid hinner.ne_null)
  | rule htable _ ih => exact fun hsaid => ih (isSaid_rule htable hsaid)

end ConfigLevel

/-! ## Writing and reading back -/

/-- Settings survive being written.  Their text is read back as the same settings, with the same
outcome of the check, and a value with a foreign key at any level is not read, whatever text it is
written as. -/
structure Survives {α β : Type} (level : ConfigLevel) (toJson : α → Json)
    (ofJson? : Json → Option α) (check : α → β) (config : α) : Prop where
  readBack : (Json.ofString? (toJson config).print).bind ofJson? = some config
  sameOutcome : ((Json.ofString? (toJson config).print).bind ofJson?).map check =
    some (check config)
  refused : ∀ w, level.AddsKey (toJson config) w → ofJson? w = none ∧
    ∀ text : String, w.WrittenAs (text.toList.map some) →
      (Json.ofString? text).bind ofJson? = none

/-- Settings survive if what is read is what is said, and they say themselves when they are
written. -/
lemma survives_of_says (exact : Bool) {α β : Type} {level : ConfigLevel} {toJson : α → Json}
    {ofJson? : Json → Option α} {Says : Json → α → Prop} {config : α} (check : α → β)
    (hiff : ∀ v config, ofJson? v = some config ↔ Says v config)
    (hlevel : ∀ v config, Says v config → level.IsSaid exact v)
    (hwritten : WellFormed (toJson config)) (hstated : Says (toJson config) config) :
    Survives level toJson ofJson? check config := by
  have readBack : (Json.ofString? (toJson config).print).bind ofJson? = some config := by
    rw [ofString?_print hwritten, Option.bind_some]
    exact (hiff _ _).2 hstated
  refine ⟨readBack, by rw [readBack, Option.map_some], fun w hw => ?_⟩
  have refused : ofJson? w = none := by
    refine Option.eq_none_iff_forall_ne_some.2 fun other hother => ?_
    exact hw.not_isSaid (hlevel w other ((hiff w other).1 hother))
  refine ⟨refused, fun text htext => ?_⟩
  rw [ofString?_eq_some_iff.2 htext, Option.bind_some, refused]

/-- All settings survive being written: those of a user, of a repository, for labels, and every
entry of a table. -/
theorem settings_survive (exact : Bool) :
    (∀ config : GlobalConfig, Survives .user GlobalConfig.toJson (GlobalConfig.ofJson? exact)
      GlobalConfig.validate config) ∧
    (∀ config : RepoConfig, config.InRange → Survives .repository RepoConfig.toJson
      (RepoConfig.ofJson? exact) RepoConfig.validate config) ∧
    (∀ config : LabelsConfig, config.InRange → Survives .labels LabelsConfig.toJson
      (LabelsConfig.ofJson? exact) LabelsConfig.validate config) ∧
    ∀ config : RuleConfig, Survives .rule RuleConfig.toJson (RuleConfig.ofJson? exact)
      RuleConfig.compile config := by
  refine ⟨fun config => ?_, fun config hrange => ?_, fun config hrange => ?_, fun config => ?_⟩
  · exact survives_of_says exact _ GlobalConfig.ofJson?_eq_some_iff (fun v config h => ⟨config, h⟩)
      config.wellFormed_toJson config.isRecord_toJson
  · exact survives_of_says exact _ RepoConfig.ofJson?_eq_some_iff (fun v config h => ⟨config, h⟩)
      config.wellFormed_toJson (RepoConfig.isRecord_toJson hrange)
  · exact survives_of_says exact _ LabelsConfig.ofJson?_eq_some_iff (fun v config h => ⟨config, h⟩)
      config.wellFormed_toJson (LabelsConfig.isRecord_toJson hrange)
  · exact survives_of_says exact _ RuleConfig.ofJson?_eq_some_iff (fun v config h => ⟨config, h⟩)
      config.wellFormed_toJson config.isRecord_toJson

/-- Settings of a repository with a rule in each table. -/
def exampleSettings : RepoConfig where
  repo := some "nodejs/node"
  codeownersPath := none
  labels := some {
    maxLabels := some 5
    subsystems := none
    exclusive := some [⟨none, some "deps/*/**", none, ["dependencies", "$1"]⟩]
    inclusive := some [⟨some "^src/", none, some "^src/node_version\\.h", ["c++"]⟩] }

/-- The same with a key `name` in the second rule. -/
def exampleSettingsWithKey : Json :=
  Json.ofMembers [
    ("repo", .text "nodejs/node"),
    ("codeowners_path", .null),
    ("labels", Json.ofMembers [
      ("max_labels", .natural 5),
      ("subsystems", .null),
      ("exclusive", .array [Json.ofMembers [("glob", .text "deps/*/**"),
        ("labels", .ofTexts ["dependencies", "$1"])]]),
      ("inclusive", .array [Json.ofMembers [("pattern", .text "^src/"), ("name", .text "src"),
        ("exclude", .text "^src/node_version\\.h"), ("labels", .ofTexts ["c++"])]])])]

lemma exampleSettings_addsKey :
    ConfigLevel.repository.AddsKey exampleSettings.toJson exampleSettingsWithKey := by
  have key : ConfigLevel.rule.AddsKey
      (RuleConfig.toJson ⟨some "^src/", none, some "^src/node_version\\.h", ["c++"]⟩)
      (Json.ofMembers [("pattern", .text "^src/"), ("name", .text "src"),
        ("exclude", .text "^src/node_version\\.h"), ("labels", .ofTexts ["c++"])]) := by
    refine @ConfigLevel.AddsKey.here .rule [_] [_, _] (some "name") (.text "src") ?_
    rintro name ⟨⟩
    decide
  exact @ConfigLevel.AddsKey.labels [_, _] [] _ _
    (@ConfigLevel.AddsKey.rule [_, _, _] [] "inclusive" [] [] _ _ (.inr rfl) key)

theorem exampleSettings_survive :
    exampleSettings.InRange ∧
    (Json.ofString? exampleSettings.toJson.print).bind (RepoConfig.ofJson? true) =
      some exampleSettings ∧
    ConfigLevel.repository.AddsKey exampleSettings.toJson exampleSettingsWithKey ∧
    RepoConfig.ofJson? true exampleSettingsWithKey = none := by
  have range : exampleSettings.InRange := by
    rintro labels ⟨⟩ cap ⟨⟩
    decide
  have survives := (settings_survive true).2.1 exampleSettings range
  exact ⟨range, survives.readBack, exampleSettings_addsKey,
    (survives.refused _ exampleSettings_addsKey).1⟩

end PullTriage
