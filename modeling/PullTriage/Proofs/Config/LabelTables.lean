import PullTriage.Config.Basic
import PullTriage.Proofs.Label.Making

/-!
# The tables of the settings for labels

The tables are compiled twice: once when the settings are checked, where the rules are thrown away,
and again when the classifier is made.  The two ways agree (`validate_eq_discard`), because each is
the same sequence of computations up to what is done with the results; a table that is not set cannot
fail in either.

What a table gives is said entry by entry.  `RuleConfig.Compiles` lists the ways in which compiling
one entry ends, and exactly one of them is open (`compile_eq_iff`).  A table then gives the rules of
its entries, each in its place, or the error of the first entry that makes none.

Both ways compile patterns by `Regex.compile`, so limits of a compiler to the nesting or to the size
of an expression, which it does not have, would be met on both alike.
-/

namespace PullTriage

/-! ## One entry -/

namespace LabelRule

lemma excluding_of_invalid {exclude : String} (h : Regex.compile exclude = none)
    (rule : LabelRule) : rule.excluding exclude =
      .error (.invalidPattern exclude (Regex.complaint exclude)) := by
  rw [excluding, compilePattern, h]
  rfl

lemma excluding_of_compile {exclude : String} {regex : Regex}
    (h : Regex.compile exclude = some regex) (rule : LabelRule) :
    rule.excluding exclude = .ok { rule with exclude := some regex } := by
  rw [excluding, compilePattern, h]
  rfl

end LabelRule

namespace RuleConfig

/-- The regular expression of an entry: the pattern, or what the glob stands for. -/
inductive MatchesBy (entry : RuleConfig) : String → Prop where
  | pattern {pattern : String} : entry.pattern = some pattern → entry.glob = none →
      MatchesBy entry pattern
  | glob {glob : String} : entry.pattern = none → entry.glob = some glob →
      MatchesBy entry (Glob.translateRelative glob)

/-- The ways in which compiling an entry, which stands in a table at an index, ends. -/
inductive Compiles (entry : RuleConfig) (table : String) (index : Nat) :
    Except ValueError LabelRule → Prop where
  /-- A pattern and a glob are both there, or both missing. -/
  | notOneMatcher : entry.pattern.isSome = entry.glob.isSome →
      Compiles entry table index (.error (.invalidValue ("labels." ++ table ++ "["
        ++ toString index ++ "] must set exactly one of `pattern` or `glob`")))
  | badRule {pattern : String} {cause : RuleError} : entry.MatchesBy pattern →
      LabelRule.Makes pattern entry.labels (.error cause) →
      Compiles entry table index (.error (.invalidRule table index cause))
  | badExclude {pattern exclude : String} {rule : LabelRule} : entry.MatchesBy pattern →
      LabelRule.Makes pattern entry.labels (.ok rule) →
      entry.exclude = some exclude → Regex.compile exclude = none →
      Compiles entry table index
        (.error (.invalidRule table index (.invalidPattern exclude (Regex.complaint exclude))))
  | rule {pattern : String} {rule : LabelRule} : entry.MatchesBy pattern →
      LabelRule.Makes pattern entry.labels (.ok rule) → entry.exclude = none →
      Compiles entry table index (.ok rule)
  | narrowedRule {pattern exclude : String} {rule : LabelRule} {regex : Regex} :
      entry.MatchesBy pattern → LabelRule.Makes pattern entry.labels (.ok rule) →
      entry.exclude = some exclude → Regex.compile exclude = some regex →
      Compiles entry table index (.ok { rule with exclude := some regex })

variable {entry : RuleConfig} {table : String} {index : Nat}

lemma matchesBy_or (entry : RuleConfig) :
    (∃ pattern, entry.MatchesBy pattern) ∨ entry.pattern.isSome = entry.glob.isSome := by
  rcases entry with ⟨_ | pattern, _ | glob, exclude, labels⟩
  · exact .inr rfl
  · exact .inl ⟨_, .glob rfl rfl⟩
  · exact .inl ⟨_, .pattern rfl rfl⟩
  · exact .inr rfl

/-- An entry with one matcher is compiled as an entry of a built-in table, and an error has the
place put to it. -/
lemma compile_of_matchesBy {pattern : String} (h : entry.MatchesBy pattern) :
    entry.compile table index =
      (LabelClassifier.Entry.rule ⟨pattern, entry.labels, entry.exclude⟩).mapError
        (.invalidRule table index) := by
  rcases entry with ⟨_, _, exclude, labels⟩
  cases h with
  | pattern hpattern hglob =>
    cases hpattern
    cases hglob
    dsimp only [compile, LabelClassifier.Entry.rule]
    cases LabelRule.ofPattern pattern labels <;> cases exclude <;> rfl
  | @glob glob hpattern hglob =>
    cases hpattern
    cases hglob
    dsimp only [compile, LabelClassifier.Entry.rule, LabelRule.ofGlob]
    cases LabelRule.ofPattern (Glob.translateRelative glob) labels <;> cases exclude <;> rfl

lemma compile_of_isSome_eq (h : entry.pattern.isSome = entry.glob.isSome) :
    entry.compile table index = .error (.invalidValue ("labels." ++ table ++ "["
      ++ toString index ++ "] must set exactly one of `pattern` or `glob`")) := by
  rcases entry with ⟨_ | pattern, _ | glob, exclude, labels⟩
  · rfl
  · cases h
  · cases h
  · rfl

lemma compiles_compile (entry : RuleConfig) (table : String) (index : Nat) :
    entry.Compiles table index (entry.compile table index) := by
  rcases entry.matchesBy_or with ⟨pattern, hmatches⟩ | hsame
  · rw [compile_of_matchesBy hmatches, LabelClassifier.Entry.rule]
    cases hmade : LabelRule.ofPattern pattern entry.labels with
    | error cause => exact .badRule hmatches (LabelRule.ofPattern_eq_iff.1 hmade)
    | ok rule =>
      have makes := LabelRule.ofPattern_eq_iff.1 hmade
      cases hexclude : entry.exclude with
      | none => exact .rule hmatches makes hexclude
      | some exclude =>
        change Compiles entry table index ((rule.excluding exclude).mapError _)
        cases hregex : Regex.compile exclude with
        | none =>
          rw [LabelRule.excluding_of_invalid hregex]
          exact .badExclude hmatches makes hexclude hregex
        | some regex =>
          rw [LabelRule.excluding_of_compile hregex]
          exact .narrowedRule hmatches makes hexclude hregex
  · rw [compile_of_isSome_eq hsame]
    exact .notOneMatcher hsame

lemma Compiles.compile_eq {outcome : Except ValueError LabelRule}
    (h : entry.Compiles table index outcome) : entry.compile table index = outcome := by
  cases h with
  | notOneMatcher hsame => exact compile_of_isSome_eq hsame
  | badRule hmatches hmakes =>
    rw [compile_of_matchesBy hmatches, LabelClassifier.Entry.rule, hmakes.ofPattern_eq]
    rfl
  | badExclude hmatches hmakes hexclude hregex =>
    rw [compile_of_matchesBy hmatches, LabelClassifier.Entry.rule, hmakes.ofPattern_eq, hexclude]
    exact congrArg (Except.mapError _) (LabelRule.excluding_of_invalid hregex _)
  | rule hmatches hmakes hexclude =>
    rw [compile_of_matchesBy hmatches, LabelClassifier.Entry.rule, hmakes.ofPattern_eq, hexclude]
    rfl
  | narrowedRule hmatches hmakes hexclude hregex =>
    rw [compile_of_matchesBy hmatches, LabelClassifier.Entry.rule, hmakes.ofPattern_eq, hexclude]
    exact congrArg (Except.mapError _) (LabelRule.excluding_of_compile hregex _)

/-- Compiling an entry ends in one way. -/
lemma compile_eq_iff {outcome : Except ValueError LabelRule} :
    entry.compile table index = outcome ↔ entry.Compiles table index outcome := by
  constructor
  · rintro rfl
    exact compiles_compile entry table index
  · exact Compiles.compile_eq

end RuleConfig

/-- The place of an entry, as the texts of errors write it. -/
def entryPlace (table : String) (index : Nat) : String :=
  "labels." ++ table ++ "[" ++ toString index ++ "]"

/-- The text of an error names an entry of a table. -/
def ValueError.Names (e : ValueError) (table : String) (index : Nat) : Prop :=
  ∃ before after, e.message = before ++ entryPlace table index ++ after

lemma RuleConfig.Compiles.names {entry : RuleConfig} {table : String} {index : Nat} {e : ValueError}
    (h : entry.Compiles table index (.error e)) : e.Names table index := by
  have invalidRule_names (cause : RuleError) :
      (ValueError.invalidRule table index cause).Names table index := by
    have opening : "invalid rule labels." = "invalid rule " ++ "labels." := by decide
    have closing : "]: " = "]" ++ ": " := by decide
    refine ⟨"invalid rule ", ": " ++ cause.message, ?_⟩
    change "invalid rule labels." ++ table ++ "[" ++ toString index ++ "]: " ++ cause.message = _
    rw [entryPlace, opening, closing]
    simp only [String.append_assoc]
  cases h with
  | notOneMatcher hsame =>
    have closing : "] must set exactly one of `pattern` or `glob`" =
        "]" ++ " must set exactly one of `pattern` or `glob`" := by decide
    refine ⟨"invalid config value: ", " must set exactly one of `pattern` or `glob`", ?_⟩
    change "invalid config value: " ++ ("labels." ++ table ++ "[" ++ toString index
      ++ "] must set exactly one of `pattern` or `glob`") = _
    rw [entryPlace, closing]
    simp only [String.append_assoc]
  | badRule => exact invalidRule_names _
  | badExclude => exact invalidRule_names _

/-! ## A table -/

/-- Every entry of a table makes a rule in its place. -/
def TableCompiles (table : String) (entries : List RuleConfig) : Prop :=
  ∀ index (entry : RuleConfig), entries[index]? = some entry →
    ∃ rule, entry.Compiles table index (.ok rule)

/-- The first bad entry of a table, by its index, and the error. -/
def FirstBadEntry (table : String) (entries : List RuleConfig) (index : Nat) (e : ValueError) :
    Prop :=
  ∃ before entry after, entries = before ++ entry :: after ∧ before.length = index ∧
    TableCompiles table before ∧ entry.Compiles table index (.error e)

/-- The rules of a table: as many as it has entries, and each that of the entry in its place. -/
def CompiledRules (table : String) (entries : List RuleConfig) (rules : List LabelRule) : Prop :=
  rules.length = entries.length ∧ ∀ index (entry : RuleConfig) rule, entries[index]? = some entry →
    rules[index]? = some rule → entry.Compiles table index (.ok rule)

section Table

variable {table : String} {entries : List RuleConfig} {index : Nat}

lemma compileRules_eq_ok_iff {rules : List LabelRule} :
    compileRules table entries = .ok rules ↔ CompiledRules table entries rules := by
  rw [compileRules, Except.mapM_zipIdx_eq_ok_iff, CompiledRules]
  simp only [RuleConfig.compile_eq_iff]

lemma exists_compileRules_eq_ok_iff :
    (∃ rules, compileRules table entries = .ok rules) ↔ TableCompiles table entries := by
  rw [compileRules, Except.exists_mapM_eq_ok_iff, Except.forall_mem_zipIdx_iff, TableCompiles]
  simp only [RuleConfig.compile_eq_iff]

lemma compileRules_eq_error_iff {e : ValueError} :
    compileRules table entries = .error e ↔ ∃ index, FirstBadEntry table entries index e := by
  rw [compileRules, Except.mapM_eq_error_iff, Except.firstFails_zipIdx_iff]
  simp only [RuleConfig.compile_eq_iff]
  constructor
  · rintro ⟨before, entry, after, heq, hbefore, hbad⟩
    exact ⟨before.length, before, entry, after, heq, rfl, hbefore, hbad⟩
  · rintro ⟨_, before, entry, after, heq, rfl, hbefore, hbad⟩
    exact ⟨before, entry, after, heq, hbefore, hbad⟩

lemma FirstBadEntry.names {e : ValueError} (h : FirstBadEntry table entries index e) :
    e.Names table index := by
  obtain ⟨before, entry, after, -, -, -, hbad⟩ := h
  exact hbad.names

end Table

/-! ## The settings -/

/-- The rules for a table: those of its entries, or the built-in ones if it is not set. -/
def RulesFor (table : String) (builtin : List LabelRule) (entries : Option (List RuleConfig))
    (rules : List LabelRule) : Prop :=
  match entries with
  | some entries => CompiledRules table entries rules
  | none => rules = builtin

section Table

variable {table : String} {builtin : List LabelRule} {set : Option (List RuleConfig)}

lemma rules_eq_ok_iff {rules : List LabelRule} :
    (set.map (compileRules table)).getD (.ok builtin) = .ok rules ↔
      RulesFor table builtin set rules := by
  cases set with
  | none => exact ⟨fun h => (Except.ok.inj h).symm, fun h => congrArg Except.ok h.symm⟩
  | some entries => exact compileRules_eq_ok_iff

lemma exists_rulesFor_iff :
    (∃ rules, RulesFor table builtin set rules) ↔
      ∀ entries, set = some entries → TableCompiles table entries := by
  cases set with
  | none => exact ⟨nofun, fun _ => ⟨builtin, rfl⟩⟩
  | some entries =>
    simp only [RulesFor, ← compileRules_eq_ok_iff, exists_compileRules_eq_ok_iff]
    simp

lemma rules_eq_error_iff {e : ValueError} :
    (set.map (compileRules table)).getD (.ok builtin) = .error e ↔
      ∃ entries index, set = some entries ∧ FirstBadEntry table entries index e := by
  cases set with
  | none => exact ⟨nofun, nofun⟩
  | some entries =>
    rw [Option.map_some, Option.getD_some, compileRules_eq_error_iff]
    simp

end Table

namespace LabelsConfig

/-- The first bad entry of the settings, by its table and index, and the error.  The inclusive table
is only looked at if every entry of the exclusive one makes a rule. -/
inductive FirstBad (labels : LabelsConfig) : String → Nat → ValueError → Prop where
  | exclusive {entries : List RuleConfig} {index : Nat} {e : ValueError} :
      labels.exclusive = some entries → FirstBadEntry "exclusive" entries index e →
      FirstBad labels "exclusive" index e
  | inclusive {entries : List RuleConfig} {index : Nat} {e : ValueError} :
      (∀ others, labels.exclusive = some others → TableCompiles "exclusive" others) →
      labels.inclusive = some entries → FirstBadEntry "inclusive" entries index e →
      FirstBad labels "inclusive" index e

/-- The classifier has what is set, and for each part that is not set the built-in one. -/
structure Gives (labels : LabelsConfig) (classifier : LabelClassifier) : Prop where
  exclusive : RulesFor "exclusive" LabelClassifier.builtin.exclusive labels.exclusive
    classifier.exclusive
  inclusive : RulesFor "inclusive" LabelClassifier.builtin.inclusive labels.inclusive
    classifier.inclusive
  subsystems : classifier.subsystems = labels.subsystems.getD LabelClassifier.builtin.subsystems
  maxLabels : classifier.maxLabels = labels.maxLabels.getD LabelClassifier.builtin.maxLabels

variable {labels : LabelsConfig}

lemma FirstBad.names {table : String} {index : Nat} {e : ValueError}
    (h : labels.FirstBad table index e) : e.Names table index := by
  cases h with
  | exclusive _ hfirst => exact hfirst.names
  | inclusive _ _ hfirst => exact hfirst.names

/-- The check is the making of the classifier, without the classifier. -/
lemma validate_eq_discard (hcap : labels.maxLabels ≠ some 0) :
    labels.validate = discard labels.classifier := by
  have check_eq_discard (table : String) (builtin : List LabelRule)
      (set : Option (List RuleConfig)) :
      set.forM (fun rules => discard (compileRules table rules)) =
        discard ((set.map (compileRules table)).getD (.ok builtin)) := by
    cases set <;> rfl
  rw [validate, if_neg hcap, classifier,
    check_eq_discard "exclusive" LabelClassifier.builtin.exclusive,
    check_eq_discard "inclusive" LabelClassifier.builtin.inclusive]
  cases (labels.exclusive.map (compileRules "exclusive")).getD
      (.ok LabelClassifier.builtin.exclusive) with
  | error e => rfl
  | ok exclusive =>
    cases (labels.inclusive.map (compileRules "inclusive")).getD
        (.ok LabelClassifier.builtin.inclusive) with
    | error e => rfl
    | ok inclusive => rfl

lemma classifier_eq_error_iff {e : ValueError} :
    labels.classifier = .error e ↔ ∃ table index, labels.FirstBad table index e := by
  rw [classifier, Except.bind_eq_error_iff]
  simp only [Except.bind_eq_error_iff, rules_eq_error_iff, rules_eq_ok_iff]
  constructor
  · rintro (⟨entries, index, hset, hfirst⟩ |
      ⟨exclusive, hexclusive, ⟨entries, index, hset, hfirst⟩ | ⟨_, _, hmade⟩⟩)
    · exact ⟨"exclusive", index, .exclusive hset hfirst⟩
    · exact ⟨"inclusive", index, .inclusive (exists_rulesFor_iff.1 ⟨exclusive, hexclusive⟩) hset
        hfirst⟩
    · nomatch hmade
  · rintro ⟨_, index, ⟨hset, hfirst⟩ | ⟨hcompiles, hset, hfirst⟩⟩
    · exact .inl ⟨_, index, hset, hfirst⟩
    · obtain ⟨exclusive, hexclusive⟩ := exists_rulesFor_iff.2 hcompiles
      exact .inr ⟨exclusive, hexclusive, .inl ⟨_, index, hset, hfirst⟩⟩

/-- A cap that is not zero is not changed. -/
lemma max_cap_one (hcap : labels.maxLabels ≠ some 0) :
    max (labels.maxLabels.getD LabelClassifier.builtin.maxLabels) 1 =
      labels.maxLabels.getD LabelClassifier.builtin.maxLabels := by
  cases hmax : labels.maxLabels with
  | none => rfl
  | some cap =>
    rw [hmax, ne_eq, Option.some.injEq] at hcap
    exact max_eq_left (Nat.one_le_iff_ne_zero.2 hcap)

lemma classifier_eq_ok_iff (hcap : labels.maxLabels ≠ some 0) {classifier : LabelClassifier} :
    labels.classifier = .ok classifier ↔ labels.Gives classifier := by
  rw [LabelsConfig.classifier, Except.bind_eq_ok_iff]
  simp only [Except.bind_eq_ok_iff, rules_eq_ok_iff]
  constructor
  · rintro ⟨exclusive, hexclusive, inclusive, hinclusive, hmade⟩
    obtain rfl := Except.ok.inj hmade
    exact ⟨hexclusive, hinclusive, rfl, max_cap_one hcap⟩
  · rintro ⟨hexclusive, hinclusive, hsubsystems, hmax⟩
    refine ⟨classifier.exclusive, hexclusive, classifier.inclusive, hinclusive, congrArg _ ?_⟩
    cases classifier
    dsimp only at hsubsystems hmax
    subst hsubsystems hmax
    simp only [LabelClassifier.withMaxLabels, LabelClassifier.ofTables, max_cap_one hcap]

end LabelsConfig

/-- Settings for labels whose cap is not zero pass the check exactly if they make a classifier, and
the error is the same otherwise.  It is that of the first bad entry of the exclusive table, or if
there is none of the inclusive table, and its text names the place.  The classifier has the rules
of the entries where a table is set, and the built-in part for each part that is not. -/
theorem Config.classifier_exact {config : Config} {labels : LabelsConfig}
    (hlabels : config.repo.bind (·.labels) = some labels) (hcap : labels.maxLabels ≠ some 0) :
    (labels.validate = .ok () ↔ ∃ classifier, config.classifier = .ok classifier) ∧
      (∀ e, labels.validate = .error e ↔ config.classifier = .error e) ∧
      (∀ e, config.classifier = .error e ↔ ∃ table index, labels.FirstBad table index e) ∧
      (∀ table index e, labels.FirstBad table index e → e.Names table index) ∧
      ∀ classifier, config.classifier = .ok classifier ↔ labels.Gives classifier := by
  have hclassifier : config.classifier = labels.classifier := by rw [classifier, hlabels]
  rw [hclassifier, LabelsConfig.validate_eq_discard hcap]
  exact ⟨Except.discard_eq_ok_iff, fun e => Except.discard_eq_error_iff,
    fun e => LabelsConfig.classifier_eq_error_iff,
    fun table index e => LabelsConfig.FirstBad.names,
    fun made => LabelsConfig.classifier_eq_ok_iff hcap⟩

/-- A configuration with settings for labels: an exclusive table without entries, and an inclusive
one. -/
def exampleConfig (entries : List RuleConfig) : Config :=
  { repo := some ⟨none, none, some ⟨none, none, some [], some entries⟩⟩ }

/-- The second entry refers to a group that its pattern does not have.  Without it there is a
classifier, and what the settings leave open is built in. -/
theorem Config.classifier_exact_dependencies :
    let dependency : RuleConfig := ⟨none, some "deps/*/**", some "^deps/npm/", ["$1"]⟩
    let bad : RuleConfig := ⟨some "^deps/", none, none, ["$1"]⟩
    (∃ classifier, (exampleConfig [dependency]).classifier = .ok classifier ∧
      classifier.exclusive = [] ∧ classifier.inclusive.length = 1 ∧
      classifier.subsystems = LabelClassifier.subsystemNames ∧ classifier.maxLabels = 5) ∧
    (exampleConfig [dependency, bad]).classifier =
      .error (.invalidRule "inclusive" 1 (.missingGroup "$1" 1 "^deps/" 0)) := by
  intro dependency bad
  let labels (entries : List RuleConfig) : LabelsConfig := ⟨none, none, some [], some entries⟩
  have hlabels (entries : List RuleConfig) :
      (exampleConfig entries).repo.bind (·.labels) = some (labels entries) := rfl
  have hcap (entries : List RuleConfig) : (labels entries).maxLabels ≠ some 0 := nofun
  have hvalid : (labels [dependency]).validate = .ok () := by decide +kernel
  have hinvalid : (labels [dependency, bad]).validate =
      .error (.invalidRule "inclusive" 1 (.missingGroup "$1" 1 "^deps/" 0)) := by decide +kernel
  constructor
  · obtain ⟨hok, -, -, -, hgives⟩ := Config.classifier_exact (hlabels [dependency]) (hcap _)
    obtain ⟨classifier, hclassifier⟩ := hok.1 hvalid
    obtain ⟨⟨hexclusive, -⟩, ⟨hinclusive, -⟩, hsubsystems, hmax⟩ := (hgives classifier).1 hclassifier
    exact ⟨classifier, hclassifier, List.eq_nil_of_length_eq_zero hexclusive, hinclusive,
      hsubsystems, hmax⟩
  · obtain ⟨-, herror, -⟩ := Config.classifier_exact (hlabels [dependency, bad]) (hcap _)
    exact (herror _).1 hinvalid

end PullTriage
