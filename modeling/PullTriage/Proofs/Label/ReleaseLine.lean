import PullTriage.Label.ReleaseLine
import PullTriage.Proofs.Regex.Beginning
import PullTriage.Proofs.Regex.Captures
import Mathlib.Data.List.TakeWhile

/-!
# Release lines

The branches of a release line begin with its version, and behind the version there is nothing or
`-staging`.  A branch has one release line at most: the digits of a version cannot be cut shorter,
since a digit is none of the characters that may stand behind them.  So a scan that always takes all
the digits finds it (`releaseLine?_eq_some_iff`).

For the same reason it makes no difference in which order an expression tries the digits.  The
branches are those that `^(v?\d+\.(?:\d+|x))(?:-staging|$)` matches, and the release line is the
group of the match (`group_search_releaseBranch_iff`).
-/

namespace PullTriage

open Regex

/-! ## Versions -/

/-- Decimal digits of any script and nothing else, one at least. -/
def IsDigits (text : List Char) : Prop :=
  text ≠ [] ∧ ∀ c ∈ text, isDecimalDigit c = true

/-- A release line: an optional `v`, digits, a dot, and then either digits or a single `x`. -/
def IsReleaseLine (line : List Char) : Prop :=
  ∃ mark major minor, line = mark ++ major ++ '.' :: minor ∧ (mark = [] ∨ mark = ['v']) ∧
    IsDigits major ∧ (IsDigits minor ∨ minor = ['x'])

lemma isDigits_takeWhile {text : List Char} (h : text.takeWhile isDecimalDigit ≠ []) :
    IsDigits (text.takeWhile isDecimalDigit) := by
  refine ⟨h, ?_⟩
  intro c hc
  exact List.mem_takeWhile_imp hc

lemma minorVersion_prefix (text : List Char) : minorVersion text <+: text := by
  unfold minorVersion
  split
  · exact ⟨_, rfl⟩
  · exact List.takeWhile_prefix _

lemma isDigits_or_eq_of_minorVersion {text : List Char} (h : minorVersion text ≠ []) :
    IsDigits (minorVersion text) ∨ minorVersion text = ['x'] := by
  unfold minorVersion at h ⊢
  split at h
  · exact .inr rfl
  · exact .inl (isDigits_takeWhile h)

lemma take_takeWhile_v (text : List Char) :
    (text.takeWhile (· == 'v')).take 1 = [] ∨ (text.takeWhile (· == 'v')).take 1 = ['v'] := by
  cases text with
  | nil => exact .inl rfl
  | cons c text =>
    by_cases hc : c = 'v'
    · simp [hc]
    · simp [hc]

/-- The release line of a branch is a version, and nothing or `-staging` stands behind it. -/
lemma isReleaseLine_of_releaseLine? {branch line : String} (h : releaseLine? branch = some line) :
    IsReleaseLine line.toList ∧ ∃ tail, branch.toList = line.toList ++ tail ∧
      (tail = [] ∨ "-staging".toList <+: tail) := by
  have hmark := take_takeWhile_v branch.toList
  have front : (branch.toList.takeWhile (· == 'v')).take 1 <+: branch.toList :=
    (List.take_prefix _ _).trans (List.takeWhile_prefix _)
  unfold releaseLine? at h
  dsimp only at h
  generalize (branch.toList.takeWhile (· == 'v')).take 1 = mark at h hmark front
  have hmajor : (branch.toList.drop mark.length).takeWhile isDecimalDigit <+:
      branch.toList.drop mark.length := List.takeWhile_prefix _
  have digits (hne : (branch.toList.drop mark.length).takeWhile isDecimalDigit ≠ []) :=
    isDigits_takeWhile hne
  generalize (branch.toList.drop mark.length).takeWhile isDecimalDigit = major
    at h hmajor digits
  split at h
  case h_2 => cases h
  case h_1 rest hrest =>
    have hminor := minorVersion_prefix rest
    by_cases hempty : major.isEmpty || (minorVersion rest).isEmpty
    · simp [hempty] at h
    · rw [if_neg hempty] at h
      simp only [Bool.or_eq_true, List.isEmpty_iff, not_or] at hempty
      have hbranch : branch.toList = mark ++ major ++ '.' :: rest := by
        rw [← hrest, ← List.drop_drop, List.append_assoc, ← List.prefix_append_drop hmajor,
          ← List.prefix_append_drop front]
      split at h
      case isFalse => cases h
      case isTrue htail =>
        obtain rfl := Option.some.inj h
        rw [String.toList_ofList]
        refine ⟨⟨mark, major, minorVersion rest, rfl, hmark, digits hempty.1,
          isDigits_or_eq_of_minorVersion hempty.2⟩, rest.drop (minorVersion rest).length, ?_, ?_⟩
        · rw [hbranch, List.append_assoc _ _ (List.drop _ _), List.cons_append,
            ← List.prefix_append_drop hminor]
        · rw [Bool.or_eq_true, List.isEmpty_iff] at htail
          refine htail.imp_right ?_
          intro hstaging
          simpa using hstaging

/-- The release line of a branch: a version which is the whole name, or behind which `-staging`
stands. -/
def IsReleaseLineOf (branch line : String) : Prop :=
  IsReleaseLine line.toList ∧
    (branch = line ∨ (line ++ "-staging").toList <+: branch.toList)

lemma isReleaseLineOf_iff {branch line : String} : IsReleaseLineOf branch line ↔
    IsReleaseLine line.toList ∧ ∃ tail, branch.toList = line.toList ++ tail ∧
      (tail = [] ∨ "-staging".toList <+: tail) := by
  refine and_congr_right fun _ => ⟨?_, ?_⟩
  · rintro (rfl | ⟨rest, hrest⟩)
    · exact ⟨[], (List.append_nil _).symm, .inl rfl⟩
    · refine ⟨"-staging".toList ++ rest, ?_, .inr (List.prefix_append _ _)⟩
      rw [← hrest, String.toList_append, List.append_assoc]
  · rintro ⟨tail, hbranch, rfl | ⟨rest, rfl⟩⟩
    · rw [List.append_nil] at hbranch
      exact .inl (String.toList_inj.1 hbranch)
    · refine .inr ⟨rest, ?_⟩
      rw [hbranch, String.toList_append, List.append_assoc]

/-! ## The scan -/

lemma takeWhile_digits_append {digits rest : List Char} (h : ∀ c ∈ digits, isDecimalDigit c = true)
    (hrest : ∀ c, rest.head? = some c → isDecimalDigit c = false) :
    (digits ++ rest).takeWhile isDecimalDigit = digits := by
  rw [List.takeWhile_append_of_pos h]
  cases rest with
  | nil => rw [List.takeWhile_nil, List.append_nil]
  | cons c rest => rw [List.takeWhile_cons_of_neg (by simp [hrest c rfl]), List.append_nil]

/-- A single `v` is taken, and no second one. -/
lemma take_takeWhile_v_append {mark rest : List Char} (hmark : mark = [] ∨ mark = ['v'])
    (hrest : rest.head? ≠ some 'v') : ((mark ++ rest).takeWhile (· == 'v')).take 1 = mark := by
  rcases hmark with rfl | rfl
  · cases rest with
    | nil => rfl
    | cons c rest =>
      have hc : c ≠ 'v' := by simpa using hrest
      rw [List.nil_append, List.takeWhile_cons_of_neg (by simpa using hc), List.take_nil]
  · rfl

/-- What may stand behind a version, and it is no digit. -/
lemma head?_tail_not_digit {tail : List Char} (h : tail = [] ∨ "-staging".toList <+: tail) :
    ∀ c, tail.head? = some c → isDecimalDigit c = false := by
  intro c hc
  rcases h with rfl | ⟨rest, rfl⟩
  · cases hc
  · obtain rfl : '-' = c := Option.some.inj hc
    decide

lemma minorVersion_append {minor tail : List Char} (hminor : IsDigits minor ∨ minor = ['x'])
    (htail : ∀ c, tail.head? = some c → isDecimalDigit c = false) :
    minorVersion (minor ++ tail) = minor := by
  rcases hminor with ⟨hne, hdigits⟩ | rfl
  · obtain ⟨d, digits, rfl⟩ := List.exists_cons_of_ne_nil hne
    have hx : d ≠ 'x' := by
      rintro rfl
      exact absurd (hdigits 'x' List.mem_cons_self) (by decide)
    have scanned : minorVersion (d :: digits ++ tail) =
        (d :: digits ++ tail).takeWhile isDecimalDigit := by
      unfold minorVersion
      split
      · next heq => exact absurd (List.cons.inj heq).1 hx
      · rfl
    rw [scanned, takeWhile_digits_append hdigits htail]
  · rfl

/-- The scan finds the parts of a version in front of what may stand behind it. -/
lemma releaseLine?_of_parts {branch : String} {mark major minor tail : List Char}
    (hbranch : branch.toList = mark ++ (major ++ '.' :: (minor ++ tail)))
    (hmark : mark = [] ∨ mark = ['v']) (hmajor : IsDigits major)
    (hminor : IsDigits minor ∨ minor = ['x']) (htail : tail = [] ∨ "-staging".toList <+: tail) :
    releaseLine? branch = some (String.ofList (mark ++ major ++ '.' :: minor)) := by
  have first : (major ++ '.' :: (minor ++ tail)).head? ≠ some 'v' := by
    obtain ⟨d, digits, rfl⟩ := List.exists_cons_of_ne_nil hmajor.1
    intro hv
    obtain rfl : d = 'v' := Option.some.inj hv
    exact absurd (hmajor.2 'v' List.mem_cons_self) (by decide)
  have hmark' := take_takeWhile_v_append hmark first
  have hmajor' : (major ++ '.' :: (minor ++ tail)).takeWhile isDecimalDigit = major := by
    refine takeWhile_digits_append hmajor.2 fun c hc => ?_
    obtain rfl : '.' = c := Option.some.inj hc
    decide
  have hminor' := minorVersion_append hminor (head?_tail_not_digit htail)
  have hempty : (major.isEmpty || minor.isEmpty) = false := by
    have hne : minor ≠ [] := by
      rcases hminor with ⟨hne, -⟩ | rfl
      · exact hne
      · decide
    simp [hmajor.1, hne]
  have hends : (tail.isEmpty || ("-staging".toList.isPrefixOf? tail).isSome) = true := by
    rcases htail with rfl | hstaging
    · rfl
    · simpa using .inr hstaging
  unfold releaseLine?
  simp only [hbranch, hmark', List.drop_left, hmajor', ← List.drop_drop, hminor', hempty, hends,
    if_true, Bool.false_eq_true, if_false]

/-- A branch has one release line at most, and the scan finds it. -/
theorem releaseLine?_eq_some_iff {branch line : String} :
    releaseLine? branch = some line ↔ IsReleaseLineOf branch line := by
  rw [isReleaseLineOf_iff]
  constructor
  · exact isReleaseLine_of_releaseLine?
  · rintro ⟨⟨mark, major, minor, hline, hmark, hmajor, hminor⟩, tail, hbranch, htail⟩
    have hparted : branch.toList = mark ++ (major ++ '.' :: (minor ++ tail)) := by
      simp [hbranch, hline]
    rw [releaseLine?_of_parts hparted hmark hmajor hminor htail, ← hline, String.ofList_toList]

lemma IsReleaseLineOf.unique {branch line other : String} (h : IsReleaseLineOf branch line)
    (hother : IsReleaseLineOf branch other) : line = other :=
  Option.some.inj ((releaseLine?_eq_some_iff.2 h).symm.trans (releaseLine?_eq_some_iff.2 hother))

/-- A release line is a branch too, and its own release line. -/
lemma IsReleaseLineOf.self {branch line : String} (h : IsReleaseLineOf branch line) :
    IsReleaseLineOf line line :=
  ⟨h.1, .inl rfl⟩

/-! ## The expression -/

/-- The expression for a version: `v?\d+\.(?:\d+|x)`. -/
def versionNode : Node Leaf :=
  .sequence [.option true (.leaf (.one (.single 'v'))), .plus true (.leaf (.one (.digit true))),
    .leaf (.one (.single '.')),
    .alt (.plus true (.leaf (.one (.digit true)))) (.leaf (.one (.single 'x')))]

/-- The expression for what may stand behind a version: `(?:-staging|$)`. -/
def versionEndNode : Node Leaf :=
  .alt (.word "-staging".toList) (.leaf (.look .textEnd))

/-- The expression for the branches of a release line, in which the version is the group. -/
def releaseBranch : Regex :=
  ⟨r"^(v?\d+\.(?:\d+|x))(?:-staging|$)", .fromStart (.cat (.group 1 versionNode) versionEndNode)⟩

lemma compile_releaseBranch : Regex.compile r"^(v?\d+\.(?:\d+|x))(?:-staging|$)" =
    some releaseBranch := by
  decide +kernel

/-- The words of decimal digits. -/
def digitWords : Language Char :=
  {word | IsDigits word}

lemma reads_digits : (Node.plus true (.leaf (.one (.digit true)))).Reads digitWords :=
  reads_plus_one true (.digit true)

open scoped Computability in
lemma reads_versionNode : versionNode.Reads {word | IsReleaseLine word} := by
  have parts : versionNode.Reads
      (({['v']} + 1) * (digitWords * ({['.']} * (digitWords + {['x']})))) :=
    reads_cat (reads_option (Glob.reads_single 'v')) (reads_cat reads_digits
      (reads_cat (Glob.reads_single '.') (reads_alt reads_digits (Glob.reads_single 'x'))))
  have lang : ({['v']} + 1) * (digitWords * ({['.']} * (digitWords + {['x']}))) =
      {word | IsReleaseLine word} := by
    ext word
    simp only [Language.mem_mul, Language.mem_add, Language.mem_one]
    constructor
    · rintro ⟨mark, hmark, _, ⟨major, hmajor, _, ⟨_, rfl, minor, hminor, rfl⟩, rfl⟩, rfl⟩
      exact ⟨mark, major, minor, by simp, hmark.symm, hmajor, hminor⟩
    · rintro ⟨mark, major, minor, rfl, hmark, hmajor, hminor⟩
      exact ⟨mark, hmark.symm, _, ⟨major, hmajor, _, ⟨_, rfl, minor, hminor, rfl⟩, rfl⟩, by simp⟩
  rw [← lang]
  exact parts

lemma ways_versionEndNode_ne_nil_iff {text : List Char} {p : Nat} (hp : p ≤ text.length) :
    versionEndNode.ways text p ≠ [] ↔ text.drop p = [] ∨ "-staging".toList <+: text.drop p := by
  have staging : (Node.word "-staging".toList).ways text p ≠ [] ↔
      "-staging".toList <+: text.drop p := by
    rw [ways_ne_nil_iff (reads_word _) hp]
    exact ⟨fun ⟨_, hword, hbegins⟩ => hword ▸ hbegins, fun hbegins => ⟨_, rfl, hbegins⟩⟩
  have ends : (Node.leaf (.look .textEnd)).ways text p ≠ [] ↔ text.drop p = [] := by
    rw [ways_textEnd text p hp, List.drop_eq_nil_iff]
    by_cases h : p = text.length
    · simp [h]
    · simp [h]
      omega
  have both : versionEndNode.ways text p = (Node.word "-staging".toList).ways text p ++
      (Node.leaf (.look .textEnd)).ways text p := rfl
  rw [or_comm, ← staging, ← ends, both, ne_eq, List.append_eq_nil_iff, not_and_or]

/-- A way through the expression goes over a version, which it records as its group. -/
lemma exists_version_of_mem_ways {text : List Char} {p : Nat} {w : Way}
    (hw : w ∈ releaseBranch.node.ways text p) (hp : p ≤ text.length) :
    ∃ version tail, text = version ++ tail ∧ IsReleaseLine version ∧
      (tail = [] ∨ "-staging".toList <+: tail) ∧ w.captures = [(1, 0, version.length)] := by
  rw [releaseBranch, ways_fromStart _ hp] at hw
  split at hw
  case isFalse => cases hw
  case isTrue =>
    obtain ⟨_, hgroup, hmap⟩ := List.mem_flatMap.1 hw
    obtain ⟨u, hu, rfl⟩ := List.mem_map.1 hmap
    obtain ⟨v, hv, rfl⟩ := List.mem_map.1 hgroup
    obtain ⟨version, hversion, ⟨tail, htail⟩, hstop⟩ :=
      (reads_versionNode text 0 v.stop (Nat.zero_le _)).1 ⟨v, hv, rfl⟩
    rw [List.drop_zero] at htail
    rw [Nat.zero_add] at hstop
    have hvl := (versionNode.ways_bounds (Nat.zero_le _) hv).2
    have hend := (ways_versionEndNode_ne_nil_iff hvl).1 (List.ne_nil_of_mem hu)
    rw [hstop, ← htail, List.drop_left] at hend
    refine ⟨version, tail, htail.symm, hversion, hend, ?_⟩
    rw [Way.captures_andThen, captures_eq_nil_of_groupNumbers rfl hu,
      captures_eq_nil_of_groupNumbers rfl hv, hstop]
    rfl

lemma exists_way_of_version {version tail : List Char} (hversion : IsReleaseLine version)
    (htail : tail = [] ∨ "-staging".toList <+: tail) :
    ∃ w, w ∈ releaseBranch.node.ways (version ++ tail) 0 := by
  have hat : WordAt (version ++ tail) 0 version.length version := by
    rw [WordAt, List.drop_zero, Nat.zero_add]
    exact ⟨List.prefix_append _ _, rfl⟩
  obtain ⟨v, hv, hstop⟩ :=
    (reads_versionNode _ 0 _ (Nat.zero_le _)).2 ⟨version, hversion, hat⟩
  have hvl := (versionNode.ways_bounds (Nat.zero_le _) hv).2
  have hend : versionEndNode.ways (version ++ tail) v.stop ≠ [] := by
    rw [ways_versionEndNode_ne_nil_iff hvl, hstop, List.drop_left]
    exact htail
  obtain ⟨u, hu⟩ := List.exists_mem_of_ne_nil _ hend
  rw [releaseBranch, ways_fromStart _ (Nat.zero_le _), if_pos rfl]
  exact ⟨_, List.mem_flatMap.2 ⟨_, List.mem_map.2 ⟨v, hv, rfl⟩, List.mem_map.2 ⟨u, hu, rfl⟩⟩⟩

/-- The group of the match is the release line of the branch. -/
theorem group_search_releaseBranch_iff {branch line : String} :
    (releaseBranch.search branch).bind (·.group 1) = some line ↔ IsReleaseLineOf branch line := by
  have sound {found : Match} (h : releaseBranch.search branch = some found) :
      ∃ line, found.group 1 = some line ∧ IsReleaseLineOf branch line := by
    obtain ⟨htext, hstart, hway⟩ := way_of_search h
    obtain ⟨version, tail, hbranch, hversion, htail, hcaptures⟩ :=
      exists_version_of_mem_ways hway hstart
    have hgroup : found.group 1 = some (String.ofList version) := by
      simp only at hcaptures
      simp [Match.group, hcaptures, slice, htext, hbranch]
    refine ⟨_, hgroup, isReleaseLineOf_iff.2 ⟨?_, tail, ?_, htail⟩⟩
    · rwa [String.toList_ofList]
    · rwa [String.toList_ofList]
  constructor
  · intro h
    obtain ⟨found, hsearch, hgroup⟩ := Option.bind_eq_some_iff.1 h
    obtain ⟨version, hversion, hline⟩ := sound hsearch
    obtain rfl := Option.some.inj (hversion.symm.trans hgroup)
    exact hline
  · intro h
    obtain ⟨hversion, tail, hbranch, htail⟩ := isReleaseLineOf_iff.1 h
    have hmatch : (releaseBranch.search branch).isSome = true := by
      obtain ⟨w, hw⟩ := exists_way_of_version hversion htail
      rw [Regex.search, Option.isSome_map, isSome_search_iff, hbranch]
      exact ⟨0, Nat.zero_le _, w, hw⟩
    obtain ⟨found, hsearch⟩ := Option.isSome_iff_exists.1 hmatch
    obtain ⟨version, hgroup, hline⟩ := sound hsearch
    rw [hsearch, Option.bind_some, hgroup, hline.unique h]

/-- The release line of a branch is read off its name in one way: it is the version which is the
name, or behind which `-staging` stands, and there is no other one.  This is what the first group of
the expression stands for.  A release line is its own release line. -/
theorem releaseLine?_exact (branch : String) :
    (∀ line, releaseLine? branch = some line ↔ IsReleaseLineOf branch line) ∧
      (∀ line other, IsReleaseLineOf branch line → IsReleaseLineOf branch other → line = other) ∧
      (∀ line, IsReleaseLineOf branch line → releaseLine? line = some line) ∧
      ∃ regex, Regex.compile r"^(v?\d+\.(?:\d+|x))(?:-staging|$)" = some regex ∧
        releaseLine? branch = (regex.search branch).bind (·.group 1) := by
  refine ⟨fun line => releaseLine?_eq_some_iff, fun line other h hother => h.unique hother,
    fun line h => releaseLine?_eq_some_iff.2 h.self, releaseBranch, compile_releaseBranch, ?_⟩
  refine Option.ext fun line => ?_
  rw [releaseLine?_eq_some_iff, group_search_releaseBranch_iff]

/-- Digits of another script, a single `x`, and a name that goes on behind `-staging`. -/
theorem releaseLine?_exact_staging : IsReleaseLineOf "v١٨.x-staging-next" "v١٨.x" ∧
    releaseLine? "v١٨.x-staging-next" = some "v١٨.x" ∧ releaseLine? "v١٨.x" = some "v١٨.x" := by
  have digits : IsDigits ['١', '٨'] :=
    ⟨by decide, List.forall_mem_cons.2 ⟨by decide, List.forall_mem_singleton.2 (by decide)⟩⟩
  have line : IsReleaseLineOf "v١٨.x-staging-next" "v١٨.x" :=
    ⟨⟨['v'], ['١', '٨'], ['x'], by decide, .inr rfl, digits, .inr rfl⟩, .inr (by decide)⟩
  obtain ⟨scanned, -, again, -⟩ := releaseLine?_exact "v١٨.x-staging-next"
  exact ⟨line, (scanned _).2 line, again _ line⟩

end PullTriage
