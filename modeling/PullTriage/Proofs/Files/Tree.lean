import PullTriage.Files.Tree
import PullTriage.Proofs.Except
import PullTriage.Proofs.Text.Split

/-!
# Walking a tree of files

A path is followed name by name.  In a tree that a file system can hold (`IsSound`) nothing lies
below a file, so the way to a file goes through directories only, and the file is found at the names
of its path behind those of the place where the walk begins: `look_joinPath_eq_file_iff`.  This is
for relative paths whose names mean no other place.  A path that begins with a slash is followed
from the root of the tree, wherever the walk was to begin: `look_joinPath_eq_file_iff_of_slash`.
-/

namespace PullTriage

/-- Is the entry a file? -/
def FileEntry.isFile : FileEntry → Bool
  | file _ => true
  | directory => false

namespace FileTree

variable {tree : FileTree} {names more top : List String} {content : ByteArray} {root path : String}

/-! ## Entries -/

/-- A file system can hold the tree: its root is no file, nothing lies below a file, and no name is
too long. -/
structure IsSound (tree : FileTree) : Prop where
  rooted : ∀ entry ∈ tree.entries, entry.1 ≠ []
  leaves : ∀ entry ∈ tree.entries, entry.2.isFile = true → ∀ other ∈ tree.entries,
    entry.1 <+: other.1 → entry.1 = other.1
  short : ∀ entry ∈ tree.entries, ∀ name ∈ entry.1, name.utf8ByteSize ≤ 255

/-- A file is one of the entries. -/
lemma mem_entries_of_file (h : tree.entryAt? names = some (.file content)) :
    (names, .file content) ∈ tree.entries := by
  rw [entryAt?] at h
  split at h
  · next entry hentry =>
    obtain ⟨before, after, hentries, -⟩ := List.lookup_eq_some_iff.1 hentry
    rw [hentries, ← Option.some.inj h]
    exact List.mem_append_right before List.mem_cons_self
  · split at h <;> cases h

/-- Above a file there are directories. -/
lemma entryAt?_above_file (sound : tree.IsSound) (hmore : more ≠ [])
    (h : tree.entryAt? (names ++ more) = some (.file content)) :
    tree.entryAt? names = some .directory := by
  have hmem := mem_entries_of_file h
  rw [entryAt?]
  split
  · next entry hentry =>
    obtain ⟨before, after, hentries, -⟩ := List.lookup_eq_some_iff.1 hentry
    have habove : (names, entry) ∈ tree.entries := by
      rw [hentries]
      exact List.mem_append_right before List.mem_cons_self
    cases entry with
    | directory => rfl
    | file other =>
      have same := sound.leaves _ habove rfl _ hmem (List.prefix_append names more)
      exact absurd (List.self_eq_append_right.1 same) hmore
  · have known :
        (tree.workingDirectory :: tree.entries.map (·.1)).any names.isPrefixOf = true := by
      refine List.any_eq_true.2 ⟨names ++ more, ?_, ?_⟩
      · exact List.mem_cons_of_mem _ (List.mem_map_of_mem hmem)
      · exact List.isPrefixOf_iff_prefix.2 (List.prefix_append names more)
    rw [if_pos known]

lemma IsSound.entryAt?_nil (sound : tree.IsSound) : tree.entryAt? [] = some .directory := by
  rw [entryAt?]
  split
  · next entry hentry =>
    obtain ⟨before, after, hentries, -⟩ := List.lookup_eq_some_iff.1 hentry
    refine absurd rfl (sound.rooted ([], entry) ?_)
    rw [hentries]
    exact List.mem_append_right before List.mem_cons_self
  · rfl

/-! ## Walking -/

/-- The name stands for what has this name, and for no other place. -/
structure IsEntryName (name : String) : Prop where
  ne_empty : name ≠ ""
  ne_dot : name ≠ "."
  ne_dots : name ≠ ".."

instance (name : String) : Decidable (IsEntryName name) :=
  decidable_of_iff (name ≠ "" ∧ name ≠ "." ∧ name ≠ "..")
    ⟨fun ⟨hempty, hdot, hdots⟩ => ⟨hempty, hdot, hdots⟩, fun ⟨hempty, hdot, hdots⟩ =>
      ⟨hempty, hdot, hdots⟩⟩

/-- Where the names of a path lead. -/
def walk (tree : FileTree) (path : String) : Except FileError (List String) :=
  (pathNames path).foldlM tree.step
    (if Text.startsWith path "/" then [] else tree.workingDirectory)

lemma step_of_isEntryName {name : String} (hname : IsEntryName name)
    (h : tree.step top name = .ok names) : names = top ++ [name] := by
  rw [step] at h
  split at h
  · cases h
  · cases h
  · rw [if_neg (not_or.2 ⟨hname.ne_empty, hname.ne_dot⟩), if_neg hname.ne_dots] at h
    split at h
    · cases h
    · exact (Except.ok.inj h).symm

/-- A walk by the names of entries adds them to the place where it begins. -/
lemma foldlM_step_eq (hmore : ∀ name ∈ more, IsEntryName name)
    (h : more.foldlM tree.step top = .ok names) : names = top ++ more := by
  induction more generalizing top with
  | nil =>
    rw [List.append_nil]
    exact (Except.ok.inj h).symm
  | cons name more ih =>
    obtain ⟨hname, hrest⟩ := List.forall_mem_cons.1 hmore
    obtain ⟨next, hnext, hwalk⟩ := Except.bind_eq_ok_iff.1 h
    rw [ih hrest hwalk, step_of_isEntryName hname hnext, List.append_assoc, List.singleton_append]

/-- A walk to a file succeeds. -/
lemma foldlM_step_of_file (sound : tree.IsSound) (hmore : ∀ name ∈ more, IsEntryName name)
    (h : tree.entryAt? (top ++ more) = some (.file content)) :
    more.foldlM tree.step top = .ok (top ++ more) := by
  induction more generalizing top with
  | nil =>
    rw [List.append_nil]
    rfl
  | cons name more ih =>
    obtain ⟨hname, hrest⟩ := List.forall_mem_cons.1 hmore
    have here := entryAt?_above_file sound (List.cons_ne_nil name more) h
    have short : ¬ 255 < name.utf8ByteSize :=
      Nat.not_lt.2 (sound.short _ (mem_entries_of_file h) name (by simp))
    have next : tree.step top name = .ok (top ++ [name]) := by
      rw [step, here]
      dsimp only
      rw [if_neg (not_or.2 ⟨hname.ne_empty, hname.ne_dot⟩), if_neg hname.ne_dots, if_neg short]
    rw [List.append_cons] at h ⊢
    rw [List.foldlM_cons, next]
    exact ih hrest h

lemma pathNames_append (front back : List Char) :
    pathNames (String.ofList (front ++ '/' :: back)) =
      pathNames (String.ofList front) ++ pathNames (String.ofList back) := by
  simp only [pathNames, String.toList_ofList, List.splitOn_eq_splitOnP]
  rw [List.splitOnP_append_cons _ _ (by simp), List.map_append]

lemma step_empty {place : List String} (h : tree.step place "" = .ok top) : top = place := by
  rw [step] at h
  split at h
  · cases h
  · cases h
  · rw [if_pos (.inl rfl)] at h
    exact (Except.ok.inj h).symm

lemma startsWith_slash_append {front : List Char} (hne : front ≠ []) (back : List Char) :
    Text.startsWith (String.ofList (front ++ back)) "/" =
      Text.startsWith (String.ofList front) "/" := by
  obtain ⟨c, front, rfl⟩ := List.exists_cons_of_ne_nil hne
  simp only [Text.startsWith, String.toList_ofList]
  rfl

/-- Names behind a slash are followed from where the text before the slash leads. -/
lemma walk_append {front : List Char} (hne : front ≠ [])
    (h : tree.walk (String.ofList front) = .ok top) (back : List Char) :
    tree.walk (String.ofList (front ++ '/' :: back)) =
      (pathNames (String.ofList back)).foldlM tree.step top := by
  rw [walk] at h ⊢
  rw [startsWith_slash_append hne, pathNames_append, List.foldlM_append, h]
  rfl

/-- A slash at the end of a text leads nowhere else. -/
lemma walk_slash_append {front : List Char}
    (h : tree.walk (String.ofList (front ++ ['/'])) = .ok top) (back : List Char) :
    tree.walk (String.ofList (front ++ '/' :: back)) =
      (pathNames (String.ofList back)).foldlM tree.step top := by
  have start : Text.startsWith (String.ofList (front ++ '/' :: back)) "/" =
      Text.startsWith (String.ofList (front ++ ['/'])) "/" := by
    rw [List.append_cons]
    exact startsWith_slash_append (by simp) back
  rw [walk, pathNames_append, List.foldlM_append] at h
  obtain ⟨place, hplace, hlast⟩ := Except.bind_eq_ok_iff.1 h
  have last : [""].foldlM tree.step place = .ok top := hlast
  obtain ⟨next, hnext, hend⟩ := Except.bind_eq_ok_iff.1 last
  obtain rfl : next = top := Except.ok.inj hend
  rw [walk, start, pathNames_append, List.foldlM_append, hplace, step_empty hnext]
  rfl

/-- A relative path is followed from where the other path leads. -/
lemma walk_joinPath (hpath : Text.startsWith path "/" = false) (h : tree.walk root = .ok top) :
    tree.walk (joinPath root path) = (pathNames path).foldlM tree.step top := by
  rw [joinPath, hpath, Bool.false_or]
  by_cases hempty : root = ""
  · subst hempty
    have walked : [""].foldlM tree.step tree.workingDirectory = .ok top := h
    obtain ⟨next, hnext, hend⟩ := Except.bind_eq_ok_iff.1 walked
    obtain rfl : next = top := Except.ok.inj hend
    rw [if_pos (String.isEmpty_iff.2 rfl), walk, hpath, step_empty hnext]
    rfl
  · have hne : root.toList ≠ [] := fun hnil => hempty (String.toList_inj.1 hnil)
    rw [if_neg (by simpa [String.isEmpty_iff] using hempty)]
    split
    · next hslash =>
      obtain ⟨front, hfront⟩ := List.getLast?_eq_some_iff.1 (beq_iff_eq.1 hslash)
      have written : root = String.ofList (front ++ ['/']) := String.toList_inj.1 (by simp [hfront])
      have joined : root ++ path = String.ofList (front ++ '/' :: path.toList) :=
        String.toList_inj.1 (by simp [hfront])
      rw [joined, walk_slash_append (written ▸ h), String.ofList_toList]
    · have joined : root ++ "/" ++ path = String.ofList (root.toList ++ '/' :: path.toList) :=
        String.toList_inj.1 (by simp)
      rw [joined, walk_append hne (by rwa [String.ofList_toList]), String.ofList_toList]

/-- The path without the slashes at its beginning. -/
def relativePath (path : String) : String :=
  String.ofList (path.toList.dropWhile (· == '/'))

lemma relativePath_eq_self (h : Text.startsWith path "/" = false) : relativePath path = path := by
  rw [Text.startsWith] at h
  refine String.toList_inj.1 ((String.toList_ofList).trans ?_)
  cases hpath : path.toList with
  | nil => rfl
  | cons c rest =>
    rw [hpath] at h
    refine List.dropWhile_cons_of_neg fun hc => ?_
    rw [beq_iff_eq.1 hc] at h
    cases h

/-- At the root, slashes lead nowhere. -/
lemma foldlM_step_dropWhile (sound : tree.IsSound) (text : List Char) :
    (pathNames (String.ofList text)).foldlM tree.step [] =
      (pathNames (String.ofList (text.dropWhile (· == '/')))).foldlM tree.step [] := by
  induction text with
  | nil => rfl
  | cons c rest ih =>
    by_cases hc : c = '/'
    · subst hc
      have stays : tree.step [] "" = .ok [] := by
        rw [step, sound.entryAt?_nil]
        rfl
      have names := pathNames_append [] rest
      rw [List.nil_append] at names
      rw [List.dropWhile_cons_of_pos (by decide), ← ih, names, List.foldlM_append]
      change (tree.step [] "" >>= fun top => pure top) >>= _ = _
      rw [stays]
      rfl
    · rw [List.dropWhile_cons_of_neg (by simpa using hc)]

/-- A path with a slash in front is followed from the root. -/
lemma walk_joinPath_of_slash (sound : tree.IsSound) (hpath : Text.startsWith path "/" = true) :
    tree.walk (joinPath root path) =
      (pathNames (relativePath path)).foldlM tree.step [] := by
  have slashes := foldlM_step_dropWhile sound path.toList
  rw [String.ofList_toList] at slashes
  rw [joinPath, hpath, Bool.true_or, if_pos rfl, walk, hpath, if_pos rfl, slashes, relativePath]

/-! ## Looking -/

/-- The path is one that the system takes: it is not empty, not too long, and holds no zero. -/
structure IsTaken (path : String) : Prop where
  ne_empty : path ≠ ""
  noNul : '\x00' ∉ path.toList
  short : path.utf8ByteSize < 4096

instance (path : String) : Decidable (IsTaken path) :=
  decidable_of_iff (path ≠ "" ∧ '\x00' ∉ path.toList ∧ path.utf8ByteSize < 4096)
    ⟨fun ⟨hne, hnul, hshort⟩ => ⟨hne, hnul, hshort⟩, fun ⟨hne, hnul, hshort⟩ =>
      ⟨hne, hnul, hshort⟩⟩

lemma look_eq_ok_iff (h : IsTaken path) {entry : FileEntry} :
    tree.look path = .ok entry ↔
      ∃ names, tree.walk path = .ok names ∧ tree.entryAt? names = some entry := by
  have noNul : path.toList.contains '\x00' = false := by
    simpa using h.noNul
  have notEmpty : path.isEmpty = false := by
    simpa [String.isEmpty_iff] using h.ne_empty
  have fits : ¬ 4096 ≤ path.utf8ByteSize := Nat.not_le.2 h.short
  have reduced : tree.look path = tree.walk path >>= fun names =>
      (tree.entryAt? names).elim (.error .notFound) .ok := by
    rw [look, noNul, notEmpty, if_neg fits]
    refine bind_congr fun names => ?_
    cases tree.entryAt? names <;> rfl
  rw [reduced, Except.bind_eq_ok_iff]
  refine exists_congr fun names => and_congr_right fun _ => ?_
  cases tree.entryAt? names with
  | none => exact iff_of_false nofun nofun
  | some other => rw [Option.elim_some, Except.ok.injEq, Option.some.injEq]

/-- What is reached by the names of entries is the file at these names. -/
lemma look_eq_file_iff (sound : tree.IsSound) (hmore : ∀ name ∈ more, IsEntryName name)
    (taken : IsTaken path) (hwalk : tree.walk path = more.foldlM tree.step top) :
    tree.look path = .ok (.file content) ↔ tree.entryAt? (top ++ more) = some (.file content) := by
  rw [look_eq_ok_iff taken, hwalk]
  constructor
  · rintro ⟨names, hnames, hentry⟩
    rwa [← foldlM_step_eq hmore hnames]
  · intro hentry
    exact ⟨_, foldlM_step_of_file sound hmore hentry, hentry⟩

/-- A file is found by a relative path exactly if it stands at the names of the path, behind those
of the place where the path begins. -/
theorem look_joinPath_eq_file_iff (sound : tree.IsSound) (hroot : tree.walk root = .ok top)
    (hpath : Text.startsWith path "/" = false)
    (hnames : ∀ name ∈ pathNames path, IsEntryName name) (taken : IsTaken (joinPath root path)) :
    tree.look (joinPath root path) = .ok (.file content) ↔
      tree.entryAt? (top ++ pathNames path) = some (.file content) :=
  look_eq_file_iff sound hnames taken (walk_joinPath hpath hroot)

/-- By a path with a slash in front a file is found exactly if it stands at its names from the root
on. -/
theorem look_joinPath_eq_file_iff_of_slash (sound : tree.IsSound)
    (hpath : Text.startsWith path "/" = true)
    (hnames : ∀ name ∈ pathNames (relativePath path), IsEntryName name)
    (taken : IsTaken (joinPath root path)) :
    tree.look (joinPath root path) = .ok (.file content) ↔
      tree.entryAt? (pathNames (relativePath path)) = some (.file content) := by
  rw [← List.nil_append (pathNames (relativePath path))]
  exact look_eq_file_iff sound hnames taken (walk_joinPath_of_slash sound hpath)

lemma textOf_eq_ok_iff {entry : FileEntry} {text : String} :
    Files.textOf entry = .ok text ↔
      ∃ content, entry = .file content ∧ Text.decode? content = some text := by
  cases entry with
  | directory => exact iff_of_false nofun (by rintro ⟨_, ⟨⟩, _⟩)
  | file content =>
    rw [Files.textOf]
    cases hdecoded : Text.decode? content with
    | none =>
      refine iff_of_false nofun ?_
      rintro ⟨_, ⟨⟩, hsome⟩
      rw [hdecoded] at hsome
      cases hsome
    | some other =>
      constructor
      · rintro ⟨⟩
        exact ⟨content, rfl, hdecoded⟩
      · rintro ⟨_, ⟨⟩, hsome⟩
        rw [hdecoded] at hsome
        rw [Option.some.inj hsome]

/-- The text at a relative path is that of the file at its names. -/
theorem readText_joinPath_eq_ok_iff (sound : tree.IsSound) (hroot : tree.walk root = .ok top)
    (hpath : Text.startsWith path "/" = false)
    (hnames : ∀ name ∈ pathNames path, IsEntryName name) (taken : IsTaken (joinPath root path))
    {text : String} :
    ((tree.files : Files Id).readText (joinPath root path)).run = .ok text ↔
      ∃ content, tree.entryAt? (top ++ pathNames path) = some (.file content) ∧
        Text.decode? content = some text := by
  have read : ((tree.files : Files Id).readText (joinPath root path)).run = .ok text ↔
      ∃ entry, tree.look (joinPath root path) = .ok entry ∧ Files.textOf entry = .ok text :=
    Except.bind_eq_ok_iff
  rw [read]
  constructor
  · rintro ⟨entry, hlook, htext⟩
    obtain ⟨content, rfl, hdecoded⟩ := textOf_eq_ok_iff.1 htext
    exact ⟨content, (look_joinPath_eq_file_iff sound hroot hpath hnames taken).1 hlook, hdecoded⟩
  · rintro ⟨content, hentry, hdecoded⟩
    exact ⟨.file content, (look_joinPath_eq_file_iff sound hroot hpath hnames taken).2 hentry,
      textOf_eq_ok_iff.2 ⟨content, rfl, hdecoded⟩⟩

end FileTree

end PullTriage
