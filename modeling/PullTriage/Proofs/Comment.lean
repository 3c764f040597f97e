import PullTriage.Comment
import PullTriage.Proofs.Manifest
import Mathlib.Data.List.Basic

/-!
# Reading the greeting comment

The comment lists owners one on a line, and the owners come from a manifest that anyone may edit.
A manifest still cannot change the shape of the comment.  An owner is a field of a line, so it holds
no line feed, and each owner fills exactly one line of the comment: `render_readable`.  Behind the
third line and in front of the last two there is nothing but the list, hence the owners can be read
back (`ownersOf_render`), and different lists make different comments.

For owners that hold line feeds none of this is true, `Comment.render` takes them as they are.
-/

namespace PullTriage.Comment

/-- The lines of a text. -/
def linesOf (text : String) : List String :=
  (Text.lines text.toList).map String.ofList

/-- The owners that a comment lists: the lines behind the first three and in front of the last two,
each without its bullet. -/
def ownersOf (comment : String) : List String :=
  ((linesOf comment).drop 3).dropLast.dropLast.map fun line => String.ofList (line.toList.drop 2)

/-- The lines of a text can be read off it, if none of them holds a line feed. -/
lemma linesOf_intercalate {texts : List String} (hne : texts ≠ [])
    (h : ∀ line ∈ texts, '\n' ∉ line.toList) :
    linesOf (String.intercalate "\n" texts) = texts := by
  have free : ∀ line ∈ texts.map String.toList, '\n' ∉ line := by
    simpa using h
  have split : (['\n'].intercalate (texts.map String.toList)).splitOn '\n' =
      texts.map String.toList := List.splitOn_intercalate '\n' free (by simpa using hne)
  rw [linesOf, Text.lines, String.toList_intercalate]
  change ((['\n'].intercalate (texts.map String.toList)).splitOn '\n').map String.ofList = texts
  rw [split, List.map_map]
  simp [Function.comp_def]

variable {owners : List String}

lemma linesOf_render_nil : linesOf (render []) = [greeting, withoutOwners] := by
  rw [render]
  apply linesOf_intercalate
  · simp [lines]
  · decide

lemma linesOf_render (hne : owners ≠ []) (h : ∀ owner ∈ owners, '\n' ∉ owner.toList) :
    linesOf (render owners) =
      [greeting, intro, ""] ++ owners.map ("- " ++ ·) ++ ["", outro] := by
  have shape : lines owners = [greeting, intro, ""] ++ owners.map ("- " ++ ·) ++ ["", outro] := by
    simp [lines, hne]
  rw [render, shape]
  apply linesOf_intercalate
  · simp
  · intro line hline
    rw [List.mem_append, List.mem_append] at hline
    rcases hline with (hhead | hbullet) | hend
    · revert line
      decide
    · obtain ⟨owner, howner, rfl⟩ := List.mem_map.1 hbullet
      have free := h owner howner
      rw [String.toList_append]
      simpa using free
    · revert line
      decide

lemma ownersOf_render (h : ∀ owner ∈ owners, '\n' ∉ owner.toList) :
    ownersOf (render owners) = owners := by
  by_cases hne : owners = []
  · subst hne
    rw [ownersOf, linesOf_render_nil]
    rfl
  · have unbullet (owner : String) : String.ofList (("- " ++ owner).toList.drop 2) = owner := by
      rw [String.toList_append]
      simp
    have behind : (([greeting, intro, ""] ++ owners.map ("- " ++ ·) ++
        ["", outro]).drop 3).dropLast.dropLast = owners.map ("- " ++ ·) := by simp
    rw [ownersOf, linesOf_render hne h, behind, List.map_map]
    calc owners.map ((fun line => String.ofList (line.toList.drop 2)) ∘ ("- " ++ ·))
        = owners.map id := List.map_congr_left fun owner _ => unbullet owner
      _ = owners := List.map_id owners

/-- The owners of a manifest make a comment of exactly the lines that it is meant to have, whatever
the manifest says, and can be read back from it.  So two manifests that list different owners never
make the same comment. -/
theorem render_readable {text : String} {manifest : Manifest}
    (parsed : Manifest.parse text = .ok manifest) (paths : List String) :
    (manifest.uniqueOwners paths = [] →
        linesOf (render (manifest.uniqueOwners paths)) = [greeting, withoutOwners]) ∧
      (manifest.uniqueOwners paths ≠ [] →
        linesOf (render (manifest.uniqueOwners paths)) =
          [greeting, intro, ""] ++ (manifest.uniqueOwners paths).map ("- " ++ ·) ++
            ["", outro]) ∧
      ownersOf (render (manifest.uniqueOwners paths)) = manifest.uniqueOwners paths ∧
      ∀ otherText other otherPaths, Manifest.parse otherText = .ok other →
        render (manifest.uniqueOwners paths) = render (other.uniqueOwners otherPaths) →
          manifest.uniqueOwners paths = other.uniqueOwners otherPaths := by
  have free {text : String} {manifest : Manifest} (parsed : Manifest.parse text = .ok manifest)
      (paths : List String) : ∀ owner ∈ manifest.uniqueOwners paths, '\n' ∉ owner.toList := by
    intro owner howner
    exact (Manifest.isField_of_mem_uniqueOwners parsed howner).lineFeed_not_mem
  have readBack := ownersOf_render (free parsed paths)
  refine ⟨?_, ?_, readBack, ?_⟩
  · intro hnil
    rw [hnil, linesOf_render_nil]
  · intro hne
    exact linesOf_render hne (free parsed paths)
  · intro otherText other otherPaths otherParsed same
    calc manifest.uniqueOwners paths
        = ownersOf (render (manifest.uniqueOwners paths)) := readBack.symm
      _ = ownersOf (render (other.uniqueOwners otherPaths)) := by rw [same]
      _ = other.uniqueOwners otherPaths := ownersOf_render (free otherParsed otherPaths)

/-- A manifest whose owners look like parts of the comment. -/
def lookalikeManifest : Manifest :=
  ⟨[⟨PathPattern.compile "/lib/**", "-", 1⟩, ⟨PathPattern.compile "*.js", "Along", 2⟩]⟩

/-- Such owners are read back as they are. -/
theorem render_readable_lookalike :
    Manifest.parse "/lib/** -\n*.js Along\n" = .ok lookalikeManifest ∧
      lookalikeManifest.uniqueOwners ["x.js", "lib/fs.js"] = ["Along", "-"] ∧
      linesOf (render ["Along", "-"]) =
        [greeting, intro, "", "- Along", "- -", "", outro] ∧
      ownersOf (render ["Along", "-"]) = ["Along", "-"] := by
  have parsed : Manifest.parse "/lib/** -\n*.js Along\n" = .ok lookalikeManifest := by
    decide +kernel
  have owners : lookalikeManifest.uniqueOwners ["x.js", "lib/fs.js"] = ["Along", "-"] := by
    decide +kernel
  obtain ⟨-, shape, readBack, -⟩ := render_readable parsed ["x.js", "lib/fs.js"]
  rw [owners] at shape readBack
  exact ⟨parsed, owners, shape (by decide), readBack⟩

end PullTriage.Comment
