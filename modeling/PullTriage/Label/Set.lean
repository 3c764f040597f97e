import PullTriage.Text.Set

/-!
# Label sets

A set of labels that remembers the order in which they were first added.  The order is part of the
contract, because a cap keeps the first labels.  The labels are kept twice, in their order and as a
set, and whether a label is there is looked up in the set.
-/

namespace PullTriage

/-- Distinct labels in the order in which they were first added, and the set of them. -/
structure LabelSet where
  toList : List String
  seen : TextSet
  nodup : toList.Nodup
  mem_seen : ∀ label, label ∈ seen ↔ label ∈ toList
deriving DecidableEq

namespace LabelSet

/-- The set without labels. -/
def empty : LabelSet where
  toList := []
  seen := .empty
  nodup := .nil
  mem_seen label := ⟨fun h => absurd h (TextSet.notMem_empty label), nofun⟩

instance : Inhabited LabelSet := ⟨empty⟩

instance : Membership String LabelSet := ⟨fun set label => label ∈ set.toList⟩

instance (label : String) (set : LabelSet) : Decidable (label ∈ set) :=
  inferInstanceAs (Decidable (label ∈ set.toList))

/-- Is the label in the set? -/
def contains (set : LabelSet) (label : String) : Bool :=
  set.seen.contains label

/-- Adds a label at the end, unless it is there already, and tells whether it did. -/
def add (set : LabelSet) (label : String) : Bool × LabelSet :=
  if h : label ∈ set.seen then (false, set)
  else
    (true,
      { toList := set.toList ++ [label]
        seen := set.seen.insert label
        nodup := by
          rw [List.nodup_append]
          refine ⟨set.nodup, List.pairwise_singleton _ _, fun a ha b hb hab => ?_⟩
          rw [hab, List.mem_singleton.1 hb] at ha
          exact h ((set.mem_seen label).2 ha)
        mem_seen := fun other => by
          rw [TextSet.mem_insert, set.mem_seen, List.mem_append, List.mem_singleton, or_comm] })

/-- Adds a label at the end, unless it is there already. -/
def insert (set : LabelSet) (label : String) : LabelSet :=
  (set.add label).2

/-- Adds labels one after the other. -/
def insertAll (set : LabelSet) (labels : List String) : LabelSet :=
  labels.foldl insert set

/-- The set of the labels of a list. -/
def ofList (labels : List String) : LabelSet :=
  empty.insertAll labels

/-- The number of labels. -/
def size (set : LabelSet) : Nat :=
  set.toList.length

/-- Has the set no label? -/
def isEmpty (set : LabelSet) : Bool :=
  set.toList.isEmpty

/-- The first `max` labels, or `none` if that leaves nothing. -/
def finish (set : LabelSet) (max : Nat) : Option (List String) :=
  match set.toList.take max with
  | [] => none
  | labels => some labels

theorem toList_insert (set : LabelSet) (label : String) :
    (set.insert label).toList =
      if label ∈ set.toList then set.toList else set.toList ++ [label] := by
  rw [insert, add]
  by_cases h : label ∈ set.seen
  · rw [dif_pos h, if_pos ((set.mem_seen label).1 h)]
  · rw [dif_neg h, if_neg (mt (set.mem_seen label).2 h)]

end LabelSet

end PullTriage
