import PullTriage.Proofs.Label.Classification

/-!
# Two records of one set

A label set keeps its labels in their order, and once more as a set in which it looks them up.  One
insertion keeps the two in step, and its answer says whether the label is new (`add_ofList`).  So
after any number of insertions each of the labels stands once in the order, at the place where it was
first added, and the order alone determines the set: `addAll_exact`.
-/

namespace PullTriage.LabelSet

/-- Adds labels one after the other, and lists the answers. -/
def addAll (set : LabelSet) : List String → List Bool × LabelSet
  | [] => ([], set)
  | label :: labels =>
    let (new, next) := set.add label
    let (answers, last) := next.addAll labels
    (new :: answers, last)

lemma contains_iff {set : LabelSet} {label : String} :
    set.contains label = true ↔ label ∈ set.toList :=
  set.mem_seen label

/-! ## Insertions -/

lemma add_fst (set : LabelSet) (label : String) :
    (set.add label).1 = decide (label ∉ set.toList) := by
  rw [add]
  by_cases h : label ∈ set.seen
  · rw [dif_pos h]
    exact (decide_eq_false (not_not_intro ((set.mem_seen label).1 h))).symm
  · rw [dif_neg h]
    exact (decide_eq_true (mt (set.mem_seen label).2 h)).symm

/-- One insertion. -/
lemma add_ofList (labels : List String) (label : String) :
    (ofList labels).add label = (decide (label ∉ labels), ofList (labels ++ [label])) := by
  refine Prod.ext ?_ (ofList_append_singleton labels label).symm
  rw [add_fst]
  exact decide_eq_decide.2 (not_congr mem_toList_ofList)

/-- All insertions.  The answer to each depends on the labels added until then. -/
lemma addAll_ofList (before labels : List String) :
    (ofList before).addAll labels =
      (labels.mapIdx fun i label => decide (label ∉ before ++ labels.take i),
        ofList (before ++ labels)) := by
  induction labels generalizing before with
  | nil => rw [List.append_nil, addAll, List.mapIdx_nil]
  | cons label labels ih =>
    have later (i : Nat) : before ++ (label :: labels).take (i + 1) =
        (before ++ [label]) ++ labels.take i := by
      rw [List.take_succ_cons, List.append_cons]
    rw [addAll, add_ofList, List.mapIdx_cons, List.take_zero, List.append_nil]
    simp only [later, ih (before ++ [label])]
    rw [← List.append_cons]

/-! ## Equality -/

/-- The second record is determined by the first. -/
lemma eq_iff_toList_eq {set other : LabelSet} : set = other ↔ set.toList = other.toList := by
  constructor
  · rintro rfl
    rfl
  · intro h
    have seen : set.seen = other.seen := TextSet.ext fun label => by
      rw [set.mem_seen, other.mem_seen, h]
    cases set
    cases other
    cases h
    cases seen
    rfl

/-- What is known of a new set after any insertions: an answer is true where the label had not been
added before, the order has each label once, in the order of the first insertions, and everything
else that can be asked agrees with the order. -/
theorem addAll_exact (labels : List String) :
    empty.addAll labels =
        (labels.mapIdx fun i label => decide (label ∉ labels.take i), ofList labels) ∧
      (ofList labels).toList.Nodup ∧
      Distinct.FirstOccurrences labels (ofList labels).toList ∧
      (∀ label, label ∈ (ofList labels).seen ↔ label ∈ (ofList labels).toList) ∧
      (∀ label, (ofList labels).contains label = true ↔ label ∈ (ofList labels).toList) ∧
      (ofList labels).size = (ofList labels).toList.length ∧
      ((ofList labels).isEmpty = true ↔ (ofList labels).toList = []) ∧
      (∀ others, (ofList labels == ofList others) = true ↔
        (ofList labels).toList = (ofList others).toList) ∧
      ∀ max, (ofList labels).finish max =
        if (ofList labels).toList.take max = [] then none
        else some ((ofList labels).toList.take max) := by
  have answers := addAll_ofList [] labels
  simp only [List.nil_append] at answers
  have firsts : Distinct.FirstOccurrences labels (ofList labels).toList :=
    Distinct.firstOccurrences_iff.2 (toList_ofList labels).symm
  have same (others : List String) : (ofList labels == ofList others) = true ↔
      (ofList labels).toList = (ofList others).toList := by
    rw [beq_iff_eq, eq_iff_toList_eq]
  exact ⟨answers, (ofList labels).nodup, firsts, (ofList labels).mem_seen, fun _ => contains_iff, rfl,
    List.isEmpty_iff, same, finish_eq_ite _⟩

end PullTriage.LabelSet
