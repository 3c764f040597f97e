import PullTriage.Proofs.Regex.Search
import Mathlib.Data.List.Basic

/-!
# Sequences and anchors

The ways through a sequence are those of its parts, one after the other.  For a sequence between the
two anchors the search has no choice of where to begin or to end, so `search_anchoredSequence` reduces
it to the first way through the parts that takes the whole text.

Between the anchors a glob has no conditions on positions, and then a character put in front of the
text changes nothing but the numbers of the positions: `ways_cons_text`.
-/

namespace PullTriage.Regex

/-! ## Sequences -/

lemma Way.map_stay_andThen (p : Nat) (ways : List Way) :
    ways.map (Way.stay p).andThen = ways := by
  have same : (Way.stay p).andThen = id := funext fun w => by simp [Way.andThen, Way.stay]
  rw [same, List.map_id]

lemma Way.andThen_assoc (u v w : Way) : (u.andThen v).andThen w = u.andThen (v.andThen w) := by
  simp [Way.andThen]

lemma ways_sequence_cons (text : List Char) (r : Node Leaf) (rest : List (Node Leaf)) (p : Nat) :
    (Node.sequence (r :: rest)).ways text p =
      (r.ways text p).flatMap fun w =>
        ((Node.sequence rest).ways text w.stop).map w.andThen := by
  cases rest with
  | nil => simp [Node.sequence, Node.ways]
  | cons s rest => rfl

lemma ways_sequence_append (text : List Char) (front back : List (Node Leaf)) (p : Nat) :
    (Node.sequence (front ++ back)).ways text p =
      ((Node.sequence front).ways text p).flatMap fun w =>
        ((Node.sequence back).ways text w.stop).map w.andThen := by
  induction front generalizing p with
  | nil => simp [Node.sequence, Node.ways, Way.map_stay_andThen]
  | cons r front ih =>
    rw [List.cons_append, ways_sequence_cons, ways_sequence_cons, List.flatMap_assoc]
    refine List.flatMap_congr fun w _ => ?_
    have comp (v : Way) : w.andThen ∘ v.andThen = (w.andThen v).andThen :=
      funext fun u => (Way.andThen_assoc w v u).symm
    rw [ih, List.map_flatMap, List.flatMap_map]
    simp only [List.map_map, comp, Way.stop_andThen]

/-! ## Anchors -/

/-- A sequence that has to match the whole text. -/
def anchoredSequence (parts : List (Node Leaf)) : Node Leaf :=
  Node.sequence (.leaf (.look .textStart) :: parts ++ [.leaf (.look .textEnd)])

lemma ways_textStart (text : List Char) (p : Nat) (hp : p ≤ text.length) :
    (Node.leaf (.look .textStart)).ways text p = if p = 0 then [.stay 0] else [] := by
  cases p with
  | zero => simp [Node.ways, Leaf.step?, Look.holds, charBefore]
  | succ p =>
    have : text[p]? = some text[p] := List.getElem?_eq_getElem hp
    simp [Node.ways, Leaf.step?, Look.holds, charBefore, this]

lemma ways_textEnd (text : List Char) (p : Nat) (hp : p ≤ text.length) :
    (Node.leaf (.look .textEnd)).ways text p = if p = text.length then [.stay p] else [] := by
  rcases Nat.eq_or_lt_of_le hp with rfl | hlt
  · simp [Node.ways, Leaf.step?, Look.holds]
  · have : text[p]? = some text[p] := List.getElem?_eq_getElem hlt
    simp [Node.ways, Leaf.step?, Look.holds, this, Nat.ne_of_lt hlt]

lemma ways_anchoredSequence (text : List Char) (parts : List (Node Leaf)) (p : Nat)
    (hp : p ≤ text.length) :
    (anchoredSequence parts).ways text p =
      if p = 0 then ((Node.sequence parts).ways text 0).filter (·.stop = text.length) else [] := by
  rw [anchoredSequence, List.cons_append, ways_sequence_cons, ways_textStart text p hp]
  by_cases h : p = 0
  · subst h
    have ends (w : Way) (hw : w ∈ (Node.sequence parts).ways text 0) :
        ((Node.sequence [.leaf (.look .textEnd)]).ways text w.stop).map w.andThen =
          if w.stop = text.length then [w] else [] := by
      rw [Node.sequence, ways_textEnd _ _ ((Node.sequence parts).ways_bounds hp hw).2]
      split
      case isTrue => rw [List.map_singleton, Way.andThen_stay]
      case isFalse => rfl
    rw [if_pos rfl, if_pos rfl, List.flatMap_singleton, Way.map_stay_andThen, Way.stop_stay,
      ways_sequence_append, List.flatMap_congr ends]
    generalize (Node.sequence parts).ways text 0 = ways
    induction ways with
    | nil => rfl
    | cons w ways ih => by_cases h : w.stop = text.length <;> simp [h, ih]
  · rw [if_neg h, if_neg h, List.flatMap_nil]

/-- Between anchors the search gives the first way that takes the whole text. -/
theorem search_anchoredSequence (parts : List (Node Leaf)) (text : List Char) :
    (anchoredSequence parts).search text =
      (((Node.sequence parts).ways text 0).find? (·.stop = text.length)).map
        fun w => (0, w.stop, w.captures) := by
  rw [search_eq_ways, List.range_succ_eq_map, List.findSome?_cons,
    ways_anchoredSequence text parts 0 (Nat.zero_le _), if_pos rfl, List.head?_filter]
  have later : ((List.range text.length).map Nat.succ).findSome? (fun p =>
      ((anchoredSequence parts).ways text p).head?.map fun w => (p, w.stop, w.captures)) =
        none := by
    rw [List.findSome?_eq_none_iff]
    intro p hp
    obtain ⟨q, hq, rfl⟩ := List.mem_map.1 hp
    rw [ways_anchoredSequence text parts _ (List.mem_range.1 hq), if_neg (Nat.succ_ne_zero q)]
    rfl
  rw [later]
  cases ((Node.sequence parts).ways text 0).find? (·.stop = text.length) <;> rfl

/-! ## A character in front of the text -/

/-- The way, where one character more comes before it. -/
def Way.shift (w : Way) : Way :=
  ⟨w.stop + 1, w.captures.map fun c => (c.1, c.2.1 + 1, c.2.2 + 1)⟩

@[simp] lemma Way.stop_shift (w : Way) : w.shift.stop = w.stop + 1 := rfl

@[simp] lemma Way.shift_stay (p : Nat) : (Way.stay p).shift = .stay (p + 1) := rfl

lemma Way.shift_andThen (w v : Way) : (w.andThen v).shift = w.shift.andThen v.shift := by
  simp [Way.shift, Way.andThen]

/-- No condition on positions occurs in the expression. -/
def Node.IsLookFree (node : Node Leaf) : Prop :=
  ∀ a ∈ node.leaves, ∃ set, a = .one set

lemma flatMap_shift (ways : List Way) (rest rest' : Way → List Way)
    (h : ∀ w ∈ ways, rest' w.shift = (rest w).map Way.shift) :
    ((ways.map Way.shift).flatMap fun w => (rest' w).map w.andThen) =
      (ways.flatMap fun w => (rest w).map w.andThen).map Way.shift := by
  rw [List.flatMap_map, List.map_flatMap]
  refine List.flatMap_congr fun w hw => ?_
  rw [h w hw]
  simp [Way.shift_andThen, Function.comp_def]

lemma iterations_shift {greedy : Bool} {ways ways' : Nat → List Way}
    (h : ∀ p, ways' (p + 1) = (ways p).map Way.shift) (bound p : Nat) :
    iterations greedy ways' bound (p + 1) = (iterations greedy ways bound p).map Way.shift := by
  induction bound generalizing p with
  | zero => rfl
  | succ bound ih =>
    have ahead : (ways' (p + 1)).filter (p + 1 < ·.stop) =
        ((ways p).filter (p < ·.stop)).map Way.shift := by
      rw [h, List.filter_map]
      simp [Function.comp_def]
    have onward := flatMap_shift ((ways p).filter (p < ·.stop))
      (fun w => iterations greedy ways bound w.stop) (fun w => iterations greedy ways' bound w.stop)
      fun w _ => ih w.stop
    cases greedy <;> simp [iterations, ahead, onward]

/-- A character in front of the text shifts the ways through an expression without conditions on
positions. -/
theorem ways_cons_text (node : Node Leaf) (hfree : node.IsLookFree) (c : Char) (text : List Char)
    (p : Nat) : node.ways (c :: text) (p + 1) = (node.ways text p).map Way.shift := by
  induction node generalizing p with
  | empty => rfl
  | leaf a =>
    obtain ⟨set, rfl⟩ := hfree a (by simp [Node.leaves])
    rw [Node.ways, Node.ways, Leaf.step?, Leaf.step?, List.getElem?_cons_succ]
    split <;> rfl
  | cat a b iha ihb =>
    have ha : a.IsLookFree := fun l hl => hfree l (by simp [Node.leaves, hl])
    have hb : b.IsLookFree := fun l hl => hfree l (by simp [Node.leaves, hl])
    rw [Node.ways, Node.ways, iha ha, flatMap_shift _ _ _ fun w _ => ihb hb w.stop]
  | alt a b iha ihb =>
    have ha : a.IsLookFree := fun l hl => hfree l (by simp [Node.leaves, hl])
    have hb : b.IsLookFree := fun l hl => hfree l (by simp [Node.leaves, hl])
    rw [Node.ways, Node.ways, iha ha, ihb hb, List.map_append]
  | plus greedy r ih =>
    rw [Node.ways, Node.ways, ih hfree]
    refine flatMap_shift _ _ _ fun w _ => ?_
    rw [Way.stop_shift, List.length_cons]
    by_cases hlt : p < w.stop
    · rw [if_pos hlt, if_pos (Nat.succ_lt_succ hlt), Nat.add_sub_add_right,
        iterations_shift (ih hfree)]
    · rw [if_neg hlt, if_neg (mt Nat.lt_of_succ_lt_succ hlt)]
      rfl
  | group i r ih =>
    rw [Node.ways, Node.ways, ih hfree, List.map_map, List.map_map]
    rfl

end PullTriage.Regex
