import PullTriage.Proofs.Glob.Divisions
import PullTriage.Proofs.Regex.Anchored
import Mathlib.Data.List.Find

/-!
# What the wildcards of a glob capture

Label texts refer to what a wildcard stands for, so it matters which division of a path the search
reports.  It is the greedy one: `PathPattern.captures?_greedy`.

The search takes the first way through the expression.  The ways through one wildcard are those over
the beginnings that it can stand for, the longest first (`ways_slot`), so the ways through the whole
glob are those of the divisions in their order (`ways_partNodes`), and the first one that takes the
whole path is the greedy division (`search_node`).
-/

namespace PullTriage

namespace Glob

open Regex

/-! ## The ways through the expression -/

/-- The expression of a slot, with its group. -/
def Slot.node (i : Nat) : Slot → Node Leaf
  | segment => .group i segmentNode
  | directories => .option true (.group i directoriesNode)
  | line => .group i lineNode

/-- The expressions of some parts, where `n` groups come before. -/
def partNodes (n : Nat) : List Part → List (Node Leaf)
  | [] => []
  | .literal c :: rest => .leaf (.one (.single c)) :: partNodes n rest
  | .slot slot :: rest => slot.node (n + 1) :: partNodes (n + 1) rest

lemma nodes_eq_partNodes (n : Nat) (ts : List Token) : nodes n ts = partNodes n (parts ts) := by
  induction ts generalizing n with
  | nil => rfl
  | cons t ts ih =>
    rw [nodes, ih]
    cases t <;> rfl

/-- The way over a text from `p` by the group `i`, which takes no part if the text is empty. -/
def wayOver (i p : Nat) (group : List Char) : Way :=
  if group = [] then .stay p else ⟨p + group.length, [(i, p, p + group.length)]⟩

/-- The way through some parts from `p`, where `n` groups come before. -/
def wayThrough (n p : Nat) : List Part → List (List Char) → Way
  | [], _ => .stay p
  | .literal _ :: rest, groups => wayThrough n (p + 1) rest groups
  | .slot _ :: rest, groups =>
    (wayOver (n + 1) p (groups.headD [])).andThen
      (wayThrough (n + 1) (p + (groups.headD []).length) rest groups.tail)

lemma ways_one_of_drop_nil (set : CharClass) {text : List Char} {p : Nat}
    (h : text.drop p = []) : (Node.leaf (.one set)).ways text p = [] := by
  have hend : text[p]? = none := by
    rw [List.getElem?_eq_none_iff]
    exact List.drop_eq_nil_iff.1 h
  simp [Node.ways, Leaf.step?, hend]

lemma ways_one_of_drop_cons (set : CharClass) {text rest : List Char} {d : Char} {p : Nat}
    (h : text.drop p = d :: rest) :
    (Node.leaf (.one set)).ways text p = if set.has d.toNat then [.stay (p + 1)] else [] := by
  have hd : text[p]? = some d := by
    rw [← List.head?_drop, h, List.head?_cons]
  rw [Node.ways, Leaf.step?, hd, Option.any_some]
  split <;> rfl

lemma beginnings_cons (c d : Char) (text : List Char) : beginnings c (d :: text) =
    if d = c then [[]] else (beginnings c text).map (d :: ·) ++ [[]] := by
  rw [beginnings, beginnings, List.inits_cons, List.reverse_cons, ← List.map_reverse,
    List.filter_append, List.filter_map]
  by_cases hd : d = c
  · subst hd
    simp [Function.comp_def]
  · rw [if_neg hd]
    have same : (fun group : List Char => decide (c ∉ group)) ∘ (d :: ·) =
        fun group => decide (c ∉ group) := by
      funext group
      simp [Ne.symm hd]
    rw [same]
    rfl

lemma runs_cons (c d : Char) (text : List Char) : runs c (d :: text) =
    if d = c then [] else (beginnings c text).map (d :: ·) := by
  rw [runs, beginnings_cons]
  split
  · rfl
  · simp [List.filter_append, List.filter_map, Function.comp_def]

/-- One character at a time, as many as there are without `c`, and the longest way is preferred. -/
lemma iterations_one {set : CharClass} {c : Char}
    (hset : ∀ d : Char, set.has d.toNat = decide (d ≠ c)) (text : List Char) {bound p : Nat}
    (hbound : text.length - p ≤ bound) :
    iterations true ((Node.leaf (.one set)).ways text) bound p =
      (beginnings c (text.drop p)).map fun group => .stay (p + group.length) := by
  induction bound generalizing p with
  | zero =>
    rw [List.drop_eq_nil_of_le (by omega)]
    rfl
  | succ bound ih =>
    rw [iterations, if_pos rfl]
    cases hdrop : text.drop p with
    | nil =>
      rw [ways_one_of_drop_nil set hdrop]
      rfl
    | cons d rest =>
      have onward := ih (p := p + 1) (by omega)
      rw [← List.tail_drop, hdrop, List.tail_cons] at onward
      rw [ways_one_of_drop_cons set hdrop, hset, beginnings_cons]
      by_cases hc : d = c
      · simp [hc]
      · simp [hc, onward, Function.comp_def, Nat.add_assoc, Nat.add_comm 1, Way.andThen, Way.stay]

lemma ways_plus_one {set : CharClass} {c : Char}
    (hset : ∀ d : Char, set.has d.toNat = decide (d ≠ c)) (text : List Char) (p : Nat) :
    (Node.plus true (.leaf (.one set))).ways text p =
      (runs c (text.drop p)).map fun group => .stay (p + group.length) := by
  rw [Node.ways]
  cases hdrop : text.drop p with
  | nil =>
    rw [ways_one_of_drop_nil set hdrop]
    rfl
  | cons d rest =>
    have onward := iterations_one hset text (Nat.le_refl (text.length - (p + 1)))
    rw [← List.tail_drop, hdrop, List.tail_cons] at onward
    rw [ways_one_of_drop_cons set hdrop, hset, runs_cons]
    by_cases hc : d = c
    · simp [hc]
    · simp [hc, onward, Function.comp_def, Nat.add_assoc, Nat.add_comm 1, Way.andThen, Way.stay]

/-- The ways through a slot are those over the beginnings that it can stand for, the longest
preferred. -/
lemma ways_slot (slot : Slot) (i : Nat) (text : List Char) (p : Nat) :
    (slot.node i).ways text p = (slot.heads (text.drop p)).map (wayOver i p) := by
  have takes {group : List Char} (h : group ≠ []) :
      wayOver i p group = ⟨p + group.length, [(i, p, p + group.length)]⟩ := if_neg h
  have grouped {r : Node Leaf} {c : Char} (h : r.ways text p =
      (runs c (text.drop p)).map fun group => .stay (p + group.length)) :
      (Node.group i r).ways text p = (runs c (text.drop p)).map (wayOver i p) := by
    rw [Node.ways, h, List.map_map]
    exact List.map_congr_left fun group hgroup => (takes (mem_runs_iff.1 hgroup).1.1).symm
  cases slot with
  | segment => exact grouped (ways_plus_one has_notSlash text p)
  | line => exact grouped (ways_plus_one has_notNewline text p)
  | directories =>
    have slash (line : List Char) (hline : line ∈ runs '\n' (text.drop p)) :
        (Node.leaf (.one (.single '/'))).ways text (p + line.length) =
          if line ++ ['/'] <+: text.drop p then [.stay (p + line.length + 1)] else [] := by
      obtain ⟨rest, hrest⟩ := (mem_runs_iff.1 hline).2
      have hdrop : text.drop (p + line.length) = rest := by
        rw [← List.drop_drop, ← hrest, List.drop_left]
      simp only [← hrest, List.prefix_append_right_inj, List.singleton_prefix_iff_head?_eq_some]
      cases rest with
      | nil => exact ways_one_of_drop_nil _ hdrop
      | cons d rest =>
        rw [ways_one_of_drop_cons _ hdrop, has_single]
        simp
    have first : (Node.group i directoriesNode).ways text p =
        ((runs '\n' (text.drop p)).filterMap fun line =>
          if line ++ ['/'] <+: text.drop p then some (line ++ ['/']) else none).map
            (wayOver i p) := by
      rw [Node.ways, directoriesNode, Node.ways, lineNode, ways_plus_one has_notNewline,
        List.flatMap_map, List.filterMap_eq_flatMap_toList, List.map_flatMap, List.map_flatMap]
      refine List.flatMap_congr fun line hline => ?_
      rw [Way.stop_stay, slash line hline]
      split
      · simp [takes, Way.andThen, Way.stay, Nat.add_assoc]
      · rfl
    rw [Slot.node, Node.option, if_pos rfl, Node.ways, first, Node.ways, Slot.heads,
      List.map_append]
    rfl

lemma stop_wayOver (i p : Nat) (group : List Char) :
    (wayOver i p group).stop = p + group.length := by
  rw [wayOver]
  split
  · next h => rw [h, List.length_nil, Way.stop_stay, Nat.add_zero]
  · rfl

/-- The ways through some parts are those of the divisions, in the same order. -/
lemma ways_partNodes (n : Nat) (ps : List Part) (text : List Char) (p : Nat) :
    (Node.sequence (partNodes n ps)).ways text p =
      (divisions ps (text.drop p)).map (wayThrough n p ps) := by
  induction ps generalizing n p with
  | nil => rfl
  | cons part rest ih =>
    cases part with
    | literal c =>
      rw [partNodes, ways_sequence_cons]
      cases hdrop : text.drop p with
      | nil =>
        rw [ways_one_of_drop_nil _ hdrop]
        rfl
      | cons d tail =>
        have onward := ih n (p + 1)
        rw [← List.tail_drop, hdrop, List.tail_cons] at onward
        rw [ways_one_of_drop_cons _ hdrop, has_single, divisions]
        by_cases hc : d = c
        · simp only [hc, decide_true, if_true, List.flatMap_singleton, Way.stop_stay, onward,
            Way.map_stay_andThen]
          rfl
        · simp [hc]
    | slot slot =>
      rw [partNodes, ways_sequence_cons, ways_slot, divisions, List.flatMap_map, List.map_flatMap]
      refine List.flatMap_congr fun group _ => ?_
      rw [stop_wayOver, ih, List.drop_drop, List.map_map, List.map_map]
      rfl

lemma stop_wayThrough {ps : List Part} {groups : List (List Char)} (n p : Nat) :
    (wayThrough n p ps groups).stop = p + (write ps groups).length := by
  induction ps generalizing n p groups with
  | nil => rfl
  | cons part rest ih =>
    cases part with
    | literal c =>
      rw [wayThrough, ih, write, List.length_cons]
      omega
    | slot slot =>
      rw [wayThrough, Way.stop_andThen, ih, write, List.length_append]
      omega

/-! ## The texts of the groups -/

/-- What is reported of a group: its text, or nothing if the group took no part. -/
def capture? (group : List Char) : Option String :=
  if group = [] then none else some (String.ofList group)

/-- The groups of later parts have higher numbers. -/
lemma lt_of_mem_captures {ps : List Part} {groups : List (List Char)} {n p : Nat}
    {c : Nat × Nat × Nat} (h : c ∈ (wayThrough n p ps groups).captures) : n < c.1 := by
  induction ps generalizing n p groups with
  | nil => cases h
  | cons part rest ih =>
    cases part with
    | literal c => exact ih h
    | slot slot =>
      rcases List.mem_append.1 h with h | h
      · exact Nat.lt_of_succ_lt (ih h)
      · rw [wayOver] at h
        split at h
        · cases h
        · cases List.mem_singleton.1 h
          exact Nat.lt_succ_self n

/-- Among the captures of a way, those of a group have its text. -/
lemma find?_captures {ps : List Part} {groups : List (List Char)} {text : List Char} {n p : Nat}
    (hwrite : write ps groups <+: text.drop p) (hlength : groups.length = (slots ps).length)
    (k : Nat) :
    ((wayThrough n p ps groups).captures.find? fun c => c.1 == n + 1 + k).map
        (fun c => slice text c.2.1 c.2.2) = groups[k]?.bind capture? := by
  induction ps generalizing n p groups k with
  | nil =>
    obtain rfl := List.eq_nil_of_length_eq_zero hlength
    rfl
  | cons part rest ih =>
    cases part with
    | literal c =>
      refine ih ?_ hlength k
      rw [← List.tail_drop]
      obtain ⟨behind, hbehind⟩ := hwrite
      exact ⟨behind, congrArg List.tail hbehind⟩
    | slot slot =>
      obtain ⟨group, groups, rfl⟩ := List.exists_cons_of_length_eq_add_one hlength
      have hgroup : group <+: text.drop p := (List.prefix_append _ _).trans hwrite
      have behind : write rest groups <+: text.drop (p + group.length) := by
        obtain ⟨tail, htail⟩ := hwrite
        rw [← List.drop_drop, ← htail, write, List.headD_cons, List.tail_cons, List.append_assoc,
          List.drop_left]
        exact List.prefix_append _ _
      have onward := ih (n := n + 1) behind (Nat.succ.inj hlength)
      rw [wayThrough, Way.captures_andThen, List.find?_append, List.headD_cons, List.tail_cons]
      cases k with
      | zero =>
        have later : (wayThrough (n + 1) (p + group.length) rest groups).captures.find?
            (fun c => c.1 == n + 1) = none := by
          refine List.find?_eq_none.2 fun c hc => ?_
          have hlt := lt_of_mem_captures hc
          simp [Nat.ne_of_gt hlt]
        rw [Nat.add_zero, later, Option.none_or, wayOver, List.getElem?_cons_zero, Option.bind_some,
          capture?]
        split
        · rfl
        · have part : slice text p (p + group.length) = String.ofList group := by
            rw [slice, Nat.add_sub_cancel_left, ← List.prefix_iff_eq_take.1 hgroup]
          simp [part]
      | succ k =>
        have earlier : (wayOver (n + 1) p group).captures.find?
            (fun c => c.1 == n + 1 + (k + 1)) = none := by
          rw [wayOver]
          split
          · rfl
          · simp
        rw [earlier, Option.or_none, List.getElem?_cons_succ, ← onward k]
        congr 3
        funext c
        congr 1
        omega

/-- The captures of a way through all parts, group by group. -/
lemma groups_wayThrough {ps : List Part} {groups : List (List Char)} {text : List Char}
    (hwrite : write ps groups <+: text) (hlength : groups.length = (slots ps).length)
    (start stop : Nat) :
    (Match.mk text start stop (wayThrough 0 0 ps groups).captures).groups groups.length =
      groups.map capture? := by
  have hgroup (k : Nat) :
      (Match.mk text start stop (wayThrough 0 0 ps groups).captures).group (k + 1) =
        groups[k]?.bind capture? := by
    have found := find?_captures (n := 0) (p := 0) hwrite hlength k
    rw [Nat.zero_add, Nat.add_comm] at found
    rw [← found, Match.group, if_neg (Nat.succ_ne_zero k)]
    cases (wayThrough 0 0 ps groups).captures.find? fun c => c.1 == k + 1 <;> rfl
  rw [Match.groups]
  refine List.ext_getElem (by simp) fun k hk hk' => ?_
  rw [List.length_map] at hk'
  simp [hgroup, hk']

/-! ## The search -/

variable {ts : List Token} {text : List Char} {groups : List (List Char)}

/-- The search of a glob's expression stops at the greedy division. -/
lemma search_node (ts : List Token) (text : List Char) :
    (node ts).search text = (greedy? ts text).map fun groups =>
      (0, text.length, (wayThrough 0 0 (parts ts) groups).captures) := by
  have ways : (Node.sequence (nodes 0 ts)).ways text 0 =
      (divisions (parts ts) text).map (wayThrough 0 0 (parts ts)) := by
    rw [nodes_eq_partNodes, ways_partNodes, List.drop_zero]
  have whole (groups : List (List Char)) (hgroups : groups ∈ divisions (parts ts) text) :
      (wayThrough 0 0 (parts ts) groups).stop = text.length ↔ write (parts ts) groups = text := by
    have front := (mem_divisions_iff.1 hgroups).2
    rw [stop_wayThrough, Nat.zero_add]
    exact ⟨front.eq_of_length, congrArg List.length⟩
  have first : ((Node.sequence (nodes 0 ts)).ways text 0).find? (·.stop = text.length) =
      (greedy? ts text).map (wayThrough 0 0 (parts ts)) := by
    rw [ways, List.find?_map, greedy?]
    congr 1
    exact List.find?_congr fun groups hgroups => decide_eq_decide.2 (whole groups hgroups)
  have reduced := search_anchoredSequence (nodes 0 ts) text
  rw [first, Option.map_map] at reduced
  rw [node, ← anchoredSequence, reduced]
  cases hgreedy : greedy? ts text with
  | none => rfl
  | some groups =>
    have stops := (whole groups (divides_iff.1 (isGreedy_of_greedy? hgreedy).divides).1).2
      (isGreedy_of_greedy? hgreedy).divides.written
    simp [stops]

/-- A text can be divided exactly when it is one piece for each token. -/
theorem exists_divides_iff (ts : List Token) (text : List Char) :
    (∃ groups, Divides ts text groups) ↔
      ∃ pieces, List.Forall₂ (fun t piece => piece ∈ t.pieces) ts pieces ∧
        text = pieces.flatten := by
  rw [← isSome_search_node, search_node, Option.isSome_map, Option.isSome_iff_exists]
  constructor
  · rintro ⟨groups, h⟩
    exact h.exists_greedy?
  · rintro ⟨groups, h⟩
    exact ⟨groups, (isGreedy_of_greedy? h).divides⟩

/-! ## What is reported -/

/-- The report on the groups of a glob for a text: it has one entry for each group in order, which
is the group's text in the greedy division.  An entry is absent for directories that stand for
nothing and for no other group, and with the entries in the places of the wildcards the glob is the
text. -/
structure Reports (ts : List Token) (text : List Char) (captures : List (Option String)) :
    Prop where
  greedy : ∃ groups, IsGreedy ts text groups ∧ captures = groups.map capture?
  length : captures.length = groupTotal ts
  absent : List.Forall₂ (fun slot capture => capture = none → slot = .directories)
    (slots (parts ts)) captures
  written : write (parts ts) (captures.map fun capture => (capture.getD "").toList) = text

lemma toList_getD_capture? (group : List Char) : ((capture? group).getD "").toList = group := by
  rw [capture?]
  split
  · next h => rw [h, Option.getD_none, String.toList_empty]
  · rw [Option.getD_some, String.toList_ofList]

/-- Only the directories can stand for nothing. -/
lemma eq_directories_of_nil_mem {slot : Slot} (h : [] ∈ slot.pieces) : slot = .directories := by
  cases slot with
  | segment => exact absurd rfl h.1
  | directories => rfl
  | line => exact absurd rfl h.1

lemma IsGreedy.reports (h : IsGreedy ts text groups) : Reports ts text (groups.map capture?) where
  greedy := ⟨groups, h, rfl⟩
  length := by rw [List.length_map, ← h.divides.pieces.length_eq, length_slots]
  absent := by
    rw [List.forall₂_map_right_iff]
    refine h.divides.pieces.imp fun slot group hgroup hnone => ?_
    have hnil : group = [] := by
      by_contra hne
      rw [capture?, if_neg hne] at hnone
      cases hnone
    exact eq_directories_of_nil_mem (hnil ▸ hgroup)
  written := by
    have same : (fun capture => (capture.getD "").toList) ∘ capture? = id :=
      funext toList_getD_capture?
    rw [List.map_map, same, List.map_id, h.divides.written]

lemma reports_iff {captures : List (Option String)} :
    Reports ts text captures ↔ (greedy? ts text).map (List.map capture?) = some captures := by
  rw [Option.map_eq_some_iff]
  constructor
  · intro h
    obtain ⟨groups, hgreedy, rfl⟩ := h.greedy
    exact ⟨groups, greedy?_eq_some_iff.2 hgreedy, rfl⟩
  · rintro ⟨groups, hgreedy, rfl⟩
    exact (greedy?_eq_some_iff.1 hgreedy).reports

end Glob

namespace PathPattern

open Glob

/-! ## Patterns -/

lemma captures?_eq_map_greedy? (glob path : String) :
    (compile glob).captures? path =
      (greedy? (tokens (rooted glob.toList)) (rooted path.toList)).map (List.map capture?) := by
  have count : (compile glob).regex.groupCount = groupTotal (tokens (rooted glob.toList)) := by
    rw [regex_compile, Regex.groupCount, groupCount_node]
  rw [captures?, search_compile, search_node, count]
  cases hgreedy : greedy? (tokens (rooted glob.toList)) (rooted path.toList) with
  | none => rfl
  | some groups =>
    have divides := (isGreedy_of_greedy? hgreedy).divides
    have length := divides.pieces.length_eq.symm
    have front : write (parts (tokens (rooted glob.toList))) groups <+: rooted path.toList := by
      rw [divides.written]
    have texts := groups_wayThrough front length 0 (rooted path.toList).length
    rw [length, length_slots] at texts
    simp only [Option.map_some, texts]

/-- There are captures of a path exactly when the glob matches it, and that is when the path, from
the root, can be divided among the wildcards; and they report the greedy division. -/
theorem captures?_greedy (glob path : String) :
    ((∃ captures, (compile glob).captures? path = some captures) ↔
        (compile glob).matches? path = true) ∧
      ∃ ts, Tokenizes (rooted glob.toList) ts ∧
        ((compile glob).matches? path = true ↔
          ∃ groups, Divides ts (rooted path.toList) groups) ∧
        ∀ captures, (compile glob).captures? path = some captures ↔
          Reports ts (rooted path.toList) captures := by
  refine ⟨?_, tokens (rooted glob.toList), tokenizes_iff.2 rfl, ?_, fun captures => ?_⟩
  · rw [captures?, matches?, ← Option.isSome_iff_exists, Option.isSome_map]
  · rw [matches?, search_compile, Option.isSome_map, isSome_search_node, exists_divides_iff]
  · rw [captures?_eq_map_greedy?, reports_iff]

example : (compile "**/x*b*").captures? "xabcbd" = some [none, some "abc", some "d"] := by
  decide +kernel

end PathPattern

end PullTriage
