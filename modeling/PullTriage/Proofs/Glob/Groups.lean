import PullTriage.Glob.PathPattern
import PullTriage.Proofs.Glob.Tokens

/-!
# The groups of a glob

A label refers to the wildcards of a glob by number, so the numbers have to be what the glob shows:
the groups of its expression are numbered from one without a gap, in the order of the wildcards
(`groupNumbers_node`).  Their number is that of the wildcards, where a `**` within counts twice
(`groupTotal`), and a slash in front of the glob changes nothing about it.
-/

namespace PullTriage

namespace Regex.Node

variable {α : Type}

/-! ## Groups of an expression -/

/-- The numbers of the groups, in the order in which the groups open. -/
def groupNumbers : Node α → List Nat
  | empty => []
  | leaf _ => []
  | cat a b => a.groupNumbers ++ b.groupNumbers
  | alt a b => a.groupNumbers ++ b.groupNumbers
  | plus _ r => r.groupNumbers
  | group i r => i :: r.groupNumbers

lemma groupNumbers_sequence (parts : List (Node α)) :
    (sequence parts).groupNumbers = parts.flatMap groupNumbers := by
  induction parts with
  | nil => rfl
  | cons r rest ih =>
    cases rest with
    | nil => simp [sequence]
    | cons s rest => exact congrArg (r.groupNumbers ++ ·) ih

/-- The highest group number is the least bound of them all. -/
lemma groupCount_le_iff {r : Node α} {bound : Nat} :
    r.groupCount ≤ bound ↔ ∀ n ∈ r.groupNumbers, n ≤ bound := by
  induction r with
  | empty | leaf a => simp [groupCount, groupNumbers]
  | cat a b iha ihb | alt a b iha ihb =>
    rw [groupCount, groupNumbers, Nat.max_le, iha, ihb, List.forall_mem_append]
  | plus greedy r ih => exact ih
  | group i r ih => rw [groupCount, groupNumbers, Nat.max_le, ih, List.forall_mem_cons]

/-- An expression whose groups are numbered from one without a gap has as many as it counts. -/
lemma groupCount_of_groupNumbers {r : Node α} {count : Nat}
    (h : r.groupNumbers = List.range' 1 count) : r.groupCount = count := by
  refine Nat.le_antisymm (groupCount_le_iff.2 fun n hn => ?_) ?_
  · rw [h, List.mem_range'_1] at hn
    omega
  · cases count with
    | zero => exact Nat.zero_le _
    | succ count =>
      refine groupCount_le_iff.1 (Nat.le_refl _) (count + 1) ?_
      rw [h, List.mem_range'_1]
      omega

end Regex.Node

namespace Glob

open Regex

/-! ## Groups of a glob -/

/-- The number of groups of some tokens. -/
def groupTotal : List Token → Nat
  | [] => 0
  | t :: ts => t.groupCount + groupTotal ts

lemma groupTotal_relative (glob : List Char) :
    groupTotal (tokens (relative glob)) = groupTotal (tokens glob) := by
  unfold relative
  split
  · rw [tokens_cons_slash, groupTotal, Token.groupCount, Nat.zero_add]
  · rfl

lemma groupTotal_rooted (glob : List Char) :
    groupTotal (tokens (rooted glob)) = groupTotal (tokens glob) := by
  rw [tokens_rooted, groupTotal, Token.groupCount, Nat.zero_add, groupTotal_relative]

/-- A token opens its groups with the next numbers. -/
lemma groupNumbers_nodes_token (n : Nat) (t : Token) :
    (t.nodes n).flatMap Node.groupNumbers = List.range' (n + 1) t.groupCount := by
  cases t with
  | literal c => rfl
  | segment => rfl
  | directories => rfl
  | descend => rfl
  | below => rfl

lemma groupNumbers_nodes (n : Nat) (ts : List Token) :
    (nodes n ts).flatMap Node.groupNumbers = List.range' (n + 1) (groupTotal ts) := by
  induction ts generalizing n with
  | nil => rfl
  | cons t ts ih =>
    have next : n + t.groupCount + 1 = n + 1 + 1 * t.groupCount := by omega
    rw [nodes, List.flatMap_append, groupNumbers_nodes_token, ih, next, List.range'_append,
      groupTotal]

/-- The groups of a glob are numbered from one without a gap. -/
theorem groupNumbers_node (ts : List Token) :
    (node ts).groupNumbers = List.range' 1 (groupTotal ts) := by
  rw [node, Node.groupNumbers_sequence, List.cons_append, List.flatMap_cons, List.flatMap_append,
    groupNumbers_nodes]
  simp [Node.groupNumbers]

lemma groupCount_node (ts : List Token) : (node ts).groupCount = groupTotal ts :=
  Node.groupCount_of_groupNumbers (groupNumbers_node ts)

end Glob

end PullTriage
