import PullTriage.Regex.Search
import Mathlib.Tactic.Common

/-!
# The ways through an expression

What an expression means, said without a plan: `Node.ways` lists the ways in which an expression
matches from a position of a text, the preferred way first.  This is the order in which a matcher
that tries one branch after the other finds them, so "the leftmost match, the preferred one first"
is the head of a list.

A loop goes on only with iterations that consume something.  Such an iteration leaves fewer
characters behind it, which bounds their number by what is left of the text; the first iteration
alone may be empty, and then it is the last one.
-/

namespace PullTriage.Regex

/-- A way through an expression: where it ends, and its groups, the latest first. -/
structure Way where
  stop : Nat
  captures : Captures
deriving Repr, DecidableEq

namespace Way

/-- The way that goes nowhere. -/
def stay (p : Nat) : Way :=
  ⟨p, []⟩

/-- One way and then another one. -/
def andThen (w v : Way) : Way :=
  ⟨v.stop, v.captures ++ w.captures⟩

@[simp] lemma stop_stay (p : Nat) : (stay p).stop = p := rfl

@[simp] lemma captures_stay (p : Nat) : (stay p).captures = [] := rfl

@[simp] lemma stop_andThen (w v : Way) : (w.andThen v).stop = v.stop := rfl

@[simp] lemma captures_andThen (w v : Way) :
    (w.andThen v).captures = v.captures ++ w.captures := rfl

@[simp] lemma andThen_stay (w : Way) : w.andThen (stay w.stop) = w := rfl

end Way

/-- The character before a position. -/
def charBefore (text : List Char) : Nat → Option Char
  | 0 => none
  | p + 1 => text[p]?

/-- Where a leaf leads to from a position, if it matches there. -/
def Leaf.step? (text : List Char) : Leaf → Nat → Option Nat
  | .one set, p => if text[p]?.any (set.has ·.toNat) then some (p + 1) else none
  | .look cond, p =>
    if p ≤ text.length ∧ cond.holds (charBefore text p) text[p]? then some p else none

/-- Any number of consuming iterations, `bound` of them at most, where `ways` are those of one. -/
def iterations (greedy : Bool) (ways : Nat → List Way) : (bound : Nat) → Nat → List Way
  | 0, p => [.stay p]
  | bound + 1, p =>
    let onward := ((ways p).filter (p < ·.stop)).flatMap fun w =>
      (iterations greedy ways bound w.stop).map w.andThen
    if greedy then onward ++ [.stay p] else .stay p :: onward

/-- The ways through an expression from a position of a text, the preferred one first. -/
def Node.ways (text : List Char) : Node Leaf → Nat → List Way
  | .empty, p => [.stay p]
  | .leaf a, p => ((a.step? text p).map .stay).toList
  | .cat a b, p => (a.ways text p).flatMap fun w => (b.ways text w.stop).map w.andThen
  | .alt a b, p => a.ways text p ++ b.ways text p
  | .plus greedy r, p => (r.ways text p).flatMap fun w =>
    (if p < w.stop then iterations greedy (r.ways text) (text.length - w.stop) w.stop
      else [.stay w.stop]).map w.andThen
  | .group i r, p => (r.ways text p).map fun w => ⟨w.stop, (i, p, w.stop) :: w.captures⟩

/-! ## Ways go forward and stay in the text -/

lemma Leaf.step?_bounds {text : List Char} {a : Leaf} {p q : Nat} (h : a.step? text p = some q) :
    p ≤ q ∧ q ≤ text.length := by
  cases a with
  | one set =>
    rw [step?, Option.ite_none_right_eq_some, Option.some.injEq] at h
    obtain ⟨hc, rfl⟩ := h
    have : p < text.length := by
      by_contra hp
      simp [List.getElem?_eq_none (Nat.le_of_not_lt hp)] at hc
    omega
  | look cond =>
    rw [step?, Option.ite_none_right_eq_some, Option.some.injEq] at h
    obtain ⟨⟨hp, -⟩, rfl⟩ := h
    exact ⟨Nat.le_refl p, hp⟩

/-- To be at the end of a loop is to be still, or to go one iteration ahead and then on. -/
lemma mem_iterations_succ {greedy : Bool} {ways : Nat → List Way} {bound p : Nat} {w : Way} :
    w ∈ iterations greedy ways (bound + 1) p ↔ w = .stay p ∨
      ∃ v ∈ ways p, p < v.stop ∧ ∃ u ∈ iterations greedy ways bound v.stop, v.andThen u = w := by
  have onward : (w ∈ ((ways p).filter (p < ·.stop)).flatMap fun v =>
      (iterations greedy ways bound v.stop).map v.andThen) ↔
      ∃ v ∈ ways p, p < v.stop ∧ ∃ u ∈ iterations greedy ways bound v.stop, v.andThen u = w := by
    simp only [List.mem_flatMap, List.mem_filter, List.mem_map, decide_eq_true_eq, and_assoc]
  cases greedy with
  | true => rw [iterations, if_pos rfl, List.mem_append, onward, List.mem_singleton, or_comm]
  | false => rw [iterations, if_neg Bool.false_ne_true, List.mem_cons, onward]

lemma iterations_bounds {greedy : Bool} {ways : Nat → List Way} {last : Nat}
    (hways : ∀ p ≤ last, ∀ w ∈ ways p, p ≤ w.stop ∧ w.stop ≤ last)
    {bound p : Nat} (hp : p ≤ last) {w : Way} (hw : w ∈ iterations greedy ways bound p) :
    p ≤ w.stop ∧ w.stop ≤ last := by
  induction bound generalizing p w with
  | zero => simp_all [iterations]
  | succ bound ih =>
    rcases mem_iterations_succ.1 hw with rfl | ⟨v, hv, -, u, hu, rfl⟩
    · exact ⟨Nat.le_refl p, hp⟩
    · obtain ⟨hpv, hvl⟩ := hways p hp v hv
      obtain ⟨hvu, hul⟩ := ih hvl hu
      exact ⟨Nat.le_trans hpv hvu, hul⟩

theorem Node.ways_bounds {text : List Char} (node : Node Leaf) {p : Nat} (hp : p ≤ text.length)
    {w : Way} (hw : w ∈ node.ways text p) : p ≤ w.stop ∧ w.stop ≤ text.length := by
  induction node generalizing p w with
  | empty =>
    obtain rfl : w = .stay p := by simpa [ways] using hw
    exact ⟨Nat.le_refl p, hp⟩
  | leaf a =>
    obtain ⟨q, hq, rfl⟩ : ∃ q, a.step? text p = some q ∧ Way.stay q = w := by
      simpa [ways] using hw
    exact Leaf.step?_bounds hq
  | cat a b iha ihb =>
    simp only [ways, List.mem_flatMap, List.mem_map] at hw
    obtain ⟨v, hv, u, hu, rfl⟩ := hw
    obtain ⟨hpv, hvl⟩ := iha hp hv
    obtain ⟨hvu, hul⟩ := ihb hvl hu
    exact ⟨Nat.le_trans hpv hvu, hul⟩
  | alt a b iha ihb =>
    rcases List.mem_append.1 hw with ha | hb
    · exact iha hp ha
    · exact ihb hp hb
  | plus greedy r ih =>
    simp only [ways, List.mem_flatMap, List.mem_map] at hw
    obtain ⟨v, hv, u, hu, rfl⟩ := hw
    obtain ⟨hpv, hvl⟩ := ih hp hv
    have hvu : v.stop ≤ u.stop ∧ u.stop ≤ text.length := by
      split at hu
      · exact iterations_bounds (fun _ hq _ hw => ih hq hw) hvl hu
      · obtain rfl : u = .stay v.stop := by simpa using hu
        exact ⟨Nat.le_refl _, hvl⟩
    exact ⟨Nat.le_trans hpv hvu.1, hvu.2⟩
  | group i r ih =>
    obtain ⟨v, hv, rfl⟩ := List.mem_map.1 hw
    exact (ih hp hv : p ≤ v.stop ∧ v.stop ≤ text.length)

end PullTriage.Regex
