import PullTriage.Regex.Search
import Mathlib.Logic.Function.Iterate
import Mathlib.Tactic.Common

/-!
# Sets of positions

The laws of the sets that the search works with, each as a statement about membership of one
position: `testBit_positionsOf`, `testBit_above` and `testBit_only` for the operations, and
`testBit_growth_iff` for the loop that closes a target under one more iteration.

`growth` stops early at a fixed point and otherwise after a given number of rounds.  Neither is
visible in its meaning: `growth_eq_iterate` says that it is plain iteration, and as long as a step
only ever leads to the same position or a later one, `last + 1` rounds close the positions up to
`last`.
-/

namespace PullTriage.Regex

/-! ## Membership -/

lemma testBit_positionsOf (bits : List Bool) (p : Nat) :
    (positionsOf bits).testBit p = bits[p]?.getD false := by
  induction bits generalizing p with
  | nil => simp [positionsOf]
  | cons b rest ih =>
    cases p with
    | zero => cases b <;> simp [positionsOf, Nat.testBit_zero]
    | succ p =>
      have half : (2 * positionsOf rest + b.toNat) / 2 = positionsOf rest := by
        have := Bool.toNat_le b
        omega
      rw [positionsOf, Nat.testBit_succ, half, ih, List.getElem?_cons_succ]

lemma testBit_above (set p q : Nat) :
    (above set p).testBit q = (decide (p < q) && set.testBit q) := by
  by_cases h : p < q
  · have back : p + 1 + (q - (p + 1)) = q := by omega
    simp [above, Nat.testBit_shiftLeft, Nat.testBit_shiftRight, h, back, Nat.succ_le_of_lt h]
  · have : ¬ p + 1 ≤ q := by omega
    simp [above, Nat.testBit_shiftLeft, h, this]

lemma testBit_only (set p q : Nat) :
    (only set p).testBit q = (decide (q = p) && set.testBit p) := by
  unfold only
  split
  case isTrue h => rw [Nat.one_shiftLeft, Nat.testBit_two_pow, h, Bool.and_true]; simp [eq_comm]
  case isFalse h => simp [h]

/-- Every position up to `last`, and no other. -/
lemma testBit_all (last p : Nat) : (1 <<< (last + 1) - 1).testBit p = decide (p ≤ last) := by
  rw [Nat.one_shiftLeft, Nat.testBit_two_pow_sub_one]
  exact decide_eq_decide.2 Nat.lt_succ_iff

/-! ## Growth -/

/-- One round of growth. -/
def round (step : Nat → Nat) (set : Nat) : Nat :=
  set ||| step set

lemma testBit_round (step : Nat → Nat) (set p : Nat) :
    (round step set).testBit p = (set.testBit p || (step set).testBit p) :=
  Nat.testBit_or ..

lemma growth_eq_iterate (step : Nat → Nat) (bound set : Nat) :
    growth step bound set = (round step)^[bound] set := by
  induction bound generalizing set with
  | zero => rfl
  | succ bound ih =>
    rw [growth, Function.iterate_succ_apply]
    by_cases h : set ||| step set = set
    · have fixed : round step set = set := h
      rw [if_pos h, fixed, Function.iterate_fixed fixed]
    · rw [if_neg h, ih, round]

section Closure

variable {step : Nat → Nat} {last : Nat} {next : Nat → List Nat}

/-- A step leads to the positions that have a member of the set among their successors. -/
def StepsBy (step : Nat → Nat) (last : Nat) (next : Nat → List Nat) : Prop :=
  ∀ set p, p ≤ last → (step set).testBit p = (next p).any set.testBit

variable (hstep : StepsBy step last next)
  (hnext : ∀ p, p ≤ last → ∀ q ∈ next p, p ≤ q ∧ q ≤ last)

include hstep hnext

/-- From round `last - p` on, the position `p` has been decided. -/
lemma testBit_iterate_stable (target k p : Nat) (hp : p ≤ last) (hk : last - p ≤ k) :
    ((round step)^[k + 1] target).testBit p = ((round step)^[k] target).testBit p := by
  induction hd : last - p using Nat.strongRecOn generalizing k p with
  | ind d ih =>
    rw [Function.iterate_succ_apply', testBit_round, hstep _ _ hp]
    rcases hany : (next p).any ((round step)^[k] target).testBit with _ | _
    · simp
    · -- A successor that lies ahead was decided a round earlier, which decides `p` by now.
      obtain ⟨q, hq, hset⟩ := List.any_eq_true.1 hany
      obtain ⟨hpq, hql⟩ := hnext p hp q hq
      rcases Nat.eq_or_lt_of_le hpq with rfl | hlt
      · simp [hset]
      · obtain ⟨j, rfl⟩ : ∃ j, k = j + 1 := ⟨k - 1, by omega⟩
        rw [ih (last - q) (by omega) j q hql (by omega) rfl] at hset
        have here : (step ((round step)^[j] target)).testBit p = true := by
          rw [hstep _ _ hp]
          exact List.any_eq_true.2 ⟨q, hq, hset⟩
        rw [Function.iterate_succ_apply', testBit_round, here]
        simp

/-- Whatever a round adds lies before something that was there. -/
lemma testBit_iterate_sound (target k p : Nat) (hp : p ≤ last)
    (h : ((round step)^[k] target).testBit p = true) :
    target.testBit p = true ∨
      ∃ q ∈ next p, p < q ∧ ((round step)^[k] target).testBit q = true := by
  induction k with
  | zero => exact .inl h
  | succ k ih =>
    rw [Function.iterate_succ_apply', testBit_round, hstep _ _ hp, Bool.or_eq_true] at h
    have grow (q : Nat) (hq : ((round step)^[k] target).testBit q = true) :
        ((round step)^[k + 1] target).testBit q = true := by
      rw [Function.iterate_succ_apply', testBit_round, hq, Bool.true_or]
    have old (hset : ((round step)^[k] target).testBit p = true) :
        target.testBit p = true ∨
          ∃ q ∈ next p, p < q ∧ ((round step)^[k + 1] target).testBit q = true := by
      rcases ih hset with ht | ⟨q, hq, hpq, hs⟩
      · exact .inl ht
      · exact .inr ⟨q, hq, hpq, grow q hs⟩
    rcases h with hset | hnew
    · exact old hset
    · obtain ⟨q, hq, hset⟩ := List.any_eq_true.1 hnew
      rcases Nat.eq_or_lt_of_le (hnext p hp q hq).1 with rfl | hlt
      · exact old hset
      · exact .inr ⟨q, hq, hlt, grow q hset⟩

/-- The grown set is the least one that holds the target and every position with a later member
among its successors. -/
theorem testBit_growth_iff (target p : Nat) (hp : p ≤ last) :
    (growth step (last + 1) target).testBit p = true ↔
      target.testBit p = true ∨
        ∃ q ∈ next p, p < q ∧ (growth step (last + 1) target).testBit q = true := by
  rw [growth_eq_iterate]
  constructor
  · exact testBit_iterate_sound hstep hnext target (last + 1) p hp
  · rintro (ht | ⟨q, hq, -, hset⟩)
    · have keep (k : Nat) : ((round step)^[k] target).testBit p = true := by
        induction k with
        | zero => exact ht
        | succ k ih => rw [Function.iterate_succ_apply', testBit_round, ih, Bool.true_or]
      exact keep _
    · rw [← testBit_iterate_stable hstep hnext target (last + 1) p hp (by omega),
        Function.iterate_succ_apply', testBit_round, hstep _ _ hp,
        List.any_eq_true.2 ⟨q, hq, hset⟩, Bool.or_true]

end Closure

end PullTriage.Regex
