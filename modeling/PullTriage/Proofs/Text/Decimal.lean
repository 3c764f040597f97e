import PullTriage.Text.Decimal
import Mathlib.Tactic.Lemma

/-!
# Numbers in decimal digits

Digits are read as the number that they write (`decimalBelow?_eq_some_iff`), and the digits of a
number below the bound are read as the number (`decimalBelow?_toString`).  No digits but those of
zero begin with a zero (`exists_toDigits_eq_cons`).
-/

namespace PullTriage.Text

variable {bound n : Nat} {digits : List Char}

/-- Digits are read as the number that they write, if it is below the bound. -/
lemma decimalBelow?_eq_some_iff :
    decimalBelow? bound digits = some n ↔
      digits ≠ [] ∧ (∀ c ∈ digits, c.isDigit = true) ∧ Nat.ofDigitChars 10 digits 0 = n ∧
        n < bound := by
  have accepted : (digits.isEmpty || !digits.all Char.isDigit) = false ↔
      digits ≠ [] ∧ ∀ c ∈ digits, c.isDigit = true := by simp
  unfold decimalBelow?
  cases hcheck : digits.isEmpty || !digits.all Char.isDigit with
  | true =>
    rw [if_pos rfl]
    refine ⟨nofun, fun h => ?_⟩
    rw [accepted.2 ⟨h.1, h.2.1⟩] at hcheck
    cases hcheck
  | false =>
    obtain ⟨hne, hall⟩ := accepted.1 hcheck
    rw [if_neg Bool.false_ne_true]
    by_cases hbound : Nat.ofDigitChars 10 digits 0 < bound
    · simp only [if_pos hbound, Option.some.injEq]
      constructor
      · rintro rfl
        exact ⟨hne, hall, rfl, hbound⟩
      · exact fun h => h.2.2.1
    · simp only [if_neg hbound]
      refine ⟨nofun, ?_⟩
      rintro ⟨-, -, rfl, h⟩
      exact absurd h hbound

lemma isDigit_of_mem_toDigits {c : Char} (h : c ∈ Nat.toDigits 10 n) : c.isDigit = true :=
  Nat.isDigit_of_mem_toDigits (by decide) (by decide) h

lemma isDigit_of_mem_toString {c : Char} (h : c ∈ (toString n).toList) : c.isDigit = true := by
  rw [Nat.toString_eq_repr, Nat.toList_repr] at h
  exact isDigit_of_mem_toDigits h

lemma decimalBelow?_toString (h : n < bound) :
    decimalBelow? bound (toString n).toList = some n := by
  refine decimalBelow?_eq_some_iff.2 ⟨?_, fun c hc => isDigit_of_mem_toString hc, ?_, h⟩
  · rw [Nat.toString_eq_repr, Nat.toList_repr]
    exact Nat.toDigits_ne_nil
  · rw [Nat.toString_eq_repr, Nat.toList_repr]
    exact Nat.ofDigitChars_ten_toDigits

/-- The first digit of a number that is not zero. -/
lemma exists_toDigits_eq_cons (h : 0 < n) :
    ∃ c rest, Nat.toDigits 10 n = c :: rest ∧ c ≠ '0' := by
  induction n using Nat.strongRecOn with
  | ind n ih =>
    rw [Nat.toDigits_eq_if (by decide)]
    split
    · next hlt =>
      have digit : ∀ d < 10, 0 < d → Nat.digitChar d ≠ '0' := by decide
      exact ⟨_, [], rfl, digit n hlt h⟩
    · next hle =>
      obtain ⟨c, rest, hdigits, hc⟩ := ih (n / 10) (by omega) (by omega)
      rw [hdigits]
      exact ⟨c, _, List.cons_append, hc⟩

end PullTriage.Text
