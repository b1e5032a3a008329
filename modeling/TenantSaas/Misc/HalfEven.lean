import Mathlib.Algebra.Order.Field.Basic
import Mathlib.Algebra.Ring.Int.Parity
import Mathlib.Tactic.Linarith

/-!
# Rounding to an integer, ties to even

The relation between a number and its rounding, without a way to compute it: nothing else is
nearer, and of two that are as near the even one is taken.
-/

namespace HalfEven

variable {K : Type*} [Field K] [LinearOrder K] [IsStrictOrderedRing K] {q r : K} {m n : ℤ}

/-- `n` is the rounding of `q`. -/
structure IsRound (q : K) (n : ℤ) : Prop where
  below : (n : K) - 1 / 2 ≤ q
  above : q ≤ n + 1 / 2
  even : q = n - 1 / 2 ∨ q = n + 1 / 2 → Even n

theorem isRound_intCast (n : ℤ) : IsRound (n : K) n where
  below := by linarith
  above := by linarith
  even := by
    intro h
    rcases h with h | h <;> linarith

/-- Rounding loses half a unit at most. -/
theorem IsRound.abs_sub_le (h : IsRound q n) : |(n : K) - q| ≤ 1 / 2 :=
  abs_le.mpr ⟨by linarith [h.above], by linarith [h.below]⟩

theorem IsRound.mono (hq : IsRound q m) (hr : IsRound r n) (h : q ≤ r) : m ≤ n := by
  by_contra hlt
  have hstep : (n : K) + 1 ≤ m := by exact_mod_cast Int.add_one_le_of_lt (not_le.mp hlt)
  have hbelow := hq.below
  have habove := hr.above
  -- only a tie between `n` and `n + 1` is left, and they are not both even
  have hm : m = n + 1 := by
    have hcast : (m : K) = n + 1 := by linarith
    exact_mod_cast hcast
  have htie : q = m - 1 / 2 := by linarith
  have htie' : r = n + 1 / 2 := by linarith
  have hm_even := hq.even (.inl htie)
  have hn_even := hr.even (.inr htie')
  rw [hm, Int.even_add_one] at hm_even
  exact hm_even hn_even

theorem IsRound.unique (hm : IsRound q m) (hn : IsRound q n) : m = n :=
  le_antisymm (hm.mono hn le_rfl) (hn.mono hm le_rfl)

/-- An integer is its own rounding. -/
theorem IsRound.eq_of_intCast (h : IsRound (m : K) n) : n = m := h.unique (isRound_intCast m)

end HalfEven
