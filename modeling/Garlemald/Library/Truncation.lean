import Mathlib.Algebra.Order.Floor.Ring
import Mathlib.Tactic.Linarith

/-!
Rounding towards zero, as integer division and conversion do it. These maps are monotone,
and a shift of the argument by whole steps shifts the value by no more than as many.
-/

namespace Library

section Truncate

variable {K : Type*} [Field K] [LinearOrder K] [IsStrictOrderedRing K] [FloorRing K]

def truncate (q : K) : ℤ := if 0 ≤ q then ⌊q⌋ else ⌈q⌉

theorem floor_le_truncate (q : K) : ⌊q⌋ ≤ truncate q := by
  unfold truncate
  split
  · exact le_rfl
  · exact Int.floor_le_ceil q

theorem truncate_le_add {x y : K} {k : ℤ} (nonneg : 0 ≤ k) (h : x ≤ y + k) :
    truncate x ≤ truncate y + k := by
  by_cases right : 0 ≤ x
  · rw [truncate, if_pos right]
    have floor : ⌊x⌋ ≤ ⌊y⌋ + k := by
      rw [← Int.floor_add_intCast]
      exact Int.floor_le_floor h
    exact floor.trans (add_le_add_left (floor_le_truncate y) k)
  · rw [truncate, if_neg right]
    by_cases right' : 0 ≤ y
    · have below : ⌈x⌉ ≤ 0 := Int.ceil_le.mpr (by push_cast; linarith)
      have above : 0 ≤ truncate y := by
        rw [truncate, if_pos right']
        exact Int.floor_nonneg.mpr right'
      omega
    · rw [truncate, if_neg right', ← Int.ceil_add_intCast]
      exact Int.ceil_le_ceil h

end Truncate

theorem tdiv_le_add {a b k n : ℤ} (positive : 0 < n) (nonneg : 0 ≤ k) (h : a ≤ b + k * n) :
    a.tdiv n ≤ b.tdiv n + k := by
  apply (Int.tdiv_le_tdiv positive h).trans
  rw [Int.tdiv_eq_ediv, Int.tdiv_eq_ediv, Int.add_mul_ediv_right _ _ positive.ne',
    Int.sign_eq_one_of_pos positive]
  by_cases whole : 0 ≤ b ∨ n ∣ b
  · have whole' : 0 ≤ b + k * n ∨ n ∣ b + k * n := by
      rcases whole with right | divides
      · exact .inl (add_nonneg right (mul_nonneg nonneg positive.le))
      · exact .inr (dvd_add divides (dvd_mul_left n k))
    rw [if_pos whole, if_pos whole']
    omega
  · rw [if_neg whole]
    split <;> omega

theorem clamp_le_add {low high a b k : ℤ} (nonneg : 0 ≤ k) (h : a ≤ b + k) :
    max low (min a high) ≤ max low (min b high) + k := by
  omega

end Library
