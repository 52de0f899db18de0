import Mathlib.Data.Int.Order.Basic
import Mathlib.Tactic.Linarith

/-!
Points that accrue with time, one for each full interval, up to a cap. Time that does not make up
an interval is carried, and time at the cap is not.
-/

namespace Library

/-- Points with the time that is carried towards the next. -/
structure Accrued where
  points : ℤ
  carried : ℕ
deriving DecidableEq, Repr

namespace Accrued

variable (interval : ℕ) (cap : ℤ)

def advance (elapsed : ℕ) (a : Accrued) : Accrued :=
  if cap ≤ a.points then a
  else if cap ≤ a.points + ((a.carried + elapsed) / interval : ℕ) then ⟨cap, 0⟩
  else ⟨a.points + ((a.carried + elapsed) / interval : ℕ), (a.carried + elapsed) % interval⟩

variable {interval cap}

variable {elapsed : ℕ}

theorem advance_full {a : Accrued} (full : cap ≤ a.points) :
    advance interval cap elapsed a = a := if_pos full

theorem advance_reach {a : Accrued} (below : a.points < cap)
    (reach : cap ≤ a.points + ((a.carried + elapsed) / interval : ℕ)) :
    advance interval cap elapsed a = ⟨cap, 0⟩ := by
  rw [advance, if_neg (not_le.mpr below), if_pos reach]

theorem advance_short {a : Accrued}
    (short : a.points + ((a.carried + elapsed) / interval : ℕ) < cap) :
    advance interval cap elapsed a =
      ⟨a.points + ((a.carried + elapsed) / interval : ℕ), (a.carried + elapsed) % interval⟩ := by
  have below : a.points < cap :=
    (le_add_of_nonneg_right (Int.natCast_nonneg _)).trans_lt short
  rw [advance, if_neg (not_le.mpr below), if_neg (not_le.mpr short)]

theorem points_advance {a : Accrued} (below : a.points < cap) :
    (advance interval cap elapsed a).points =
      min (a.points + ((a.carried + elapsed) / interval : ℕ)) cap := by
  rw [advance, if_neg (not_le.mpr below)]
  split
  · rename_i reach
    exact (min_eq_right reach).symm
  · rename_i short
    exact (min_eq_left (not_le.mp short).le).symm

theorem advance_add (first second : ℕ) (a : Accrued) :
    advance interval cap second (advance interval cap first a) =
      advance interval cap (first + second) a := by
  by_cases full : cap ≤ a.points
  · rw [advance_full full, advance_full full, advance_full full]
  · have below := not_le.mp full
    have more : (a.carried + first) / interval ≤ (a.carried + (first + second)) / interval :=
      Nat.div_le_div_right (by omega)
    by_cases reach : cap ≤ a.points + ((a.carried + first) / interval : ℕ)
    · have later : cap ≤ a.points + ((a.carried + (first + second)) / interval : ℕ) :=
        reach.trans (Int.add_le_add_left (Int.ofNat_le.mpr more) a.points)
      rw [advance_reach below reach, advance_reach below later]
      exact advance_full le_rfl
    · have whole : (a.carried + (first + second)) / interval =
          (a.carried + first) / interval +
            ((a.carried + first) % interval + second) / interval := by
        rcases Nat.eq_zero_or_pos interval with rfl | pos
        · simp
        · have split := Nat.div_add_mod (a.carried + first) interval
          rw [← Nat.mul_add_div pos, ← Nat.add_assoc, ← Nat.add_assoc, split]
      have rest : (a.carried + (first + second)) % interval =
          ((a.carried + first) % interval + second) % interval := by
        rw [Nat.mod_add_mod, Nat.add_assoc]
      rw [advance_short (not_le.mp reach)]
      simp only [advance, if_neg full, if_neg reach, whole, rest, Nat.cast_add, add_assoc]

theorem le_points_advance (elapsed : ℕ) (a : Accrued) :
    a.points ≤ (advance interval cap elapsed a).points := by
  by_cases full : cap ≤ a.points
  · rw [advance_full full]
  · have nonneg : (0 : ℤ) ≤ ((a.carried + elapsed) / interval : ℕ) := Int.natCast_nonneg _
    rw [points_advance (not_le.mp full)]
    omega

theorem advance_fresh (elapsed : ℕ) (points : ℤ) :
    advance interval cap elapsed ⟨points, 0⟩ =
      if cap ≤ points then ⟨points, 0⟩
      else if cap ≤ points + (elapsed / interval : ℕ) then ⟨cap, 0⟩
      else ⟨points + (elapsed / interval : ℕ), elapsed % interval⟩ := by
  simp only [advance, Nat.zero_add]

theorem advance_settle {points : ℤ} (pos : 0 < interval) (below : points < cap) :
    advance interval cap (elapsed - interval * (elapsed / interval))
        ⟨min (points + (elapsed / interval : ℕ)) cap, 0⟩ =
      advance interval cap elapsed ⟨points, 0⟩ := by
  rw [advance_fresh elapsed points, if_neg (not_le.mpr below)]
  by_cases reach : cap ≤ points + (elapsed / interval : ℕ)
  · rw [if_pos reach, min_eq_right reach]
    exact advance_full le_rfl
  · have rest : elapsed - interval * (elapsed / interval) = elapsed % interval :=
      (Nat.mod_eq_sub_mul_div ..).symm
    have none_left : elapsed % interval / interval = 0 := Nat.div_eq_of_lt (Nat.mod_lt _ pos)
    rw [if_neg reach, min_eq_left (not_le.mp reach).le, rest, advance_fresh, none_left,
      Nat.cast_zero, add_zero, if_neg reach, if_neg reach, Nat.mod_mod]

theorem advance_fits {points : ℤ} (pos : 0 < interval)
    (fits : (elapsed : ℤ) ≤ interval * (cap - points)) :
    advance interval cap elapsed ⟨points, 0⟩ =
      ⟨points + (elapsed / interval : ℕ), elapsed % interval⟩ := by
  have pos_int : (0 : ℤ) < interval := Int.natCast_pos.mpr pos
  have room : points ≤ cap := by
    by_contra beyond
    have negative : (interval : ℤ) * (cap - points) < 0 :=
      mul_neg_of_pos_of_neg pos_int (by omega)
    omega
  have whole : points + (elapsed / interval : ℕ) ≤ cap := by
    have least : ((elapsed / interval : ℕ) : ℤ) ≤ cap - points := by
      rw [Int.natCast_ediv]
      exact Int.ediv_le_of_le_mul pos_int (by rwa [mul_comm])
    omega
  rw [advance_fresh]
  by_cases full : cap ≤ points
  · have same : points = cap := le_antisymm room full
    subst same
    have none_elapsed : elapsed = 0 := by
      rw [sub_self, mul_zero] at fits
      omega
    rw [if_pos le_rfl, none_elapsed]
    simp
  · rw [if_neg full]
    by_cases reach : cap ≤ points + (elapsed / interval : ℕ)
    · have same := le_antisymm whole reach
      have gap : cap - points = ((elapsed / interval : ℕ) : ℤ) := by omega
      have covered : elapsed ≤ interval * (elapsed / interval) := by
        rw [gap] at fits
        exact_mod_cast fits
      have rest : elapsed % interval = 0 := by
        have split := Nat.div_add_mod elapsed interval
        omega
      rw [if_pos reach, rest, same]
    · rw [if_neg reach]

end Accrued
end Library
