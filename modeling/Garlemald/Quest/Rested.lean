import Garlemald.Library.Runs
import Garlemald.Quest.Levels
import Mathlib.Tactic.Linarith

/-!
The rest bonus that a gain of experience uses up. The bonus goes with the gain and the rest that it
costs is rounded up, so that each gain takes something out of the pool and what the gains of a run
are paid is bounded by the pool that it began with.
-/

namespace Garlemald.Quest
open Library

def checkedI32 (n : ℤ) : Option Int32 :=
  if -2 ^ 31 ≤ n ∧ n < 2 ^ 31 then some (Int32.ofInt n) else none

/-- `consumeRestedXp` as a build with overflow checks has it. The product is taken in 64 bits. -/
def consumeRestedXpChecked (exp rested : Int32) : Option (Int32 × Int32) :=
  if exp ≤ 0 ∨ rested ≤ 0 then some (exp, max rested 0)
  else do
    let bonus := Int32.ofInt (exp.toInt * (min rested 100).toInt / 100)
    let rounded ← checkedI32 (exp.toInt + 49)
    let decay := max (rounded / 50) 1
    let left ← checkedI32 (rested.toInt - decay.toInt)
    some (saturatingAddI32 exp bonus, max left 0)

theorem toInt_checkedI32 {n : ℤ} (low : -2 ^ 31 ≤ n) (high : n < 2 ^ 31) :
    ∃ m, checkedI32 n = some m ∧ m.toInt = n :=
  ⟨Int32.ofInt n, if_pos ⟨low, high⟩, Int32.toInt_ofInt_of_le low high⟩

theorem toInt_min32 (a b : Int32) : (min a b).toInt = min a.toInt b.toInt := by
  change (if a ≤ b then a else b).toInt = _
  split
  · next le => exact (min_eq_left (Int32.le_iff_toInt_le.mp le)).symm
  · next less =>
      have lt := Int32.lt_iff_toInt_lt.mp (Int32.not_le.mp less)
      exact (min_eq_right (Int.le_of_lt lt)).symm

def bonusOf (exp rested : ℤ) : ℤ := exp * min rested 100 / 100

theorem bonusOf_bounds {exp rested : ℤ} (gain : 0 < exp) (pool : 0 < rested) :
    0 ≤ bonusOf exp rested ∧ bonusOf exp rested ≤ exp ∧
      100 * bonusOf exp rested ≤ exp * rested := by
  have share : 0 < min rested 100 := by omega
  have product : exp * min rested 100 ≤ exp * 100 :=
    mul_le_mul_of_nonneg_left (by omega) gain.le
  have smaller : exp * min rested 100 ≤ exp * rested :=
    mul_le_mul_of_nonneg_left (by omega) gain.le
  have nonneg : 0 ≤ exp * min rested 100 := mul_nonneg gain.le share.le
  unfold bonusOf
  omega

private theorem toInt_decay {rounded : Int32} {exp : ℤ} (gain : 0 < exp)
    (sum : rounded.toInt = exp + 49) : (max (rounded / 50) 1).toInt = (exp + 49) / 50 := by
  have least : rounded ≠ Int32.minValue := by
    intro same
    rw [same] at sum
    change -2 ^ 31 = exp + 49 at sum
    omega
  rw [toInt_max32, Int32.toInt_div_of_ne_left _ _ least, sum,
    Int.tdiv_eq_ediv_of_nonneg (by omega)]
  change max ((exp + 49) / 50) 1 = _
  omega

variable {exp rested : Int32}

theorem rested_apart (gain : 0 < exp.toInt) (pool : 0 < rested.toInt) :
    ¬(exp ≤ 0 ∨ rested ≤ 0) := by
  rw [Int32.le_iff_toInt_le, Int32.le_iff_toInt_le]
  change ¬(exp.toInt ≤ 0 ∨ rested.toInt ≤ 0)
  omega

theorem consumeRestedXpChecked_fits (gain : 0 < exp.toInt) (pool : 0 < rested.toInt)
    (fits : exp.toInt + 49 < 2 ^ 31) :
    ∃ total left, consumeRestedXpChecked exp rested = some (total, left) ∧
      total.toInt = min (exp.toInt + bonusOf exp.toInt rested.toInt) (2 ^ 31 - 1) ∧
      left.toInt = max (rested.toInt - (exp.toInt + 49) / 50) 0 := by
  obtain ⟨least, most, _⟩ := bonusOf_bounds gain pool
  have high := exp.toInt_lt
  have top := rested.toInt_lt
  obtain ⟨rounded, sum, rounded_eq⟩ := toInt_checkedI32 (n := exp.toInt + 49) (by omega) fits
  have decay := toInt_decay gain rounded_eq
  obtain ⟨left, difference, left_eq⟩ :=
    toInt_checkedI32 (n := rested.toInt - (max (rounded / 50) 1).toInt) (by omega) (by omega)
  have bonus : (Int32.ofInt (exp.toInt * (min rested 100).toInt / 100)).toInt =
      bonusOf exp.toInt rested.toInt := by
    have share : (min rested 100).toInt = min rested.toInt 100 := toInt_min32 rested 100
    rw [share, ← bonusOf]
    exact Int32.toInt_ofInt_of_le (by omega) (by omega)
  refine ⟨saturatingAddI32 exp (Int32.ofInt (exp.toInt * (min rested 100).toInt / 100)),
    max left 0, ?_, ?_, ?_⟩
  · simp only [consumeRestedXpChecked, if_neg (rested_apart gain pool), sum, Option.bind_eq_bind,
      Option.bind_some, difference]
  · rw [toInt_saturatingAddI32 gain.le (by omega), bonus]
  · rw [toInt_max32, left_eq, decay]
    rfl

theorem consumeRestedXpChecked_overflow (pool : 0 < rested.toInt)
    (beyond : 2 ^ 31 ≤ exp.toInt + 49) :
    consumeRestedXpChecked exp rested = none := by
  have sum : checkedI32 (exp.toInt + 49) = none := if_neg (by omega)
  have gain : 0 < exp.toInt := by omega
  simp only [consumeRestedXpChecked, if_neg (rested_apart gain pool), sum, Option.bind_eq_bind,
    Option.bind_none]

theorem consumeRestedXpChecked_idle (idle : exp.toInt ≤ 0 ∨ rested.toInt ≤ 0) :
    consumeRestedXpChecked exp rested = some (exp, max rested 0) := by
  refine if_pos ?_
  rw [Int32.le_iff_toInt_le, Int32.le_iff_toInt_le]
  exact idle

theorem consumeRestedXp_of_checked {paid : Int32 × Int32}
    (returned : consumeRestedXpChecked exp rested = some paid) :
    consumeRestedXp exp rested = paid := by
  unfold consumeRestedXpChecked at returned
  unfold consumeRestedXp
  split at returned
  · rename_i idle
    rw [if_pos idle]
    exact Option.some.inj returned
  · rename_i positive
    rw [if_neg positive]
    simp only [Option.bind_eq_bind, Option.bind_eq_some_iff, checkedI32,
      Option.ite_none_right_eq_some] at returned
    obtain ⟨rounded, ⟨_, sum⟩, left, ⟨_, difference⟩, whole⟩ := returned
    cases sum
    cases difference
    cases whole
    rw [Int32.ofInt_sub, Int32.ofInt_toInt, Int32.ofInt_toInt, Int32.ofInt_add, Int32.ofInt_toInt]
    rfl

/-! ### One gain -/

/-- The call returns, and a gain with a pool is paid at least itself and at most twice, as far as
the type goes, and takes something out of the pool. -/
def RestedSound (exp rested : Int32) : Prop :=
  ∃ total left, consumeRestedXpChecked exp rested = some (total, left) ∧
    (0 < exp → 0 < rested →
      exp ≤ total ∧ total.toInt ≤ min (2 * exp.toInt) (2 ^ 31 - 1) ∧ 0 ≤ left ∧ left < rested)

/-- The gain leaves room for the rounding, or there is no pool. -/
def RoundingFits (rested exp : Int32) : Prop := rested.toInt ≤ 0 ∨ exp.toInt < 2 ^ 31 - 49

instance (rested exp : Int32) : Decidable (RoundingFits rested exp) :=
  inferInstanceAs (Decidable (_ ∨ _))

theorem consumeRestedXpChecked_isSome (exp rested : Int32) :
    (consumeRestedXpChecked exp rested).isSome ↔ RoundingFits rested exp := by
  by_cases idle : exp.toInt ≤ 0 ∨ rested.toInt ≤ 0
  · rw [consumeRestedXpChecked_idle idle]
    unfold RoundingFits
    exact iff_of_true rfl (by omega)
  · have gain : 0 < exp.toInt := by omega
    have pool : 0 < rested.toInt := by omega
    by_cases fits : exp.toInt + 49 < 2 ^ 31
    · obtain ⟨total, left, returned, _⟩ := consumeRestedXpChecked_fits gain pool fits
      rw [returned]
      unfold RoundingFits
      exact iff_of_true rfl (by omega)
    · rw [consumeRestedXpChecked_overflow pool (by omega)]
      unfold RoundingFits
      exact iff_of_false Bool.false_ne_true (by omega)

theorem restedSound_iff (exp rested : Int32) :
    RestedSound exp rested ↔ RoundingFits rested exp := by
  rw [← consumeRestedXpChecked_isSome]
  constructor
  · intro ⟨total, left, returned, _⟩
    rw [returned]
    rfl
  · intro returns
    obtain ⟨⟨total, left⟩, returned⟩ := Option.isSome_iff_exists.mp returns
    refine ⟨total, left, returned, fun gain pool => ?_⟩
    have gain' : 0 < exp.toInt := Int32.lt_iff_toInt_lt.mp gain
    have pool' : 0 < rested.toInt := Int32.lt_iff_toInt_lt.mp pool
    have room := (consumeRestedXpChecked_isSome exp rested).mp returns
    have fits : exp.toInt + 49 < 2 ^ 31 := by
      unfold RoundingFits at room
      omega
    obtain ⟨total', left', returned', total_eq, left_eq⟩ :=
      consumeRestedXpChecked_fits gain' pool' fits
    rw [returned] at returned'
    cases returned'
    obtain ⟨least, most, _⟩ := bonusOf_bounds gain' pool'
    rw [Int32.le_iff_toInt_le, Int32.le_iff_toInt_le, Int32.lt_iff_toInt_lt, total_eq, left_eq]
    change _ ∧ _ ∧ 0 ≤ _ ∧ _
    have decay : 1 ≤ (exp.toInt + 49) / 50 := by omega
    omega

/-! ### A run of gains -/

/-- With the pool goes what the bonuses have come to, as far as they were paid. -/
def gainStep (state : ℤ × Int32) (exp : Int32) : Option (ℤ × Int32) := do
  let (total, left) ← consumeRestedXpChecked exp state.2
  some (state.1 + (total.toInt - exp.toInt), left)

theorem bonusOf_decay {exp rested : ℤ} (gain : 0 < exp) (most : exp ≤ 2 ^ 31 - 1)
    (pool : 0 < rested) :
    100 * bonusOf exp rested + (2 ^ 31 - 1) * max (rested - (exp + 49) / 50) 0 ≤
      (2 ^ 31 - 1) * rested := by
  obtain ⟨_, whole, share⟩ := bonusOf_bounds gain pool
  by_cases drained : rested ≤ (exp + 49) / 50
  · have worth : exp * rested ≤ (2 ^ 31 - 1) * rested :=
      mul_le_mul_of_nonneg_right most pool.le
    omega
  · omega

theorem gainStep_bound {state state' : ℤ × Int32} {exp : Int32}
    (taken : gainStep state exp = some state') :
    100 * state'.1 + (2 ^ 31 - 1) * max state'.2.toInt 0 ≤
      100 * state.1 + (2 ^ 31 - 1) * max state.2.toInt 0 := by
  obtain ⟨⟨total, left⟩, returned, next⟩ := Option.bind_eq_some_iff.mp taken
  cases next
  by_cases idle : exp.toInt ≤ 0 ∨ state.2.toInt ≤ 0
  · rw [consumeRestedXpChecked_idle idle] at returned
    cases returned
    rw [toInt_max32]
    change 100 * (state.1 + (exp.toInt - exp.toInt)) +
      (2 ^ 31 - 1) * max (max state.2.toInt 0) 0 ≤ _
    omega
  · have room := (consumeRestedXpChecked_isSome exp state.2).mp (by rw [returned]; rfl)
    unfold RoundingFits at room
    have gain : 0 < exp.toInt := by omega
    have pool : 0 < state.2.toInt := by omega
    obtain ⟨_, _, returned', total_eq, left_eq⟩ :=
      consumeRestedXpChecked_fits gain pool (by omega)
    rw [returned] at returned'
    cases returned'
    have bound := bonusOf_decay gain (by omega) pool
    rw [total_eq, left_eq]
    omega

theorem run_gainStep_bound {rested : Int32} {exps : List Int32} {paid : ℤ} {left : Int32}
    (ended : run gainStep (0, rested) exps = some (paid, left)) :
    100 * paid ≤ (2 ^ 31 - 1) * max rested.toInt 0 := by
  have kept : Always gainStep (fun state => 100 * state.1 + (2 ^ 31 - 1) * max state.2.toInt 0 ≤
      (2 ^ 31 - 1) * max rested.toInt 0) (0, rested) exps := by
    refine always_of_step (fun s e s' inside taken => (gainStep_bound taken).trans inside) ?_ exps
    simp
  have last := always_iff_reached.mp kept exps List.prefix_rfl _ ended
  have nonneg : 0 ≤ max left.toInt 0 := le_max_right _ _
  dsimp only at last
  omega

/-- A call keeps its promise exactly if the rounding fits, and the gains of a run are all paid,
with bonuses within the worth of the pool, exactly if it fits for each of them. -/
theorem restedGains_sound_iff (exp rested : Int32) (exps : List Int32) :
    (RestedSound exp rested ↔ RoundingFits rested exp) ∧
      ((∃ paid left, run gainStep (0, rested) exps = some (paid, left) ∧
          100 * paid ≤ (2 ^ 31 - 1) * max rested.toInt 0) ↔
        EachEvent gainStep (fun state exp => RoundingFits state.2 exp) (0, rested) exps) := by
  refine ⟨restedSound_iff exp rested, ?_⟩
  have exact_step : ∀ (state : ℤ × Int32) exp,
      (gainStep state exp).isSome ↔ RoundingFits state.2 exp := by
    intro state exp
    rw [← consumeRestedXpChecked_isSome, gainStep]
    cases consumeRestedXpChecked exp state.2 with
    | none => exact Iff.rfl
    | some paid => exact Iff.rfl
  rw [← run_isSome_iff_eachEvent exact_step, Option.isSome_iff_exists]
  constructor
  · intro ⟨paid, left, ended, _⟩
    exact ⟨_, ended⟩
  · intro ⟨⟨paid, left⟩, ended⟩
    exact ⟨paid, left, ended, run_gainStep_bound ended⟩

/-- The rounding of the largest gains is beyond 32 bits. Without the checks it wraps, and the gain
costs one point. -/
theorem restedGain_overflows :
    ¬(∀ exp rested, (consumeRestedXpChecked exp rested).isSome) ∧
      consumeRestedXpChecked 2147483600 100 = none ∧
      consumeRestedXp 2147483600 100 = (2147483647, 99) := by
  have overflow : consumeRestedXpChecked 2147483600 100 = none := by decide
  refine ⟨fun all => ?_, overflow, by decide⟩
  have returns := all 2147483600 100
  rw [overflow] at returns
  cases returns

end Garlemald.Quest
