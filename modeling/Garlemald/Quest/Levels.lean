import Garlemald.Library.Ladder
import Garlemald.Quest.Progress
import Mathlib.Algebra.Order.Group.Nat
import Mathlib.Algebra.Ring.Int.Defs

/-!
Levels as rungs that skill points pay for. At the cap what is left over is forfeited, so that points
that come in parts lead to the level and the points that they lead to at once.
-/

namespace Garlemald.Quest
open Library

/-- A gain on top of the level and the points that are stored, and what they become. -/
def grant (level : Int16) (points exp : Int32) : Int16 × Int32 :=
  let up := levelUpIfThresholdCrossed (max level 1) (max (saturatingAddI32 points exp) 0)
  (up.1, up.2.1)

def paid (start reached : Int16) : ℤ :=
  (((LEVEL_THRESHOLDS.drop (max start 1 - 1).toInt.toNat).take
    (reached - max start 1).toInt.toNat).map Int32.toInt).sum

def prices (level : ℕ) : List ℕ :=
  ((LEVEL_THRESHOLDS.take 49).drop (level - 1)).map (·.toInt.toNat)

/-! ### The loop as a climb -/

theorem length_prices (level : ℕ) : (prices level).length = 49 - (level - 1) := by
  rw [prices, List.length_map, List.length_drop]
  rfl

theorem prices_add (level n : ℕ) (pos : 0 < level) :
    prices (level + n) = (prices level).drop n := by
  rw [prices, prices, ← List.map_drop, List.drop_drop]
  congr 2
  omega

theorem getElem?_prices {level n : ℕ} (below : level - 1 + n < 49) :
    (prices level)[n]? = LEVEL_THRESHOLDS[level - 1 + n]?.map (·.toInt.toNat) := by
  rw [prices, List.getElem?_map, List.getElem?_drop, List.getElem?_take_of_lt below]

theorem thresholds_nonneg : ∀ t ∈ LEVEL_THRESHOLDS, 0 ≤ t.toInt := by
  -- over the list, not over all numbers of 32 bits
  have all : LEVEL_THRESHOLDS.all (fun t => decide (0 ≤ t.toInt)) = true := by decide
  intro t member
  exact of_decide_eq_true (List.all_eq_true.mp all t member)

theorem sum_prices (level : ℕ) : (prices level).sum ≤ 2 ^ 31 - 1 := by
  have rest : (prices level).Sublist (prices 1) :=
    (List.drop_sublist _ (LEVEL_THRESHOLDS.take 49)).map _
  exact (rest.sum_le_sum fun _ _ => Nat.zero_le _).trans (by decide)

/-- Points beyond 32 bits settle like the greatest number of them. -/
theorem settle_capped (level : ℕ) (total : ℤ) :
    Ladder.settle (prices level) (min total (2 ^ 31 - 1)).toNat =
      Ladder.settle (prices level) total.toNat := by
  by_cases fits : total ≤ 2 ^ 31 - 1
  · rw [min_eq_left fits]
  · -- So many points reach the cap from every level.
    have most := sum_prices level
    rw [Ladder.settle_all (by omega), Ladder.settle_all (by omega)]

theorem climb_spec {ts rest : List Int32} {lvl : Int16} {sp : Int32} (gained : Int16)
    (nonneg : ∀ t ∈ ts, 0 ≤ t.toInt) (low : 1 ≤ lvl.toInt)
    (cap : lvl.toInt + ts.length = 50) (stored : 0 ≤ sp.toInt) :
    (climb (ts ++ rest) lvl sp gained).1.toInt =
        lvl.toInt + (Ladder.climb (ts.map (·.toInt.toNat)) sp.toInt.toNat).1 ∧
      (climb (ts ++ rest) lvl sp gained).2.1.toInt =
        (Ladder.climb (ts.map (·.toInt.toNat)) sp.toInt.toNat).2 := by
  have fifty : MAX_LEVEL.toInt = 50 := rfl
  induction ts generalizing lvl sp gained with
  | nil =>
      have top : ¬ lvl < MAX_LEVEL := by
        rw [Int16.lt_iff_toInt_lt, fifty]
        simp only [List.length_nil] at cap
        omega
      have stays : climb rest lvl sp gained = (lvl, sp, gained) := by
        cases rest with
        | nil => rfl
        | cons t rest => rw [climb, if_neg fun both => top both.1]
      rw [List.nil_append, stays]
      refine ⟨(add_zero _).symm, ?_⟩
      change sp.toInt = ((sp.toInt.toNat : ℕ) : ℤ)
      omega
  | cons t ts ih =>
      have price := nonneg t (List.mem_cons_self ..)
      have later := fun u member => nonneg u (List.mem_cons_of_mem t member)
      rw [List.length_cons] at cap
      have below : lvl < MAX_LEVEL := by
        rw [Int16.lt_iff_toInt_lt, fifty]
        omega
      rw [List.cons_append, climb, List.map_cons, Ladder.climb]
      by_cases affordable : t ≤ sp
      · have enough := Int32.le_iff_toInt_le.mp affordable
        have next : (lvl + 1).toInt = lvl.toInt + 1 := by
          rw [Int16.toInt_add]
          exact Int.bmod_eq_of_le (by change _ ≤ lvl.toInt + 1; omega)
            (by change lvl.toInt + 1 < _; omega)
        have left : (sp - t).toInt = sp.toInt - t.toInt := by
          have high := sp.toInt_lt
          rw [Int32.toInt_sub]
          exact Int.bmod_eq_of_le (by omega) (by omega)
        have onward : (lvl + 1).toInt + ts.length = 50 := by
          rw [next]
          omega
        have change : 0 ≤ (sp - t).toInt := by omega
        have above := ih (gained + 1) later (by omega) onward change
        have purse : (sp - t).toInt.toNat = sp.toInt.toNat - t.toInt.toNat := by omega
        rw [purse] at above
        rw [if_pos ⟨below, affordable⟩, if_pos (by omega), above.1, above.2, next]
        refine ⟨?_, rfl⟩
        push_cast
        omega
      · have short := mt Int32.le_iff_toInt_le.mpr affordable
        rw [if_neg fun both => affordable both.2, if_neg (by omega)]
        refine ⟨(add_zero _).symm, ?_⟩
        change sp.toInt = ((sp.toInt.toNat : ℕ) : ℤ)
        omega

theorem toInt_saturatingAddI32 {a b : Int32} (ha : 0 ≤ a.toInt) (hb : 0 ≤ b.toInt) :
    (saturatingAddI32 a b).toInt = min (a.toInt + b.toInt) (2 ^ 31 - 1) := by
  rw [saturatingAddI32, Int32.toInt_ofInt_of_le (by omega) (by omega)]
  omega

theorem toInt_max16 (a b : Int16) : (max a b).toInt = max a.toInt b.toInt := by
  change (if a ≤ b then b else a).toInt = _
  split
  · next le => exact (max_eq_right (Int16.le_iff_toInt_le.mp le)).symm
  · next less =>
      have lt := Int16.lt_iff_toInt_lt.mp (Int16.not_le.mp less)
      exact (max_eq_left (Int.le_of_lt lt)).symm

theorem toInt_max32 (a b : Int32) : (max a b).toInt = max a.toInt b.toInt := by
  change (if a ≤ b then b else a).toInt = _
  split
  · next le => exact (max_eq_right (Int32.le_iff_toInt_le.mp le)).symm
  · next less =>
      have lt := Int32.lt_iff_toInt_lt.mp (Int32.not_le.mp less)
      exact (max_eq_left (Int.le_of_lt lt)).symm

variable {level : Int16} {points exp : Int32}

theorem toInt_sub_one (low : 1 ≤ level.toInt) : (level - 1).toInt = level.toInt - 1 := by
  have high := level.toInt_lt
  rw [Int16.toInt_sub]
  exact Int.bmod_eq_of_le (by change _ ≤ level.toInt - 1; omega)
    (by change level.toInt - 1 < _; omega)

theorem levelUp_spec {sp : Int32} (low : 1 ≤ level.toInt) (cap : level.toInt ≤ 50)
    (stored : 0 ≤ sp.toInt) :
    (levelUpIfThresholdCrossed level sp).1.toInt =
        level.toInt + (Ladder.settle (prices level.toInt.toNat) sp.toInt.toNat).1 ∧
      (levelUpIfThresholdCrossed level sp).2.1.toInt =
        (Ladder.settle (prices level.toInt.toNat) sp.toInt.toNat).2 := by
  have lvl : max level 1 = level := by
    apply Int16.toInt_inj.mp
    rw [toInt_max16]
    exact max_eq_left low
  have sp_eq : max sp 0 = sp := by
    apply Int32.toInt_inj.mp
    rw [toInt_max32]
    exact max_eq_left stored
  have index : (level - 1).toInt.toNat = level.toInt.toNat - 1 := by
    rw [toInt_sub_one low]
    omega
  have split : LEVEL_THRESHOLDS.drop (level.toInt.toNat - 1) =
      (LEVEL_THRESHOLDS.take 49).drop (level.toInt.toNat - 1) ++ LEVEL_THRESHOLDS.drop 49 := by
    have short : level.toInt.toNat - 1 ≤ (LEVEL_THRESHOLDS.take 49).length := by
      change _ ≤ 49
      omega
    rw [← List.drop_append_of_le_length short, List.take_append_drop]
  have length : ((LEVEL_THRESHOLDS.take 49).drop (level.toInt.toNat - 1)).length =
      49 - (level.toInt.toNat - 1) := List.length_drop
  have member (t : Int32) (among : t ∈ (LEVEL_THRESHOLDS.take 49).drop (level.toInt.toNat - 1)) :
      t ∈ LEVEL_THRESHOLDS := List.mem_of_mem_take (List.mem_of_mem_drop among)
  have climbed : (climb (LEVEL_THRESHOLDS.drop (level.toInt.toNat - 1)) level sp 0).1.toInt =
        level.toInt + (Ladder.climb (prices level.toInt.toNat) sp.toInt.toNat).1 ∧
      (climb (LEVEL_THRESHOLDS.drop (level.toInt.toNat - 1)) level sp 0).2.1.toInt =
        (Ladder.climb (prices level.toInt.toNat) sp.toInt.toNat).2 := by
    rw [split]
    apply climb_spec 0 (fun t among => thresholds_nonneg t (member t among)) low _ stored
    rw [length]
    omega
  have top : MAX_LEVEL ≤ (climb (LEVEL_THRESHOLDS.drop (level.toInt.toNat - 1)) level sp 0).1 ↔
      (Ladder.climb (prices level.toInt.toNat) sp.toInt.toNat).1 =
        (prices level.toInt.toNat).length := by
    have fifty : MAX_LEVEL.toInt = 50 := rfl
    have reached := Ladder.climb_le (prices level.toInt.toNat) sp.toInt.toNat
    rw [length_prices] at reached ⊢
    rw [Int16.le_iff_toInt_le, fifty, climbed.1]
    omega
  rw [levelUpIfThresholdCrossed]
  dsimp only
  rw [lvl, sp_eq, index, Ladder.settle_fst, Ladder.settle]
  refine ⟨climbed.1, ?_⟩
  by_cases reached : (Ladder.climb (prices level.toInt.toNat) sp.toInt.toNat).1 =
      (prices level.toInt.toNat).length
  · rw [if_pos (top.mpr reached), if_pos reached]
    rfl
  · rw [if_neg (mt top.mp reached), if_neg reached]
    exact climbed.2

theorem grant_spec (class_level : level.toInt ≤ 50) (stored : 0 ≤ points.toInt)
    (gained : 0 ≤ exp.toInt) :
    (grant level points exp).1.toInt =
        max level.toInt 1 + (Ladder.settle (prices (max level.toInt 1).toNat)
          (points.toInt + exp.toInt).toNat).1 ∧
      (grant level points exp).2.toInt =
        (Ladder.settle (prices (max level.toInt 1).toNat) (points.toInt + exp.toInt).toNat).2 := by
  have lvl : (max level 1).toInt = max level.toInt 1 := toInt_max16 level 1
  have purse : (max (saturatingAddI32 points exp) 0).toInt =
      min (points.toInt + exp.toInt) (2 ^ 31 - 1) := by
    rw [toInt_max32, toInt_saturatingAddI32 stored gained]
    change max _ 0 = _
    omega
  have settled := levelUp_spec (lvl ▸ le_max_right _ _)
    (show (max level 1).toInt ≤ 50 by omega)
    (show 0 ≤ (max (saturatingAddI32 points exp) 0).toInt by omega)
  rw [lvl, purse, settle_capped] at settled
  dsimp only [grant]
  exact settled

theorem grant_beyond (beyond : 50 < level.toInt) (points exp : Int32) :
    grant level points exp = (level, 0) := by
  have fifty : MAX_LEVEL.toInt = 50 := rfl
  have lvl : max level 1 = level := by
    apply Int16.toInt_inj.mp
    rw [toInt_max16]
    exact max_eq_left (by change (1 : ℤ) ≤ _; omega)
  have high : MAX_LEVEL ≤ level := by
    rw [Int16.le_iff_toInt_le, fifty]
    omega
  have none_left : LEVEL_THRESHOLDS.drop (level - 1).toInt.toNat = [] := by
    apply List.drop_eq_nil_of_le
    rw [toInt_sub_one (by omega)]
    change 50 ≤ _
    omega
  rw [grant, levelUpIfThresholdCrossed]
  dsimp only
  rw [lvl, lvl, none_left, climb, if_pos high]

/-! ### Gains one after the other -/

structure Levelled (level : Int16) (points exp : Int32) (after : Int16 × Int32) : Prop where
  capped : level ≤ MAX_LEVEL → after.1 ≤ MAX_LEVEL
  conserved : after.1 < MAX_LEVEL →
    after.2.toInt + paid level after.1 = points.toInt + exp.toInt
  short : ∀ threshold, LEVEL_THRESHOLDS[(after.1 - 1).toInt.toNat]? = some threshold →
    after.2 < threshold

theorem paid_eq {start reached : Int16} {n : ℕ} (low : max start.toInt 1 + n ≤ 50)
    (gained : reached.toInt = max start.toInt 1 + n) :
    paid start reached = (((prices (max start.toInt 1).toNat).take n).sum : ℕ) := by
  have lvl : (max start 1).toInt = max start.toInt 1 := toInt_max16 start 1
  have index : (max start 1 - 1).toInt.toNat = (max start.toInt 1).toNat - 1 := by
    rw [toInt_sub_one (by omega)]
    omega
  have count : (reached - max start 1).toInt.toNat = n := by
    rw [Int16.toInt_sub, lvl, gained, Int.bmod_eq_of_le (by omega) (by omega)]
    omega
  have below : ((LEVEL_THRESHOLDS.take 49).drop ((max start.toInt 1).toNat - 1)).take n =
      (LEVEL_THRESHOLDS.drop ((max start.toInt 1).toNat - 1)).take n := by
    rw [List.take_drop, List.take_take, List.take_drop]
    congr 2
    omega
  have whole : ∀ ts : List Int32, (∀ t ∈ ts, 0 ≤ t.toInt) →
      (ts.map Int32.toInt).sum = ((ts.map (·.toInt.toNat)).sum : ℕ) := by
    intro ts nonneg
    induction ts with
    | nil => rfl
    | cons t ts ih =>
        have price := nonneg t (List.mem_cons_self ..)
        have rest := ih fun u member => nonneg u (List.mem_cons_of_mem t member)
        rw [List.map_cons, List.sum_cons, List.map_cons, List.sum_cons, rest]
        omega
  rw [paid, index, count, prices, ← List.map_take, below]
  apply whole
  exact fun t among => thresholds_nonneg t (List.mem_of_mem_drop (List.mem_of_mem_take among))

theorem grant_conserved (class_level : level.toInt ≤ 50) (stored : 0 ≤ points.toInt)
    (gained : 0 ≤ exp.toInt) (below : (grant level points exp).1 < MAX_LEVEL) :
    (grant level points exp).2.toInt + paid level (grant level points exp).1 =
      points.toInt + exp.toInt := by
  have fifty : MAX_LEVEL.toInt = 50 := rfl
  obtain ⟨reached, left⟩ := grant_spec class_level stored gained
  rw [Int16.lt_iff_toInt_lt, fifty] at below
  have settled := Ladder.settle_of_lt (by
    rw [length_prices]
    omega : (Ladder.settle (prices (max level.toInt 1).toNat)
      (points.toInt + exp.toInt).toNat).1 < _)
  have whole := Ladder.climb_paid (prices (max level.toInt 1).toNat)
    (points.toInt + exp.toInt).toNat
  rw [← settled] at whole
  rw [paid_eq (by omega) reached, left]
  omega

theorem grant_short (class_level : level.toInt ≤ 50) (stored : 0 ≤ points.toInt)
    (gained : 0 ≤ exp.toInt) {threshold : Int32}
    (next : LEVEL_THRESHOLDS[((grant level points exp).1 - 1).toInt.toNat]? = some threshold) :
    (grant level points exp).2 < threshold := by
  obtain ⟨reached, left⟩ := grant_spec class_level stored gained
  have most := Ladder.settle_le (prices (max level.toInt 1).toNat)
    (points.toInt + exp.toInt).toNat
  rw [length_prices] at most
  have index : ((grant level points exp).1 - 1).toInt.toNat =
      (max level.toInt 1).toNat - 1 + (Ladder.settle (prices (max level.toInt 1).toNat)
        (points.toInt + exp.toInt).toNat).1 := by
    rw [toInt_sub_one (by omega), reached]
    omega
  have price := thresholds_nonneg threshold (List.mem_of_getElem? next)
  rw [Int32.lt_iff_toInt_lt, left]
  rw [index] at next
  by_cases top : (Ladder.settle (prices (max level.toInt 1).toNat)
      (points.toInt + exp.toInt).toNat).1 = 49 - ((max level.toInt 1).toNat - 1)
  · have forfeited := Ladder.settle_top (top.trans (length_prices _).symm)
    have last : (max level.toInt 1).toNat - 1 +
        (49 - ((max level.toInt 1).toNat - 1)) = 49 := by omega
    rw [forfeited]
    rw [top, last] at next
    cases next
    decide
  · have rung : (prices (max level.toInt 1).toNat)[(Ladder.settle
        (prices (max level.toInt 1).toNat) (points.toInt + exp.toInt).toNat).1]? =
          some threshold.toInt.toNat := by
      rw [getElem?_prices (by omega), next]
      rfl
    have less := Ladder.settle_short _ _ rung
    omega

theorem levelled_beyond (beyond : 50 < level.toInt) (points exp : Int32) :
    Levelled level points exp (level, 0) := by
  have fifty : MAX_LEVEL.toInt = 50 := rfl
  refine ⟨id, fun below => ?_, fun threshold next => ?_⟩
  · have low := Int16.lt_iff_toInt_lt.mp below
    dsimp only at low
    omega
  · have index := (List.getElem?_eq_some_iff.mp next).1
    dsimp only at index
    rw [toInt_sub_one (by omega)] at index
    change _ < 50 at index
    omega

theorem grant_levelled (stored : 0 ≤ points) (gained : 0 ≤ exp) :
    Levelled level points exp (grant level points exp) := by
  have fifty : MAX_LEVEL.toInt = 50 := rfl
  have purse : 0 ≤ points.toInt := Int32.le_iff_toInt_le.mp stored
  have gain : 0 ≤ exp.toInt := Int32.le_iff_toInt_le.mp gained
  by_cases class_level : level.toInt ≤ 50
  · refine ⟨fun _ => ?_, grant_conserved class_level purse gain,
      fun threshold => grant_short class_level purse gain⟩
    have most := Ladder.settle_le (prices (max level.toInt 1).toNat)
      (points.toInt + exp.toInt).toNat
    rw [length_prices] at most
    rw [Int16.le_iff_toInt_le, fifty, (grant_spec class_level purse gain).1]
    omega
  · have beyond : 50 < level.toInt := by omega
    rw [grant_beyond beyond]
    exact levelled_beyond beyond points exp

theorem grant_grant {points a b : Int32} (stored : 0 ≤ points) (first : 0 ≤ a)
    (second : 0 ≤ b) : grant (grant level points a).1 (grant level points a).2 b =
      grant level points (saturatingAddI32 a b) := by
  have purse : 0 ≤ points.toInt := Int32.le_iff_toInt_le.mp stored
  have gain : 0 ≤ a.toInt := Int32.le_iff_toInt_le.mp first
  have later : 0 ≤ b.toInt := Int32.le_iff_toInt_le.mp second
  have both := toInt_saturatingAddI32 gain later
  by_cases class_level : level.toInt ≤ 50
  · have whole : Ladder.settle (prices (max level.toInt 1).toNat)
          (points.toInt + (saturatingAddI32 a b).toInt).toNat =
        Ladder.settle (prices (max level.toInt 1).toNat)
          ((points.toInt + a.toInt).toNat + b.toInt.toNat) := by
      have capped : min (points.toInt + (saturatingAddI32 a b).toInt) (2 ^ 31 - 1) =
          min (points.toInt + a.toInt + b.toInt) (2 ^ 31 - 1) := by omega
      rw [← settle_capped, capped, settle_capped]
      congr 1
      omega
    have once := grant_spec class_level purse (show 0 ≤ (saturatingAddI32 a b).toInt by omega)
    obtain ⟨reached, left⟩ := grant_spec class_level purse gain
    have most := Ladder.settle_le (prices (max level.toInt 1).toNat)
      (points.toInt + a.toInt).toNat
    have low : 1 ≤ max level.toInt 1 := le_max_right _ _
    have cap : max level.toInt 1 ≤ 50 := max_le class_level (by decide)
    rw [length_prices] at most
    rw [whole, Ladder.settle_add] at once
    clear both whole
    generalize grant level points a = half at reached left ⊢
    generalize max level.toInt 1 = start at reached left most low cap once
    generalize Ladder.settle (prices start.toNat) (points.toInt + a.toInt).toNat = rung
      at reached left most once
    have onward := grant_spec (show half.1.toInt ≤ 50 by omega)
      (show 0 ≤ half.2.toInt by omega) later
    have stands : max half.1.toInt 1 = half.1.toInt := max_eq_left (by omega)
    have climbed : half.1.toInt.toNat = start.toNat + rung.1 := by omega
    have total : (half.2.toInt + b.toInt).toNat = rung.2 + b.toInt.toNat := by omega
    rw [stands, climbed, total, prices_add _ _ (by omega), reached] at onward
    apply Prod.ext
    · apply Int16.toInt_inj.mp
      rw [onward.1, once.1, Nat.cast_add, add_assoc]
    · apply Int32.toInt_inj.mp
      rw [onward.2, once.2]
  · have beyond : 50 < level.toInt := by omega
    rw [grant_beyond beyond, grant_beyond beyond, grant_beyond beyond]

/-- Points that come in two parts lead to where they lead at once: to a level within the cap, with
every point accounted for below it and with too few points left for the next level. -/
theorem level_up_path_independent {level : Int16} {points a b : Int32} (stored : 0 ≤ points)
    (first : 0 ≤ a) (second : 0 ≤ b) :
    grant (grant level points a).1 (grant level points a).2 b =
        grant level points (saturatingAddI32 a b) ∧
      Levelled level points a (grant level points a) :=
  ⟨grant_grant stored first second, grant_levelled stored first⟩

theorem level_up_path_independent_instance :
    grant (grant 1 100 500).1 (grant 1 100 500).2 700 = grant 1 100 (saturatingAddI32 500 700) ∧
      Levelled 1 100 500 (grant 1 100 500) :=
  level_up_path_independent (by decide) (by decide) (by decide)

end Garlemald.Quest
