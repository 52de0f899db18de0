import Mathlib.Algebra.Order.Floor.Ring
import Mathlib.Data.Rat.Floor
import Mathlib.Tactic.Ring

/-!
Damage that is blocked, parried or resisted, and damage that a skin of stone absorbs. Floating
point is read as exact arithmetic. The step of a resisted hit takes for the share to deal what its
siblings take for the share to mitigate.
-/

namespace Garlemald.Battle

/-! ### The steps -/

inductive HitType where
  | miss
  | evade
  | parry
  | block
  | singleResist
  | doubleResist
  | tripleResist
  | fullResist
  | hit
  | crit
deriving DecidableEq, Repr

abbrev Modifiers := UInt32 → ℚ

def vitality : UInt32 := 4
def block : UInt32 := 41
def stoneskin : UInt32 := 129

structure CombatView where
  mods : Modifiers
  hasAegisBoon : Bool

structure CommandResult where
  amount : UInt16
  amountMitigated : UInt16 := 0
  hitType : HitType := .hit
  resistRate : ℚ := 0

def clampDamage (v : ℚ) : UInt16 := .ofNat ⌊max 0 (min v 9999)⌋.toNat

namespace CommandResult

variable (action : CommandResult)

def percentBlocked (defender : CombatView) : ℚ :=
  if defender.hasAegisBoon then 1
  else defender.mods block * (2 / 1000) + defender.mods vitality * (1 / 1000)

def calculateBlockDamage (defender : CombatView) : CommandResult :=
  { action with
    amountMitigated := clampDamage (action.amount.toNat * percentBlocked defender)
    amount := clampDamage (action.amount.toNat * (1 - percentBlocked defender)) }

def calculateParryDamage : CommandResult :=
  let percentParry : ℚ := 3 / 4
  { action with
    amountMitigated := clampDamage (action.amount.toNat * (1 - percentParry))
    amount := clampDamage (action.amount.toNat * percentParry) }

def resistTier : HitType → ℕ
  | .singleResist => 1
  | .doubleResist => 2
  | .tripleResist => 3
  | .fullResist => 4
  | _ => 0

def calculateResistDamage : CommandResult :=
  let percentResist : ℚ := 1 / 4 * resistTier action.hitType
  { action with
    amountMitigated := clampDamage (action.amount.toNat * (1 - percentResist))
    amount := clampDamage (action.amount.toNat * percentResist) }

def handleStoneskin (defenderMods : Modifiers) : Modifiers × CommandResult :=
  let mitigation := min (action.amount.toNat : ℚ) (defenderMods stoneskin)
  (Function.update defenderMods stoneskin (defenderMods stoneskin - mitigation),
    { action with amount := clampDamage (action.amount.toNat - mitigation) })

/-! ### The rolls of a resist -/

/-- How often in a row a roll stays within the rate, which halves each time; five times at most. -/
def resists : ℕ → (ℕ → ℚ) → ℚ → ℕ
  | 0, _, _ => 0
  | left + 1, rolls, rate =>
      if rolls 0 * 100 ≤ rate then resists left (fun n => rolls (n + 1)) (rate / 2) + 1 else 0

def resistType : ℕ → HitType
  | 1 => .singleResist
  | 2 => .doubleResist
  | 3 => .tripleResist
  | _ => .fullResist

def tryResist (rolls : ℕ → ℚ) : Bool × CommandResult :=
  match resists 5 rolls action.resistRate with
  | 0 => (false, action)
  | times => (true, calculateResistDamage { action with hitType := resistType times })

end CommandResult

inductive ResistTier where
  | none
  | single
  | double
  | triple
  | full
deriving DecidableEq, Repr

namespace ResistTier

def toNat : ResistTier → ℕ
  | none => 0
  | single => 1
  | double => 2
  | triple => 3
  | full => 4

def limit : ResistTier → ℕ
  | none => 0
  | single | triple => 13333
  | double => 19999
  | full => 10000

end ResistTier

def CommandResult.resisted (action : CommandResult) : ResistTier → CommandResult
  | .none => action
  | .single => calculateResistDamage { action with hitType := .singleResist }
  | .double => calculateResistDamage { action with hitType := .doubleResist }
  | .triple => calculateResistDamage { action with hitType := .tripleResist }
  | .full => calculateResistDamage { action with hitType := .fullResist }

theorem CommandResult.tryResist_resisted (action : CommandResult) (rolls : ℕ → ℚ) :
    ∃ tier, (action.tryResist rolls).2 = action.resisted tier ∧
      ((action.tryResist rolls).1 = false ↔ tier = .none) := by
  unfold tryResist
  match resists 5 rolls action.resistRate with
  | 0 => exact ⟨.none, rfl, iff_of_true rfl rfl⟩
  | 1 => exact ⟨.single, rfl, by simp⟩
  | 2 => exact ⟨.double, rfl, by simp⟩
  | 3 => exact ⟨.triple, rfl, by simp⟩
  | _ + 4 => exact ⟨.full, rfl, by simp⟩

/-! ### What a step is to keep -/

/-- Of an amount, what is dealt and what is mitigated make up all but a point. -/
structure Conserves (before after : CommandResult) : Prop where
  dealt : after.amount ≤ before.amount
  mitigated : after.amountMitigated ≤ before.amount
  atLeast : before.amount.toNat ≤ after.amount.toNat + after.amountMitigated.toNat + 1
  atMost : after.amount.toNat + after.amountMitigated.toNat ≤ before.amount.toNat + 1

structure Absorbs (mods : Modifiers) (before : CommandResult) (after : Modifiers × CommandResult) :
    Prop where
  dealt : (after.2.amount.toNat : ℤ) =
    ⌊(before.amount.toNat : ℚ) - min (before.amount.toNat : ℚ) (mods stoneskin)⌋
  pool : after.1 stoneskin = mods stoneskin - min (before.amount.toNat : ℚ) (mods stoneskin)
  frame : ∀ key, key ≠ stoneskin → after.1 key = mods key

/-- The part to mitigate leaves an amount by less than a point, unless the greatest damage of 9999
cuts off what is beyond; and the parts that the amount is cut into stay below that damage, or exceed
it by a single point. -/
structure Splits (amount : UInt16) (part : ℚ) : Prop where
  inside : (-1 < part ∧ part < amount.toNat + 1) ∨ 9999 ≤ amount.toNat
  fits : let inner := max 0 (min part amount.toNat)
    (inner < 10000 ∧ amount.toNat - inner < 10000) ∨
      (inner = ⌊inner⌋ ∧ inner ≤ 10000 ∧ amount.toNat - inner ≤ 10000 ∧ amount.toNat < 20000)

theorem toNat_clampDamage (v : ℚ) : ((clampDamage v).toNat : ℤ) = max 0 (min ⌊v⌋ 9999) := by
  have whole : ⌊max 0 (min v 9999)⌋ = max 0 (min ⌊v⌋ 9999) := by
    rw [Int.floor_mono.map_max, Int.floor_mono.map_min]
    rfl
  rw [clampDamage, whole, UInt16.toNat_ofNat']
  omega

theorem floor_sub (n : ℕ) (x : ℚ) : ⌊n - x⌋ = n - ⌈x⌉ := by
  rw [sub_eq_neg_add, Int.floor_add_natCast, Int.floor_neg, neg_add_eq_sub]

theorem eq_floor_iff (x : ℚ) : x = ⌊x⌋ ↔ ⌊x⌋ = ⌈x⌉ := by
  constructor
  · intro whole
    rw [whole, Int.floor_intCast, Int.ceil_intCast]
  · intro same
    refine le_antisymm ?_ (Int.floor_le x)
    rw [same]
    exact Int.le_ceil x

theorem splits_iff {amount : UInt16} {part : ℚ} :
    Splits amount part ↔
      ((0 ≤ ⌈part⌉ ∧ ⌊part⌋ ≤ amount.toNat) ∨ 9999 ≤ amount.toNat) ∧
      let low := max 0 (min ⌊part⌋ amount.toNat)
      let high := max 0 (min ⌈part⌉ amount.toNat)
      (low < 10000 ∧ amount.toNat - 10000 < high) ∨
        (low = high ∧ high ≤ 10000 ∧ amount.toNat - 10000 ≤ low ∧ amount.toNat < 20000) := by
  have above : -1 < part ↔ 0 ≤ ⌈part⌉ := by
    rw [← Int.sub_one_lt_iff, Int.lt_ceil, zero_sub, Int.cast_neg, Int.cast_one]
  have below : part < amount.toNat + 1 ↔ ⌊part⌋ ≤ amount.toNat := by
    rw [← Int.lt_add_one_iff, Int.floor_lt, Int.cast_add, Int.cast_natCast, Int.cast_one]
  have floor : ⌊max 0 (min part amount.toNat)⌋ = max 0 (min ⌊part⌋ amount.toNat) := by
    rw [Int.floor_mono.map_max, Int.floor_mono.map_min, Int.floor_natCast]
    rfl
  have ceil : ⌈max 0 (min part amount.toNat)⌉ = max 0 (min ⌈part⌉ amount.toNat) := by
    rw [Int.ceil_mono.map_max, Int.ceil_mono.map_min, Int.ceil_natCast]
    rfl
  have small (x : ℚ) : x < 10000 ↔ ⌊x⌋ < 10000 := Int.floor_lt.symm
  have least (x : ℚ) : amount.toNat - x < 10000 ↔ amount.toNat - 10000 < ⌈x⌉ := by
    rw [Int.lt_ceil, sub_lt_comm]
    push_cast
    rfl
  have most (x : ℚ) : x ≤ 10000 ↔ ⌈x⌉ ≤ 10000 := Int.ceil_le.symm
  have rest (x : ℚ) : amount.toNat - x ≤ 10000 ↔ amount.toNat - 10000 ≤ ⌊x⌋ := by
    rw [Int.le_floor, sub_le_comm]
    push_cast
    rfl
  have fits (x : ℚ) : (x < 10000 ∧ amount.toNat - x < 10000) ∨
        (x = ⌊x⌋ ∧ x ≤ 10000 ∧ amount.toNat - x ≤ 10000 ∧ amount.toNat < 20000) ↔
      (⌊x⌋ < 10000 ∧ amount.toNat - 10000 < ⌈x⌉) ∨
        (⌊x⌋ = ⌈x⌉ ∧ ⌈x⌉ ≤ 10000 ∧ amount.toNat - 10000 ≤ ⌊x⌋ ∧ amount.toNat < 20000) := by
    rw [← eq_floor_iff, small, least, most, rest]
  rw [← floor, ← ceil, ← above, ← below]
  exact ⟨fun s => ⟨s.inside, (fits _).mp s.fits⟩, fun s => ⟨s.1, (fits _).mpr s.2⟩⟩

theorem clamps_small {n low high m d : ℤ} (least : 0 ≤ n) (below : n < 9999) (order : low ≤ high)
    (close : high ≤ low + 1) (m_eq : m = max 0 (min low 9999))
    (d_eq : d = max 0 (min (n - high) 9999)) :
    (d ≤ n ∧ m ≤ n ∧ n ≤ d + m + 1 ∧ d + m ≤ n + 1) ↔ 0 ≤ high ∧ low ≤ n := by
  constructor
  · rintro ⟨dealt, mitigated, -, -⟩
    constructor <;> omega
  · rintro ⟨nonneg, most⟩
    rw [min_eq_left (by omega)] at m_eq d_eq
    refine ⟨?_, ?_, ?_, ?_⟩ <;> omega

theorem clamps_large {n low high m d : ℤ} (above : 9999 ≤ n) (order : low ≤ high)
    (close : high ≤ low + 1) (m_eq : m = max 0 (min low 9999))
    (d_eq : d = max 0 (min (n - high) 9999)) :
    (n ≤ d + m + 1 ∧ d + m ≤ n + 1) ↔
      (max 0 (min low n) < 10000 ∧ n - 10000 < max 0 (min high n)) ∨
        (max 0 (min low n) = max 0 (min high n) ∧ max 0 (min high n) ≤ 10000 ∧
          n - 10000 ≤ max 0 (min low n) ∧ n < 20000) := by
  rcases le_or_gt high 0 with nothing | something
  · rw [max_eq_left (min_le_of_left_le (order.trans nothing))] at m_eq
    rw [min_eq_right (by omega), max_eq_right (by decide)] at d_eq
    rw [max_eq_left (min_le_of_left_le (order.trans nothing)),
      max_eq_left (min_le_of_left_le nothing)]
    omega
  · rcases le_or_gt n low with all | part
    · rw [min_eq_right (above.trans all), max_eq_right (by decide)] at m_eq
      rw [max_eq_left (min_le_of_left_le (sub_nonpos.mpr (all.trans order)))] at d_eq
      rw [min_eq_right all, min_eq_right (all.trans order)]
      omega
    · rw [min_eq_left part.le, min_eq_left (show high ≤ n by omega),
        max_eq_right (show 0 ≤ low by omega), max_eq_right something.le]
      omega

theorem conserves_iff {before after : CommandResult} :
    Conserves before after ↔
      (after.amount.toNat : ℤ) ≤ before.amount.toNat ∧
      (after.amountMitigated.toNat : ℤ) ≤ before.amount.toNat ∧
      (before.amount.toNat : ℤ) ≤ after.amount.toNat + after.amountMitigated.toNat + 1 ∧
      (after.amount.toNat : ℤ) + after.amountMitigated.toNat ≤ before.amount.toNat + 1 := by
  constructor
  · intro kept
    exact ⟨Int.ofNat_le.mpr (UInt16.le_iff_toNat_le.mp kept.dealt),
      Int.ofNat_le.mpr (UInt16.le_iff_toNat_le.mp kept.mitigated), mod_cast kept.atLeast,
      mod_cast kept.atMost⟩
  · rintro ⟨dealt, mitigated, atLeast, atMost⟩
    exact ⟨UInt16.le_iff_toNat_le.mpr (Int.ofNat_le.mp dealt),
      UInt16.le_iff_toNat_le.mpr (Int.ofNat_le.mp mitigated), mod_cast atLeast, mod_cast atMost⟩

theorem conserves_iff_splits {before after : CommandResult} {part : ℚ}
    (mitigated : after.amountMitigated = clampDamage part)
    (dealt : after.amount = clampDamage (before.amount.toNat - part)) :
    Conserves before after ↔ Splits before.amount part := by
  have m := toNat_clampDamage part
  have d := toNat_clampDamage (before.amount.toNat - part)
  rw [floor_sub] at d
  have order : ⌊part⌋ ≤ ⌈part⌉ := Int.floor_le_ceil part
  have close : ⌈part⌉ ≤ ⌊part⌋ + 1 := Int.ceil_le_floor_add_one part
  rw [← mitigated] at m
  rw [← dealt] at d
  rw [conserves_iff, splits_iff]
  dsimp only
  by_cases small : (before.amount.toNat : ℤ) < 9999
  · -- Neither part is cut off.
    rw [clamps_small (Int.natCast_nonneg _) small order close m d,
      or_iff_left (show ¬ 9999 ≤ before.amount.toNat by omega), iff_self_and]
    rintro -
    left
    constructor <;> omega
  · have above : 9999 ≤ (before.amount.toNat : ℤ) := not_lt.mp small
    have deal : (after.amount.toNat : ℤ) ≤ before.amount.toNat := by
      rw [d]
      exact max_le (Int.natCast_nonneg _) ((min_le_right ..).trans above)
    have mitigate : (after.amountMitigated.toNat : ℤ) ≤ before.amount.toNat := by
      rw [m]
      exact max_le (Int.natCast_nonneg _) ((min_le_right ..).trans above)
    have cut : 9999 ≤ before.amount.toNat := Int.ofNat_le.mp above
    have short : before.amount.toNat < 20000 ↔ (before.amount.toNat : ℤ) < 20000 :=
      Int.ofNat_lt.symm
    rw [and_iff_right deal, and_iff_right mitigate, clamps_large above order close m d,
      and_iff_right (Or.inr cut), short]

/-! ### The steps one by one -/

theorem floor_quarters (n : ℕ) : ⌊(n : ℚ) / 4⌋ = n / 4 := Rat.floor_natCast_div_natCast n 4

theorem ceil_quarters (n : ℕ) : ⌈(n : ℚ) / 4⌉ = -((-n) / 4) := Rat.ceil_natCast_div_natCast n 4

theorem splits_quarters {amount : UInt16} (quarters : ℕ) :
    Splits amount (((quarters * amount.toNat : ℕ) : ℚ) / 4) ↔
      ((quarters * amount.toNat : ℕ) / 4 ≤ amount.toNat ∨ 9999 ≤ amount.toNat) ∧
      let low := min ((quarters * amount.toNat : ℕ) / 4 : ℤ) amount.toNat
      let high := min (-((-(quarters * amount.toNat : ℕ)) / 4) : ℤ) amount.toNat
      (low < 10000 ∧ amount.toNat - 10000 < high) ∨
        (low = high ∧ high ≤ 10000 ∧ amount.toNat - 10000 ≤ low ∧ amount.toNat < 20000) := by
  rw [splits_iff, floor_quarters, ceil_quarters]
  generalize quarters * amount.toNat = part
  have low : 0 ≤ (part : ℤ) / 4 := by omega
  have high : 0 ≤ -(-(part : ℤ) / 4) := by omega
  have whole : (part : ℤ) / 4 ≤ amount.toNat ↔ part / 4 ≤ amount.toNat := by omega
  dsimp only
  rw [and_iff_right high, max_eq_right (le_min low (Int.natCast_nonneg _)),
    max_eq_right (le_min high (Int.natCast_nonneg _)), whole]

namespace CommandResult

variable (action : CommandResult)

theorem calculateBlockDamage_conserves (defender : CombatView) :
    Conserves action (action.calculateBlockDamage defender) ↔
      Splits action.amount (action.amount.toNat * percentBlocked defender) := by
  apply conserves_iff_splits rfl
  rw [← mul_one_sub]
  rfl

theorem calculateParryDamage_conserves :
    Conserves action action.calculateParryDamage ↔ action.amount.toNat ≤ 13333 := by
  have quarter : ((1 * action.amount.toNat : ℕ) : ℚ) / 4 = action.amount.toNat * (1 - 3 / 4) := by
    push_cast
    ring
  have rest : (action.amount.toNat : ℚ) - action.amount.toNat * (1 - 3 / 4) =
      action.amount.toNat * (3 / 4) := by ring
  rw [conserves_iff_splits rfl (congrArg clampDamage rest.symm), ← quarter, splits_quarters]
  dsimp only
  omega

theorem resisted_split {tier : ResistTier} (resists : tier ≠ .none) :
    (action.resisted tier).amountMitigated =
        clampDamage (action.amount.toNat * (1 - 1 / 4 * tier.toNat)) ∧
      (action.resisted tier).amount = clampDamage (action.amount.toNat * (1 / 4 * tier.toNat)) := by
  cases tier with
  | none => exact absurd rfl resists
  | single | double | triple | full => exact ⟨rfl, rfl⟩

theorem toNat_resisted {tier : ResistTier} (resists : tier ≠ .none) :
    (action.resisted tier).amount.toNat = min (tier.toNat * action.amount.toNat / 4) 9999 := by
  have quarters : (action.amount.toNat * (1 / 4 * tier.toNat) : ℚ) =
      ((tier.toNat * action.amount.toNat : ℕ) : ℚ) / 4 := by
    push_cast
    ring
  have dealt := toNat_clampDamage (((tier.toNat * action.amount.toNat : ℕ) : ℚ) / 4)
  rw [floor_quarters] at dealt
  rw [(action.resisted_split resists).2, quarters]
  omega

theorem resisted_conserves {tier : ResistTier} (resists : tier ≠ .none) :
    Conserves action (action.resisted tier) ↔ action.amount.toNat ≤ tier.limit := by
  obtain ⟨mitigated, dealt⟩ := action.resisted_split resists
  have most : tier.toNat ≤ 4 := by cases tier <;> decide
  have quarters : (((4 - tier.toNat) * action.amount.toNat : ℕ) : ℚ) / 4 =
      action.amount.toNat * (1 - 1 / 4 * tier.toNat) := by
    push_cast [Nat.cast_sub most]
    ring
  have rest : (action.amount.toNat : ℚ) - action.amount.toNat * (1 - 1 / 4 * tier.toNat) =
      action.amount.toNat * (1 / 4 * tier.toNat) := by ring
  rw [conserves_iff_splits mitigated (dealt.trans (congrArg clampDamage rest.symm)), ← quarters,
    splits_quarters]
  dsimp only
  cases tier with
  | none => exact absurd rfl resists
  | single | double | triple | full =>
      simp only [ResistTier.toNat, ResistTier.limit]
      omega

theorem resisted_antitone_iff :
    (∀ lower higher : ResistTier, lower.toNat ≤ higher.toNat →
        (action.resisted higher).amount ≤ (action.resisted lower).amount) ↔
      action.amount.toNat = 0 ∨ 39996 ≤ action.amount.toNat := by
  have unresisted : (action.resisted .none).amount = action.amount := rfl
  constructor
  · intro lower
    have extremes := UInt16.le_iff_toNat_le.mp (lower .single .full (by decide))
    rw [toNat_resisted action (by decide), toNat_resisted action (by decide)] at extremes
    simp only [ResistTier.toNat] at extremes
    omega
  · intro extreme lower higher order
    have even (tier : ResistTier) (resists : tier ≠ .none) :
        (action.resisted tier).amount.toNat = min action.amount.toNat 9999 := by
      rw [toNat_resisted action resists]
      cases tier with
      | none => exact absurd rfl resists
      | single | double | triple | full =>
          simp only [ResistTier.toNat]
          omega
    rw [UInt16.le_iff_toNat_le]
    by_cases resists : lower = .none
    · rw [resists, unresisted]
      by_cases resists' : higher = .none
      · rw [resists', unresisted]
      · rw [even higher resists']
        exact min_le_left ..
    · have resists' : higher ≠ .none := by
        intro same
        rw [same] at order
        cases lower with
        | none => exact resists rfl
        | single | double | triple | full => exact absurd order (by decide)
      rw [even higher resists', even lower resists]

theorem resisted_full_iff :
    (action.resisted .full).amount = 0 ↔ action.amount = 0 := by
  rw [← UInt16.toNat_inj, ← UInt16.toNat_inj, toNat_resisted action (by decide)]
  simp only [ResistTier.toNat]
  change _ = 0 ↔ _ = 0
  omega

theorem handleStoneskin_absorbs (mods : Modifiers) :
    Absorbs mods action (action.handleStoneskin mods) ↔
      action.amount.toNat - min (action.amount.toNat : ℚ) (mods stoneskin) < 10000 := by
  have dealt := toNat_clampDamage
    (action.amount.toNat - min (action.amount.toNat : ℚ) (mods stoneskin))
  have left : 0 ≤ ⌊(action.amount.toNat : ℚ) - min (action.amount.toNat : ℚ) (mods stoneskin)⌋ :=
    Int.floor_nonneg.mpr (sub_nonneg.mpr (min_le_left ..))
  have small : (action.amount.toNat : ℚ) - min (action.amount.toNat : ℚ) (mods stoneskin) < 10000 ↔
      ⌊(action.amount.toNat : ℚ) - min (action.amount.toNat : ℚ) (mods stoneskin)⌋ < 10000 :=
    Int.floor_lt.symm
  rw [small]
  constructor
  · intro absorbed
    have whole := absorbed.dealt
    simp only [handleStoneskin] at whole
    omega
  · intro below
    refine ⟨?_, ?_, fun key other => ?_⟩
    · simp only [handleStoneskin]
      omega
    · simp only [handleStoneskin, Function.update_self]
    · simp only [handleStoneskin, Function.update_of_ne other]

/-- When the steps keep what they are to keep. -/
theorem mitigation_iff (defender : CombatView) (mods : Modifiers) :
    (Conserves action (action.calculateBlockDamage defender) ↔
        Splits action.amount (action.amount.toNat * percentBlocked defender)) ∧
      (Conserves action action.calculateParryDamage ↔ action.amount.toNat ≤ 13333) ∧
      (∀ tier, tier ≠ .none →
        (Conserves action (action.resisted tier) ↔ action.amount.toNat ≤ tier.limit)) ∧
      ((∀ lower higher : ResistTier, lower.toNat ≤ higher.toNat →
          (action.resisted higher).amount ≤ (action.resisted lower).amount) ↔
        action.amount.toNat = 0 ∨ 39996 ≤ action.amount.toNat) ∧
      ((action.resisted .full).amount = 0 ↔ action.amount = 0) ∧
      (Absorbs mods action (action.handleStoneskin mods) ↔
        action.amount.toNat - min (action.amount.toNat : ℚ) (mods stoneskin) < 10000) :=
  ⟨action.calculateBlockDamage_conserves defender, action.calculateParryDamage_conserves,
    fun _ resists => action.resisted_conserves resists, action.resisted_antitone_iff,
    action.resisted_full_iff, action.handleStoneskin_absorbs mods⟩

/-- A hundred points that are resisted in full are dealt in full, and a quarter of them if they are
resisted once; a shield of 600 mitigates more than comes in. -/
theorem resisted_in_full :
    (resisted { amount := 100 } .full).amount = 100 ∧
      (resisted { amount := 100 } .single).amount = 25 ∧
      ¬ Conserves { amount := 100 }
        (calculateBlockDamage { amount := 100 } ⟨Function.update 0 block 600, false⟩) := by
  refine ⟨?_, ?_, fun kept => ?_⟩
  · with_unfolding_all decide
  · with_unfolding_all decide
  · have more := UInt16.le_iff_toNat_le.mp kept.mitigated
    revert more
    with_unfolding_all decide

end CommandResult

end Garlemald.Battle
