import Garlemald.Actor.Chara
import Garlemald.Library.Runs
import Mathlib.Algebra.Order.BigOperators.Group.List

/-!
The stats after a run of equipment changes and recalculations. A recalculation starts
from the modifiers it sets to zero, so that what it leaves there does not depend on
what was there; a bonus to any other modifier is added again each time.
-/

namespace Garlemald.Actor
open Library

variable {m : Modifier}

namespace ModifierMap
open Chara (resetModifiers)

def resetIds : List UInt32 := resetModifiers.map Modifier.asU32

def SameElsewhere (mods mods' : ModifierMap) : Prop :=
  ∀ key, key ∉ resetIds → mods.map key = mods'.map key

theorem SameElsewhere.refl (mods : ModifierMap) : SameElsewhere mods mods := fun _ _ => rfl

theorem SameElsewhere.trans {a b c : ModifierMap} (first : SameElsewhere a b)
    (second : SameElsewhere b c) : SameElsewhere a c :=
  fun key elsewhere => (first key elsewhere).trans (second key elsewhere)

theorem map_setRaw_self (mods : ModifierMap) (key : UInt32) (value : F64) :
    (mods.setRaw key value).map key = some value := Function.update_self _ _ _

theorem map_setRaw_of_ne {key other : UInt32} (different : other ≠ key) (mods : ModifierMap)
    (value : F64) : (mods.setRaw key value).map other = mods.map other :=
  Function.update_of_ne different _ _

theorem sameElsewhere_setRaw {key : UInt32} (listed : key ∈ resetIds) (mods : ModifierMap)
    (value : F64) : SameElsewhere mods (mods.setRaw key value) := by
  intro other elsewhere
  have different : other ≠ key := fun same => elsewhere (same ▸ listed)
  exact (map_setRaw_of_ne different mods value).symm

theorem sameElsewhere_set (listed : m ∈ resetModifiers) (mods : ModifierMap) (value : F64) :
    SameElsewhere mods (mods.set m value) :=
  sameElsewhere_setRaw (List.mem_map_of_mem listed) mods value

theorem sameElsewhere_add (listed : m ∈ resetModifiers) (mods : ModifierMap) (delta : F64) :
    SameElsewhere mods (mods.add m delta) :=
  sameElsewhere_setRaw (List.mem_map_of_mem listed) mods _

theorem sameElsewhere_foldl {α : Type} {f : ModifierMap → α → ModifierMap} {xs : List α}
    (each : ∀ x ∈ xs, ∀ mods, SameElsewhere mods (f mods x)) (mods : ModifierMap) :
    SameElsewhere mods (xs.foldl f mods) := by
  induction xs generalizing mods with
  | nil => exact SameElsewhere.refl mods
  | cons x xs ih =>
      have now := each x List.mem_cons_self mods
      exact now.trans (ih (fun y later => each y (List.mem_cons_of_mem x later)) (f mods x))

/-- The modifiers that a recalculation sets to zero are integers of a bounded size. -/
def Whole (bound : ℤ) (mods : ModifierMap) : Prop :=
  ∀ m ∈ resetModifiers, ∃ z : ℤ, mods.map m.asU32 = some (F64.ofInt z) ∧ |z| ≤ bound

variable {mods : ModifierMap}

theorem Whole.mono {bound bound' : ℤ} (h : Whole bound mods) (le : bound ≤ bound') :
    Whole bound' mods := by
  intro m listed
  obtain ⟨z, stored, small⟩ := h m listed
  exact ⟨z, stored, small.trans le⟩

theorem Whole.set {bound z : ℤ} (h : Whole bound mods) (small : |z| ≤ bound) (m : Modifier) :
    Whole bound (mods.set m (F64.ofInt z)) := by
  intro n listed
  by_cases same : n.asU32 = m.asU32
  · exact ⟨z, by rw [same]; exact map_setRaw_self mods _ _, small⟩
  · obtain ⟨w, stored, small⟩ := h n listed
    exact ⟨w, (map_setRaw_of_ne same mods _).trans stored, small⟩

theorem Whole.add {bound d : ℤ} (h : Whole bound mods) (listed : m ∈ resetModifiers)
    (few : bound + |d| < 2 ^ 53) :
    Whole (bound + |d|) (mods.add m (F64.ofInt d)) := by
  obtain ⟨z, stored, small⟩ := h m listed
  have positive := abs_nonneg z
  have given := abs_nonneg d
  have raised : mods.getRaw m.asU32 + F64.ofInt d = F64.ofInt (z + d) := by
    rw [getRaw, stored]
    exact F64.ofInt_add (by omega) (by omega)
  rw [ModifierMap.add, addRaw, raised]
  refine (h.mono (by omega)).set ?_ m
  exact (abs_add_le z d).trans (by omega)

end ModifierMap

namespace Chara
open ModifierMap

/-! ### Reset and baseline -/

theorem map_reset (ms : List Modifier) (mods : ModifierMap) (key : UInt32) :
    (ms.foldl (fun mods m => mods.set m 0) mods).map key =
      if key ∈ ms.map Modifier.asU32 then some 0 else mods.map key := by
  induction ms generalizing mods with
  | nil => rfl
  | cons m ms ih =>
      rw [List.foldl_cons, ih, List.map_cons]
      by_cases later : key ∈ ms.map Modifier.asU32
      · rw [if_pos later, if_pos (List.mem_cons_of_mem _ later)]
      · rw [if_neg later]
        by_cases here : key = m.asU32
        · rw [if_pos (here ▸ List.mem_cons_self), here]
          exact map_setRaw_self mods _ _
        · have absent : key ∉ m.asU32 :: ms.map Modifier.asU32 := by
            simp only [List.mem_cons, not_or]
            exact ⟨here, later⟩
          rw [if_neg absent]
          exact map_setRaw_of_ne here mods 0

variable {equipped equipped' : Equipped} {items : Catalog} {mods : ModifierMap} {c c' : Chara}

theorem reset_eq (same : SameElsewhere c.mods c'.mods) :
    c.resetPlayerBonusStats.mods = c'.resetPlayerBonusStats.mods := by
  apply ext_map
  intro key
  rw [resetPlayerBonusStats, resetPlayerBonusStats, map_reset, map_reset]
  split
  · rfl
  · next elsewhere => exact same key elsewhere

theorem sameElsewhere_reset (c : Chara) : SameElsewhere c.mods c.resetPlayerBonusStats.mods :=
  sameElsewhere_foldl (fun _ listed mods => sameElsewhere_set listed mods 0) c.mods

theorem whole_reset (c : Chara) : Whole 0 c.resetPlayerBonusStats.mods := by
  intro m listed
  refine ⟨0, ?_, by decide⟩
  rw [resetPlayerBonusStats, map_reset, if_pos (List.mem_map_of_mem listed)]
  rfl

theorem emphasis_listed {classId : Int16} {first second : Modifier}
    (found : emphasis classId = some (first, second)) :
    first ∈ resetModifiers ∧ second ∈ resetModifiers := by
  have each : ∀ pair ∈ emphasis classId,
      pair.1 ∈ resetModifiers ∧ pair.2 ∈ resetModifiers := by
    rw [emphasis]
    repeat' apply iteInduction (motive := fun pairs : Option (Modifier × Modifier) =>
      ∀ pair ∈ pairs, pair.1 ∈ resetModifiers ∧ pair.2 ∈ resetModifiers) <;> intro _
    all_goals decide
  exact each _ found

theorem seedIfZero_listed (listed : m ∈ resetModifiers) (mods : ModifierMap) (v : F64) :
    SameElsewhere mods (seedIfZero mods m v) := by
  rw [seedIfZero]
  split
  · exact sameElsewhere_set listed mods v
  · exact SameElsewhere.refl mods

theorem emphasise_listed (listed : m ∈ resetModifiers) (seeded : List Modifier)
    (mods : ModifierMap) : SameElsewhere mods (emphasise seeded mods m) := by
  rw [emphasise]
  split
  · exact sameElsewhere_add listed mods 2
  · exact SameElsewhere.refl mods

theorem seedPrimaries_keeps {P : ModifierMap → Prop} (primary : F64)
    (seed : ∀ m ∈ resetModifiers, ∀ mods, P mods → P (mods.set m primary)) (start : P mods) :
    P (seedPrimaries primary mods).1 := by
  have each : ∀ ms, ms ⊆ resetModifiers → ∀ state : ModifierMap × List Modifier, P state.1 →
      P (ms.foldl (fun state m =>
        if F64.le (state.1.get m) 0 then (state.1.set m primary, state.2 ++ [m]) else state)
        state).1 := by
    intro ms
    induction ms with
    | nil => exact fun _ _ start => start
    | cons m ms ih =>
        intro listed state start
        obtain ⟨first, rest⟩ := List.cons_subset.mp listed
        apply ih rest
        dsimp only
        split
        · exact seed m first state.1 start
        · exact start
  exact each primaries (by decide) (mods, []) start

theorem sameElsewhere_pools (c : Chara) : SameElsewhere c.mods c.seedPools := by
  have first := seedIfZero_listed (m := .hp) (by decide) c.mods (250 + c.levelF64 * 30)
  have second := first.trans (seedIfZero_listed (m := .mp) (by decide) _
    (if c.isCaster then 80 + c.levelF64 * 20 else 20 + c.levelF64 * 5))
  exact second.trans (seedIfZero_listed (by decide) _ 1000)

theorem sameElsewhere_baseline (c : Chara) : SameElsewhere c.mods c.baselineMods := by
  have seeded := seedPrimaries_keeps (P := SameElsewhere c.mods) (8 + c.levelF64 * 2)
    (fun m listed mods start => start.trans (sameElsewhere_set listed mods _))
    (sameElsewhere_pools c)
  rw [baselineMods, emphasiseClass]
  split
  · next first second found =>
      obtain ⟨one, other⟩ := emphasis_listed found
      exact (seeded.trans (emphasise_listed one _ _)).trans (emphasise_listed other _ _)
  · exact seeded

theorem baseline_eq (classId : c.classId = c'.classId) (level : c.level = c'.level)
    (mods : c.mods = c'.mods) : c.baselineMods = c'.baselineMods := by
  cases c
  cases c'
  cases classId
  cases level
  cases mods
  rfl

theorem exists_level (c : Chara) : ∃ z : ℤ, c.levelF64 = F64.ofInt z ∧ 1 ≤ z ∧ z < 2 ^ 15 := by
  refine ⟨max c.level.toInt 1, rfl, le_max_right _ _, ?_⟩
  have below := c.level.toInt_lt
  omega

theorem exists_seed (c : Chara) (base rate : ℤ) (based : 0 ≤ base ∧ base ≤ 250)
    (rated : 0 ≤ rate ∧ rate ≤ 30) :
    ∃ z : ℤ, F64.ofInt base + c.levelF64 * F64.ofInt rate = F64.ofInt z ∧ |z| ≤ 2 ^ 20 := by
  obtain ⟨level, same, least, most⟩ := c.exists_level
  have product : 0 ≤ level * rate ∧ level * rate ≤ 2 ^ 15 * 30 := by
    constructor
    · exact mul_nonneg (by omega) rated.1
    · exact mul_le_mul (by omega) rated.2 rated.1 (by norm_num)
  refine ⟨base + level * rate, ?_, ?_⟩
  · rw [same, F64.ofInt_mul (by rw [abs_of_nonneg] <;> omega) (by rw [abs_of_nonneg] <;> omega),
      F64.ofInt_add (by rw [abs_of_nonneg] <;> omega) (by rw [abs_of_nonneg] <;> omega)]
  · rw [abs_of_nonneg] <;> omega

theorem whole_seedIfZero {v : F64} {bound : ℤ} (seed : ∃ z : ℤ, v = F64.ofInt z ∧ |z| ≤ bound)
    (h : Whole bound mods) (m : Modifier) : Whole bound (seedIfZero mods m v) := by
  rw [seedIfZero]
  split
  · obtain ⟨z, rfl, small⟩ := seed
    exact h.set small m
  · exact h

theorem whole_emphasise {bound : ℤ} (h : Whole bound mods) (listed : m ∈ resetModifiers)
    (few : bound + 2 < 2 ^ 53) (seeded : List Modifier) :
    Whole (bound + 2) (emphasise seeded mods m) := by
  rw [emphasise]
  split
  · exact h.add listed few
  · exact h.mono (by omega)

theorem whole_pools {c : Chara} (start : Whole 0 c.mods) : Whole (2 ^ 20) c.seedPools := by
  have mpSeed : ∃ z : ℤ, (if c.isCaster then 80 + c.levelF64 * 20 else 20 + c.levelF64 * 5) =
      F64.ofInt z ∧ |z| ≤ 2 ^ 20 := by
    split
    · exact c.exists_seed 80 20 (by omega) (by omega)
    · exact c.exists_seed 20 5 (by omega) (by omega)
  have hpSeed := c.exists_seed 250 30 (by omega) (by omega)
  have first := whole_seedIfZero hpSeed (start.mono (by decide)) .hp
  exact whole_seedIfZero ⟨1000, rfl, by decide⟩ (whole_seedIfZero mpSeed first .mp) .tp

theorem whole_baseline {c : Chara} (start : Whole 0 c.mods) :
    Whole (2 ^ 20 + 4) c.baselineMods := by
  obtain ⟨z, same, small⟩ := c.exists_seed 8 2 (by omega) (by omega)
  have seeded := seedPrimaries_keeps (P := Whole (2 ^ 20)) (F64.ofInt z)
    (fun m _ mods h => h.set small m) (whole_pools start)
  rw [← same] at seeded
  rw [baselineMods, emphasiseClass]
  split
  · next first second found =>
      obtain ⟨one, other⟩ := emphasis_listed found
      have raised := whole_emphasise seeded one (by norm_num)
        (seedPrimaries (8 + c.levelF64 * 2) c.seedPools).2
      exact (whole_emphasise raised other (by norm_num) _).mono (by norm_num)
  · exact seeded.mono (by norm_num)

/-! ### Gear -/

def Resettable (items : Catalog) (equipped : Equipped) : Prop :=
  ∀ bonus ∈ equippedBonuses items equipped, bonus.1 ∈ resetIds

theorem sameElsewhere_gear {equipped : Equipped} (listed : Resettable items equipped) (c : Chara) :
    SameElsewhere c.mods (applyPlayerGearStats items equipped c).mods :=
  sameElsewhere_foldl (fun bonus given mods => sameElsewhere_setRaw (listed bonus given) mods _)
    c.mods

def bonusTo (key : UInt32) (bonuses : List (UInt32 × Int32)) : ℤ :=
  ((bonuses.filter (·.1 = key)).map (·.2.toInt)).sum

def bonusSize (bonuses : List (UInt32 × Int32)) : ℤ := (bonuses.map fun b => |b.2.toInt|).sum

theorem bonusSize_nonneg (bonuses : List (UInt32 × Int32)) : 0 ≤ bonusSize bonuses := by
  apply List.sum_nonneg
  simp only [List.mem_map]
  rintro _ ⟨bonus, _, rfl⟩
  exact abs_nonneg _

theorem map_addBonuses {key : UInt32} {bonuses : List (UInt32 × Int32)} {z : ℤ}
    (stored : mods.map key = some (F64.ofInt z)) (small : |z| + bonusSize bonuses < 2 ^ 53) :
    (bonuses.foldl addBonus mods).map key = some (F64.ofInt (z + bonusTo key bonuses)) := by
  induction bonuses generalizing mods z with
  | nil => simpa [bonusTo] using stored
  | cons bonus bonuses ih =>
      obtain ⟨id, delta⟩ := bonus
      have rest := bonusSize_nonneg bonuses
      have size : bonusSize ((id, delta) :: bonuses) = |delta.toInt| + bonusSize bonuses := rfl
      have given := abs_nonneg delta.toInt
      have before := abs_nonneg z
      rw [size] at small
      rw [List.foldl_cons]
      by_cases here : id = key
      · subst here
        have exactly : F64.ofInt z + F64.ofInt delta.toInt = F64.ofInt (z + delta.toInt) :=
          F64.ofInt_add (by omega) (by omega)
        have raised : (addBonus mods (id, delta)).map id = some (F64.ofInt (z + delta.toInt)) := by
          rw [addBonus, addRaw, getRaw, stored, map_setRaw_self, Option.getD_some, exactly]
        have grown := abs_add_le z delta.toInt
        rw [ih raised (by omega), bonusTo, bonusTo, List.filter_cons_of_pos (by simp),
          List.map_cons, List.sum_cons, add_assoc]
      · have kept : (addBonus mods (id, delta)).map key = some (F64.ofInt z) := by
          rw [addBonus, addRaw, map_setRaw_of_ne (Ne.symm here)]
          exact stored
        rw [ih kept (by omega), bonusTo, bonusTo, List.filter_cons_of_neg (by simpa using here)]

theorem bonusTo_perm {key : UInt32} {bonuses bonuses' : List (UInt32 × Int32)}
    (same : bonuses.Perm bonuses') : bonusTo key bonuses = bonusTo key bonuses' :=
  ((same.filter _).map _).sum_eq

theorem length_equippedBonuses (items : Catalog) (equipped : Equipped) :
    (equippedBonuses items equipped).length ≤ 10 * 2 ^ 16 := by
  have rows : equipped.entries.length ≤ 2 ^ 16 := by
    have distinct : (equipped.entries.keys.map UInt16.toNat).Nodup :=
      equipped.nodupKeys.map fun _ _ => UInt16.toNat_inj.mp
    have inside : equipped.entries.keys.map UInt16.toNat ⊆ List.range (2 ^ 16) := by
      intro n listed
      obtain ⟨slot, _, rfl⟩ := List.mem_map.mp listed
      exact List.mem_range.mpr slot.toNat_lt
    have fits := (List.subperm_of_subset distinct inside).length_le
    simpa [List.keys] using fits
  have each : ∀ length ∈ equipped.entries.map fun entry =>
      (((items entry.2).map ItemData.gearBonuses).getD []).length, length ≤ 10 := by
    simp only [List.mem_map]
    rintro _ ⟨entry, _, rfl⟩
    cases items entry.2 with
    | none => exact Nat.zero_le _
    | some item => exact item.length_gearBonuses
  have total := List.sum_le_card_nsmul _ 10 each
  rw [equippedBonuses, List.length_flatMap]
  rw [List.length_map, nsmul_eq_mul, Nat.cast_id] at total
  omega

theorem bonusSize_equipped (items : Catalog) (equipped : Equipped) :
    bonusSize (equippedBonuses items equipped) ≤ 10 * 2 ^ 16 * 2 ^ 31 := by
  have each : ∀ size ∈ (equippedBonuses items equipped).map fun b => |b.2.toInt|,
      size ≤ (2 : ℤ) ^ 31 := by
    simp only [List.mem_map]
    rintro _ ⟨bonus, _, rfl⟩
    have below := bonus.2.toInt_lt
    have above := bonus.2.le_toInt
    exact abs_le.mpr ⟨above, below.le⟩
  have total := List.sum_le_card_nsmul _ _ each
  have few := length_equippedBonuses items equipped
  rw [List.length_map, nsmul_eq_mul] at total
  rw [bonusSize]
  omega

theorem gear_perm {c : Chara} (same : equipped.entries.Perm equipped'.entries)
    (listed : Resettable items equipped) (whole : Whole (2 ^ 20 + 4) c.mods) :
    (applyPlayerGearStats items equipped c).mods =
      (applyPlayerGearStats items equipped' c).mods := by
  have bonuses : (equippedBonuses items equipped).Perm (equippedBonuses items equipped') :=
    same.flatMap_right _
  have listed' : Resettable items equipped' := fun bonus given =>
    listed bonus (bonuses.mem_iff.mpr given)
  apply ext_map
  intro key
  by_cases reset : key ∈ resetIds
  · obtain ⟨m, inside, rfl⟩ := List.mem_map.mp reset
    obtain ⟨z, stored, small⟩ := whole m inside
    have size := bonusSize_equipped items equipped
    have size' := bonusSize_equipped items equipped'
    exact (map_addBonuses stored (by omega)).trans (by
      rw [bonusTo_perm bonuses]
      exact (map_addBonuses stored (by omega)).symm)
  · rw [← sameElsewhere_gear listed c key reset, ← sameElsewhere_gear listed' c key reset]

/-! ### Weapons, secondaries and pools -/

theorem equippedWeapon_perm (same : equipped.entries.Perm equipped'.entries) (slot : UInt16) :
    equippedWeapon items equipped slot = equippedWeapon items equipped' slot := by
  rw [equippedWeapon, equippedWeapon, AList.perm_lookup same]

theorem applyMainhand_listed (w : WeaponAttributes) (mods : ModifierMap) :
    SameElsewhere mods (applyMainhand w mods) :=
  ((sameElsewhere_set (m := .delay) (by decide) mods _).trans
    (sameElsewhere_set (m := .attackType) (by decide) _ _)).trans
    (sameElsewhere_set (by decide) _ _)

theorem applyFlat_listed (w : WeaponAttributes) (mods : ModifierMap) :
    SameElsewhere mods (applyFlat w mods) :=
  (sameElsewhere_add (m := .attack) (by decide) mods _).trans (sameElsewhere_add (by decide) _ _)

theorem weaponMods_listed (items : Catalog) (equipped : Equipped) (mods : ModifierMap) :
    SameElsewhere mods (weaponMods items equipped mods) := by
  rw [weaponMods]
  cases equippedWeapon items equipped slotMainhand with
  | none =>
      cases equippedWeapon items equipped slotOffhand with
      | none => exact SameElsewhere.refl mods
      | some w => exact applyFlat_listed w mods
  | some v =>
      have main := (applyMainhand_listed v mods).trans (applyFlat_listed v _)
      cases equippedWeapon items equipped slotOffhand with
      | none => exact main
      | some w => exact main.trans (applyFlat_listed w _)

theorem damagePower_listed (items : Catalog) (equipped : Equipped) (c : Chara) :
    SameElsewhere c.mods (applyPlayerWeaponDamagePower items equipped c).mods :=
  sameElsewhere_set (by decide) c.mods _

theorem derivation_listed (c : Chara) :
    SameElsewhere c.mods c.applyPlayerStatDerivation.mods := by
  apply sameElsewhere_foldl
  intro raise given mods
  have raised : raise.1 ∈ (shares c.mods).map Prod.fst := List.mem_map_of_mem given
  have listed : (shares c.mods).map Prod.fst ⊆ resetModifiers := by
    have names : (shares c.mods).map Prod.fst = [.attack, .accuracy, .defense,
      .attackMagicPotency, .magicAccuracy, .healingMagicPotency, .magicEvasion,
      .enfeeblingMagicPotency] := rfl
    rw [names]
    decide
  exact sameElsewhere_add (listed raised) mods _

theorem seedHitCount_listed (mods : ModifierMap) : SameElsewhere mods (seedHitCount mods) := by
  rw [seedHitCount]
  split
  · exact sameElsewhere_set (by decide) mods 1
  · exact SameElsewhere.refl mods

def Roomy (least pool : ℤ) : Prop := 0 < pool → least ≤ (Int16.ofInt (max pool 0)).toInt

instance (least pool : ℤ) : Decidable (Roomy least pool) := inferInstanceAs (Decidable (_ → _))

/-- Whether the pools can be set without a panic. -/
def SetsPools (mods : ModifierMap) : Prop :=
  Roomy (floorHp mods) (F64.toI32 (mods.get .hp)) ∧
    Roomy 0 (F64.toI32 (mods.get .mp))

instance (mods : ModifierMap) : Decidable (SetsPools mods) := inferInstanceAs (Decidable (_ ∧ _))

def lasting (c : Chara) : Int16 × Int16 × ModifierMap := (c.classId, c.level, c.mods)

theorem lasting_setHp (c : Chara) (hp : ℤ) :
    (c.setHp hp).map lasting = if floorHp c.mods ≤ c.maxHp.toInt then some c.lasting else none := by
  rw [setHp]
  split <;> rfl

theorem lasting_setMp (c : Chara) (mp : ℤ) :
    (c.setMp mp).map lasting = if 0 ≤ c.maxMp.toInt then some c.lasting else none := by
  rw [setMp]
  split <;> rfl

theorem lasting_filled (c : Chara) {least pool : ℤ} {set : Option Chara}
    (sets : set.map lasting =
      if least ≤ (Int16.ofInt (max pool 0)).toInt then some c.lasting else none) :
    (if 0 < pool then set else some c).map lasting =
      if Roomy least pool then some c.lasting else none := by
  by_cases positive : 0 < pool
  · have same : Roomy least pool ↔ least ≤ (Int16.ofInt (max pool 0)).toInt :=
      forall_prop_of_true positive
    simp only [if_pos positive, same]
    exact sets
  · have roomy : Roomy least pool := fun above => absurd above positive
    rw [if_neg positive, if_pos roomy]
    rfl

theorem lasting_calculateHp (c : Chara) : c.calculateHp.map lasting =
    if Roomy (floorHp c.mods) (F64.toI32 (c.mods.get .hp)) then some c.lasting else none :=
  c.lasting_filled (lasting_setHp _ _)

theorem lasting_calculateMp (c : Chara) : c.calculateMp.map lasting =
    if Roomy 0 (F64.toI32 (c.mods.get .mp)) then some c.lasting else none :=
  c.lasting_filled (lasting_setMp _ _)

theorem lasting_recalculateStats (c : Chara) : c.recalculateStats.map lasting =
    if SetsPools c.mods then some (c.classId, c.level, seedHitCount c.mods) else none := by
  rw [recalculateStats, calculateBaseStats, Option.bind_eq_bind]
  have first := c.lasting_calculateHp
  by_cases roomy : Roomy (floorHp c.mods) (F64.toI32 (c.mods.get .hp))
  · rw [if_pos roomy] at first
    obtain ⟨d, hp, same⟩ := Option.map_eq_some_iff.mp first
    have mods : d.mods = c.mods := congrArg (·.2.2) same
    have second := d.lasting_calculateMp
    rw [mods, same] at second
    rw [hp, Option.bind_some]
    by_cases full : Roomy 0 (F64.toI32 (c.mods.get .mp))
    · rw [if_pos full] at second
      obtain ⟨e, mp, kept⟩ := Option.map_eq_some_iff.mp second
      have sets : SetsPools c.mods := ⟨roomy, full⟩
      rw [mp, Option.bind_some, if_pos sets]
      exact congrArg (fun lasts => some (lasts.1, lasts.2.1, seedHitCount lasts.2.2)) kept
    · rw [if_neg full, Option.map_eq_none_iff] at second
      have panics : ¬ SetsPools c.mods := fun sets => full sets.2
      rw [second, Option.bind_none, if_neg panics]
      rfl
  · rw [if_neg roomy, Option.map_eq_none_iff] at first
    have panics : ¬ SetsPools c.mods := fun sets => roomy sets.1
    rw [first, Option.bind_none, if_neg panics]
    rfl

/-! ### A recalculation -/

theorem classLevel_pipeline (items : Catalog) (equipped : Equipped) (c : Chara) :
    (runPlayerPipeline items equipped c).classId = c.classId ∧
      (runPlayerPipeline items equipped c).level = c.level := by
  simp only [runPlayerPipeline, applyPlayerStatDerivation, applyPlayerWeaponDamagePower,
    applyPlayerWeaponStats, applyPlayerGearStats, applyPlayerStatBaseline, resetPlayerBonusStats,
    and_self]

theorem lasting_applyRecalcStats (items : Catalog) (equipped : Equipped) (c : Chara) :
    (applyRecalcStats items equipped c).map lasting =
      if SetsPools (runPlayerPipeline items equipped c).mods then
        some (c.classId, c.level, seedHitCount (runPlayerPipeline items equipped c).mods)
      else none := by
  obtain ⟨classId, level⟩ := classLevel_pipeline items equipped c
  rw [applyRecalcStats, lasting_recalculateStats, classId, level]

theorem sameElsewhere_pipeline {equipped : Equipped} (listed : Resettable items equipped)
    (c : Chara) : SameElsewhere c.mods (runPlayerPipeline items equipped c).mods := by
  have seeded := (sameElsewhere_reset c).trans (sameElsewhere_baseline c.resetPlayerBonusStats)
  have geared := seeded.trans (sameElsewhere_gear listed
    c.resetPlayerBonusStats.applyPlayerStatBaseline)
  have armed := geared.trans (weaponMods_listed items equipped _)
  have powered := armed.trans (damagePower_listed items equipped
    (applyPlayerWeaponStats items equipped (applyPlayerGearStats items equipped
      c.resetPlayerBonusStats.applyPlayerStatBaseline)))
  exact powered.trans (derivation_listed _)

theorem recalc_keeps {equipped : Equipped} (listed : Resettable items equipped)
    (done : applyRecalcStats items equipped c = some c') :
    c'.classId = c.classId ∧ c'.level = c.level ∧ SameElsewhere c.mods c'.mods := by
  have lasts := lasting_applyRecalcStats items equipped c
  rw [done, Option.map_some] at lasts
  by_cases sets : SetsPools (runPlayerPipeline items equipped c).mods
  · rw [if_pos sets, Option.some.injEq] at lasts
    have mods : c'.mods = _ := congrArg (·.2.2) lasts
    refine ⟨congrArg (·.1) lasts, congrArg (·.2.1) lasts, ?_⟩
    rw [mods]
    exact (sameElsewhere_pipeline listed c).trans (seedHitCount_listed _)
  · rw [if_neg sets] at lasts
    cases lasts

theorem pipeline_eq (classId : c.classId = c'.classId) (level : c.level = c'.level)
    (same : SameElsewhere c.mods c'.mods) (order : equipped.entries.Perm equipped'.entries)
    (listed : Resettable items equipped) :
    (runPlayerPipeline items equipped c).mods = (runPlayerPipeline items equipped' c').mods := by
  have seeded : c.resetPlayerBonusStats.applyPlayerStatBaseline.mods =
      c'.resetPlayerBonusStats.applyPlayerStatBaseline.mods := by
    exact baseline_eq classId level (reset_eq same)
  have geared : (applyPlayerGearStats items equipped
      c.resetPlayerBonusStats.applyPlayerStatBaseline).mods = (applyPlayerGearStats items equipped'
      c'.resetPlayerBonusStats.applyPlayerStatBaseline).mods := by
    rw [gear_perm order listed (whole_baseline (whole_reset c)), applyPlayerGearStats,
      applyPlayerGearStats, seeded]
  simp only [runPlayerPipeline, applyPlayerStatDerivation, applyPlayerWeaponDamagePower,
    applyPlayerWeaponStats, weaponMods, geared, equippedWeapon_perm order]

theorem recalc_eq (classId : c.classId = c'.classId) (level : c.level = c'.level)
    (same : SameElsewhere c.mods c'.mods) (order : equipped.entries.Perm equipped'.entries)
    (listed : Resettable items equipped) :
    (applyRecalcStats items equipped c).map (·.mods) =
      (applyRecalcStats items equipped' c').map (·.mods) := by
  have lasts : (applyRecalcStats items equipped c).map lasting =
      (applyRecalcStats items equipped' c').map lasting := by
    rw [lasting_applyRecalcStats, lasting_applyRecalcStats, classId, level,
      pipeline_eq classId level same order listed]
  have mods := congrArg (Option.map (·.2.2)) lasts
  rw [Option.map_map, Option.map_map] at mods
  exact mods

end Chara

/-! ### Runs -/

structure PlayerState where
  chara : Chara
  equipped : Equipped := ∅

inductive GearChange where
  | equip (slot : UInt16) (catalogId : UInt32)
  | unequip (slot : UInt16)
  | recalc

/-- A change of the equipment, and the equipment as it is loaded behind it: the same rows in
the order in which they are gone through. -/
structure StatEvent where
  change : GearChange
  loaded : Equipped

namespace PlayerState
open Chara ModifierMap

def changed (s : PlayerState) : GearChange → Equipped
  | .equip slot catalogId => s.equipped.insert slot catalogId
  | .unequip slot => s.equipped.erase slot
  | .recalc => s.equipped

def step (items : Catalog) (s : PlayerState) (e : StatEvent) : Option PlayerState :=
  if e.loaded.entries.Perm (s.changed e.change).entries then
    (applyRecalcStats items e.loaded s.chara).map fun chara => ⟨chara, s.changed e.change⟩
  else none

/-- The modifiers are those of a single recalculation of the first character with the
equipment of this state, in any order. -/
def Settled (items : Catalog) (first : Chara) (s : PlayerState) : Prop :=
  ∀ loaded : Equipped, loaded.entries.Perm s.equipped.entries →
    (applyRecalcStats items loaded first).map (·.mods) = some s.chara.mods

/-- No item of the equipment that is loaded gives a bonus that no recalculation takes back. -/
def Recalculable (items : Catalog) (s : PlayerState) (e : StatEvent) : Prop :=
  ∀ entry ∈ (s.changed e.change).entries, ∀ item, items entry.2 = some item →
    ∀ bonus ∈ item.gearBonuses, bonus.1 ∈ resetIds

variable {items : Catalog}

theorem equipped_step {s s' : PlayerState} {e : StatEvent} (taken : step items s e = some s') :
    s'.equipped = s.changed e.change := by
  rw [step] at taken
  split at taken
  · obtain ⟨_, _, rfl⟩ := Option.map_eq_some_iff.mp taken
    rfl
  · cases taken

theorem resettable {s : PlayerState} {e : StatEvent} (meets : Recalculable items s e)
    (order : e.loaded.entries.Perm (s.changed e.change).entries) : Resettable items e.loaded := by
  intro bonus given
  obtain ⟨entry, inside, given⟩ := List.mem_flatMap.mp given
  cases found : items entry.2 with
  | none =>
      rw [found] at given
      exact absurd given List.not_mem_nil
  | some item =>
      rw [found] at given
      exact meets entry (order.mem_iff.mp inside) item found bonus given

structure Kept (first : Chara) (s : PlayerState) : Prop where
  classId : s.chara.classId = first.classId
  level : s.chara.level = first.level
  elsewhere : SameElsewhere s.chara.mods first.mods

theorem kept_step {first : Chara} {s s' : PlayerState} {e : StatEvent} (kept : Kept first s)
    (meets : Recalculable items s e) (taken : step items s e = some s') :
    Settled items first s' ∧ Kept first s' := by
  rw [step] at taken
  split at taken
  · next order =>
      obtain ⟨c', done, rfl⟩ := Option.map_eq_some_iff.mp taken
      have listed := resettable meets order
      obtain ⟨classId, level, written⟩ := recalc_keeps listed done
      constructor
      · intro loaded same
        have alike := recalc_eq kept.classId kept.level kept.elsewhere
          (order.trans same.symm) listed
        rw [← alike, done]
        rfl
      · exact ⟨classId.trans kept.classId, level.trans kept.level, fun key elsewhere =>
          (written key elsewhere).symm.trans (kept.elsewhere key elsewhere)⟩
  · cases taken

/-- In a run over recalculable equipment the modifiers are, after the first change and after
every later one, those of a single recalculation with the equipment worn then. -/
theorem stats_of_equipment (items : Catalog) (start : PlayerState) (e : StatEvent)
    (es : List StatEvent)
    (each : EachStep (step items) (Recalculable items) start (e :: es)) (s : PlayerState)
    (taken : step items start e = some s) :
    Always (step items) (Settled items start.chara) s es := by
  have begun : Kept start.chara start := ⟨rfl, rfl, SameElsewhere.refl _⟩
  obtain ⟨meets, later⟩ := each s taken
  have held := always_of_eachStep (I := fun s => Settled items start.chara s ∧ Kept start.chara s)
    (fun _ _ _ kept meets taken => kept_step kept.2 meets taken) (kept_step begun meets taken) later
  exact held.mono fun _ both => both.1

def oneRing (bonus : Int32 × Int32) : Catalog := fun catalogId =>
  if catalogId = 1 then
    some ⟨(Vector.replicate 10 (-1, 0)).set 0 bonus, none⟩
  else none

def barehanded : PlayerState where
  chara := { classId := 2, level := 50 }

def ringRun : List StatEvent :=
  [⟨.equip 8 1, (∅ : Equipped).insert 8 1⟩, ⟨.recalc, (∅ : Equipped).insert 8 1⟩]

theorem ring_values :
    (step (oneRing (15004, 7)) barehanded ⟨.equip 8 1, (∅ : Equipped).insert 8 1⟩).isSome = true ∧
    (run (step (oneRing (15010, 5))) barehanded ringRun).map
      (fun s => (s.chara.mods.getRaw 9, decide (s.equipped.entries = [⟨8, 1⟩]))) =
        some (10, true) ∧
    (applyRecalcStats (oneRing (15010, 5)) ((∅ : Equipped).insert 8 1) barehanded.chara).map
      (fun c => c.mods.getRaw 9) = some 5 ∧ (10 : F64) ≠ 5 := by
  decide +kernel

theorem stats_of_equipment_strengthRing : ∃ s,
    step (oneRing (15004, 7)) barehanded ⟨.equip 8 1, (∅ : Equipped).insert 8 1⟩ = some s ∧
      Always (step (oneRing (15004, 7))) (Settled (oneRing (15004, 7)) barehanded.chara) s
        [⟨.recalc, (∅ : Equipped).insert 8 1⟩] := by
  have bonuses : ∀ entry ∈ ((∅ : Equipped).insert 8 1).entries, ∀ item,
      oneRing (15004, 7) entry.2 = some item → ∀ bonus ∈ item.gearBonuses, bonus.1 ∈ resetIds := by
    intro entry inside item found
    obtain rfl := List.mem_singleton.mp inside
    -- as a boolean over the list, which does not run through all pairs of numbers
    have listed : (oneRing (15004, 7) 1).all
        (fun item => item.gearBonuses.all fun bonus => decide (bonus.1 ∈ resetIds)) = true := by
      decide
    rw [found] at listed
    exact fun bonus mem => of_decide_eq_true (List.all_eq_true.mp listed bonus mem)
  obtain ⟨s, taken⟩ := Option.isSome_iff_exists.mp ring_values.1
  refine ⟨s, taken, stats_of_equipment _ barehanded _ _ ?_ s taken⟩
  refine fun s' taken' => ⟨bonuses, fun s'' _ => ⟨?_, trivial⟩⟩
  rw [Recalculable, changed, equipped_step taken']
  exact bonuses

theorem fireRing_adds_up : ∃ s, run (step (oneRing (15010, 5))) barehanded ringRun = some s ∧
    ¬ Settled (oneRing (15010, 5)) barehanded.chara s := by
  obtain ⟨_, twice, once, apart⟩ := ring_values
  obtain ⟨s, reached, values⟩ := Option.map_eq_some_iff.mp twice
  obtain ⟨ten, worn⟩ := Prod.mk.inj values
  refine ⟨s, reached, fun settled => ?_⟩
  have single := settled ((∅ : Equipped).insert 8 1) (by rw [of_decide_eq_true worn]; rfl)
  obtain ⟨c, done, same⟩ := Option.map_eq_some_iff.mp single
  rw [done, Option.map_some, Option.some.injEq, same, ten] at once
  exact apart once

end PlayerState
end Garlemald.Actor
