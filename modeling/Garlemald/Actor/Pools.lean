import Garlemald.Actor.Chara
import Garlemald.Library.Runs

/-!
The pools of a character. Maxima are narrowed to 16 bits and sums are made before they are clamped,
so that which operations are safe depends on the pools, the locks and the arguments together.
-/

namespace Garlemald.Actor
open Library

/-! ### The pools of a recalculation -/

namespace Chara

theorem floorHp_cases (mods : ModifierMap) : floorHp mods = 0 ∨ floorHp mods = 1 := by
  unfold floorHp
  split
  · exact .inr rfl
  · exact .inl rfl

theorem setHp_spec {c c' : Chara} {hp : ℤ} (done : c.setHp hp = some c') :
    ∃ value, c' = { c with hp := value } ∧
      value.toInt = max (floorHp c.mods) (min hp c.maxHp.toInt) := by
  unfold setHp at done
  split at done
  · rename_i room
    cases done
    refine ⟨_, rfl, ?_⟩
    have low := floorHp_cases c.mods
    have high := c.maxHp.toInt_lt
    apply Int16.toInt_ofInt_of_le
    · omega
    · omega
  · cases done

structure Recalculated (c c' : Chara) : Prop where
  kept : F64.toI32 (c.mods.get .hp) ≤ 0 → c'.hp = c.hp ∧ c'.maxHp = c.maxHp
  set : 0 < F64.toI32 (c.mods.get .hp) →
    c'.maxHp = Int16.ofInt (F64.toI32 (c.mods.get .hp)) ∧
      c'.hp.toInt = max (floorHp c.mods)
        (min (filled (c.mods.get .hpPercent) (F64.toI32 (c.mods.get .hp))) c'.maxHp.toInt)

theorem calculateHp_spec {c c' : Chara} (done : c.calculateHp = some c') : Recalculated c c' := by
  unfold calculateHp at done
  by_cases positive : 0 < F64.toI32 (c.mods.get .hp)
  · simp only [if_pos positive] at done
    obtain ⟨value, rfl, hp⟩ := setHp_spec done
    have same : max (F64.toI32 (c.mods.get .hp)) 0 = F64.toI32 (c.mods.get .hp) :=
      max_eq_left positive.le
    refine ⟨fun none_ => absurd positive (not_lt.mpr none_), fun _ => ⟨?_, ?_⟩⟩
    · exact congrArg Int16.ofInt same
    · rw [hp]
      rfl
  · simp only [if_neg positive, Option.some.injEq] at done
    subst done
    exact ⟨fun _ => ⟨rfl, rfl⟩, fun above => absurd above positive⟩

theorem calculateMp_hp {c c' : Chara} (done : c.calculateMp = some c') :
    c'.hp = c.hp ∧ c'.maxHp = c.maxHp := by
  unfold calculateMp at done
  by_cases positive : 0 < F64.toI32 (c.mods.get .mp)
  · simp only [if_pos positive, setMp] at done
    split at done
    · cases done
      exact ⟨rfl, rfl⟩
    · cases done
  · simp only [if_neg positive, Option.some.injEq] at done
    subst done
    exact ⟨rfl, rfl⟩

theorem recalculateStats_spec {c c' : Chara} (done : c.recalculateStats = some c') :
    Recalculated c c' := by
  obtain ⟨d, first, rest⟩ := Option.bind_eq_some_iff.mp done
  obtain ⟨e, second, last⟩ := Option.bind_eq_some_iff.mp rest
  cases last
  have spec := calculateHp_spec first
  obtain ⟨hp, maxHp⟩ := calculateMp_hp second
  refine ⟨fun none_ => ?_, fun above => ?_⟩
  · obtain ⟨hp', maxHp'⟩ := spec.kept none_
    exact ⟨hp.trans hp', maxHp.trans maxHp'⟩
  · obtain ⟨maxHp', hp'⟩ := spec.set above
    rw [← maxHp] at maxHp' hp'
    rw [← hp] at hp'
    exact ⟨maxHp', hp'⟩

theorem pools_pipeline (items : Catalog) (equipped : Equipped) (c : Chara) :
    (runPlayerPipeline items equipped c).hp = c.hp ∧
      (runPlayerPipeline items equipped c).maxHp = c.maxHp ∧
      (runPlayerPipeline items equipped c).mp = c.mp ∧
      (runPlayerPipeline items equipped c).maxMp = c.maxMp := by
  simp only [runPlayerPipeline, applyPlayerStatDerivation, applyPlayerWeaponDamagePower,
    applyPlayerWeaponStats, applyPlayerGearStats, applyPlayerStatBaseline, resetPlayerBonusStats,
    and_self]

end Chara

/-! ### Operations -/

def MAX_TP : ℤ := 3000

def minimumTpLock : UInt32 := 116

structure CharaState extends Chara where
  tp : UInt16 := 0

def exactI32 (result : ℤ) : Option ℤ :=
  if -2 ^ 31 ≤ result ∧ result ≤ 2 ^ 31 - 1 then some result else none

/-- What is called on a character; between the calls scripts and effects change the modifiers. -/
inductive PoolOp where
  | setHp (hp : Int32)
  | addHp (delta : Int32)
  | delHp (amount : Int32)
  | setMaxHp (maxHp : Int32)
  | setMp (mp : Int32)
  | addMp (delta : Int32)
  | delMp (amount : Int32)
  | setMaxMp (maxMp : Int32)
  | addTp (delta : Int32)
  | delTp (amount : Int32)
  | recalculateStats
  | modify (mods : ModifierMap)

namespace CharaState

variable (s : CharaState)

/-- `none` is a panic or an overflow, here and below. -/
def setHp (hp : ℤ) : Option CharaState := do
  return { s with toChara := ← s.toChara.setHp hp }

def setMp (mp : ℤ) : Option CharaState := do
  return { s with toChara := ← s.toChara.setMp mp }

def setMaxHp (maxHp : ℤ) : CharaState := { s with toChara := s.toChara.setMaxHp maxHp }

def setMaxMp (maxMp : ℤ) : CharaState := { s with toChara := s.toChara.setMaxMp maxMp }

def addHp (delta : ℤ) : Option CharaState := do
  s.setHp (← exactI32 (s.hp.toInt + delta))

def addMp (delta : ℤ) : Option CharaState := do
  s.setMp (← exactI32 (s.mp.toInt + delta))

def floorTp (mods : ModifierMap) : ℤ := max 0 (min (F64.toI32 (mods.getRaw minimumTpLock)) MAX_TP)

def addTp (delta : ℤ) : Option CharaState := do
  let sum ← exactI32 (s.tp.toNat + delta)
  return { s with tp := UInt16.ofNat (max (floorTp s.mods) (min sum MAX_TP)).toNat }

def delHp (amount : ℤ) : Option CharaState := do
  s.addHp (← exactI32 (-amount))

def delMp (amount : ℤ) : Option CharaState := do
  s.addMp (← exactI32 (-amount))

def delTp (amount : ℤ) : Option CharaState := do
  s.addTp (← exactI32 (-amount))

def recalculateStats : Option CharaState := do
  return { s with toChara := ← s.toChara.recalculateStats }

def step : PoolOp → Option CharaState
  | .setHp hp => s.setHp hp.toInt
  | .addHp delta => s.addHp delta.toInt
  | .delHp amount => s.delHp amount.toInt
  | .setMaxHp maxHp => some (s.setMaxHp maxHp.toInt)
  | .setMp mp => s.setMp mp.toInt
  | .addMp delta => s.addMp delta.toInt
  | .delMp amount => s.delMp amount.toInt
  | .setMaxMp maxMp => some (s.setMaxMp maxMp.toInt)
  | .addTp delta => s.addTp delta.toInt
  | .delTp amount => s.delTp amount.toInt
  | .recalculateStats => s.recalculateStats
  | .modify mods => some { s with mods := mods }

end CharaState

/-! ### What the pools are kept to -/

structure Chara.HpWithin (c : Chara) : Prop where
  nonneg : 0 ≤ c.hp.toInt
  le_max : c.hp.toInt ≤ c.maxHp.toInt

structure Chara.MpWithin (c : Chara) : Prop where
  nonneg : 0 ≤ c.mp.toInt
  le_max : c.mp.toInt ≤ c.maxMp.toInt

structure CharaState.Bounded (s : CharaState) : Prop where
  hp : s.toChara.HpWithin
  mp : s.toChara.MpWithin
  tp : s.tp.toNat ≤ 3000

def Narrows (maximum : ℤ) : Prop := 0 ≤ (Int16.ofInt (max maximum 0)).toInt

/-- The maximum is not below the floor, so that a value can be clamped between them. -/
def Chara.HasRoom (c : Chara) : Prop := floorHp c.mods ≤ c.maxHp.toInt

/-- The new maximum of a recalculation is not below the floor. -/
def Chara.HpFits (mods : ModifierMap) : Prop :=
  let hpMod := F64.toI32 (mods.get .hp)
  0 < hpMod → floorHp mods ≤ (Int16.ofInt hpMod).toInt

def Chara.MpFits (mods : ModifierMap) : Prop :=
  let mpMod := F64.toI32 (mods.get .mp)
  0 < mpMod → Narrows mpMod

/-- The condition on an operation. -/
def CharaState.Fits (s : CharaState) : PoolOp → Prop
  | .setHp _ => s.HasRoom
  | .addHp delta => s.hp.toInt + delta.toInt ≤ 2 ^ 31 - 1 ∧ s.HasRoom
  | .delHp amount => s.hp.toInt - amount.toInt ≤ 2 ^ 31 - 1 ∧ s.HasRoom
  | .setMaxHp maxHp => Narrows maxHp.toInt
  | .setMp _ => True
  | .addMp delta => s.mp.toInt + delta.toInt ≤ 2 ^ 31 - 1
  | .delMp amount => s.mp.toInt - amount.toInt ≤ 2 ^ 31 - 1
  | .setMaxMp maxMp => Narrows maxMp.toInt
  | .addTp delta => s.tp.toNat + delta.toInt ≤ 2 ^ 31 - 1
  | .delTp amount => s.tp.toNat - amount.toInt ≤ 2 ^ 31 - 1
  | .recalculateStats => Chara.HpFits s.mods ∧ Chara.MpFits s.mods
  | .modify _ => True

instance (maximum : ℤ) : Decidable (Narrows maximum) := inferInstanceAs (Decidable (_ ≤ _))

instance (c : Chara) : Decidable c.HasRoom := inferInstanceAs (Decidable (_ ≤ _))

instance (mods : ModifierMap) : Decidable (Chara.HpFits mods) :=
  inferInstanceAs (Decidable (_ → _))

instance (mods : ModifierMap) : Decidable (Chara.MpFits mods) :=
  inferInstanceAs (Decidable (_ → _))

instance (s : CharaState) : ∀ op, Decidable (s.Fits op)
  | .setHp _ => inferInstanceAs (Decidable s.HasRoom)
  | .addHp _ | .delHp _ => inferInstanceAs (Decidable (_ ∧ s.HasRoom))
  | .setMaxHp maxHp => inferInstanceAs (Decidable (Narrows maxHp.toInt))
  | .setMaxMp maxMp => inferInstanceAs (Decidable (Narrows maxMp.toInt))
  | .addMp _ | .delMp _ | .addTp _ | .delTp _ => inferInstanceAs (Decidable (_ ≤ _))
  | .recalculateStats =>
      inferInstanceAs (Decidable (Chara.HpFits s.mods ∧ Chara.MpFits s.mods))
  | .setMp _ | .modify _ => isTrue trivial

/-! ### One operation -/

theorem none_fails {α : Type*} {P : α → Prop} : ¬ ∃ a, (none : Option α) = some a ∧ P a := by
  intro done
  cases done.choose_spec.1

namespace Chara

variable {c : Chara}

theorem setHp_within (room : c.HasRoom) (hp : ℤ) :
    ∃ value, c.setHp hp = some { c with hp := value } ∧
      0 ≤ value.toInt ∧ value.toInt ≤ c.maxHp.toInt := by
  obtain ⟨d, done⟩ : ∃ d, c.setHp hp = some d := ⟨_, if_pos room⟩
  obtain ⟨value, rfl, clamped⟩ := setHp_spec done
  have low := floorHp_cases c.mods
  rw [HasRoom] at room
  exact ⟨value, done, by omega, by omega⟩

theorem setHp_none (tight : ¬ c.HasRoom) (hp : ℤ) : c.setHp hp = none := if_neg tight

theorem setMp_within (room : 0 ≤ c.maxMp.toInt) (mp : ℤ) :
    ∃ value, c.setMp mp = some { c with mp := value } ∧
      0 ≤ value.toInt ∧ value.toInt ≤ c.maxMp.toInt := by
  have high := c.maxMp.toInt_lt
  have same : (Int16.ofInt (max 0 (min mp c.maxMp.toInt))).toInt =
      max 0 (min mp c.maxMp.toInt) := Int16.toInt_ofInt_of_le (by omega) (by omega)
  exact ⟨_, if_pos room, by omega, by omega⟩

theorem lowered_within {pool : Int16} (nonneg : 0 ≤ pool.toInt) (m : Int16) :
    0 ≤ (if m < pool then m else pool).toInt ∧ (if m < pool then m else pool).toInt ≤ m.toInt ↔
      0 ≤ m.toInt := by
  split
  · exact ⟨And.left, fun narrows => ⟨narrows, le_rfl⟩⟩
  · next above =>
      have below := Int16.le_iff_toInt_le.mp (Int16.not_lt.mp above)
      exact ⟨fun _ => nonneg.trans below, fun _ => ⟨nonneg, below⟩⟩

theorem setMaxHp_within (held : c.HpWithin) (maxHp : ℤ) :
    (c.setMaxHp maxHp).HpWithin ↔ Narrows maxHp := by
  rw [Narrows, ← lowered_within held.nonneg]
  exact ⟨fun after => ⟨after.nonneg, after.le_max⟩, fun both => ⟨both.1, both.2⟩⟩

theorem setMaxMp_within (held : c.MpWithin) (maxMp : ℤ) :
    (c.setMaxMp maxMp).MpWithin ↔ Narrows maxMp := by
  rw [Narrows, ← lowered_within held.nonneg]
  exact ⟨fun after => ⟨after.nonneg, after.le_max⟩, fun both => ⟨both.1, both.2⟩⟩

theorem calculateHp_some (fits : HpFits c.mods) :
    ∃ hp maxHp, c.calculateHp = some { c with hp := hp, maxHp := maxHp } ∧
      (c.HpWithin → 0 ≤ hp.toInt ∧ hp.toInt ≤ maxHp.toInt) := by
  unfold calculateHp
  by_cases positive : 0 < F64.toI32 (c.mods.get .hp)
  · have same : max (F64.toI32 (c.mods.get .hp)) 0 = F64.toI32 (c.mods.get .hp) :=
      max_eq_left positive.le
    have room : (c.setMaxHp (F64.toI32 (c.mods.get .hp))).HasRoom := by
      change floorHp c.mods ≤ (Int16.ofInt (max (F64.toI32 (c.mods.get .hp)) 0)).toInt
      rw [same]
      exact fits positive
    obtain ⟨value, done, within⟩ :=
      setHp_within room (filled (c.mods.get .hpPercent) (F64.toI32 (c.mods.get .hp)))
    rw [if_pos positive]
    exact ⟨value, _, done, fun _ => within⟩
  · rw [if_neg positive]
    exact ⟨c.hp, c.maxHp, rfl, fun held => ⟨held.nonneg, held.le_max⟩⟩

theorem calculateHp_none (tight : ¬ HpFits c.mods) : c.calculateHp = none := by
  obtain ⟨positive, short⟩ := Classical.not_imp.mp tight
  have same : max (F64.toI32 (c.mods.get .hp)) 0 = F64.toI32 (c.mods.get .hp) :=
    max_eq_left positive.le
  unfold calculateHp
  rw [if_pos positive]
  apply setHp_none
  change ¬ floorHp c.mods ≤ (Int16.ofInt (max (F64.toI32 (c.mods.get .hp)) 0)).toInt
  rw [same]
  exact short

theorem calculateMp_some (fits : MpFits c.mods) :
    ∃ mp maxMp, c.calculateMp = some { c with mp := mp, maxMp := maxMp } ∧
      (c.MpWithin → 0 ≤ mp.toInt ∧ mp.toInt ≤ maxMp.toInt) := by
  unfold calculateMp
  by_cases positive : 0 < F64.toI32 (c.mods.get .mp)
  · have room : 0 ≤ (c.setMaxMp (F64.toI32 (c.mods.get .mp))).maxMp.toInt := fits positive
    obtain ⟨value, done, within⟩ :=
      setMp_within room (filled (c.mods.get .mpPercent) (F64.toI32 (c.mods.get .mp)))
    rw [if_pos positive]
    exact ⟨value, _, done, fun _ => within⟩
  · rw [if_neg positive]
    exact ⟨c.mp, c.maxMp, rfl, fun held => ⟨held.nonneg, held.le_max⟩⟩

theorem calculateMp_none (tight : ¬ MpFits c.mods) : c.calculateMp = none := by
  obtain ⟨positive, short⟩ := Classical.not_imp.mp tight
  unfold calculateMp
  rw [if_pos positive]
  exact if_neg short

theorem recalculateStats_eq (c : Chara) : c.recalculateStats = (c.calculateHp.bind fun d =>
    d.calculateMp.bind fun e => some { e with mods := seedHitCount e.mods }) := rfl

theorem recalculateStats_within (hp : c.HpWithin) (mp : c.MpWithin) :
    (∃ c', c.recalculateStats = some c' ∧ c'.HpWithin ∧ c'.MpWithin) ↔
      HpFits c.mods ∧ MpFits c.mods := by
  rw [recalculateStats_eq]
  by_cases hpFits : HpFits c.mods
  · obtain ⟨hp', maxHp', first, within⟩ := calculateHp_some hpFits
    obtain ⟨nonneg, le_max⟩ := within hp
    rw [first, Option.bind_some]
    by_cases mpFits : MpFits c.mods
    · have later : MpFits (mods { c with hp := hp', maxHp := maxHp' }) := mpFits
      obtain ⟨mp', maxMp', second, within'⟩ := calculateMp_some later
      obtain ⟨nonneg', le_max'⟩ := within' ⟨mp.nonneg, mp.le_max⟩
      rw [second, Option.bind_some]
      exact iff_of_true ⟨_, rfl, ⟨nonneg, le_max⟩, ⟨nonneg', le_max'⟩⟩ ⟨hpFits, mpFits⟩
    · have stops : calculateMp { c with hp := hp', maxHp := maxHp' } = none :=
        calculateMp_none mpFits
      rw [stops, Option.bind_none]
      exact iff_of_false none_fails fun both => mpFits both.2
  · rw [calculateHp_none hpFits, Option.bind_none]
    exact iff_of_false none_fails fun both => hpFits both.1

end Chara

/-! ### What a recalculation does to the pools -/

namespace Chara

/-- What becomes of a pool, as its value and its maximum, by the modifier that it is set from. -/
structure Refilled (mod : ℤ) (percent : F64) (floor : ℤ) (before after : Int16 × Int16) : Prop where
  kept : mod ≤ 0 → after = before
  maximum : 0 < mod → mod ≤ 32767 → after.2.toInt = mod
  full : 0 < mod → F64.lt 0 percent = false → after.1 = after.2
  share : 0 < mod → F64.lt 0 percent = true →
    after.1.toInt = max floor (min (filled percent mod) after.2.toInt)

structure Refills (mods : ModifierMap) (c c' : Chara) : Prop where
  hp : Refilled (F64.toI32 (mods.get .hp)) (mods.get .hpPercent) (floorHp mods) (c.hp, c.maxHp)
    (c'.hp, c'.maxHp)
  mp : Refilled (F64.toI32 (mods.get .mp)) (mods.get .mpPercent) 0 (c.mp, c.maxMp)
    (c'.mp, c'.maxMp)

/-- The pools are only lowered, unless a percentage is set. -/
structure NeverHeals (mods : ModifierMap) (c c' : Chara) : Prop where
  hp : F64.lt 0 (mods.get .hpPercent) = false → c'.hp.toInt = min c.hp.toInt c'.maxHp.toInt
  mp : F64.lt 0 (mods.get .mpPercent) = false → c'.mp.toInt = min c.mp.toInt c'.maxMp.toInt

theorem narrowed_le {mod : ℤ} (positive : 0 < mod) : (Int16.ofInt mod).toInt ≤ mod := by
  have size : Int16.size = 65536 := rfl
  rw [Int16.toInt_ofInt, size, Int.bmod]
  split <;> omega

theorem Refilled.of_clamp {mod floor : ℤ} {percent : F64} {before after : Int16 × Int16}
    (kept : mod ≤ 0 → after = before)
    (set : 0 < mod → after.2 = Int16.ofInt mod ∧
      after.1.toInt = max floor (min (filled percent mod) after.2.toInt))
    (room : 0 < mod → floor ≤ (Int16.ofInt mod).toInt) :
    Refilled mod percent floor before after := by
  refine ⟨kept, fun positive small => ?_, fun positive whole => ?_, fun positive _ => ?_⟩
  · rw [(set positive).1]
    exact Int16.toInt_ofInt_of_le (by omega) (by omega)
  · obtain ⟨maximum, current⟩ := set positive
    have low := room positive
    have narrowed := narrowed_le positive
    have whole_pool : filled percent mod = mod := if_neg (Bool.eq_false_iff.mp whole)
    rw [whole_pool, maximum] at current
    apply Int16.toInt_inj.mp
    rw [maximum]
    omega
  · exact (set positive).2

theorem calculateMp_spec {c c' : Chara} (done : c.calculateMp = some c') :
    (F64.toI32 (c.mods.get .mp) ≤ 0 → (c'.mp, c'.maxMp) = (c.mp, c.maxMp)) ∧
      (0 < F64.toI32 (c.mods.get .mp) → c'.maxMp = Int16.ofInt (F64.toI32 (c.mods.get .mp)) ∧
        c'.mp.toInt = max 0 (min (filled (c.mods.get .mpPercent) (F64.toI32 (c.mods.get .mp)))
          c'.maxMp.toInt)) := by
  unfold calculateMp at done
  by_cases positive : 0 < F64.toI32 (c.mods.get .mp)
  · rw [if_pos positive, setMp] at done
    split at done
    · next room =>
        cases done
        refine ⟨fun none_ => absurd positive (not_lt.mpr none_), fun _ => ⟨?_, ?_⟩⟩
        · exact congrArg Int16.ofInt (max_eq_left positive.le)
        · have high := (c.setMaxMp (F64.toI32 (c.mods.get .mp))).maxMp.toInt_lt
          exact Int16.toInt_ofInt_of_le (by omega) (by omega)
    · cases done
  · rw [if_neg positive] at done
    cases done
    exact ⟨fun _ => rfl, fun above => absurd above positive⟩

theorem recalculateStats_refills {c : Chara} (hp : HpFits c.mods) (mp : MpFits c.mods) :
    ∃ c', c.recalculateStats = some c' ∧ Refills c.mods c c' := by
  obtain ⟨hp', maxHp', first, -⟩ := calculateHp_some hp
  have later : MpFits (mods { c with hp := hp', maxHp := maxHp' }) := mp
  obtain ⟨mp', maxMp', second, -⟩ := calculateMp_some later
  obtain ⟨keptHp, setHp⟩ := calculateHp_spec first
  obtain ⟨keptMp, setMp⟩ := calculateMp_spec second
  refine ⟨{ c with hp := hp', maxHp := maxHp', mp := mp', maxMp := maxMp',
                   mods := seedHitCount c.mods }, ?_, ?_, ?_⟩
  · rw [recalculateStats_eq, first, Option.bind_some, second, Option.bind_some]
  · exact .of_clamp (fun none_ => Prod.ext (keptHp none_).1 (keptHp none_).2) setHp hp
  · refine .of_clamp keptMp setMp fun positive => ?_
    have narrows := mp positive
    rwa [Narrows, max_eq_left positive.le] at narrows

/-- A recalculation sets each pool of which there is a modifier afresh, whatever was left in it: by
the percentage where there is one, and to the whole of the new maximum where there is none. A
player's recalculation does so from the modifiers of the pipeline. -/
theorem recalculation_refills (c : Chara) :
    (HpFits c.mods → MpFits c.mods →
      ∃ c', c.recalculateStats = some c' ∧ Refills c.mods c c') ∧
    ∀ items equipped, HpFits (runPlayerPipeline items equipped c).mods →
      MpFits (runPlayerPipeline items equipped c).mods →
      ∃ c', applyRecalcStats items equipped c = some c' ∧
        Refills (runPlayerPipeline items equipped c).mods c c' := by
  refine ⟨recalculateStats_refills, fun items equipped hp mp => ?_⟩
  obtain ⟨c', done, hp', mp'⟩ := recalculateStats_refills hp mp
  obtain ⟨sameHp, sameMaxHp, sameMp, sameMaxMp⟩ := pools_pipeline items equipped c
  rw [sameHp, sameMaxHp] at hp'
  rw [sameMp, sameMaxMp] at mp'
  exact ⟨c', done, hp', mp'⟩

/-- A character without hit points, and with half of its magic points. -/
def fallen : Chara :=
  { classId := 2, level := 1, maxHp := 1000, mp := 150, maxMp := 300
    mods := (ModifierMap.set {} .hp 1000).set .mp 300 }

theorem fallen_values : HpFits fallen.mods ∧ MpFits fallen.mods ∧
    (fallen.recalculateStats.map fun c => (c.hp, c.mp)) = some (1000, 300) ∧
      F64.lt 0 (fallen.mods.get .hpPercent) = false := by
  decide +kernel

theorem recalculation_refills_fallen :
    ∃ c', fallen.recalculateStats = some c' ∧ Refills fallen.mods fallen c' :=
  (recalculation_refills fallen).1 fallen_values.1 fallen_values.2.1

theorem recalculation_heals :
    fallen.hp = 0 ∧ (fallen.recalculateStats.map fun c => (c.hp, c.mp)) = some (1000, 300) ∧
      ¬ ∀ c', fallen.recalculateStats = some c' → NeverHeals fallen.mods fallen c' := by
  obtain ⟨_, _, filled, percent⟩ := fallen_values
  refine ⟨rfl, filled, fun claimed => ?_⟩
  obtain ⟨c', done, pools⟩ := Option.map_eq_some_iff.mp filled
  have lowered := (claimed c' done).hp percent
  have full : c'.hp = 1000 := congrArg Prod.fst pools
  have empty : fallen.hp.toInt = 0 := rfl
  rw [full, empty] at lowered
  have less : (1000 : Int16).toInt = 1000 := rfl
  omega

end Chara

theorem exactI32_bind {β : Type*} {result : ℤ} (low : -2 ^ 31 ≤ result) (f : ℤ → Option β) :
    (exactI32 result).bind f = if result ≤ 2 ^ 31 - 1 then f result else none := by
  unfold exactI32
  by_cases high : result ≤ 2 ^ 31 - 1
  · rw [if_pos ⟨low, high⟩, if_pos high, Option.bind_some]
  · rw [if_neg fun both => high both.2, if_neg high, Option.bind_none]

namespace CharaState

variable {s : CharaState}

theorem setHp_bounded (held : s.Bounded) (hp : ℤ) :
    (∃ s', s.setHp hp = some s' ∧ s'.Bounded) ↔ s.HasRoom := by
  by_cases room : s.HasRoom
  · obtain ⟨value, done, nonneg, le_max⟩ := Chara.setHp_within room hp
    refine iff_of_true ⟨{ s with hp := value }, ?_, ⟨nonneg, le_max⟩,
      ⟨held.mp.nonneg, held.mp.le_max⟩, held.tp⟩ room
    rw [setHp, done]
    rfl
  · rw [setHp, Chara.setHp_none room]
    exact iff_of_false none_fails room

theorem setMp_bounded (held : s.Bounded) (mp : ℤ) :
    ∃ s', s.setMp mp = some s' ∧ s'.Bounded := by
  obtain ⟨value, done, nonneg, le_max⟩ :=
    Chara.setMp_within (held.mp.nonneg.trans held.mp.le_max) mp
  refine ⟨{ s with mp := value }, ?_, ⟨held.hp.nonneg, held.hp.le_max⟩, ⟨nonneg, le_max⟩, held.tp⟩
  rw [setMp, done]
  rfl

theorem addHp_bounded (held : s.Bounded) {delta : ℤ} (low : -2 ^ 31 ≤ delta) :
    (∃ s', s.addHp delta = some s' ∧ s'.Bounded) ↔
      s.hp.toInt + delta ≤ 2 ^ 31 - 1 ∧ s.HasRoom := by
  have nonneg := held.hp.nonneg
  rw [addHp, Option.bind_eq_bind, exactI32_bind (by omega)]
  split
  · next high => rw [setHp_bounded held, and_iff_right high]
  · next high =>
      exact iff_of_false none_fails fun both => high both.1

theorem addMp_bounded (held : s.Bounded) {delta : ℤ} (low : -2 ^ 31 ≤ delta) :
    (∃ s', s.addMp delta = some s' ∧ s'.Bounded) ↔ s.mp.toInt + delta ≤ 2 ^ 31 - 1 := by
  have nonneg := held.mp.nonneg
  rw [addMp, Option.bind_eq_bind, exactI32_bind (by omega)]
  split
  · next high => exact iff_of_true (setMp_bounded held _) high
  · next high => exact iff_of_false none_fails high

theorem addTp_bounded (held : s.Bounded) {delta : ℤ} (low : -2 ^ 31 ≤ delta) :
    (∃ s', s.addTp delta = some s' ∧ s'.Bounded) ↔ s.tp.toNat + delta ≤ 2 ^ 31 - 1 := by
  rw [addTp, Option.bind_eq_bind, exactI32_bind (by omega)]
  split
  · next high =>
      refine iff_of_true ⟨_, rfl, held.hp, held.mp, ?_⟩ high
      have floor : floorTp s.mods ≤ MAX_TP := max_le (by decide) (min_le_right ..)
      rw [UInt16.toNat_ofNat']
      unfold MAX_TP at floor ⊢
      omega
  · next high => exact iff_of_false none_fails high

theorem negated_bounded {f : ℤ → Option CharaState} {amount : ℤ} {fits : Prop}
    (small : amount ≤ 2 ^ 31 - 1) (room : fits → -amount ≤ 2 ^ 31 - 1)
    (adds : (∃ s', f (-amount) = some s' ∧ s'.Bounded) ↔ fits) :
    (∃ s', (exactI32 (-amount)).bind f = some s' ∧ s'.Bounded) ↔ fits := by
  rw [exactI32_bind (by omega)]
  split
  · exact adds
  · next high => exact iff_of_false none_fails (mt room high)

theorem step_bounded (held : s.Bounded) (op : PoolOp) :
    (∃ s', s.step op = some s' ∧ s'.Bounded) ↔ s.Fits op := by
  cases op with
  | setHp hp => exact setHp_bounded held hp.toInt
  | addHp delta => exact addHp_bounded held delta.le_toInt
  | delHp amount =>
      have high := amount.toInt_lt
      have nonneg := held.hp.nonneg
      have adds := addHp_bounded held (show -2 ^ 31 ≤ -amount.toInt by omega)
      rw [← sub_eq_add_neg] at adds
      have room (both : s.hp.toInt - amount.toInt ≤ 2 ^ 31 - 1 ∧ s.HasRoom) :
          -amount.toInt ≤ 2 ^ 31 - 1 := by omega
      exact negated_bounded (by omega) room adds
  | setMaxHp maxHp =>
      simp only [step, Option.some.injEq, exists_eq_left', Fits]
      rw [← Chara.setMaxHp_within held.hp]
      exact ⟨fun after => after.hp, fun hp => ⟨hp, ⟨held.mp.nonneg, held.mp.le_max⟩, held.tp⟩⟩
  | setMp mp => exact iff_of_true (setMp_bounded held mp.toInt) trivial
  | addMp delta => exact addMp_bounded held delta.le_toInt
  | delMp amount =>
      have high := amount.toInt_lt
      have nonneg := held.mp.nonneg
      have adds := addMp_bounded held (show -2 ^ 31 ≤ -amount.toInt by omega)
      rw [← sub_eq_add_neg] at adds
      have room (fits : s.mp.toInt - amount.toInt ≤ 2 ^ 31 - 1) :
          -amount.toInt ≤ 2 ^ 31 - 1 := by omega
      exact negated_bounded (by omega) room adds
  | setMaxMp maxMp =>
      simp only [step, Option.some.injEq, exists_eq_left', Fits]
      rw [← Chara.setMaxMp_within held.mp]
      exact ⟨fun after => after.mp, fun mp => ⟨⟨held.hp.nonneg, held.hp.le_max⟩, mp, held.tp⟩⟩
  | addTp delta => exact addTp_bounded held delta.le_toInt
  | delTp amount =>
      have high := amount.toInt_lt
      have adds := addTp_bounded held (show -2 ^ 31 ≤ -amount.toInt by omega)
      rw [← sub_eq_add_neg] at adds
      have room (fits : s.tp.toNat - amount.toInt ≤ 2 ^ 31 - 1) :
          -amount.toInt ≤ 2 ^ 31 - 1 := by omega
      exact negated_bounded (by omega) room adds
  | recalculateStats =>
      rw [Fits, ← Chara.recalculateStats_within held.hp held.mp]
      constructor
      · intro done
        obtain ⟨s', done, after⟩ := done
        obtain ⟨c, first, last⟩ := Option.bind_eq_some_iff.mp done
        cases last
        exact ⟨c, first, after.hp, after.mp⟩
      · intro done
        obtain ⟨c, first, hp, mp⟩ := done
        exact ⟨{ s with toChara := c }, Option.bind_eq_some_iff.mpr ⟨c, first, rfl⟩, hp, mp,
          held.tp⟩
  | modify mods =>
      exact iff_of_true ⟨_, rfl, ⟨held.hp.nonneg, held.hp.le_max⟩,
        ⟨held.mp.nonneg, held.mp.le_max⟩, held.tp⟩ trivial

/-- A run of operations goes through and keeps the pools within their bounds exactly if every
operation fits. -/
theorem pools_kept_iff (held : s.Bounded) (ops : List PoolOp) :
    Completes step Bounded s ops ↔ EachEvent step Fits s ops :=
  completes_iff_eachEvent (fun _ op within => step_bounded within op) held

def fresh : CharaState := { classId := 0, level := 1 }

theorem fresh_bounded : fresh.Bounded := ⟨⟨by decide, by decide⟩, ⟨by decide, by decide⟩, by decide⟩

theorem fresh_fits :
    EachEvent step Fits fresh [.setMaxHp 100, .setHp 100, .delHp 30] ∧
    ¬ EachEvent step Fits fresh [.setMaxHp 40000] ∧
    ¬ EachEvent step Fits fresh [.modify (ModifierMap.set {} .minimumHpLock 1), .setHp 5] ∧
    ¬ EachEvent step Fits fresh [.setMaxHp 100, .setHp 1, .addHp 2147483647] := by
  decide +kernel

theorem pools_kept_iff_struck :
    Completes step Bounded fresh [.setMaxHp 100, .setHp 100, .delHp 30] :=
  (pools_kept_iff fresh_bounded _).mpr fresh_fits.1

/-- A maximum of 40000 becomes a negative one; a lock on hit points has no room in an empty
pool; a large gain overflows on top of one hit point. -/
theorem pools_overrun : fresh.Bounded ∧
    ¬ Completes step Bounded fresh [.setMaxHp 40000] ∧
    ¬ Completes step Bounded fresh [.modify (ModifierMap.set {} .minimumHpLock 1), .setHp 5] ∧
    ¬ Completes step Bounded fresh [.setMaxHp 100, .setHp 1, .addHp 2147483647] := by
  have each {ops : List PoolOp} (done : Completes step Bounded fresh ops) :
      EachEvent step Fits fresh ops :=
    (completes_iff_eachEvent (fun _ op within => step_bounded within op) fresh_bounded).mp done
  obtain ⟨_, maximum, lock, gain⟩ := fresh_fits
  exact ⟨fresh_bounded, mt each maximum, mt each lock, mt each gain⟩

end CharaState
end Garlemald.Actor
