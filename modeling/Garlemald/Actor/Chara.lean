import Garlemald.Actor.Modifier

/-!
The stats of a player: the baseline of class and level, the bonuses of the gear, the
weapons, the secondaries derived from the primaries, and the pools set from the result.
-/

namespace Garlemald.Actor
open Library

structure Chara where
  classId : Int16
  level : Int16
  hp : Int16 := 0
  maxHp : Int16 := 0
  mp : Int16 := 0
  maxMp : Int16 := 0
  mods : ModifierMap := {}

/-! ### Class ids -/

def classidPug : Int16 := 2
def classidGla : Int16 := 3
def classidMrd : Int16 := 4
def classidArc : Int16 := 7
def classidLnc : Int16 := 8
def classidThm : Int16 := 22
def classidCnj : Int16 := 23
def classidCrp : Int16 := 29
def classidCul : Int16 := 36
def classidMin : Int16 := 39
def classidFsh : Int16 := 41

def slotMainhand : UInt16 := 0
def slotOffhand : UInt16 := 1

namespace Chara
open Modifier

/-! ### Pools -/

def floorHp (mods : ModifierMap) : ℤ := if F64.le 1 (mods.get minimumHpLock) then 1 else 0

/-- Clamped between the floor and the maximum; `none` is the panic of a clamp whose
minimum is above its maximum. -/
def setHp (c : Chara) (hp : ℤ) : Option Chara :=
  if floorHp c.mods ≤ c.maxHp.toInt then
    some { c with hp := Int16.ofInt (max (floorHp c.mods) (min hp c.maxHp.toInt)) }
  else none

def setMaxHp (c : Chara) (maxHp : ℤ) : Chara :=
  let m := Int16.ofInt (max maxHp 0)
  { c with maxHp := m, hp := if m < c.hp then m else c.hp }

def setMp (c : Chara) (mp : ℤ) : Option Chara :=
  if 0 ≤ c.maxMp.toInt then some { c with mp := Int16.ofInt (max 0 (min mp c.maxMp.toInt)) }
  else none

def setMaxMp (c : Chara) (maxMp : ℤ) : Chara :=
  let m := Int16.ofInt (max maxMp 0)
  { c with maxMp := m, mp := if m < c.mp then m else c.mp }

def filled (percent : F64) (pool : ℤ) : ℤ :=
  if F64.lt 0 percent then F64.toI32 (F64.ceil (percent / 100 * F64.ofInt pool)) else pool

def calculateHp (c : Chara) : Option Chara :=
  let hpMod := F64.toI32 (c.mods.get .hp)
  if 0 < hpMod then (c.setMaxHp hpMod).setHp (filled (c.mods.get hpPercent) hpMod) else some c

def calculateMp (c : Chara) : Option Chara :=
  let mpMod := F64.toI32 (c.mods.get .mp)
  if 0 < mpMod then (c.setMaxMp mpMod).setMp (filled (c.mods.get mpPercent) mpMod) else some c

def seedHitCount (mods : ModifierMap) : ModifierMap :=
  if F64.le (mods.get hitCount) 0 then mods.set hitCount 1 else mods

def calculateBaseStats (c : Chara) : Option Chara := do
  let c ← c.calculateHp
  let c ← c.calculateMp
  return { c with mods := seedHitCount c.mods }

def recalculateStats (c : Chara) : Option Chara := c.calculateBaseStats

/-! ### Baseline -/

def seedIfZero (mods : ModifierMap) (m : Modifier) (v : F64) : ModifierMap :=
  if F64.le (mods.get m) 0 then mods.set m v else mods

def primaries : List Modifier := [strength, vitality, dexterity, intelligence, mind, piety]

def seedPrimaries (primary : F64) (mods : ModifierMap) : ModifierMap × List Modifier :=
  primaries.foldl (fun (mods, seeded) m =>
    if F64.le (mods.get m) 0 then (mods.set m primary, seeded ++ [m]) else (mods, seeded))
    (mods, [])

def emphasis (classId : Int16) : Option (Modifier × Modifier) :=
  if classId = classidPug then some (strength, dexterity)
  else if classId = classidLnc then some (strength, vitality)
  else if classId = classidArc then some (dexterity, strength)
  else if classId = classidGla then some (vitality, strength)
  else if classId = classidMrd then some (strength, vitality)
  else if classId = classidThm then some (intelligence, mind)
  else if classId = classidCnj then some (mind, piety)
  else if classidCrp ≤ classId ∧ classId ≤ classidCul then some (dexterity, intelligence)
  else if classidMin ≤ classId ∧ classId ≤ classidFsh then some (dexterity, mind)
  else none

def emphasise (seeded : List Modifier) (mods : ModifierMap) (m : Modifier) : ModifierMap :=
  if m ∈ seeded then mods.add m 2 else mods

def levelF64 (c : Chara) : F64 := F64.ofInt (max c.level.toInt 1)

def isCaster (c : Chara) : Bool := c.classId = classidThm ∨ c.classId = classidCnj

def seedPools (c : Chara) : ModifierMap :=
  let mods := seedIfZero c.mods .hp (250 + c.levelF64 * 30)
  let mods := seedIfZero mods .mp
    (if c.isCaster then 80 + c.levelF64 * 20 else 20 + c.levelF64 * 5)
  seedIfZero mods .tp 1000

def emphasiseClass (classId : Int16) (seeded : ModifierMap × List Modifier) : ModifierMap :=
  match emphasis classId with
  | some (first, second) => emphasise seeded.2 (emphasise seeded.2 seeded.1 first) second
  | none => seeded.1

def baselineMods (c : Chara) : ModifierMap :=
  emphasiseClass c.classId (seedPrimaries (8 + c.levelF64 * 2) c.seedPools)

def applyPlayerStatBaseline (c : Chara) : Chara := { c with mods := c.baselineMods }

/-! ### Gear -/

/-- What a recalculation sets to zero first. -/
def resetModifiers : List Modifier :=
  [.hp, .mp, .tp, strength, vitality, dexterity, intelligence, mind, piety, attack, accuracy,
    defense, attackMagicPotency, healingMagicPotency, magicAccuracy, magicEvasion,
    enfeeblingMagicPotency, delay, attackType, hitCount, parry, weaponDamagePower]

def resetPlayerBonusStats (c : Chara) : Chara :=
  { c with mods := resetModifiers.foldl (fun mods m => mods.set m 0) c.mods }

/-- The bonuses of the equipped items that the catalog has, in the order of the table. -/
def equippedBonuses (items : Catalog) (equipped : Equipped) : List (UInt32 × Int32) :=
  equipped.entries.flatMap fun entry => ((items entry.2).map ItemData.gearBonuses).getD []

def addBonus (mods : ModifierMap) (bonus : UInt32 × Int32) : ModifierMap :=
  mods.addRaw bonus.1 (F64.ofInt bonus.2.toInt)

def applyPlayerGearStats (items : Catalog) (equipped : Equipped) (c : Chara) : Chara :=
  { c with mods := (equippedBonuses items equipped).foldl addBonus c.mods }

def equippedWeapon (items : Catalog) (equipped : Equipped) (slot : UInt16) :
    Option WeaponAttributes :=
  ((equipped.lookup slot).bind items).bind (·.weapon)

def applyMainhand (w : WeaponAttributes) (mods : ModifierMap) : ModifierMap :=
  let mods := mods.set delay (F64.ofInt w.delayMs.toNat / 1000)
  let mods := mods.set attackType (F64.ofInt w.attackType.toNat)
  mods.set hitCount (F64.ofInt w.hitCount.toNat)

def applyFlat (w : WeaponAttributes) (mods : ModifierMap) : ModifierMap :=
  (mods.add attack (F64.ofInt w.attack.toNat)).add parry (F64.ofInt w.parry.toNat)

def weaponMods (items : Catalog) (equipped : Equipped) (mods : ModifierMap) : ModifierMap :=
  let mods := match equippedWeapon items equipped slotMainhand with
    | some w => applyFlat w (applyMainhand w mods)
    | none => mods
  match equippedWeapon items equipped slotOffhand with
  | some w => applyFlat w mods
  | none => mods

def applyPlayerWeaponStats (items : Catalog) (equipped : Equipped) (c : Chara) : Chara :=
  { c with mods := weaponMods items equipped c.mods }

def applyPlayerWeaponDamagePower (items : Catalog) (equipped : Equipped) (c : Chara) : Chara :=
  let power := match equippedWeapon items equipped slotMainhand with
    | some w => F64.ofInt w.damagePower.toNat
    | none => 0
  { c with mods := c.mods.set weaponDamagePower power }

/-! ### Secondaries -/

def physicalRatio : F64 := F64.round (667 / 1000)

def magicalRatio : F64 := F64.round (1 / 4)

/-- The secondaries with the share of a primary that each is raised by. -/
def shares (mods : ModifierMap) : List (Modifier × F64) :=
  let share (m : Modifier) (ratio : F64) := F64.floor (mods.get m * ratio)
  [(attack, share strength physicalRatio), (accuracy, share dexterity physicalRatio),
    (defense, share vitality physicalRatio), (attackMagicPotency, share intelligence magicalRatio),
    (magicAccuracy, share mind magicalRatio), (healingMagicPotency, share mind magicalRatio),
    (magicEvasion, share piety magicalRatio), (enfeeblingMagicPotency, share piety magicalRatio)]

def applyPlayerStatDerivation (c : Chara) : Chara :=
  { c with mods := (shares c.mods).foldl (fun mods raise => mods.add raise.1 raise.2) c.mods }

/-- The stages of the player pipeline, in their order. -/
def runPlayerPipeline (items : Catalog) (equipped : Equipped) (c : Chara) : Chara :=
  let c := c.resetPlayerBonusStats.applyPlayerStatBaseline
  let c := applyPlayerGearStats items equipped c
  let c := applyPlayerWeaponStats items equipped c
  let c := applyPlayerWeaponDamagePower items equipped c
  c.applyPlayerStatDerivation

/-- The recalculation of a player's stats with the equipment that was loaded. -/
def applyRecalcStats (items : Catalog) (equipped : Equipped) (c : Chara) : Option Chara :=
  (runPlayerPipeline items equipped c).recalculateStats

end Chara
end Garlemald.Actor
