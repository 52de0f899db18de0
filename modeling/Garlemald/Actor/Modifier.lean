import Garlemald.Library.F64
import Garlemald.Library.Table

/-!
Stat modifiers by their wire ids, and the bonuses of the items in the catalog. The
loader decodes ten columns of an item into bonuses and drops those that are zero.
-/

namespace Garlemald.Actor
open Library

/-- The modifiers that the recalculation of a player's stats reads or writes. -/
inductive Modifier where
  | hp
  | mp
  | tp
  | strength
  | vitality
  | dexterity
  | intelligence
  | mind
  | piety
  | accuracy
  | attack
  | defense
  | attackMagicPotency
  | healingMagicPotency
  | enfeeblingMagicPotency
  | magicAccuracy
  | magicEvasion
  | parry
  | delay
  | hpPercent
  | mpPercent
  | minimumHpLock
  | attackType
  | hitCount
  | weaponDamagePower
deriving DecidableEq, Repr

def Modifier.asU32 : Modifier → UInt32
  | hp => 0
  | mp => 1
  | tp => 2
  | strength => 3
  | vitality => 4
  | dexterity => 5
  | intelligence => 6
  | mind => 7
  | piety => 8
  | accuracy => 15
  | attack => 17
  | defense => 18
  | attackMagicPotency => 23
  | healingMagicPotency => 24
  | enfeeblingMagicPotency => 26
  | magicAccuracy => 27
  | magicEvasion => 28
  | parry => 39
  | delay => 59
  | hpPercent => 109
  | mpPercent => 110
  | minimumHpLock => 114
  | attackType => 117
  | hitCount => 119
  | weaponDamagePower => 200

structure ModifierMap where
  map : UInt32 → Option F64 := fun _ => none

namespace ModifierMap

def getRaw (mods : ModifierMap) (key : UInt32) : F64 := (mods.map key).getD 0

def get (mods : ModifierMap) (modifier : Modifier) : F64 := mods.getRaw modifier.asU32

def setRaw (mods : ModifierMap) (key : UInt32) (value : F64) : ModifierMap :=
  ⟨Function.update mods.map key (some value)⟩

def set (mods : ModifierMap) (modifier : Modifier) (value : F64) : ModifierMap :=
  mods.setRaw modifier.asU32 value

def addRaw (mods : ModifierMap) (key : UInt32) (delta : F64) : ModifierMap :=
  mods.setRaw key (mods.getRaw key + delta)

def add (mods : ModifierMap) (modifier : Modifier) (delta : F64) : ModifierMap :=
  mods.addRaw modifier.asU32 delta

theorem ext_map {mods mods' : ModifierMap} (same : ∀ key, mods.map key = mods'.map key) :
    mods = mods' := by
  cases mods
  cases mods'
  exact congrArg ModifierMap.mk (funext same)

end ModifierMap

/-- The types from 15001 to 15100 are modifier ids counted from 0. -/
def decodeParamBonusType (paramBonusType : Int32) : Option UInt32 :=
  if 15001 ≤ paramBonusType ∧ paramBonusType ≤ 15100 then
    some (paramBonusType - 15001).toUInt32
  else none

structure WeaponAttributes where
  delayMs : UInt32
  attackType : UInt16
  hitCount : UInt16
  damagePower : UInt16
  attack : UInt16
  parry : UInt16
deriving DecidableEq, Repr

/-- A catalog row: ten pairs of a bonus type and a value, and the weapon columns. -/
structure ItemData where
  paramBonus : Vector (Int32 × Int32) 10
  weapon : Option WeaponAttributes

/-- The bonus of one pair of columns. -/
def gearBonus (column : Int32 × Int32) : Option (UInt32 × Int32) :=
  match decodeParamBonusType column.1 with
  | some id => if column.2 ≠ 0 then some (id, column.2) else none
  | none => none

def ItemData.gearBonuses (item : ItemData) : List (UInt32 × Int32) :=
  item.paramBonus.toList.filterMap gearBonus

theorem ItemData.length_gearBonuses (item : ItemData) : item.gearBonuses.length ≤ 10 := by
  have columns : item.paramBonus.toList.length = 10 := Vector.length_toList
  rw [← columns]
  exact List.length_filterMap_le _ _

abbrev Catalog := UInt32 → Option ItemData

abbrev Equipped := Table UInt16 UInt32

end Garlemald.Actor
