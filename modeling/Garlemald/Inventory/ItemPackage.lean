import Mathlib.Algebra.Ring.Int.Defs
import Mathlib.Data.List.Basic

/-!
A package of items: a list of slots of which the first ones are filled, a dirty
flag for each slot, and the events its operations write to an outbox. Quantities
are 32-bit and wrap. A slot is written together with its dirty flag, and every
index that is written is below the capacity while the slots in use are.
-/

namespace Garlemald.Inventory

structure ItemTag where
  durability : UInt32 := 0
  useCount : UInt16 := 0
  materiaId : UInt32 := 0
  materiaLife : UInt32 := 0
  mainQuality : UInt8 := 0
  subQuality : Vector UInt8 3 := .replicate 3 0
  polish : UInt32 := 0
  param1 : UInt32 := 0
  param2 : UInt32 := 0
  param3 : UInt32 := 0
  spiritbind : UInt16 := 0
  materiaType : Vector UInt8 5 := .replicate 5 0
  materiaGrade : Vector UInt8 5 := .replicate 5 0
deriving DecidableEq, Repr

structure InventoryItem where
  uniqueId : UInt64 := 0
  itemId : UInt32 := 0
  quantity : Int32 := 0
  quality : UInt8 := 0
  slot : UInt16 := 0
  linkSlot : UInt16 := 0
  itemPackage : UInt16 := 0
  tag : ItemTag := {}
deriving DecidableEq, Repr

/-- The columns of the game data that a package reads. -/
structure ItemData where
  stackSize : UInt32
  isExclusive : Bool := false
deriving DecidableEq, Repr

def ItemData.maxStack (gd : ItemData) : Int32 := (max gd.stackSize 1).toInt32

abbrev ItemCatalog := UInt32 → Option ItemData

inductive InventoryError where
  | full
  | hasUnique
  | system
deriving DecidableEq, Repr

abbrev InventoryResult := Except InventoryError Unit

def pkgNormal : UInt16 := 0

def pkgBazaar : UInt16 := 7

inductive InventoryEvent where
  | dbAdd (ownerActorId : UInt32) (item : InventoryItem) (itemPackage slot : UInt16)
  | dbRemove (ownerActorId : UInt32) (serverItemId : UInt64)
  | dbQuantity (serverItemId : UInt64) (quantity : Int32)
  | dbPositions (updates : List InventoryItem)
  | packetBeginChange (ownerActorId : UInt32)
  | packetEndChange (ownerActorId : UInt32)
  | packetSetBegin (ownerActorId : UInt32) (capacity code : UInt16)
  | packetSetEnd (ownerActorId : UInt32)
  | packetItems (ownerActorId : UInt32) (items : List InventoryItem)
  | packetRemoveSlots (ownerActorId : UInt32) (slots : List UInt16)
  | packetModifierFrame (ownerActorId : UInt32) (items : List InventoryItem)
  | dbEquip (ownerActorId : UInt32) (equipSlot : UInt16) (uniqueItemId : UInt64)
  | dbUnequip (ownerActorId : UInt32) (equipSlot : UInt16)
  | packetLinkedSingle (ownerActorId : UInt32) (position : UInt16) (item : Option InventoryItem)
  | packetLinkedMany (ownerActorId : UInt32) (items : List (UInt16 × InventoryItem))
deriving DecidableEq, Repr

structure ItemPackage where
  ownerActorId : UInt32
  capacity : UInt16
  code : UInt16
  isTemporary : Bool
  list : List (Option InventoryItem)
  isDirty : List Bool
  endOfListIndex : Nat
  holdingUpdates : Bool
deriving DecidableEq, Repr

namespace ItemPackage

def withFlags (ownerActorId : UInt32) (capacity code : UInt16) (isTemporary : Bool) :
    ItemPackage where
  ownerActorId := ownerActorId
  capacity := capacity
  code := code
  isTemporary := isTemporary
  list := List.replicate capacity.toNat none
  isDirty := List.replicate capacity.toNat false
  endOfListIndex := 0
  holdingUpdates := false

variable (p : ItemPackage)

def entryAt (i : Nat) : Option InventoryItem := p.list[i]?.join

def dirtyAt (i : Nat) : Bool := p.isDirty[i]?.getD false

def put (i : Nat) (entry : Option InventoryItem) : ItemPackage :=
  { p with list := p.list.set i entry, isDirty := p.isDirty.set i true }

/-! ### Lookups -/

def isFull : Bool := p.capacity.toNat ≤ p.endOfListIndex

def freeSlots : Nat := p.capacity.toNat - p.endOfListIndex

def getAtSlot (slot : UInt16) : Option InventoryItem := p.entryAt slot.toNat

def iterItems : List InventoryItem := (p.list.take p.endOfListIndex).filterMap id

/-- A sum of 64 bits, which the quantities of a package cannot exceed. -/
def totalQuantity (itemId : UInt32) (quality : UInt8) : Int :=
  ((p.iterItems.filter fun item => item.itemId = itemId ∧ item.quality = quality).map
    (·.quantity.toInt)).sum

def hasItemQq (itemId : UInt32) (minQuantity : Int32) (quality : UInt8) : Bool :=
  minQuantity.toInt ≤ p.totalQuantity itemId quality

def hasItem (itemId : UInt32) : Bool := p.hasItemQq itemId 1 1

def takesMore (itemId : UInt32) (quality : UInt8) (maxStack : Int32) (item : InventoryItem) :
    Bool :=
  item.itemId = itemId ∧ item.quality = quality ∧ item.quantity < maxStack

/-- What remains after the partial stacks, or `none` once nothing does. -/
def remainingAfter (itemId : UInt32) (quality : UInt8) (maxStack : Int32) :
    List InventoryItem → Int32 → Option Int32
  | [], remaining => some remaining
  | item :: items, remaining =>
      if takesMore itemId quality maxStack item then
        let remaining := remaining - (maxStack - item.quantity)
        if remaining ≤ 0 then none else remainingAfter itemId quality maxStack items remaining
      else remainingAfter itemId quality maxStack items remaining

def isSpaceForAdd (catalog : ItemCatalog) (itemId : UInt32) (quantity : Int32) (quality : UInt8) :
    Bool :=
  match catalog itemId with
  | none => !p.isFull
  | some gd =>
      match remainingAfter itemId quality gd.maxStack p.iterItems quantity with
      | none => true
      | some remaining => remaining ≤ 0 || !p.isFull

def canAdd (_item : InventoryItem) : Bool := !p.isFull

/-! ### Dirty flags and updates -/

def markDirtySlot (slot : UInt16) : ItemPackage :=
  { p with isDirty := p.isDirty.set slot.toNat true }

def markDirty (item : InventoryItem) : ItemPackage :=
  if item.itemPackage ≠ p.code then p
  else if (p.entryAt item.slot.toNat).isSome then p.markDirtySlot item.slot
  else p

def clearDirty : ItemPackage := { p with isDirty := p.isDirty.map fun _ => false }

def startSendUpdate : ItemPackage := { p with holdingUpdates := true }

/-- The filled slots that are dirty, in order. -/
def dirtyItems : List InventoryItem :=
  (List.range p.endOfListIndex).filterMap fun i => if p.dirtyAt i then p.entryAt i else none

def dirtyTailSlots : List UInt16 :=
  ((List.range' p.endOfListIndex p.freeSlots).filter p.dirtyAt).map UInt16.ofNat

def updatePackets : List InventoryEvent :=
  [.packetSetBegin p.ownerActorId p.capacity p.code] ++
    (if p.dirtyItems = [] then []
      else [.packetItems p.ownerActorId p.dirtyItems,
        .packetModifierFrame p.ownerActorId p.dirtyItems]) ++
    (if p.dirtyTailSlots = [] then []
      else [.packetRemoveSlots p.ownerActorId p.dirtyTailSlots]) ++
    [.packetSetEnd p.ownerActorId]

def sendFull : List InventoryEvent :=
  [.packetSetBegin p.ownerActorId p.capacity p.code] ++
    (if p.iterItems = [] then []
      else [.packetItems p.ownerActorId p.iterItems,
        .packetModifierFrame p.ownerActorId p.iterItems]) ++
    [.packetSetEnd p.ownerActorId]

/-! ### Population -/

def init (items : List InventoryItem) : ItemPackage :=
  let rows := (items.take p.capacity.toNat).mapIdx fun i item =>
    some { item with slot := UInt16.ofNat i, itemPackage := p.code }
  let list := rows ++ p.list.drop rows.length
  { p with list, endOfListIndex := (list.findIdx? (·.isNone)).getD p.capacity.toNat }

end ItemPackage

structure Ledger where
  package : ItemPackage
  outbox : List InventoryEvent := []
deriving DecidableEq, Repr

namespace Ledger

variable (l : Ledger)

def put (i : Nat) (entry : Option InventoryItem) : Ledger :=
  { l with package := l.package.put i entry }

def push (event : InventoryEvent) : Ledger := { l with outbox := l.outbox ++ [event] }

def pushDb (event : InventoryEvent) : Ledger := if l.package.isTemporary then l else l.push event

def sendUpdate : Ledger :=
  if l.package.holdingUpdates then l
  else { package := l.package.clearDirty, outbox := l.outbox ++ l.package.updatePackets }

def bracketedSendUpdate : Ledger :=
  if l.package.holdingUpdates then l
  else
    let owner := l.package.ownerActorId
    (l.push (.packetBeginChange owner)).sendUpdate.push (.packetEndChange owner)

def doneSendUpdate : Ledger :=
  let l := { l with package := { l.package with holdingUpdates := false } }
  let l := l.sendUpdate
  { l with package := l.package.clearDirty }

end Ledger
end Garlemald.Inventory
