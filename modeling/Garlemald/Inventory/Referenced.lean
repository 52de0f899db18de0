import Garlemald.Inventory.Operations

/-!
The equipment of a player: a list of positions, each with a reference to an item of one of
the packages. A reference is the item as it was when it was put on.
-/

namespace Garlemald.Inventory

def pkgEquipment : UInt16 := 0x00FE

structure ReferencedItemPackage where
  ownerActorId : UInt32
  capacity : UInt16
  code : UInt16
  writeToDb : Bool
  referenceList : List (Option InventoryItem)
deriving DecidableEq, Repr

namespace ReferencedItemPackage

def new (ownerActorId : UInt32) (capacity code : UInt16) : ReferencedItemPackage where
  ownerActorId := ownerActorId
  capacity := capacity
  code := code
  writeToDb := code == pkgEquipment
  referenceList := List.replicate capacity.toNat none

variable (r : ReferencedItemPackage)

def toggleDbWrite (flag : Bool) : ReferencedItemPackage := { r with writeToDb := flag }

def getAtSlot (slot : UInt16) : Option InventoryItem := r.referenceList[slot.toNat]?.join

def setList (items : List (Option InventoryItem)) : ReferencedItemPackage :=
  let n := min items.length r.referenceList.length
  { r with referenceList := items.take n ++ r.referenceList.drop n }

def sendSingleUpdate (position : UInt16) : List InventoryEvent :=
  [.packetSetBegin r.ownerActorId r.capacity r.code,
    .packetLinkedSingle r.ownerActorId position (r.getAtSlot position),
    .packetSetEnd r.ownerActorId]

def linked : List (UInt16 × InventoryItem) :=
  (r.referenceList.mapIdx fun i entry => entry.map fun item => (UInt16.ofNat i, item)).filterMap id

def sendUpdate : List InventoryEvent :=
  [.packetSetBegin r.ownerActorId r.capacity r.code] ++
    (if r.linked = [] then [] else [.packetLinkedMany r.ownerActorId r.linked]) ++
    [.packetSetEnd r.ownerActorId]

/-- The references sent as if they were items of a package, each with its position. -/
def sendUpdateAsItemPackage (destinationCapacity destinationCode : UInt16) :
    List InventoryEvent :=
  let items := r.linked.map fun (position, item) => { item with linkSlot := position }
  [.packetSetBegin r.ownerActorId destinationCapacity destinationCode] ++
    (if items = [] then []
      else [.packetItems r.ownerActorId items, .packetModifierFrame r.ownerActorId items]) ++
    [.packetSetEnd r.ownerActorId]

def bracketed (packets : List InventoryEvent) : List InventoryEvent :=
  [.packetBeginChange r.ownerActorId] ++ packets ++ [.packetEndChange r.ownerActorId]

def setInternal (position : UInt16) (item : InventoryItem) (sendSingle : Bool) :
    ReferencedItemPackage × List InventoryEvent :=
  if r.referenceList.length ≤ position.toNat then (r, [])
  else
    let r' := { r with referenceList := r.referenceList.set position.toNat (some item) }
    (r', (if r.writeToDb then [.dbEquip r.ownerActorId position item.uniqueId] else []) ++
      if sendSingle then r'.bracketed (r'.sendSingleUpdate position) else [])

def set (position : UInt16) (item : InventoryItem) : ReferencedItemPackage × List InventoryEvent :=
  r.setInternal position item true

def setEach : List (UInt16 × InventoryItem) → ReferencedItemPackage →
    ReferencedItemPackage × List InventoryEvent
  | [], r => (r, [])
  | (position, item) :: rest, r =>
      let (r, events) := r.setInternal position item false
      let (r, later) := setEach rest r
      (r, events ++ later)

def setMany (assignments : List (UInt16 × InventoryItem)) :
    ReferencedItemPackage × List InventoryEvent :=
  let (r, events) := setEach assignments r
  (r, events ++ r.bracketed r.sendUpdate)

/-- Equip an item of a package. The package is brought up to date only if the item that was
at the position came from it as well. -/
def setWithSource (position : UInt16) (item : InventoryItem) (source : Ledger) :
    ReferencedItemPackage × Ledger :=
  let oldSourceCode := (r.getAtSlot position).map (·.itemPackage)
  let (r', events) := r.setInternal position item false
  let source : Ledger := ⟨source.package.markDirty item, source.outbox ++ events⟩
  let source := source.push (.packetBeginChange r.ownerActorId)
  let source := if oldSourceCode = some source.package.code then source.sendUpdate else source
  let source := { source with outbox := source.outbox ++ r'.sendSingleUpdate position }
  (r', source.push (.packetEndChange r.ownerActorId))

def clear (position : UInt16) : ReferencedItemPackage × List InventoryEvent :=
  if r.referenceList.length ≤ position.toNat then (r, [])
  else
    let r' := { r with referenceList := r.referenceList.set position.toNat none }
    (r', (if r.writeToDb then [.dbUnequip r.ownerActorId position] else []) ++
      r'.bracketed (r'.sendSingleUpdate position))

def clearAll : ReferencedItemPackage × List InventoryEvent :=
  let unequips : List InventoryEvent := if r.writeToDb
    then r.linked.map fun (position, _) => .dbUnequip r.ownerActorId position
    else []
  let r' := { r with referenceList := r.referenceList.map fun _ => none }
  (r', unequips ++ r'.bracketed r'.sendUpdate)

end ReferencedItemPackage

structure Player where
  itemPackages : ItemPackages
  equipment : ReferencedItemPackage

inductive EquipmentCall where
  | toggleDbWrite (flag : Bool)
  | setList (items : List (Option InventoryItem))
  | setMany (assignments : List (UInt16 × InventoryItem))
  | setWithSource (position : UInt16) (item : InventoryItem) (source : UInt16)
  | set (position : UInt16) (item : InventoryItem)
  | clear (position : UInt16)
  | clearAll
  | sendSingleUpdate (position : UInt16)
  | sendUpdate
  | sendUpdateAsItemPackage (destinationCapacity destinationCode : UInt16)

inductive PlayerCall where
  | items (call : InventoryCall)
  | equipment (call : EquipmentCall)

namespace Player

/-- The equipment after a call, with its events in the outbox of the packages. -/
def equip (player : Player) (result : ReferencedItemPackage × List InventoryEvent) : Player :=
  { itemPackages :=
      { player.itemPackages with outbox := player.itemPackages.outbox ++ result.2 }
    equipment := result.1 }

def callEquipment (player : Player) : EquipmentCall → Player
  | .toggleDbWrite flag => player.equip (player.equipment.toggleDbWrite flag, [])
  | .setList items => player.equip (player.equipment.setList items, [])
  | .setMany assignments => player.equip (player.equipment.setMany assignments)
  | .setWithSource position item source =>
      let (equipment, l) :=
        player.equipment.setWithSource position item (player.itemPackages.ledger source)
      { itemPackages := player.itemPackages.commit source l, equipment }
  | .set position item => player.equip (player.equipment.set position item)
  | .clear position => player.equip (player.equipment.clear position)
  | .clearAll => player.equip player.equipment.clearAll
  | .sendSingleUpdate position =>
      player.equip (player.equipment, player.equipment.sendSingleUpdate position)
  | .sendUpdate => player.equip (player.equipment, player.equipment.sendUpdate)
  | .sendUpdateAsItemPackage capacity code =>
      player.equip (player.equipment, player.equipment.sendUpdateAsItemPackage capacity code)

def step (catalog : ItemCatalog) (player : Player) : PlayerCall → Option Player
  | .items call => (player.itemPackages.step catalog call).map fun inv =>
      { player with itemPackages := inv }
  | .equipment call => some (player.callEquipment call)

end Player
end Garlemald.Inventory
