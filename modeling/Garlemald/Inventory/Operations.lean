import Garlemald.Inventory.ItemPackage
import Mathlib.Logic.Function.Basic

/-!
The operations on a package, as loops over its slots, and the packages of one
character with the moves between them. `none` is a panic: only the write of an
existing item behind the last slot can leave the list.
-/

namespace Garlemald.Inventory
open Function (update)

namespace Ledger

@[simp] theorem pushDb_package (l : Ledger) (event : InventoryEvent) :
    (l.pushDb event).package = l.package := by
  rw [pushDb]
  split
  · rfl
  · rfl

/-! ### Add -/

def mergeAt (itemId : UInt32) (quality : UInt8) (maxStack : Int32) (s : Ledger × Int32) (i : Nat) :
    Ledger × Int32 :=
  if s.2 ≤ 0 then s
  else match s.1.package.entryAt i with
    | none => s
    | some item =>
        if ItemPackage.takesMore itemId quality maxStack item then
          let quantity := min (item.quantity + s.2) maxStack
          ((s.1.put i (some { item with quantity })).pushDb (.dbQuantity item.uniqueId quantity),
            s.2 - (maxStack - item.quantity))
        else s

/-- A new stack in the first empty slot; its unique id is 0 until the row is inserted. -/
def spawn (l : Ledger) (itemId : UInt32) (quality : UInt8) (stackQty : Int32) : Ledger :=
  let p := l.package
  let slot := UInt16.ofNat p.endOfListIndex
  let item : InventoryItem :=
    { itemId, quantity := stackQty, quality, slot, linkSlot := 0xFFFF, itemPackage := p.code }
  let filled := p.put p.endOfListIndex (some item)
  ({ l with package := { filled with endOfListIndex := p.endOfListIndex + 1 } } : Ledger).pushDb
    (.dbAdd p.ownerActorId item p.code slot)

/-- Spill into new slots. Every pass fills a slot, so the free slots are enough fuel. -/
def spill (itemId : UInt32) (quality : UInt8) (maxStack : Int32) :
    Nat → Int32 → Ledger → InventoryResult × Ledger
  | 0, quantity, l => if quantity ≤ 0 then (.ok (), l) else (.error .full, l)
  | fuel + 1, quantity, l =>
      if quantity ≤ 0 then (.ok (), l)
      else if l.package.isFull then (.error .full, l)
      else
        let stackQty := min quantity maxStack
        spill itemId quality maxStack fuel (quantity - stackQty) (l.spawn itemId quality stackQty)

/-- Top up the partial stacks, then spill; a spill that runs out of slots sends no update. -/
def store (l : Ledger) (itemId : UInt32) (quantity : Int32) (quality : UInt8)
    (maxStack : Int32) : InventoryResult × Ledger :=
  let s := (List.range l.package.endOfListIndex).foldl (mergeAt itemId quality maxStack)
    (l, quantity)
  match spill itemId quality maxStack l.package.freeSlots s.2 s.1 with
  | (.ok _, l) => (.ok (), l.bracketedSendUpdate)
  | (.error e, l) => (.error e, l)

def add (l : Ledger) (catalog : ItemCatalog) (itemId : UInt32) (quantity : Int32)
    (quality : UInt8) : InventoryResult × Ledger :=
  if quantity ≤ 0 then (.ok (), l)
  else if ¬ l.package.isSpaceForAdd catalog itemId quantity quality then (.error .full, l)
  else match catalog itemId with
    | none => (.error .system, l)
    | some gd =>
        if gd.isExclusive ∧ l.package.hasItem itemId then (.error .hasUnique, l)
        else l.store itemId quantity quality gd.maxStack

def existingMaxStack (catalog : ItemCatalog) (itemId : UInt32) : Int32 :=
  ((catalog itemId).map (·.maxStack)).getD 1

/-- An item that exists already is put behind the last one as it is, unless it stacks. -/
def addExisting (l : Ledger) (catalog : ItemCatalog) (item : InventoryItem) :
    Option (InventoryResult × Ledger) :=
  let p := l.package
  if p.code ≠ pkgBazaar ∧ 1 < existingMaxStack catalog item.itemId then
    some (l.add catalog item.itemId item.quantity item.quality)
  else if ¬ p.isSpaceForAdd catalog item.itemId item.quantity item.quality then
    some (.error .full, l)
  else if (catalog item.itemId).isNone then some (.error .system, l)
  else if p.list.length ≤ p.endOfListIndex then none
  else
    let slot := UInt16.ofNat p.endOfListIndex
    let item := { item with itemPackage := p.code, slot }
    let filled := p.put p.endOfListIndex (some item)
    let l := ({ l with package := { filled with endOfListIndex := p.endOfListIndex + 1 } } : Ledger
      ).pushDb (.dbAdd p.ownerActorId item p.code slot)
    some (.ok (), l.bracketedSendUpdate)

/-! ### Realign -/

structure Realigning where
  package : ItemPackage
  lastNull : Option Nat := none
  updates : List InventoryItem := []

def realignAt (s : Realigning) (i : Nat) : Realigning :=
  match s.package.entryAt i, s.lastNull with
  | none, none => { s with lastNull := some i }
  | some item, some dst =>
      let moved := { item with slot := UInt16.ofNat dst }
      { package := (s.package.put i none).put dst (some moved)
        lastNull := some (dst + 1)
        updates := s.updates ++ [moved] }
  | _, _ => s

def realign (l : Ledger) : Ledger :=
  let s : Realigning :=
    (List.range l.package.endOfListIndex).foldl realignAt { package := l.package }
  let package : ItemPackage :=
    { s.package with endOfListIndex := s.lastNull.getD s.package.endOfListIndex }
  if s.updates ≠ [] ∧ ¬ package.isTemporary then
    { package, outbox := l.outbox ++ [.dbPositions s.updates] }
  else { package, outbox := l.outbox }

/-! ### Remove -/

def dropAt (l : Ledger) (i : Nat) (uniqueId : UInt64) : Ledger :=
  (l.put i none).pushDb (.dbRemove l.package.ownerActorId uniqueId)

def requantifyAt (l : Ledger) (i : Nat) (item : InventoryItem) (quantity : Int32) : Ledger :=
  (l.put i (some { item with quantity })).pushDb (.dbQuantity item.uniqueId quantity)

def takeAt (itemId : UInt32) (quality : UInt8) (s : Ledger × Int32) (i : Nat) : Ledger × Int32 :=
  if s.2 ≤ 0 then s
  else match s.1.package.entryAt i with
    | none => s
    | some item =>
        if item.itemId ≠ itemId ∨ item.quality ≠ quality then s
        else if item.quantity - s.2 ≤ 0 then
          (s.1.dropAt i item.uniqueId, s.2 - item.quantity)
        else
          (s.1.requantifyAt i item (item.quantity - s.2), s.2 - item.quantity)

/-- Back to front, so that the oldest stacks are left. -/
def remove (l : Ledger) (itemId : UInt32) (quantity : Int32) (quality : UInt8) : Ledger :=
  if ¬ l.package.hasItemQq itemId quantity quality then l
  else
    ((List.range l.package.endOfListIndex).reverse.foldl (takeAt itemId quality)
      (l, quantity)).1.realign.bracketedSendUpdate

def removeByUniqueId (l : Ledger) (itemDbId : UInt64) (quantity : Int32) : Ledger :=
  match (l.package.list.take l.package.endOfListIndex).findIdx?
      (·.any (·.uniqueId = itemDbId)) with
  | none => l
  | some slot =>
      match l.package.entryAt slot with
      | none => l
      | some item =>
          let l :=
            if item.quantity ≤ quantity then l.dropAt slot item.uniqueId
            else l.requantifyAt slot item (item.quantity - quantity)
          l.realign.bracketedSendUpdate

def removeAtSlot (l : Ledger) (slot : UInt16) : Ledger :=
  if l.package.endOfListIndex ≤ slot.toNat then l
  else
    let l := match l.package.entryAt slot.toNat with
      | some item => l.dropAt slot.toNat item.uniqueId
      | none => l
    l.realign.bracketedSendUpdate

def removeItem (l : Ledger) (item : InventoryItem) : Ledger :=
  if item.itemPackage = l.package.code then l.removeAtSlot item.slot else l

def removeAtSlotQty (l : Ledger) (slot : UInt16) (quantity : Int32) : Ledger :=
  if l.package.endOfListIndex ≤ slot.toNat then l
  else match l.package.entryAt slot.toNat with
    | none => l
    | some item =>
        let remaining := item.quantity - quantity
        if remaining ≤ 0 then
          (l.dropAt slot.toNat item.uniqueId).realign.bracketedSendUpdate
        else (l.requantifyAt slot.toNat item remaining).bracketedSendUpdate

def clearAt (p : ItemPackage) (i : Nat) : ItemPackage :=
  if (p.entryAt i).isSome then p.put i none else p

def clear (l : Ledger) : Ledger :=
  let emptied := (List.range l.package.endOfListIndex).foldl clearAt l.package
  ({ l with package := { emptied with endOfListIndex := 0 } } : Ledger).bracketedSendUpdate

end Ledger

inductive SlotCall where
  | add (itemId : UInt32) (quantity : Int32) (quality : UInt8)
  | addExisting (item : InventoryItem)
  | remove (itemId : UInt32) (quantity : Int32) (quality : UInt8)
  | removeItem (item : InventoryItem)
  | removeByUniqueId (itemDbId : UInt64) (quantity : Int32)
  | removeAtSlot (slot : UInt16)
  | removeAtSlotQty (slot : UInt16) (quantity : Int32)
  | clear

inductive UpdateCall where
  | markDirtySlot (slot : UInt16)
  | markDirty (item : InventoryItem)
  | sendUpdate
  | sendFull
  | startSendUpdate
  | doneSendUpdate

namespace Ledger

def callSlots (l : Ledger) (catalog : ItemCatalog) : SlotCall → Option Ledger
  | .add itemId quantity quality => some (l.add catalog itemId quantity quality).2
  | .addExisting item => (l.addExisting catalog item).map (·.2)
  | .remove itemId quantity quality => some (l.remove itemId quantity quality)
  | .removeItem item => some (l.removeItem item)
  | .removeByUniqueId itemDbId quantity => some (l.removeByUniqueId itemDbId quantity)
  | .removeAtSlot slot => some (l.removeAtSlot slot)
  | .removeAtSlotQty slot quantity => some (l.removeAtSlotQty slot quantity)
  | .clear => some l.clear

def callUpdates (l : Ledger) : UpdateCall → Ledger
  | .markDirtySlot slot => { l with package := l.package.markDirtySlot slot }
  | .markDirty item => { l with package := l.package.markDirty item }
  | .sendUpdate => l.sendUpdate
  | .sendFull => { l with outbox := l.outbox ++ l.package.sendFull }
  | .startSendUpdate => { l with package := l.package.startSendUpdate }
  | .doneSendUpdate => l.doneSendUpdate

end Ledger

/-! ### The packages of a character -/

structure ItemPackages where
  packages : UInt16 → ItemPackage
  outbox : List InventoryEvent := []

namespace ItemPackages

variable (inv : ItemPackages)

def ledger (code : UInt16) : Ledger := ⟨inv.packages code, inv.outbox⟩

def commit (code : UInt16) (l : Ledger) : ItemPackages :=
  ⟨update inv.packages code l.package, l.outbox⟩

variable (catalog : ItemCatalog)

def moveTo (code slot destination : UInt16) : Option (InventoryResult × ItemPackages) :=
  match (inv.packages code).getAtSlot slot with
  | none => some (.error .system, inv)
  | some item =>
      if ¬ (inv.packages destination).canAdd item then some (.error .full, inv)
      else
        let inv := inv.commit code ((inv.ledger code).removeAtSlot slot)
        ((inv.ledger destination).addExisting catalog item).map fun (result, l) =>
          (result, inv.commit destination l)

def moveItem (code : UInt16) (item : InventoryItem) (destination : UInt16) :
    Option (InventoryResult × ItemPackages) :=
  if ¬ (inv.packages destination).canAdd item then some (.error .full, inv)
  else
    let inv := inv.commit code ((inv.ledger code).removeItem item)
    ((inv.ledger destination).addExisting catalog item).map fun (result, l) =>
      (result, inv.commit destination l)

end ItemPackages

inductive InventoryCall where
  | slots (code : UInt16) (call : SlotCall)
  | updates (code : UInt16) (call : UpdateCall)
  | moveTo (code slot destination : UInt16)
  | moveItem (code : UInt16) (item : InventoryItem) (destination : UInt16)

namespace ItemPackages

/-- A call that returns; a move is between two packages. -/
def step (catalog : ItemCatalog) (inv : ItemPackages) : InventoryCall → Option ItemPackages
  | .slots code call => ((inv.ledger code).callSlots catalog call).map (inv.commit code)
  | .updates code call => some (inv.commit code ((inv.ledger code).callUpdates call))
  | .moveTo code slot destination =>
      if code = destination then none else (inv.moveTo catalog code slot destination).map (·.2)
  | .moveItem code item destination =>
      if code = destination then none else (inv.moveItem catalog code item destination).map (·.2)

def load (ownerActorId : UInt32) (capacity : UInt16 → UInt16) (isTemporary : UInt16 → Bool)
    (stored : UInt16 → List InventoryItem) : ItemPackages :=
  { packages := fun code =>
      (ItemPackage.withFlags ownerActorId (capacity code) code (isTemporary code)).init
        (stored code) }

end ItemPackages
end Garlemald.Inventory
