import Garlemald.Library.KeyedView
import Garlemald.Storage.Ledger

/-!
Grants and removals while the player is in the world. Each persists first and then tells the
client: a gil change and a grant read the package again and send the rows of the item, a removal
sends what it noted down on its way through the stacks. Any step of the database may fail.
-/

namespace Garlemald.Storage
open Library

def PKG_LOOT : UInt16 := 4
def PKG_MELDREQUEST : UInt16 := 5
def PKG_BAZAAR : UInt16 := 7
def PKG_EQUIPMENT : UInt16 := 0x00FE
def PKG_TRADE : UInt16 := 0x00FD
def PKG_EQUIPMENT_OTHERPLAYER : UInt16 := 0x00F9

def CAP_NORMAL : UInt16 := 200
def CAP_CURRENCY : UInt16 := 320
def CAP_KEYITEMS : UInt16 := 500
def CAP_LOOT : UInt16 := 10
def CAP_TRADE : UInt16 := 4
def CAP_MELDREQUEST : UInt16 := 4
def CAP_BAZAAR : UInt16 := 10
def CAP_EQUIPMENT : UInt16 := 35
def CAP_EQUIPMENT_OTHERPLAYER : UInt16 := 0x23

def defaultCapacity (code : UInt16) : UInt16 :=
  if code = PKG_NORMAL then CAP_NORMAL
  else if code = PKG_CURRENCY_CRYSTALS then CAP_CURRENCY
  else if code = PKG_KEYITEMS then CAP_KEYITEMS
  else if code = PKG_LOOT then CAP_LOOT
  else if code = PKG_TRADE then CAP_TRADE
  else if code = PKG_MELDREQUEST then CAP_MELDREQUEST
  else if code = PKG_BAZAAR then CAP_BAZAAR
  else if code = PKG_EQUIPMENT then CAP_EQUIPMENT
  else if code = PKG_EQUIPMENT_OTHERPLAYER then CAP_EQUIPMENT_OTHERPLAYER
  else CAP_NORMAL

/-- A stack of a package, as it is read for the wire. -/
structure PackageRow where
  uniqueId : ℕ
  itemId : UInt32
  quantity : Int32
  quality : UInt8
  slot : UInt16
deriving DecidableEq

abbrev Stack := ℕ × UInt32 × Int32

def PackageRow.stack (row : PackageRow) : Stack := (row.uniqueId, row.itemId, row.quantity)

/-- A slot that has no 16 bits is read as the first. -/
def readSlot (slot : ℤ) : UInt16 :=
  if 0 ≤ slot ∧ slot < 2 ^ 16 then UInt16.ofNat slot.toNat else 0

/-- A quantity that has no 32 bits is read as one. -/
def readQuantity (quantity : ℤ) : Int32 := Int32.ofInt ((readI32 quantity).getD 1)

def PackageRow.read (row : InventoryRow) (item : ServerItem) : PackageRow where
  uniqueId := row.serverItemId
  itemId := item.itemId
  quantity := readQuantity item.quantity
  quality := item.quality
  slot := readSlot row.slot

/-- The rows of a package in the order of their slots, with the slots as they are read. -/
def Database.getItemPackageRows (db : Database) (chara : UInt32) (package : UInt16) :
    List PackageRow :=
  (db.inventory.mergeSort fun a b => a.slot ≤ b.slot).filterMap fun row =>
    if row.characterId = chara ∧ row.itemPackage = package then
      (db.items row.serverItemId).map (PackageRow.read row)
    else none

namespace Runtime

inductive InventoryPacket where
  | beginChange (clearItemPackage : Bool)
  | setBegin (capacity code : UInt16)
  | listX01 (item : PackageRow)
  | removeX01 (slot : UInt16)
  | setEnd
  | endChange
  | textSheet (textId : UInt16) (itemId : UInt32) (quantity : UInt32)

/-- The slots a client shows, package by package, and the package it is told about. -/
structure Client where
  current : Option UInt16 := none
  slots : UInt16 → UInt16 → Option Stack

def Client.receive (c : Client) : InventoryPacket → Client
  | .setBegin _ code => { c with current := some code }
  | .listX01 item =>
      match c.current with
      | some code =>
          let shown := Function.update (c.slots code) item.slot (some item.stack)
          { c with slots := Function.update c.slots code shown }
      | none => c
  | .removeX01 slot =>
      match c.current with
      | some code =>
          let shown := Function.update (c.slots code) slot none
          { c with slots := Function.update c.slots code shown }
      | none => c
  | .setEnd => { c with current := none }
  | _ => c

def Client.after (c : Client) (packets : List InventoryPacket) : Client := packets.foldl receive c

def sendInventoryBracket (cap code : UInt16) (middle : List InventoryPacket) :
    List InventoryPacket :=
  [.beginChange false, .setBegin cap code] ++ middle ++ [.setEnd, .endChange]

section Appliers

variable (db : Database) (chara : UInt32)

/-- The gil row that is sent is the first one of the package. -/
def sendGilUpdate (delta : Int32) (reads : Bool) : List InventoryPacket :=
  let rows := if reads then db.getItemPackageRows chara PKG_CURRENCY_CRYSTALS else []
  match rows.find? (·.itemId = GIL_ITEM_ID) with
  | none => []
  | some gilRow =>
      sendInventoryBracket CAP_CURRENCY PKG_CURRENCY_CRYSTALS [.listX01 gilRow] ++
        if delta > 0 then [.textSheet 25246 GIL_ITEM_ID delta.toUInt32] else []

def sendInventoryPackageUpdate (packageCode cap : UInt16) (changedItemId : Option UInt32)
    (reads : Bool) : List InventoryPacket :=
  let rows := if reads then db.getItemPackageRows chara packageCode else []
  let middle := (rows.filter fun r => changedItemId.all (r.itemId = ·)).map InventoryPacket.listX01
  if middle.isEmpty then [] else sendInventoryBracket cap packageCode middle

/-- `persists` and `reads` say whether the database takes the change, and reads the package. -/
def applyAddGil (amount : Int32) (persists reads : Bool) : Database × List InventoryPacket :=
  if amount = 0 then (db, [])
  else
    match if persists then db.addGil chara amount else none with
    | some (_, db') => (db', sendGilUpdate db' chara amount reads)
    | none => (db, [])

def applyAddItem (maxStack : UInt32 → Option ℤ) (itemPackage : UInt16) (itemId : UInt32)
    (quantity : Int32) (persists reads : Bool) : Database × List InventoryPacket :=
  if quantity ≤ 0 ∨ itemId = 0 then (db, [])
  else if itemPackage = PKG_CURRENCY_CRYSTALS then applyAddGil db chara quantity persists reads
  else if itemPackage = PKG_KEYITEMS then
    match if persists then some (db.addKeyItem chara itemId) else none with
    | some (true, db') =>
        (db', sendInventoryPackageUpdate db' chara PKG_KEYITEMS CAP_KEYITEMS (some itemId) reads)
    | some (false, db') => (db', [])
    | none => (db, [])
  else if itemPackage ≠ PKG_NORMAL then (db, [])
  else
    match if persists then db.addHarvestItem maxStack chara itemId quantity 1 else none with
    | some (_, db') =>
        (db', sendInventoryPackageUpdate db' chara PKG_NORMAL CAP_NORMAL (some itemId) reads)
    | none => (db, [])

/-- How far a removal came, and what it noted down. -/
structure Removal where
  db : Database
  updated : List PackageRow
  freedSlots : List UInt16
  finished : Bool

/-- `writes` says of each change of a stack, in turn, whether the database takes it; the first it
does not take ends the removal. -/
def removeRows (catalogId : UInt32) :
    Int32 → List PackageRow → (ℕ → Bool) → Database → Removal
  | _, [], _, db => ⟨db, [], [], true⟩
  | remaining, row :: rows, writes, db =>
      if remaining ≤ 0 then ⟨db, [], [], true⟩
      else if row.itemId ≠ catalogId then removeRows catalogId remaining rows writes db
      else if writes 0 = false then ⟨db, [], [], false⟩
      else if row.quantity > remaining then
        let newQty := row.quantity - remaining
        let rest := removeRows catalogId 0 rows (writes <| · + 1)
          (db.setQuantity row.uniqueId newQty.toInt)
        { rest with updated := { row with quantity := newQty } :: rest.updated }
      else
        let rest := removeRows catalogId (remaining - row.quantity) rows (writes <| · + 1)
          (db.removeItem chara row.uniqueId)
        { rest with freedSlots := row.slot :: rest.freedSlots }

def applyRemoveItem (itemPackage : UInt16) (catalogId : UInt32) (quantity : Int32) (reads : Bool)
    (writes : ℕ → Bool) : Database × List InventoryPacket :=
  if quantity ≤ 0 ∨ catalogId = 0 then (db, [])
  else if reads = false then (db, [])
  else
    let removal := removeRows chara catalogId quantity
      (db.getItemPackageRows chara itemPackage).reverse writes db
    if removal.finished = false then (removal.db, [])
    else if removal.updated.isEmpty ∧ removal.freedSlots.isEmpty then (removal.db, [])
    else
      (removal.db, sendInventoryBracket (defaultCapacity itemPackage) itemPackage
        (removal.updated.map InventoryPacket.listX01 ++
          removal.freedSlots.map InventoryPacket.removeX01))

end Appliers

inductive Call where
  | addGil (amount : Int32) (persists reads : Bool)
  | addItem (itemPackage : UInt16) (itemId : UInt32) (quantity : Int32) (persists reads : Bool)
  | removeItem (itemPackage : UInt16) (catalogId : UInt32) (quantity : Int32) (reads : Bool)
      (writes : ℕ → Bool)

structure Live where
  db : Database
  client : Client

def Call.apply (maxStack : UInt32 → Option ℤ) (chara : UInt32) (db : Database) :
    Call → Database × List InventoryPacket
  | .addGil amount persists reads => applyAddGil db chara amount persists reads
  | .addItem itemPackage itemId quantity persists reads =>
      applyAddItem db chara maxStack itemPackage itemId quantity persists reads
  | .removeItem itemPackage catalogId quantity reads writes =>
      applyRemoveItem db chara itemPackage catalogId quantity reads writes

def Live.step (maxStack : UInt32 → Option ℤ) (chara : UInt32) (s : Live) (call : Call) : Live :=
  let (db, packets) := call.apply maxStack chara s.db
  ⟨db, s.client.after packets⟩

def Client.Mirrors (client : Client) (chara : UInt32) (db : Database) : Prop :=
  ∀ package, Shows PackageRow.slot PackageRow.stack (client.slots package)
    (db.getItemPackageRows chara package)

def Live.Mirrored (chara : UInt32) (s : Live) : Prop := s.client.Mirrors chara s.db

def TakesOnly (maxStack : UInt32 → Option ℤ) (chara : UInt32) (s : Live) : Call → Prop
  | .removeItem itemPackage catalogId quantity reads writes =>
      ∀ package row, package ≠ itemPackage ∨ row.itemId ≠ catalogId →
        (row ∈ (s.step maxStack chara
            (.removeItem itemPackage catalogId quantity reads writes)).db.getItemPackageRows
              chara package ↔
          row ∈ s.db.getItemPackageRows chara package)
  | _ => True

/-- New rows at these slots get slots of their own, as slots are read. -/
def SlotsFree (db : Database) (chara : UInt32) (package : UInt16) (new : List ℤ) : Prop :=
  ((db.slots chara package ++ new).map readSlot).Nodup

def room (stackMax : ℤ) (existing : List (ℕ × ℤ)) : ℤ :=
  (existing.map fun stack => max (stackMax - stack.2) 0).sum

/-- The slots that an amount needs on top of the slots there are. -/
def openedSlots (next stackMax amount : ℤ) : List ℤ :=
  (List.range ((amount + stackMax - 1) / stackMax).toNat).map fun (i : ℕ) => next + i

/-- A gil change reaches the client if it changes nothing, or the package is read after it and the
row it changes is the first of the gil rows, or a new one in a free slot. -/
def GilReaches (db : Database) (chara : UInt32) (amount : Int32) (persists reads : Bool) : Prop :=
  amount ≠ 0 → persists = true → (db.addGil chara amount).isSome = true →
    match (db.held chara PKG_CURRENCY_CRYSTALS { itemId := GIL_ITEM_ID }).head? with
    | some (id, stack) =>
        max (saturateI32 (stack.quantity + amount.toInt)) 0 = stack.quantity ∨
          reads = true ∧ ((db.getItemPackageRows chara PKG_CURRENCY_CRYSTALS).find?
            (·.itemId = GIL_ITEM_ID)).map (·.uniqueId) = some id
    | none => reads = true ∧ SlotsFree db chara PKG_CURRENCY_CRYSTALS [0]

/-- A new key item reaches the client if the package is read after it and its slot is free. -/
def KeyItemReaches (db : Database) (chara keyItemId : UInt32) (persists reads : Bool) : Prop :=
  persists = true → db.held chara PKG_KEYITEMS { itemId := keyItemId } = [] →
    reads = true ∧
      SlotsFree db chara PKG_KEYITEMS [(readI32 (db.nextSlot chara PKG_KEYITEMS)).getD 0]

/-- A grant reaches the client if the bag is read after it and the stacks it opens get slots of
their own. -/
def HarvestReaches (maxStack : UInt32 → Option ℤ) (db : Database) (chara itemId : UInt32)
    (quantity : Int32) (persists reads : Bool) : Prop :=
  persists = true → (db.addHarvestItem maxStack chara itemId quantity 1).isSome = true →
    reads = true ∧ SlotsFree db chara PKG_NORMAL
      (openedSlots (db.nextSlot chara PKG_NORMAL) (stackLimit maxStack itemId)
        (quantity.toInt - room (stackLimit maxStack itemId) (db.existing chara itemId 1)))

def removals (catalogId : UInt32) : Int32 → List PackageRow → ℕ
  | _, [] => 0
  | remaining, row :: rows =>
      if remaining ≤ 0 then 0
      else if row.itemId ≠ catalogId then removals catalogId remaining rows
      else if row.quantity > remaining then 1
      else removals catalogId (remaining - row.quantity) rows + 1

/-- What each call needs to reach the client: a removal that changes one stack gets through all. -/
def Reaches (maxStack : UInt32 → Option ℤ) (chara : UInt32) (s : Live) : Call → Prop
  | .addGil amount persists reads => GilReaches s.db chara amount persists reads
  | .addItem itemPackage itemId quantity persists reads =>
      0 < quantity → itemId ≠ 0 →
        if itemPackage = PKG_CURRENCY_CRYSTALS then GilReaches s.db chara quantity persists reads
        else if itemPackage = PKG_KEYITEMS then KeyItemReaches s.db chara itemId persists reads
        else itemPackage = PKG_NORMAL →
          HarvestReaches maxStack s.db chara itemId quantity persists reads
  | .removeItem itemPackage catalogId quantity reads writes =>
      0 < quantity → catalogId ≠ 0 → reads = true → writes 0 = true →
        ∀ n < removals catalogId quantity (s.db.getItemPackageRows chara itemPackage).reverse,
          writes n = true

end Runtime
end Garlemald.Storage
