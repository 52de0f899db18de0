import Garlemald.Common.SubPacket
import Garlemald.Inventory.ItemPackage
import Garlemald.Library.Batch

/-!
The packets that list items, removed slots and linked slots, and the loops that split a
list into them.
-/

namespace Garlemald.Packets

open Library Common Inventory

def OP_INVENTORY_LIST_X01 : UInt16 := 0x0148
def OP_INVENTORY_LIST_X08 : UInt16 := 0x0149
def OP_INVENTORY_LIST_X16 : UInt16 := 0x014A
def OP_INVENTORY_LIST_X32 : UInt16 := 0x014B
def OP_INVENTORY_LIST_X64 : UInt16 := 0x014C
def OP_LINKED_ITEM_LIST_X01 : UInt16 := 0x014D
def OP_LINKED_ITEM_LIST_X08 : UInt16 := 0x014E
def OP_LINKED_ITEM_LIST_X16 : UInt16 := 0x014F
def OP_LINKED_ITEM_LIST_X32 : UInt16 := 0x0150
def OP_LINKED_ITEM_LIST_X64 : UInt16 := 0x0151
def OP_INVENTORY_REMOVE_X01 : UInt16 := 0x0152
def OP_INVENTORY_REMOVE_X08 : UInt16 := 0x0153
def OP_INVENTORY_REMOVE_X16 : UInt16 := 0x0154
def OP_INVENTORY_REMOVE_X32 : UInt16 := 0x0155
def OP_INVENTORY_REMOVE_X64 : UInt16 := 0x0156

def body (totalPacketSize : ℕ) : ℕ := totalPacketSize - 0x20

def u32Count (max : ℕ) : Bytes := u32Bytes (.ofNat max)

-- The clock gives the time at which the packet from an offset is made.
variable (clock : ℕ → UInt32) (actorId : UInt32)

def encodeItem (item : InventoryItem) : Option Bytes :=
  Writer.fill 0x70 <| List.forM
    [u64Bytes item.uniqueId, u32Bytes item.quantity.toUInt32, u32Bytes item.itemId,
      u16Bytes (if item.linkSlot = 0xFFFF then item.slot else item.linkSlot), zeros 14,
      [0, 0x03, 0, 0], zeros 4, [item.quality]] Writer.all

def writeItem (item : InventoryItem) : Writer Unit := do
  let record ← encodeItem item
  Writer.all record

def buildInventoryListX01 (now : UInt32) (item : InventoryItem) : Option SubPacket :=
  (Writer.fill (body 0x90) (writeItem item)).map (.new now OP_INVENTORY_LIST_X01 actorId)

def buildInventoryListN (cap : ℕ) (opcode : UInt16) (packetSize : ℕ) :
    Rung InventoryItem SubPacket :=
  rowsRung (body packetSize) cap [] (fun _ => writeItem) (some (cap * 0x70, u32Count))
    fun offset => .new (clock offset) opcode actorId

def buildInventoryListX08 (opcode : UInt16) (packetSize : ℕ) :=
  buildInventoryListN clock actorId 8 opcode packetSize

def buildInventoryItemEnd := buildInventoryListX08 clock actorId OP_INVENTORY_LIST_X08 0x90
def buildInventoryItem := buildInventoryListX08 clock actorId OP_INVENTORY_LIST_X16 0x90
def buildInventoryListX08N := buildInventoryListX08 clock actorId OP_INVENTORY_LIST_X08 0x3A8
def buildInventoryListX16 := buildInventoryListN clock actorId 16 OP_INVENTORY_LIST_X16 0x720
def buildInventoryListX32 := buildInventoryListN clock actorId 32 OP_INVENTORY_LIST_X32 0xE20
def buildInventoryListX64 := buildInventoryListN clock actorId 64 OP_INVENTORY_LIST_X64 0x1C20

def writeSlot (slot : UInt16) : Writer Unit := Writer.u16 slot

def buildInventoryRemoveX01 (now : UInt32) (slot : UInt16) : Option SubPacket :=
  (Writer.fill (body 0x28) (writeSlot slot)).map (.new now OP_INVENTORY_REMOVE_X01 actorId)

def buildInventoryRemoveN (cap : ℕ) (opcode : UInt16) (packetSize countOffset : ℕ) :
    Rung UInt16 SubPacket :=
  rowsRung (body packetSize) cap [] (fun _ => writeSlot)
    (some (countOffset, fun max => [UInt8.ofNat max]))
    fun offset => .new (clock offset) opcode actorId

def buildInventoryRemoveX08 :=
  buildInventoryRemoveN clock actorId 8 OP_INVENTORY_REMOVE_X08 0x38 0x10
def buildInventoryRemoveX16 :=
  buildInventoryRemoveN clock actorId 16 OP_INVENTORY_REMOVE_X16 0x40 0x20
def buildInventoryRemoveX32 :=
  buildInventoryRemoveN clock actorId 32 OP_INVENTORY_REMOVE_X32 0x60 0x40
def buildInventoryRemoveX64 :=
  buildInventoryRemoveN clock actorId 64 OP_INVENTORY_REMOVE_X64 0xA0 0x80

def writeLinked (linked : UInt16 × InventoryItem) : Writer Unit :=
  [u16Bytes linked.1, u16Bytes linked.2.slot, u16Bytes linked.2.itemPackage].forM Writer.all

/-- For a position and an item; the packet that clears a position has another caller. -/
def buildLinkedItemListX01 (now : UInt32) (linked : UInt16 × InventoryItem) : Option SubPacket :=
  (Writer.fill (body 0x28) (writeLinked linked)).map (.new now OP_LINKED_ITEM_LIST_X01 actorId)

def buildLinkedItemListN (cap : ℕ) (opcode : UInt16) (packetSize : ℕ) (countOffset : Option ℕ) :
    Rung (UInt16 × InventoryItem) SubPacket :=
  rowsRung (body packetSize) cap [] (fun _ => writeLinked)
    (countOffset.map fun countOffset => (countOffset, u32Count))
    fun offset => .new (clock offset) opcode actorId

def buildLinkedItemListX08 :=
  buildLinkedItemListN clock actorId 8 OP_LINKED_ITEM_LIST_X08 0x58 (some 0x30)
def buildLinkedItemListX16 :=
  buildLinkedItemListN clock actorId 16 OP_LINKED_ITEM_LIST_X16 0x80 none
def buildLinkedItemListX32 :=
  buildLinkedItemListN clock actorId 32 OP_LINKED_ITEM_LIST_X32 0xE0 none
def buildLinkedItemListX64 :=
  buildLinkedItemListN clock actorId 64 OP_LINKED_ITEM_LIST_X64 0x1A0 none

def fiveRungs {α : Type} (x64 x32 x16 x08 x01 : Rung α SubPacket) (remaining : ℕ) :
    Option (Rung α SubPacket) :=
  if remaining = 0 then none
  else if 64 ≤ remaining then some x64
  else if 32 ≤ remaining then some x32
  else if 16 ≤ remaining then some x16
  else if 8 ≤ remaining then some x08
  else some x01

def packetItems : ℕ → Option (Rung InventoryItem SubPacket) :=
  fiveRungs (buildInventoryListX64 clock actorId) (buildInventoryListX32 clock actorId)
    (buildInventoryListX16 clock actorId) (buildInventoryListX08N clock actorId)
    (oneRung fun offset => buildInventoryListX01 actorId (clock offset))

def packetRemoveSlots : ℕ → Option (Rung UInt16 SubPacket) :=
  fiveRungs (buildInventoryRemoveX64 clock actorId) (buildInventoryRemoveX32 clock actorId)
    (buildInventoryRemoveX16 clock actorId) (buildInventoryRemoveX08 clock actorId)
    (oneRung fun offset => buildInventoryRemoveX01 actorId (clock offset))

def packetLinkedMany : ℕ → Option (Rung (UInt16 × InventoryItem) SubPacket) :=
  fiveRungs (buildLinkedItemListX64 clock actorId) (buildLinkedItemListX32 clock actorId)
    (buildLinkedItemListX16 clock actorId) (buildLinkedItemListX08 clock actorId)
    (oneRung fun offset => buildLinkedItemListX01 actorId (clock offset))

abbrev Formats (ω : Type) := List (UInt16 × Batch ω)

def Formats.decode {ω : Type} (formats : Formats ω) (p : SubPacket) : Option (List ω) := do
  let batch ← formats.lookup p.gameMessage.opcode
  batch.decode p.data

def u32At (position : ℕ) (body : Bytes) : Option ℕ :=
  (Reader.u32.parse (body.drop position)).map UInt32.toNat

structure ItemEntry where
  uniqueId : UInt64
  quantity : Int32
  itemId : UInt32
  slot : UInt16
  quality : UInt8
deriving DecidableEq

def ItemEntry.read : Reader ItemEntry := do
  let uniqueId ← Reader.u64
  let quantity ← Reader.u32
  let itemId ← Reader.u32
  let slot ← Reader.u16
  let _ ← Reader.bytes 22
  let quality ← Reader.u8
  return ⟨uniqueId, quantity.toInt32, itemId, slot, quality⟩

def ItemEntry.of (item : InventoryItem) : ItemEntry where
  uniqueId := item.uniqueId
  quantity := item.quantity
  itemId := item.itemId
  slot := if item.linkSlot = 0xFFFF then item.slot else item.linkSlot
  quality := item.quality

def itemFormats : Formats ItemEntry :=
  [(0x0148, ⟨1, none, rowAt 0 0x70 ItemEntry.read⟩),
    (0x0149, ⟨8, some (u32At 0x380), rowAt 0 0x70 ItemEntry.read⟩),
    (0x014A, ⟨16, none, rowAt 0 0x70 ItemEntry.read⟩),
    (0x014B, ⟨32, none, rowAt 0 0x70 ItemEntry.read⟩),
    (0x014C, ⟨64, none, rowAt 0 0x70 ItemEntry.read⟩)]

def slotFormats : Formats UInt16 :=
  [(0x0152, ⟨1, none, rowAt 0 2 Reader.u16⟩),
    (0x0153, ⟨8, some fun body => (Reader.u8.parse (body.drop 0x10)).map UInt8.toNat,
      rowAt 0 2 Reader.u16⟩),
    (0x0154, ⟨16, none, rowAt 0 2 Reader.u16⟩),
    (0x0155, ⟨32, none, rowAt 0 2 Reader.u16⟩),
    (0x0156, ⟨64, none, rowAt 0 2 Reader.u16⟩)]

structure LinkedEntry where
  position : UInt16
  slot : UInt16
  itemPackage : UInt16
deriving DecidableEq

def LinkedEntry.read : Reader LinkedEntry := do
  let position ← Reader.u16
  let slot ← Reader.u16
  let itemPackage ← Reader.u16
  return ⟨position, slot, itemPackage⟩

def LinkedEntry.of (linked : UInt16 × InventoryItem) : LinkedEntry :=
  ⟨linked.1, linked.2.slot, linked.2.itemPackage⟩

def linkedFormats : Formats LinkedEntry :=
  [(0x014D, ⟨1, none, rowAt 0 6 LinkedEntry.read⟩),
    (0x014E, ⟨8, some (u32At 0x30), rowAt 0 6 LinkedEntry.read⟩),
    (0x014F, ⟨16, none, rowAt 0 6 LinkedEntry.read⟩),
    (0x0150, ⟨32, none, rowAt 0 6 LinkedEntry.read⟩),
    (0x0151, ⟨64, none, rowAt 0 6 LinkedEntry.read⟩)]

section Reading

variable {α ω : Type} {wire : α → ω}

theorem Formats.decode_new {formats : Formats ω} {opcode : UInt16} {batch : Batch ω}
    (listed : formats.lookup opcode = some batch) (now actorId : UInt32) (data : Bytes) :
    formats.decode (.new now opcode actorId data) = batch.decode data := by
  have opened : (SubPacket.new now opcode actorId data).gameMessage.opcode = opcode := rfl
  rw [Formats.decode, opened, listed]
  rfl

theorem u32At_count {position m : ℕ} {body rest : Bytes} (small : m < 2 ^ 32)
    (there : body.drop position = u32Count m ++ rest) : u32At position body = some m := by
  rw [u32At, there, u32Count, Reader.parse, Reader.u32_append]
  simpa using small

theorem fiveRungs_climbs {decode : SubPacket → Option (List ω)}
    {x64 x32 x16 x08 x01 : Rung α SubPacket}
    (takes64 : ∀ items offset, 64 ≤ items.length - offset → Takes decode wire x64 items offset 64)
    (takes32 : ∀ items offset, 32 ≤ items.length - offset → Takes decode wire x32 items offset 32)
    (takes16 : ∀ items offset, 16 ≤ items.length - offset → Takes decode wire x16 items offset 16)
    (takes08 : ∀ items offset, 8 ≤ items.length - offset → Takes decode wire x08 items offset 8)
    (takes01 : ∀ items offset, offset < items.length → Takes decode wire x01 items offset 1) :
    Climbs decode wire (fiveRungs x64 x32 x16 x08 x01) := by
  refine ⟨rfl, fun items offset more => ?_⟩
  have some : items.length - offset ≠ 0 := by omega
  by_cases h64 : 64 ≤ items.length - offset
  · exact ⟨x64, 64, by simp [fiveRungs, some, h64], by omega, h64, takes64 items offset h64⟩
  by_cases h32 : 32 ≤ items.length - offset
  · exact ⟨x32, 32, by simp [fiveRungs, some, h64, h32], by omega, h32, takes32 items offset h32⟩
  by_cases h16 : 16 ≤ items.length - offset
  · exact ⟨x16, 16, by simp [fiveRungs, some, h64, h32, h16], by omega, h16,
      takes16 items offset h16⟩
  by_cases h08 : 8 ≤ items.length - offset
  · exact ⟨x08, 8, by simp [fiveRungs, some, h64, h32, h16, h08], by omega, h08,
      takes08 items offset h08⟩
  · exact ⟨x01, 1, by simp [fiveRungs, some, h64, h32, h16, h08], by omega, by omega,
      takes01 items offset more⟩

variable {formats : Formats ω} {write : α → Writer Unit} {row : α → Bytes} {stride : ℕ}
  {read : Reader ω} {n cap : ℕ} {opcode : UInt16}
  (rows : Writer.Rows n 0 stride (fun _ => write) row)
  (reads : ∀ x rest, read.parse (row x ++ rest) = some (wire x)) (clock : ℕ → UInt32)
  (actorId : UInt32)
include rows reads

theorem full_takes {count : Option (ℕ × (ℕ → Bytes))} (room : stride * cap ≤ n)
    (after : ∀ field, count = some field → stride * cap ≤ field.1)
    (listed : formats.lookup opcode = some ⟨cap, none, rowAt 0 stride read⟩)
    (items : List α) (offset : ℕ) (enough : cap ≤ items.length - offset) :
    Takes formats.decode wire (rowsRung n cap [] (fun _ => write) count
      fun offset => .new (clock offset) opcode actorId) items offset cap := by
  refine rowsRung_full rows reads ?_ ?_ ?_ enough
  · rwa [List.length_nil, Nat.zero_add]
  · intro field present
    rw [List.length_nil, Nat.zero_add]
    exact after field present
  · exact fun offset data => Formats.decode_new listed (clock offset) actorId data

theorem counted_takes {position : ℕ} {bytes : ℕ → Bytes} {count : Bytes → Option ℕ}
    (after : stride * cap ≤ position) (room : ∀ m, position + (bytes m).length ≤ n)
    (listed : formats.lookup opcode = some ⟨cap, some count, rowAt 0 stride read⟩)
    (counts : ∀ body m rest, m ≤ cap → body.drop position = bytes m ++ rest →
      count body = some m)
    (items : List α) (offset : ℕ) (enough : cap ≤ items.length - offset) :
    Takes formats.decode wire (rowsRung n cap [] (fun _ => write) (some (position, bytes))
      fun offset => .new (clock offset) opcode actorId) items offset cap := by
  have taken : Takes formats.decode wire (rowsRung n cap [] (fun _ => write)
      (some (position, bytes)) fun offset => .new (clock offset) opcode actorId) items offset
        (min (items.length - offset) cap) := by
    refine rowsRung_counted rows reads ?_ room ?_ counts items offset
    · rwa [List.length_nil, Nat.zero_add]
    · exact fun offset data => Formats.decode_new listed (clock offset) actorId data
  rwa [Nat.min_eq_right enough] at taken

theorem one_takes (room : stride ≤ n)
    (listed : formats.lookup opcode = some ⟨1, none, rowAt 0 stride read⟩)
    (items : List α) (offset : ℕ) (more : offset < items.length) :
    Takes formats.decode wire (oneRung fun offset x =>
      (Writer.fill n (write x)).map (.new (clock offset) opcode actorId)) items offset 1 := by
  refine oneRung_takes (fun offset x => ?_) more
  obtain ⟨data, filled, decoded⟩ := fill_one rows reads room x
  refine ⟨.new (clock offset) opcode actorId data, ?_, ?_⟩
  · rw [filled]
    rfl
  · rw [Formats.decode_new listed, decoded]

end Reading

def itemRow (item : InventoryItem) : Bytes :=
  u64Bytes item.uniqueId ++ (u32Bytes item.quantity.toUInt32 ++ (u32Bytes item.itemId ++
    (u16Bytes (if item.linkSlot = 0xFFFF then item.slot else item.linkSlot) ++
      (zeros 14 ++ ([0, 0x03, 0, 0] ++ zeros 4)) ++ ([item.quality] ++ zeros 71))))

theorem length_itemRow (item : InventoryItem) : (itemRow item).length = 0x70 := by
  simp [itemRow]

theorem encodeItem_eq (item : InventoryItem) : encodeItem item = some (itemRow item) := by
  rw [encodeItem, Writer.fill_behind (Writer.extends_parts (by simp))]
  simp [padTo, itemRow]

theorem writeItem_rows (n : ℕ) : Writer.Rows n 0 0x70 (fun _ => writeItem) itemRow := by
  refine Writer.rows_of length_itemRow fun item front fits => ?_
  have whole : writeItem item = Writer.all (itemRow item) := by
    rw [writeItem, encodeItem_eq]
    rfl
  rw [whole]
  exact Writer.extends_all fits

theorem itemEntry_reads (item : InventoryItem) (rest : Bytes) :
    ItemEntry.read.parse (itemRow item ++ rest) = some (ItemEntry.of item) := by
  have gap : ∀ rest, (Reader.bytes 22).run (zeros 14 ++ ([0, 0x03, 0, 0] ++ (zeros 4 ++ rest))) =
      some (zeros 14 ++ ([0, 0x03, 0, 0] ++ zeros 4), rest) := by
    intro rest
    have split := Reader.bytes_append (zeros 14 ++ ([0, 0x03, 0, 0] ++ zeros 4)) rest rfl
    rw [List.append_assoc, List.append_assoc] at split
    exact split
  rw [Reader.parse, itemRow, ItemEntry.read]
  simp only [List.append_assoc, StateT.run_bind, Reader.u64_append, Reader.u32_append,
    Reader.u16_append, Option.bind_eq_bind, Option.bind_some]
  rw [gap, Option.bind_some, List.singleton_append, Reader.u8_cons]
  simp [ItemEntry.of]

theorem packetItems_climbs (clock : ℕ → UInt32) (actorId : UInt32) :
    Climbs itemFormats.decode ItemEntry.of (packetItems clock actorId) := by
  have rows := writeItem_rows
  have reads := itemEntry_reads
  refine fiveRungs_climbs ?_ ?_ ?_
    (counted_takes (rows _) reads clock actorId (by decide) ?_ rfl ?_)
    (one_takes (rows _) reads clock actorId (by decide) rfl)
  iterate 3 exact full_takes (rows _) reads clock actorId (by decide) (by rintro _ ⟨⟩; decide) rfl
  · intro m
    rw [u32Count, length_u32Bytes]
    decide
  · exact fun body m rest most => u32At_count (by omega)

theorem writeSlot_rows (n : ℕ) : Writer.Rows n 0 2 (fun _ => writeSlot) u16Bytes :=
  Writer.rows_of length_u16Bytes fun _ _ => Writer.extends_all

theorem slot_reads (slot : UInt16) (rest : Bytes) :
    Reader.u16.parse (u16Bytes slot ++ rest) = some slot := by
  rw [Reader.parse, Reader.u16_append]
  rfl

theorem packetRemoveSlots_climbs (clock : ℕ → UInt32) (actorId : UInt32) :
    Climbs slotFormats.decode id (packetRemoveSlots clock actorId) := by
  have rows := writeSlot_rows
  have reads := slot_reads
  refine fiveRungs_climbs ?_ ?_ ?_
    (counted_takes (rows _) reads clock actorId (by decide)
      (fun _ => (by decide : 0x10 + 1 ≤ body 0x38)) rfl ?_)
    (one_takes (rows _) reads clock actorId (by decide) rfl)
  iterate 3 exact full_takes (rows _) reads clock actorId (by decide) (by rintro _ ⟨⟩; decide) rfl
  intro body m rest most there
  rw [there, List.singleton_append, Reader.parse, Reader.u8_cons]
  simp
  omega

def linkedRow (linked : UInt16 × InventoryItem) : Bytes :=
  u16Bytes linked.1 ++ (u16Bytes linked.2.slot ++ u16Bytes linked.2.itemPackage)

theorem writeLinked_rows (n : ℕ) : Writer.Rows n 0 6 (fun _ => writeLinked) linkedRow := by
  refine Writer.rows_of (fun linked => by simp [linkedRow]) fun linked front fits => ?_
  have parts : linkedRow linked =
      [u16Bytes linked.1, u16Bytes linked.2.slot, u16Bytes linked.2.itemPackage].flatten := by
    simp [linkedRow]
  rw [parts] at fits ⊢
  exact Writer.extends_parts fits

theorem linkedEntry_reads (linked : UInt16 × InventoryItem) (rest : Bytes) :
    LinkedEntry.read.parse (linkedRow linked ++ rest) = some (LinkedEntry.of linked) := by
  rw [Reader.parse, linkedRow, LinkedEntry.read]
  simp only [List.append_assoc, StateT.run_bind, Reader.u16_append, Option.bind_eq_bind,
    Option.bind_some]
  rfl

theorem packetLinkedMany_climbs (clock : ℕ → UInt32) (actorId : UInt32) :
    Climbs linkedFormats.decode LinkedEntry.of (packetLinkedMany clock actorId) := by
  have rows := writeLinked_rows
  have reads := linkedEntry_reads
  refine fiveRungs_climbs ?_ ?_ ?_
    (counted_takes (rows _) reads clock actorId (by decide) ?_ rfl ?_)
    (one_takes (rows _) reads clock actorId (by decide) rfl)
  iterate 3 exact full_takes (rows _) reads clock actorId (by decide) (by rintro _ ⟨⟩) rfl
  · intro m
    rw [u32Count, length_u32Bytes]
    decide
  · exact fun body m rest most => u32At_count (by omega)

end Garlemald.Packets
