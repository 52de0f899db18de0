import Garlemald.Library.Utf8
import Garlemald.Packets.Inventory

/-!
The packets that list the members of a group, for a party and for all other groups, and
the loop that splits a list into them.
-/

namespace Garlemald.Packets

open Library Common

def OP_GROUP_MEMBERS_X08 : UInt16 := 0x017F
def OP_GROUP_MEMBERS_X16 : UInt16 := 0x0180
def OP_GROUP_MEMBERS_X32 : UInt16 := 0x0181
def OP_GROUP_MEMBERS_X64 : UInt16 := 0x0182
def OP_CONTENT_MEMBERS_X08 : UInt16 := 0x0183
def OP_CONTENT_MEMBERS_X16 : UInt16 := 0x0184
def OP_CONTENT_MEMBERS_X32 : UInt16 := 0x0185
def OP_CONTENT_MEMBERS_X64 : UInt16 := 0x0186
def OP_CREATE_NAMED_GROUP_MULTIPLE : UInt16 := 0x0189

structure GroupMember where
  actorId : UInt32
  localizedName : Int32
  unknown2 : UInt32
  flag1 : Bool
  isOnline : Bool
  name : Text

def GROUP_MEMBER_SLOT_BYTES : ℕ := 0x30
def CONTENT_MEMBER_SLOT_BYTES : ℕ := 0x0C

def memberParts (m : GroupMember) : List Bytes :=
  [u32Bytes m.actorId, u32Bytes m.localizedName.toUInt32, u32Bytes m.unknown2,
    [if m.flag1 then 1 else 0], [if m.isOnline then 1 else 0], paddedField m.name 0x20]

def encodeGroupMemberAt (slotOffset : ℕ) (m : GroupMember) : Writer Unit :=
  Writer.slice slotOffset GROUP_MEMBER_SLOT_BYTES ((memberParts m).forM Writer.all)

def contentParts (m : GroupMember) : List Bytes :=
  [u32Bytes m.actorId, u32Bytes 1001, u32Bytes 1]

-- The clock gives the time at which the packet from an offset is made.
variable (clock : ℕ → UInt32) (sourceActorId : UInt32) (locationCode sequenceId : UInt64)

def buildGroupMembersN (cap : ℕ) (opcode : UInt16) (packetSize : ℕ) :
    Rung GroupMember SubPacket :=
  rowsRung (body packetSize) cap (u64Bytes locationCode ++ u64Bytes sequenceId)
    (fun i m => encodeGroupMemberAt (0x10 + GROUP_MEMBER_SLOT_BYTES * i) m)
    (some (0x10 + GROUP_MEMBER_SLOT_BYTES * cap, u32Count))
    fun offset => .new (clock offset) opcode sourceActorId

def buildGroupMembersX08 := buildGroupMembersN clock sourceActorId locationCode sequenceId
  8 OP_GROUP_MEMBERS_X08 0x1B8
def buildGroupMembersX16 := buildGroupMembersN clock sourceActorId locationCode sequenceId
  16 OP_GROUP_MEMBERS_X16 0x330
def buildGroupMembersX32 := buildGroupMembersN clock sourceActorId locationCode sequenceId
  32 OP_GROUP_MEMBERS_X32 0x630
def buildGroupMembersX64 := buildGroupMembersN clock sourceActorId locationCode sequenceId
  64 OP_GROUP_MEMBERS_X64 0xC30

def buildContentMembersN (cap : ℕ) (opcode : UInt16) (packetSize : ℕ) :
    Rung GroupMember SubPacket :=
  rowsRung (body packetSize) cap (u64Bytes locationCode ++ u64Bytes sequenceId)
    (fun i m => Writer.slice (0x10 + CONTENT_MEMBER_SLOT_BYTES * i) CONTENT_MEMBER_SLOT_BYTES
      ((contentParts m).forM Writer.all))
    (some (0x10 + CONTENT_MEMBER_SLOT_BYTES * cap, u32Count))
    fun offset => .new (clock offset) opcode sourceActorId

def buildContentMembersX08 := buildContentMembersN clock sourceActorId locationCode sequenceId
  8 OP_CONTENT_MEMBERS_X08 0x1B8
def buildContentMembersX16 := buildContentMembersN clock sourceActorId locationCode sequenceId
  16 OP_CONTENT_MEMBERS_X16 0xF0
def buildContentMembersX32 := buildContentMembersN clock sourceActorId locationCode sequenceId
  32 OP_CONTENT_MEMBERS_X32 0x1B0
def buildContentMembersX64 := buildContentMembersN clock sourceActorId locationCode sequenceId
  64 OP_CONTENT_MEMBERS_X64 0x330

abbrev NamedGroup := UInt64 × Text × UInt16

def namedGroupParts (linkshell : NamedGroup) : List Bytes :=
  [u64Bytes linkshell.1, u16Bytes linkshell.2.2, paddedField linkshell.2.1 0x20]

def writeNamedGroup (linkshell : NamedGroup) : Writer Unit :=
  (namedGroupParts linkshell).forM Writer.all

/-- The whole list goes out at once. -/
def buildCreateNamedGroupMultiple (now : UInt32) (linkshells : List NamedGroup) :
    Option SubPacket :=
  (Writer.fill (body 0x228) (Writer.rowsThenCount (body 0x228)
    (u16Bytes (.ofNat linkshells.length) ++ u16Bytes 0) (fun _ => writeNamedGroup) linkshells
      none)).map (.new now OP_CREATE_NAMED_GROUP_MULTIPLE sourceActorId)

inductive GroupKind where
  | party
  | content
  | relation
  | trade
  | retainer
  | monster
deriving DecidableEq

inductive ChunkBucket where
  | none
  | x08
  | x16
  | x32
  | x64

def chunkBucket (remaining : ℕ) : ChunkBucket :=
  if 64 ≤ remaining then .x64
  else if 32 ≤ remaining then .x32
  else if 16 ≤ remaining then .x16
  else if 0 < remaining then .x08
  else .none

/-- The packet for a bucket; the loop ends where there is none. -/
def chunkRung (x64 x32 x16 x08 : Rung GroupMember SubPacket) :
    ChunkBucket → Option (Rung GroupMember SubPacket)
  | .none => none
  | .x08 => some x08
  | .x16 => some x16
  | .x32 => some x32
  | .x64 => some x64

def memberList (kind : GroupKind) (remaining : ℕ) : Option (Rung GroupMember SubPacket) :=
  if kind = .party then
    chunkRung (buildGroupMembersX64 clock sourceActorId locationCode sequenceId)
      (buildGroupMembersX32 clock sourceActorId locationCode sequenceId)
      (buildGroupMembersX16 clock sourceActorId locationCode sequenceId)
      (buildGroupMembersX08 clock sourceActorId locationCode sequenceId) (chunkBucket remaining)
  else
    chunkRung (buildContentMembersX64 clock sourceActorId locationCode sequenceId)
      (buildContentMembersX32 clock sourceActorId locationCode sequenceId)
      (buildContentMembersX16 clock sourceActorId locationCode sequenceId)
      (buildContentMembersX08 clock sourceActorId locationCode sequenceId)
      (chunkBucket remaining)

/-- What a client reads of a member of a party; a name that is longer than its field is cut. -/
structure MemberEntry where
  actorId : UInt32
  localizedName : Int32
  unknown2 : UInt32
  flag1 : Bool
  isOnline : Bool
  name : Bytes
deriving DecidableEq

def MemberEntry.read : Reader MemberEntry := do
  let actorId ← Reader.u32
  let localizedName ← Reader.u32
  let unknown2 ← Reader.u32
  let flag1 ← Reader.u8
  let isOnline ← Reader.u8
  let name ← Reader.bytes 0x20
  return ⟨actorId, localizedName.toInt32, unknown2, flag1 != 0, isOnline != 0, name⟩

def MemberEntry.of (m : GroupMember) : MemberEntry :=
  ⟨m.actorId, m.localizedName, m.unknown2, m.flag1, m.isOnline, paddedField m.name 0x20⟩

def memberFormats : Formats MemberEntry :=
  [(0x017F, ⟨8, some (u32At 0x190), rowAt 0x10 0x30 MemberEntry.read⟩),
    (0x0180, ⟨16, none, rowAt 0x10 0x30 MemberEntry.read⟩),
    (0x0181, ⟨32, none, rowAt 0x10 0x30 MemberEntry.read⟩),
    (0x0182, ⟨64, none, rowAt 0x10 0x30 MemberEntry.read⟩)]

/-- What a client reads of a member of another group: the actor, behind it two constants. -/
def contentFormats : Formats UInt32 :=
  [(0x0183, ⟨8, some (u32At 0x70), rowAt 0x10 0x0C Reader.u32⟩),
    (0x0184, ⟨16, none, rowAt 0x10 0x0C Reader.u32⟩),
    (0x0185, ⟨32, none, rowAt 0x10 0x0C Reader.u32⟩),
    (0x0186, ⟨64, none, rowAt 0x10 0x0C Reader.u32⟩)]

def memberRow (m : GroupMember) : Bytes := padTo 0x30 (memberParts m).flatten

theorem length_memberParts (m : GroupMember) : (memberParts m).flatten.length = 0x2E := by
  simp [memberParts]

theorem member_rows (n : ℕ) : Writer.Rows n 0x10 0x30
    (fun i m => encodeGroupMemberAt (0x10 + GROUP_MEMBER_SLOT_BYTES * i) m) memberRow := by
  refine ⟨fun m => length_padTo (by rw [length_memberParts]; decide), ?_⟩
  intro i m front start fits
  have wrote : Writer.Extends 0x30 ((memberParts m).forM Writer.all) []
      (memberParts m).flatten := by
    refine Writer.extends_parts ?_
    rw [length_memberParts]
    decide
  refine Writer.extends_slice start (by rwa [Nat.mul_succ] at fits) ?_ wrote
  rw [length_memberParts]
  decide

theorem memberEntry_reads (m : GroupMember) (rest : Bytes) :
    MemberEntry.read.parse (memberRow m ++ rest) = some (MemberEntry.of m) := by
  have name := fun rest => Reader.bytes_append (paddedField m.name 0x20) rest
    (length_paddedField ..)
  have row : memberRow m = u32Bytes m.actorId ++ (u32Bytes m.localizedName.toUInt32 ++
      (u32Bytes m.unknown2 ++ ([if m.flag1 then 1 else 0] ++
        ([if m.isOnline then 1 else 0] ++ (paddedField m.name 0x20 ++ zeros 2))))) := by
    rw [memberRow, padTo, length_memberParts]
    simp [memberParts]
  rw [Reader.parse, row, MemberEntry.read]
  simp only [List.append_assoc, List.cons_append, List.nil_append, StateT.run_bind,
    Reader.u32_append, Reader.u8_cons, Option.bind_eq_bind, Option.bind_some, name]
  have bit : ∀ b : Bool, ((if b then 1 else 0 : UInt8) != 0) = b := by decide
  simp [MemberEntry.of, bit]

def contentRow (m : GroupMember) : Bytes := (contentParts m).flatten

theorem length_contentRow (m : GroupMember) : (contentRow m).length = 0x0C := by
  simp [contentRow, contentParts]

theorem content_rows (n : ℕ) : Writer.Rows n 0x10 0x0C
    (fun i m => Writer.slice (0x10 + CONTENT_MEMBER_SLOT_BYTES * i) CONTENT_MEMBER_SLOT_BYTES
      ((contentParts m).forM Writer.all)) contentRow := by
  refine ⟨length_contentRow, ?_⟩
  intro i m front start fits
  have wrote : Writer.Extends 0x0C ((contentParts m).forM Writer.all) [] (contentRow m) :=
    Writer.extends_parts (length_contentRow m).le
  have whole : padTo 0x0C (contentRow m) = contentRow m := by
    rw [padTo, length_contentRow]
    exact List.append_nil _
  rw [← whole]
  exact Writer.extends_slice start (by rwa [Nat.mul_succ] at fits) (length_contentRow m).le wrote

theorem content_reads (m : GroupMember) (rest : Bytes) :
    Reader.u32.parse (contentRow m ++ rest) = some m.actorId := by
  rw [Reader.parse, contentRow, contentParts, List.flatten_cons, List.append_assoc,
    Reader.u32_append]
  rfl

section Rungs

variable {ω : Type} {formats : Formats ω} {wire : GroupMember → ω} {opcode : UInt16}
  {write : ℕ → GroupMember → Writer Unit} {row : GroupMember → Bytes} {read : Reader ω}
  {n cap stride : ℕ} (rows : Writer.Rows n 0x10 stride write row)
  (reads : ∀ m rest, read.parse (row m ++ rest) = some (wire m)) (clock : ℕ → UInt32)
  (sourceActorId : UInt32) (locationCode sequenceId : UInt64)
include rows reads

theorem members_full (room : 0x10 + stride * cap ≤ n)
    (listed : formats.lookup opcode = some ⟨cap, none, rowAt 0x10 stride read⟩)
    {members : List GroupMember} {offset : ℕ} (enough : cap ≤ members.length - offset) :
    Takes formats.decode wire (rowsRung n cap (u64Bytes locationCode ++ u64Bytes sequenceId)
      write (some (0x10 + stride * cap, u32Count))
        fun offset => .new (clock offset) opcode sourceActorId) members offset cap := by
  have front : (u64Bytes locationCode ++ u64Bytes sequenceId).length = 0x10 := by simp
  refine rowsRung_full (by rwa [front]) reads (by rwa [front]) ?_ ?_ enough
  · rintro _ ⟨⟩
    rw [front]
  · rw [front]
    exact fun offset data => Formats.decode_new listed (clock offset) sourceActorId data

theorem members_counted (room : 0x10 + stride * 8 + 4 ≤ n)
    (listed : formats.lookup opcode =
      some ⟨8, some (u32At (0x10 + stride * 8)), rowAt 0x10 stride read⟩)
    (members : List GroupMember) (offset : ℕ) :
    Takes formats.decode wire (rowsRung n 8 (u64Bytes locationCode ++ u64Bytes sequenceId)
      write (some (0x10 + stride * 8, u32Count))
        fun offset => .new (clock offset) opcode sourceActorId) members offset
          (min (members.length - offset) 8) := by
  have front : (u64Bytes locationCode ++ u64Bytes sequenceId).length = 0x10 := by simp
  refine rowsRung_counted (by rwa [front]) reads (by rw [front]) (fun m => ?_) ?_
    (fun body m rest most => u32At_count (by omega)) members offset
  · rwa [u32Count, length_u32Bytes]
  · rw [front]
    exact fun offset data => Formats.decode_new listed (clock offset) sourceActorId data

end Rungs

section Loops

variable (clock : ℕ → UInt32) (sourceActorId : UInt32) (locationCode sequenceId : UInt64)

theorem chunks_climb {ω : Type} {decode : SubPacket → Option (List ω)} {wire : GroupMember → ω}
    {x64 x32 x16 x08 : Rung GroupMember SubPacket}
    (takes64 : ∀ items offset, 64 ≤ items.length - offset → Takes decode wire x64 items offset 64)
    (takes32 : ∀ items offset, 32 ≤ items.length - offset → Takes decode wire x32 items offset 32)
    (takes16 : ∀ items offset, 16 ≤ items.length - offset → Takes decode wire x16 items offset 16)
    (takes08 : ∀ items offset, Takes decode wire x08 items offset
      (min (items.length - offset) 8)) :
    Climbs decode wire fun remaining => chunkRung x64 x32 x16 x08 (chunkBucket remaining) := by
  refine ⟨rfl, fun items offset more => ?_⟩
  have some : 0 < items.length - offset := by omega
  by_cases h64 : 64 ≤ items.length - offset
  · exact ⟨x64, 64, by simp [chunkRung, chunkBucket, h64], by omega, h64, takes64 items offset h64⟩
  by_cases h32 : 32 ≤ items.length - offset
  · exact ⟨x32, 32, by simp [chunkRung, chunkBucket, h64, h32], by omega, h32,
      takes32 items offset h32⟩
  by_cases h16 : 16 ≤ items.length - offset
  · exact ⟨x16, 16, by simp [chunkRung, chunkBucket, h64, h32, h16], by omega, h16,
      takes16 items offset h16⟩
  · exact ⟨x08, min (items.length - offset) 8,
      by simp only [chunkRung, chunkBucket, h64, h32, h16, some, if_true, if_false],
      by omega, Nat.min_le_left _ _, takes08 items offset⟩

theorem partyMembers_climb : Climbs memberFormats.decode MemberEntry.of
    (memberList clock sourceActorId locationCode sequenceId .party) := by
  have rows := member_rows
  have reads := memberEntry_reads
  refine chunks_climb ?_ ?_ ?_
    (fun _ _ => members_counted (rows _) reads clock _ _ _ (by decide) rfl _ _)
  all_goals exact fun _ _ => members_full (rows _) reads clock _ _ _ (by decide) rfl

theorem contentMembers_climb {kind : GroupKind} (other : kind ≠ .party) :
    Climbs contentFormats.decode GroupMember.actorId
      (memberList clock sourceActorId locationCode sequenceId kind) := by
  have rows := content_rows
  have reads := content_reads
  have content : memberList clock sourceActorId locationCode sequenceId kind =
      fun remaining => chunkRung
        (buildContentMembersX64 clock sourceActorId locationCode sequenceId)
        (buildContentMembersX32 clock sourceActorId locationCode sequenceId)
        (buildContentMembersX16 clock sourceActorId locationCode sequenceId)
        (buildContentMembersX08 clock sourceActorId locationCode sequenceId)
        (chunkBucket remaining) := by
    funext remaining
    rw [memberList, if_neg other]
  rw [content]
  refine chunks_climb ?_ ?_ ?_
    (fun _ _ => members_counted (rows _) reads clock _ _ _ (by decide) rfl _ _)
  all_goals exact fun _ _ => members_full (rows _) reads clock _ _ _ (by decide) rfl

end Loops

end Garlemald.Packets
