import Garlemald.Packets.Groups

/-!
The packets that register a group with a client: a header and a start with the number of the
members, one packet of members, and an end. The packet has eight places.
-/

namespace Garlemald.Packets

open Library Common

def OP_GROUP_HEADER : UInt16 := 0x017C
def OP_GROUP_MEMBERS_BEGIN : UInt16 := 0x017D
def OP_GROUP_MEMBERS_END : UInt16 := 0x017E

def GROUP_TYPE_PLAYER_PARTY : UInt32 := 10001
def GROUP_TYPE_CONTENT_GROUP : UInt32 := 30006
def PARTY_GROUP_ID_FLAG : UInt64 := 0x8000000000000000
def CONTENT_GROUP_INDEX : UInt64 := 0x3000000000000001

def partyGroupIndex (leaderActorId : UInt32) (memberCount : ℕ) (compositionOrdinal : UInt32) :
    UInt64 :=
  if memberCount ≤ 1 then PARTY_GROUP_ID_FLAG ||| leaderActorId.toUInt64
  else
    PARTY_GROUP_ID_FLAG ||| (leaderActorId.toUInt64 <<< 16) |||
      (compositionOrdinal &&& 0xFFFF).toUInt64

/-- The header has another shape for a party of more than one. -/
def buildGroupHeader (now sourceActorId : UInt32) (locationCode sequenceId groupIndex : UInt64)
    (typeId : UInt32) (localizedName : Int32) (groupName : Text) (memberCount : UInt32) :
    Option SubPacket :=
  let isMultiMemberParty := typeId = GROUP_TYPE_PLAYER_PARTY ∧ 1 < memberCount
  let marks := if isMultiMemberParty then u64Bytes 0 ++ u64Bytes 0
    else u64Bytes 3 ++ u64Bytes groupIndex
  let quad : UInt32 := if isMultiMemberParty then 0x3F3E else 0x6D
  (Writer.fill (body 0x98) do
    [u64Bytes locationCode, u64Bytes sequenceId, marks, u64Bytes 0, u64Bytes groupIndex,
      u32Bytes typeId].forM Writer.all
    Writer.seek 0x40
    [u32Bytes localizedName.toUInt32, paddedField groupName 0x20].forM Writer.all
    Writer.seek 0x64
    [u32Bytes quad, u32Bytes quad, u32Bytes quad, u32Bytes quad,
      u32Bytes memberCount].forM Writer.all).map (.new now OP_GROUP_HEADER sourceActorId)

def buildGroupMembersBegin (now sourceActorId : UInt32)
    (locationCode sequenceId groupIndex : UInt64) (memberCount : UInt32) : Option SubPacket :=
  (Writer.fill (body 0x40) ([u64Bytes locationCode, u64Bytes sequenceId, u64Bytes groupIndex,
    u32Bytes memberCount].forM Writer.all)).map (.new now OP_GROUP_MEMBERS_BEGIN sourceActorId)

def buildGroupMembersEnd (now sourceActorId : UInt32)
    (locationCode sequenceId groupIndex : UInt64) : Option SubPacket :=
  (Writer.fill (body 0x38) ([u64Bytes locationCode, u64Bytes sequenceId,
    u64Bytes groupIndex].forM Writer.all)).map (.new now OP_GROUP_MEMBERS_END sourceActorId)

-- The clock gives the time at which the packet of a number is made.
variable (clock : ℕ → UInt32) (sourceActorId : UInt32) (locationCode sequenceId : UInt64)

/-- The four packets of a registration, with one packet of members between start and end. -/
def groupTrio (groupIndex : UInt64) (typeId : UInt32) (membersX08 : Rung GroupMember SubPacket)
    (members : List GroupMember) : Option (List SubPacket) := do
  let count := UInt32.ofNat members.length
  let header ← buildGroupHeader (clock 0) sourceActorId locationCode sequenceId groupIndex typeId
    (-1) [] count
  let start ← buildGroupMembersBegin (clock 1) sourceActorId locationCode sequenceId groupIndex
    count
  let rows ← membersX08 members 0
  let stop ← buildGroupMembersEnd (clock 3) sourceActorId locationCode sequenceId groupIndex
  some [header, start, rows.1, stop]

def buildContentGroupTrio : List GroupMember → Option (List SubPacket) :=
  groupTrio clock sourceActorId locationCode sequenceId CONTENT_GROUP_INDEX
    GROUP_TYPE_CONTENT_GROUP
    (buildContentMembersX08 (fun _ => clock 2) sourceActorId locationCode sequenceId)

def partyGroupTrio (compositionOrdinal : UInt32) (members : List GroupMember) :
    Option (List SubPacket) :=
  groupTrio clock sourceActorId locationCode sequenceId
    (partyGroupIndex sourceActorId members.length compositionOrdinal) GROUP_TYPE_PLAYER_PARTY
    (buildGroupMembersX08 (fun _ => clock 2) sourceActorId locationCode sequenceId) members

def u64At (position : ℕ) (body : Bytes) : Option UInt64 := Reader.u64.parse (body.drop position)

structure GroupSync (ω : Type) where
  groupIndex : UInt64
  headerCount : ℕ
  beginCount : ℕ
  members : List ω

def readGroup {ω : Type} (formats : Formats ω) : List SubPacket → Option (GroupSync ω)
  | header :: start :: rest => do
      let stop ← rest.getLast?
      guard (header.gameMessage.opcode = OP_GROUP_HEADER ∧
        start.gameMessage.opcode = OP_GROUP_MEMBERS_BEGIN ∧
          stop.gameMessage.opcode = OP_GROUP_MEMBERS_END)
      let groupIndex ← u64At 0x28 header.data
      let beginIndex ← u64At 0x10 start.data
      let endIndex ← u64At 0x10 stop.data
      guard (beginIndex = groupIndex ∧ endIndex = groupIndex)
      let headerCount ← u32At 0x74 header.data
      let beginCount ← u32At 0x18 start.data
      let members ← received formats.decode rest.dropLast
      some { groupIndex, headerCount, beginCount, members }
  | _ => none

/-- The client reads the members in order, as many as the header and the start announce. -/
def Complete {ω : Type} (formats : Formats ω) (wire : GroupMember → ω) (packets : List SubPacket)
    (members : List GroupMember) : Prop :=
  ∃ sync, readGroup formats packets = some sync ∧ sync.members = members.map wire ∧
    sync.headerCount = sync.members.length ∧ sync.beginCount = sync.members.length

section Reading

theorem fill_room (n : ℕ) (parts : List Bytes) (fits : parts.flatten.length ≤ n) :
    Writer.fill n (parts.forM Writer.all) =
      some (parts.flatten ++ zeros (n - parts.flatten.length)) := by
  have written := Writer.forM_all_blank parts [] fits
  rw [List.nil_append] at written
  exact Writer.fill_eq written

theorem u64At_part {position : ℕ} {body : Bytes} {n : UInt64} (front : Bytes)
    (start : front.length = position) (laid : ∃ rest, body = front ++ (u64Bytes n ++ rest)) :
    u64At position body = some n := by
  obtain ⟨rest, rfl⟩ := laid
  rw [u64At, List.drop_left' start, Reader.parse, Reader.u64_append]
  rfl

theorem u32At_part {position : ℕ} {body : Bytes} {n : UInt32} (front : Bytes)
    (start : front.length = position) (laid : ∃ rest, body = front ++ (u32Bytes n ++ rest)) :
    u32At position body = some n.toNat := by
  obtain ⟨rest, rfl⟩ := laid
  rw [u32At, List.drop_left' start, Reader.parse, Reader.u32_append]
  rfl

variable (now : UInt32) (groupIndex : UInt64) (typeId : UInt32) (localizedName : Int32)
  (groupName : Text) (memberCount : UInt32)

theorem header_reads : ∃ header,
    buildGroupHeader now sourceActorId locationCode sequenceId groupIndex typeId localizedName
      groupName memberCount = some header ∧
    header.gameMessage.opcode = OP_GROUP_HEADER ∧ u64At 0x28 header.data = some groupIndex ∧
      u32At 0x74 header.data = some memberCount.toNat := by
  simp only [buildGroupHeader]
  generalize shape : (if typeId = GROUP_TYPE_PLAYER_PARTY ∧ 1 < memberCount then
    u64Bytes 0 ++ u64Bytes 0 else u64Bytes 3 ++ u64Bytes groupIndex) = marks
  generalize (if typeId = GROUP_TYPE_PLAYER_PARTY ∧ 1 < memberCount then (0x3F3E : UInt32)
    else 0x6D) = quad
  have whole : marks.length = 0x10 := by
    rw [← shape]
    split <;> simp
  let front := [u64Bytes locationCode, u64Bytes sequenceId, marks, u64Bytes 0,
    u64Bytes groupIndex, u32Bytes typeId].flatten
  let named := padTo 0x40 front ++ [u32Bytes localizedName.toUInt32,
    paddedField groupName 0x20].flatten
  have front_length : front.length = 0x34 := by simp [front, whole]
  have named_length : named.length = 0x64 := by
    simp [named, length_padTo, front_length]
  have first : Writer.Extends (body 0x98) ([u64Bytes locationCode, u64Bytes sequenceId, marks,
      u64Bytes 0, u64Bytes groupIndex, u32Bytes typeId].forM Writer.all) [] front :=
    Writer.extends_parts (by simp [body, whole])
  have moved : Writer.Extends (body 0x98) (Writer.seek 0x40) front (padTo 0x40 front) :=
    Writer.extends_seek (by omega) (by decide)
  have second : Writer.Extends (body 0x98) ([u32Bytes localizedName.toUInt32,
      paddedField groupName 0x20].forM Writer.all) (padTo 0x40 front) named :=
    Writer.extends_parts (by simp [body, length_padTo, front_length])
  have again : Writer.Extends (body 0x98) (Writer.seek 0x64) named (padTo 0x64 named) :=
    Writer.extends_seek (by omega) (by decide)
  have last : Writer.Extends (body 0x98) ([u32Bytes quad, u32Bytes quad, u32Bytes quad,
      u32Bytes quad, u32Bytes memberCount].forM Writer.all) (padTo 0x64 named)
        (padTo 0x64 named ++ [u32Bytes quad, u32Bytes quad, u32Bytes quad, u32Bytes quad,
          u32Bytes memberCount].flatten) :=
    Writer.extends_parts (by simp [body, length_padTo, named_length])
  have wrote := first.bind (moved.bind (second.bind (again.bind last)))
  refine ⟨_, by rw [Writer.fill_behind wrote]; rfl, rfl, ?_, ?_⟩
  · apply u64At_part (u64Bytes locationCode ++ (u64Bytes sequenceId ++ (marks ++ u64Bytes 0)))
    · simp [whole]
    · refine ⟨u32Bytes typeId ++ ?_, ?_⟩
      rotate_left
      · simp only [SubPacket.new, SubPacket.newWithFlag, padTo, named, front, List.flatten_cons,
          List.flatten_nil, List.append_assoc]
        rfl
  · apply u32At_part (padTo 0x64 named ++ (u32Bytes quad ++ (u32Bytes quad ++ (u32Bytes quad ++
      u32Bytes quad))))
    · simp [length_padTo, named_length]
    · refine ⟨?_, ?_⟩
      rotate_left
      · simp only [SubPacket.new, SubPacket.newWithFlag, padTo, List.flatten_cons,
          List.flatten_nil, List.append_assoc]
        rfl

theorem begin_reads : ∃ start,
    buildGroupMembersBegin now sourceActorId locationCode sequenceId groupIndex memberCount =
      some start ∧
    start.gameMessage.opcode = OP_GROUP_MEMBERS_BEGIN ∧ u64At 0x10 start.data = some groupIndex ∧
      u32At 0x18 start.data = some memberCount.toNat := by
  have wrote := fill_room (body 0x40) [u64Bytes locationCode, u64Bytes sequenceId,
    u64Bytes groupIndex, u32Bytes memberCount] (by simp [body])
  have laid : ([u64Bytes locationCode, u64Bytes sequenceId, u64Bytes groupIndex,
      u32Bytes memberCount].flatten ++ zeros (body 0x40 - [u64Bytes locationCode,
        u64Bytes sequenceId, u64Bytes groupIndex, u32Bytes memberCount].flatten.length)) =
      u64Bytes locationCode ++ (u64Bytes sequenceId ++ (u64Bytes groupIndex ++
        (u32Bytes memberCount ++ zeros 4))) := by
    simp [body]
  refine ⟨_, by rw [buildGroupMembersBegin, wrote, laid]; rfl, rfl, ?_, ?_⟩
  · apply u64At_part (u64Bytes locationCode ++ u64Bytes sequenceId) (by simp)
    exact ⟨u32Bytes memberCount ++ zeros 4, (List.append_assoc _ _ _).symm⟩
  · apply u32At_part (u64Bytes locationCode ++ (u64Bytes sequenceId ++ u64Bytes groupIndex))
      (by simp)
    refine ⟨zeros 4, ?_⟩
    simp only [List.append_assoc]
    rfl

theorem end_reads : ∃ stop,
    buildGroupMembersEnd now sourceActorId locationCode sequenceId groupIndex = some stop ∧
    stop.gameMessage.opcode = OP_GROUP_MEMBERS_END ∧ u64At 0x10 stop.data = some groupIndex := by
  have wrote := fill_room (body 0x38) [u64Bytes locationCode, u64Bytes sequenceId,
    u64Bytes groupIndex] (by simp [body])
  refine ⟨_, by rw [buildGroupMembersEnd, wrote]; rfl, rfl, ?_⟩
  apply u64At_part (u64Bytes locationCode ++ u64Bytes sequenceId) (by simp)
  refine ⟨?_, ?_⟩
  rotate_left
  · simp only [SubPacket.new, SubPacket.newWithFlag, List.flatten_cons, List.flatten_nil,
      List.append_assoc]
    rfl

theorem trio_reads {ω : Type} {formats : Formats ω} {wire : GroupMember → ω}
    {membersX08 : Rung GroupMember SubPacket} {members : List GroupMember}
    (takes : Takes formats.decode wire membersX08 members 0 (min (members.length - 0) 8)) :
    ∃ packets, groupTrio clock sourceActorId locationCode sequenceId groupIndex typeId membersX08
        members = some packets ∧
      readGroup formats packets = some ⟨groupIndex, members.length % 2 ^ 32,
        members.length % 2 ^ 32, (members.take 8).map wire⟩ := by
  have count : (UInt32.ofNat members.length).toNat = members.length % 2 ^ 32 := by
    rw [UInt32.toNat_ofNat']
  obtain ⟨header, built, opens, headed, counted⟩ := header_reads sourceActorId locationCode
    sequenceId (clock 0) groupIndex typeId (-1) [] (.ofNat members.length)
  obtain ⟨start, started, begins, marked, announced⟩ := begin_reads sourceActorId locationCode
    sequenceId (clock 1) groupIndex (.ofNat members.length)
  obtain ⟨rows, filled, decoded⟩ := takes
  obtain ⟨stop, stopped, ends, closed⟩ := end_reads sourceActorId locationCode sequenceId (clock 3)
    groupIndex
  rw [count] at counted announced
  refine ⟨[header, start, rows, stop], ?_, ?_⟩
  · simp [groupTrio, built, started, filled, stopped]
  · have taken : (members.drop 0).take (min (members.length - 0) 8) = members.take 8 := by
      rw [List.drop_zero, Nat.sub_zero, List.take_eq_take_iff]
      omega
    rw [taken] at decoded
    simp [readGroup, opens, begins, ends, headed, marked, closed, counted, announced, received,
      decoded]

theorem complete_iff {ω : Type} {formats : Formats ω} {wire : GroupMember → ω}
    {packets : List SubPacket} {members : List GroupMember} {groupIndex : UInt64}
    (read : readGroup formats packets = some ⟨groupIndex, members.length % 2 ^ 32,
      members.length % 2 ^ 32, (members.take 8).map wire⟩) :
    Complete formats wire packets members ↔ members.length ≤ 8 := by
  constructor
  · rintro ⟨sync, same, listed, _⟩
    rw [read] at same
    cases same
    have lengths := congrArg List.length listed
    simp only [List.length_map, List.length_take] at lengths
    omega
  · intro few
    refine ⟨_, read, ?_, ?_, ?_⟩
    · rw [List.take_of_length_le few]
    · simp only [List.length_map, List.length_take]
      omega
    · simp only [List.length_map, List.length_take]
      omega

theorem contentTrio_complete_iff (members : List GroupMember) : ∃ packets,
    buildContentGroupTrio clock sourceActorId locationCode sequenceId members = some packets ∧
      (Complete contentFormats GroupMember.actorId packets members ↔ members.length ≤ 8) := by
  have takes : Takes contentFormats.decode GroupMember.actorId
      (buildContentMembersX08 (fun _ => clock 2) sourceActorId locationCode sequenceId) members 0
        (min (members.length - 0) 8) :=
    members_counted (content_rows _) content_reads _ _ _ _ (by decide) rfl members 0
  obtain ⟨packets, built, read⟩ := trio_reads clock sourceActorId locationCode sequenceId
    CONTENT_GROUP_INDEX GROUP_TYPE_CONTENT_GROUP takes
  exact ⟨packets, built, complete_iff read⟩

theorem partyTrio_complete_iff (compositionOrdinal : UInt32) (members : List GroupMember) :
    ∃ packets, partyGroupTrio clock sourceActorId locationCode sequenceId compositionOrdinal
        members = some packets ∧
      (readGroup memberFormats packets).map (·.groupIndex) =
        some (partyGroupIndex sourceActorId members.length compositionOrdinal) ∧
      (Complete memberFormats MemberEntry.of packets members ↔ members.length ≤ 8) := by
  have takes : Takes memberFormats.decode MemberEntry.of
      (buildGroupMembersX08 (fun _ => clock 2) sourceActorId locationCode sequenceId) members 0
        (min (members.length - 0) 8) :=
    members_counted (member_rows _) memberEntry_reads _ _ _ _ (by decide) rfl members 0
  obtain ⟨packets, built, read⟩ := trio_reads clock sourceActorId locationCode sequenceId
    (partyGroupIndex sourceActorId members.length compositionOrdinal) GROUP_TYPE_PLAYER_PARTY takes
  exact ⟨packets, built, by rw [read]; rfl, complete_iff read⟩

end Reading

end Garlemald.Packets
