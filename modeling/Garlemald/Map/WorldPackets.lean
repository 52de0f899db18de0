import Garlemald.Common.BasePacket
import Garlemald.Library.Utf8

/-!
The map server's requests to the world server: one builder for each control
packet, over a zero-filled body of the packet's fixed capacity. Every builder of
this file wraps its body as a game message. A write that leaves the body is a
panic.
-/

namespace Garlemald.Map
open Library Garlemald.Common

def opSessionBegin : UInt16 := 0x1000

def opSessionEnd : UInt16 := 0x1001

def opWorldZoneChangeRequest : UInt16 := 0x1002

def opWorldPartyModify : UInt16 := 0x1020

def opWorldPartyLeave : UInt16 := 0x1021

def opWorldPartyInvite : UInt16 := 0x1022

def opWorldGroupInviteResult : UInt16 := 0x1023

def opWorldCreateLinkshell : UInt16 := 0x1025

def opWorldModifyLinkshell : UInt16 := 0x1026

def opWorldDeleteLinkshell : UInt16 := 0x1027

def opWorldLinkshellChange : UInt16 := 0x1028

def opWorldLinkshellInvite : UInt16 := 0x1029

def opWorldLinkshellInviteCancel : UInt16 := 0x1030

def opWorldLinkshellLeave : UInt16 := 0x1031

def opWorldLinkshellRankChange : UInt16 := 0x1032

/-- The bytes of `s` truncated to `width` and padded with zeros. -/
def writePaddedAscii (s : Text) (width : Nat) : Writer Unit := do
  let n := min (utf8 s).length width
  Writer.all ((utf8 s).take n)
  Writer.all (zeros (width - n))

/-- Fill the body of a packet of `total` bytes and wrap it as a game message. -/
def buildBody (now : UInt32) (opcode : UInt16) (sessionId : UInt32) (total : Nat)
    (w : Writer Unit) : Option SubPacket :=
  (Writer.fill (total - 0x20) w).map (SubPacket.new now opcode sessionId)

/-- The kicked name if there is one; the next write lands at offset 0x22 either way. -/
def writeKickedName (kickedName : Option Text) (isKicked : Bool) : Writer Unit :=
  match isKicked, kickedName with
  | true, some k => do
      writePaddedAscii k 0x20
      Writer.seek 0x22
  | _, _ => Writer.seek 0x22

/-- The field a linkshell change selects: 0 is the new name, 1 the crest, 2 the master. -/
def writeChange (changeArg : UInt16) (newName : Text) (crest : UInt16) (master : UInt32) :
    Writer Unit :=
  if changeArg = 0 then Writer.all ((utf8 newName).take 0x20)
  else if changeArg = 1 then Writer.u16 crest
  else if changeArg = 2 then Writer.u32 master
  else pure ()

section Builders

variable (now sessionId : UInt32)

def buildSessionBeginConfirm (errorCode : UInt16) : Option SubPacket :=
  buildBody now opSessionBegin sessionId 0x28 do
    Writer.u32 sessionId
    Writer.u16 errorCode

def buildSessionEndConfirm (destinationZone : UInt32) (errorCode : UInt16) : Option SubPacket :=
  buildBody now opSessionEnd sessionId 0x30 do
    Writer.u32 sessionId
    Writer.u16 errorCode
    Writer.u32 destinationZone

/-- The coordinates and the rotation are the bit patterns of 32-bit floats. -/
def buildWorldRequestZoneChange (destinationZoneId : UInt32) (spawnType : UInt8)
    (spawnX spawnY spawnZ spawnRotation : UInt32) : Option SubPacket :=
  buildBody now opWorldZoneChangeRequest sessionId 0x48 do
    Writer.u32 sessionId
    Writer.u32 destinationZoneId
    Writer.u16 spawnType.toUInt16
    Writer.u32 spawnX
    Writer.u32 spawnY
    Writer.u32 spawnZ
    Writer.u32 spawnRotation

def buildPartyModifyByName (command : UInt16) (name : Text) : Option SubPacket :=
  buildBody now opWorldPartyModify sessionId 0x48 do
    Writer.u16 command
    writePaddedAscii name 0x20

def buildPartyModifyByActor (command : UInt16) (actorId : UInt32) : Option SubPacket :=
  buildBody now opWorldPartyModify sessionId 0x48 do
    Writer.u16 (command + 2)
    Writer.u32 actorId

def buildPartyLeave (isDisband : Bool) : Option SubPacket :=
  buildBody now opWorldPartyLeave sessionId 0x28 do
    Writer.u16 (if isDisband then 1 else 0)

def buildPartyInviteByName (name : Text) : Option SubPacket :=
  buildBody now opWorldPartyInvite sessionId 0x48 do
    Writer.u16 0
    writePaddedAscii name 0x20

def buildPartyInviteByActor (actorId : UInt32) : Option SubPacket :=
  buildBody now opWorldPartyInvite sessionId 0x48 do
    Writer.u16 1
    Writer.u32 actorId

def buildGroupInviteResult (groupType result : UInt32) : Option SubPacket :=
  buildBody now opWorldGroupInviteResult sessionId 0x28 do
    Writer.u32 groupType
    Writer.u32 result

def buildCreateLinkshell (name : Text) (crest : UInt16) (master : UInt32) : Option SubPacket :=
  buildBody now opWorldCreateLinkshell sessionId 0x48 do
    writePaddedAscii name 0x20
    Writer.seek 0x20
    Writer.u16 crest
    Writer.u32 master

/-- Names are written truncated and not padded. -/
def buildModifyLinkshell (changeArg : UInt16) (name newName : Text) (crest : UInt16)
    (master : UInt32) : Option SubPacket :=
  buildBody now opWorldModifyLinkshell sessionId 0x60 do
    Writer.all ((utf8 name).take 0x20)
    Writer.u16 changeArg
    writeChange changeArg newName crest master

def buildDeleteLinkshell (name : Text) : Option SubPacket :=
  buildBody now opWorldDeleteLinkshell sessionId 0x40 do
    writePaddedAscii name 0x20

def buildLinkshellChange (lsName : Text) : Option SubPacket :=
  buildBody now opWorldLinkshellChange sessionId 0x48 do
    writePaddedAscii lsName 0x20

def buildLinkshellInvite (actorId : UInt32) (linkshellName : Text) : Option SubPacket :=
  buildBody now opWorldLinkshellInvite sessionId 0x48 do
    Writer.u32 actorId
    writePaddedAscii linkshellName 0x20

def buildLinkshellInviteCancel : Option SubPacket :=
  buildBody now opWorldLinkshellInviteCancel sessionId 0x28 (pure ())

def buildLinkshellLeave (lsName : Text) (kickedName : Option Text) (isKicked : Bool) :
    Option SubPacket :=
  buildBody now opWorldLinkshellLeave sessionId 0x68 do
    Writer.u16 (if isKicked then 1 else 0)
    writeKickedName kickedName isKicked
    writePaddedAscii lsName 0x20

def buildLinkshellRankChange (name lsName : Text) (rank : UInt8) : Option SubPacket :=
  buildBody now opWorldLinkshellRankChange sessionId 0x68 do
    writePaddedAscii name 0x20
    Writer.seek 0x20
    writePaddedAscii lsName 0x20
    Writer.seek 0x40
    Writer.u8 rank

end Builders

/-- A call of one of the builders, without the session id every one of them takes. -/
inductive WorldPacket where
  | sessionBeginConfirm (errorCode : UInt16)
  | sessionEndConfirm (destinationZone : UInt32) (errorCode : UInt16)
  | worldRequestZoneChange (destinationZoneId : UInt32) (spawnType : UInt8)
      (spawnX spawnY spawnZ spawnRotation : UInt32)
  | partyModifyByName (command : UInt16) (name : Text)
  | partyModifyByActor (command : UInt16) (actorId : UInt32)
  | partyLeave (isDisband : Bool)
  | partyInviteByName (name : Text)
  | partyInviteByActor (actorId : UInt32)
  | groupInviteResult (groupType result : UInt32)
  | createLinkshell (name : Text) (crest : UInt16) (master : UInt32)
  | modifyLinkshell (changeArg : UInt16) (name newName : Text) (crest : UInt16) (master : UInt32)
  | deleteLinkshell (name : Text)
  | linkshellChange (lsName : Text)
  | linkshellInvite (actorId : UInt32) (linkshellName : Text)
  | linkshellInviteCancel
  | linkshellLeave (lsName : Text) (kickedName : Option Text) (isKicked : Bool)
  | linkshellRankChange (name lsName : Text) (rank : UInt8)
deriving DecidableEq, Repr

namespace WorldPacket

def opcode : WorldPacket → UInt16
  | sessionBeginConfirm _ => opSessionBegin
  | sessionEndConfirm _ _ => opSessionEnd
  | worldRequestZoneChange _ _ _ _ _ _ => opWorldZoneChangeRequest
  | partyModifyByName _ _ => opWorldPartyModify
  | partyModifyByActor _ _ => opWorldPartyModify
  | partyLeave _ => opWorldPartyLeave
  | partyInviteByName _ => opWorldPartyInvite
  | partyInviteByActor _ => opWorldPartyInvite
  | groupInviteResult _ _ => opWorldGroupInviteResult
  | createLinkshell _ _ _ => opWorldCreateLinkshell
  | modifyLinkshell _ _ _ _ _ => opWorldModifyLinkshell
  | deleteLinkshell _ => opWorldDeleteLinkshell
  | linkshellChange _ => opWorldLinkshellChange
  | linkshellInvite _ _ => opWorldLinkshellInvite
  | linkshellInviteCancel => opWorldLinkshellInviteCancel
  | linkshellLeave _ _ _ => opWorldLinkshellLeave
  | linkshellRankChange _ _ _ => opWorldLinkshellRankChange

def build (now sessionId : UInt32) : WorldPacket → Option SubPacket
  | sessionBeginConfirm errorCode => buildSessionBeginConfirm now sessionId errorCode
  | sessionEndConfirm destinationZone errorCode =>
      buildSessionEndConfirm now sessionId destinationZone errorCode
  | worldRequestZoneChange destinationZoneId spawnType x y z rotation =>
      buildWorldRequestZoneChange now sessionId destinationZoneId spawnType x y z rotation
  | partyModifyByName command name => buildPartyModifyByName now sessionId command name
  | partyModifyByActor command actorId => buildPartyModifyByActor now sessionId command actorId
  | partyLeave isDisband => buildPartyLeave now sessionId isDisband
  | partyInviteByName name => buildPartyInviteByName now sessionId name
  | partyInviteByActor actorId => buildPartyInviteByActor now sessionId actorId
  | groupInviteResult groupType result => buildGroupInviteResult now sessionId groupType result
  | createLinkshell name crest master => buildCreateLinkshell now sessionId name crest master
  | modifyLinkshell changeArg name newName crest master =>
      buildModifyLinkshell now sessionId changeArg name newName crest master
  | deleteLinkshell name => buildDeleteLinkshell now sessionId name
  | linkshellChange lsName => buildLinkshellChange now sessionId lsName
  | linkshellInvite actorId linkshellName =>
      buildLinkshellInvite now sessionId actorId linkshellName
  | linkshellInviteCancel => buildLinkshellInviteCancel now sessionId
  | linkshellLeave lsName kickedName isKicked =>
      buildLinkshellLeave now sessionId lsName kickedName isKicked
  | linkshellRankChange name lsName rank =>
      buildLinkshellRankChange now sessionId name lsName rank

end WorldPacket

theorem writePaddedAscii_keeps (s : Text) (width : Nat) :
    Writer.Keeps (writePaddedAscii s width) :=
  .bind (.all _) fun _ => .all _

theorem writeKickedName_keeps (kickedName : Option Text) (isKicked : Bool) :
    Writer.Keeps (writeKickedName kickedName isKicked) := by
  simp only [writeKickedName]
  split
  · exact .bind (writePaddedAscii_keeps ..) fun _ => .seek _
  · exact .seek _

theorem writeChange_keeps (changeArg : UInt16) (newName : Text) (crest : UInt16)
    (master : UInt32) : Writer.Keeps (writeChange changeArg newName crest master) := by
  rw [writeChange]
  split
  · exact .all _
  · split
    · exact .u16 _
    · split
      · exact .u32 _
      · exact .pure _

variable {now sessionId : UInt32} {opcode : UInt16} {w : Writer Unit}

theorem buildBody_length {total : Nat} {p : SubPacket}
    (h : buildBody now opcode sessionId total w = some p) (keeps : Writer.Keeps w) :
    p.data.length = total - 0x20 := by
  obtain ⟨data, filled, rfl⟩ := Option.map_eq_some_iff.mp h
  exact keeps.length_fill filled

/-- Whatever a body is filled with, the packet around it is an untargeted game message
that carries the builder's opcode in its inner header only. -/
structure UntargetedMessage (opcode : UInt16) (p : SubPacket) : Prop where
  type_eq : p.header.type = subpacketTypeGamemessage
  target_eq : p.header.targetId = 0
  opcode_eq : p.gameMessage.opcode = opcode
  sized : p.Sized
  fits : basepacketSize + p.encoding.length < 0x10000

theorem buildBody_untargeted {total : Nat} {p : SubPacket}
    (h : buildBody now opcode sessionId total w = some p) (keeps : Writer.Keeps w)
    (small : total ≤ 0x68) : UntargetedMessage opcode p := by
  have len := buildBody_length h keeps
  obtain ⟨data, filled, rfl⟩ := Option.map_eq_some_iff.mp h
  have content : (SubPacket.new now opcode sessionId data).data = data := rfl
  rw [content] at len
  refine ⟨rfl, rfl, rfl, SubPacket.newWithFlag_sized ?_ ?_, ?_⟩
  · omega
  · intro plain
    contradiction
  · rw [SubPacket.length_encoding, content, len]
    simp only [basepacketSize, subpacketSize, gamemessageSize]
    split <;> omega

theorem WorldPacket.build_untargeted {k : WorldPacket} {p : SubPacket}
    (h : k.build now sessionId = some p) : UntargetedMessage k.opcode p := by
  have u16 := Writer.Keeps.u16
  have u32 := Writer.Keeps.u32
  have name := writePaddedAscii_keeps
  cases k <;>
    simp only [build, opcode, buildSessionBeginConfirm, buildSessionEndConfirm,
      buildWorldRequestZoneChange, buildPartyModifyByName, buildPartyModifyByActor,
      buildPartyLeave, buildPartyInviteByName, buildPartyInviteByActor, buildGroupInviteResult,
      buildCreateLinkshell, buildModifyLinkshell, buildDeleteLinkshell, buildLinkshellChange,
      buildLinkshellInvite, buildLinkshellInviteCancel, buildLinkshellLeave,
      buildLinkshellRankChange] at h ⊢ <;>
    refine buildBody_untargeted h ?_ (by decide)
  case sessionBeginConfirm errorCode => exact .bind (u32 _) fun _ => u16 _
  case sessionEndConfirm destinationZone errorCode =>
    exact .bind (u32 _) fun _ => .bind (u16 _) fun _ => u32 _
  case worldRequestZoneChange destinationZoneId spawnType x y z rotation =>
    exact .bind (u32 _) fun _ => .bind (u32 _) fun _ => .bind (u16 _) fun _ =>
      .bind (u32 _) fun _ => .bind (u32 _) fun _ => .bind (u32 _) fun _ => u32 _
  case partyModifyByName command text => exact .bind (u16 _) fun _ => name _ _
  case partyModifyByActor command actorId => exact .bind (u16 _) fun _ => u32 _
  case partyLeave isDisband => exact u16 _
  case partyInviteByName text => exact .bind (u16 _) fun _ => name _ _
  case partyInviteByActor actorId => exact .bind (u16 _) fun _ => u32 _
  case groupInviteResult groupType result => exact .bind (u32 _) fun _ => u32 _
  case createLinkshell text crest master =>
    exact .bind (name _ _) fun _ => .bind (.seek _) fun _ => .bind (u16 _) fun _ => u32 _
  case modifyLinkshell changeArg text newName crest master =>
    exact .bind (.all _) fun _ => .bind (u16 _) fun _ => writeChange_keeps _ _ _ _
  case deleteLinkshell text => exact name _ _
  case linkshellChange text => exact name _ _
  case linkshellInvite actorId text => exact .bind (u32 _) fun _ => name _ _
  case linkshellInviteCancel => exact .pure _
  case linkshellLeave text kickedName isKicked =>
    exact .bind (u16 _) fun _ => .bind (writeKickedName_keeps _ _) fun _ => name _ _
  case linkshellRankChange text lsName rank =>
    exact .bind (name _ _) fun _ => .bind (.seek _) fun _ => .bind (name _ _) fun _ =>
      .bind (.seek _) fun _ => .u8 _

theorem writePaddedAscii_blank (s : Text) (width : Nat) (front : Bytes) (room : Nat) :
    (writePaddedAscii s width).run (BodyCursor.blank front (room + width)) =
      some ((), BodyCursor.blank (front ++ paddedField s width) room) := by
  have cut : (utf8 s).take (min (utf8 s).length width) = (utf8 s).take width :=
    List.take_eq_take_iff.mpr (by omega)
  have pad : width - min (utf8 s).length width = width - (utf8 s).length := by omega
  have fits : ((utf8 s).take width).length ≤ room + width := by
    rw [List.length_take]; omega
  have fits' : (zeros (width - (utf8 s).length)).length ≤
      room + width - ((utf8 s).take width).length := by
    rw [length_zeros, List.length_take]; omega
  have name := Writer.all_blank ((utf8 s).take width) front fits
  have rest := Writer.all_blank (zeros (width - (utf8 s).length)) (front ++ (utf8 s).take width)
    fits'
  have left : room + width - ((utf8 s).take width).length -
      (zeros (width - (utf8 s).length)).length = room := by
    rw [length_zeros, List.length_take]; omega
  rw [left, List.append_assoc] at rest
  simp only [writePaddedAscii, cut, pad, StateT.run_bind, name, paddedField]
  exact rest

@[simp] theorem writePaddedAscii_name (s : Text) (front : Bytes) (room : Nat) :
    (writePaddedAscii s 0x20).run (BodyCursor.blank front (room + 0x20)) =
      some ((), BodyCursor.blank (front ++ paddedField s 0x20) room) :=
  writePaddedAscii_blank s 0x20 front room

theorem buildBody_filled {total : Nat} (front : Bytes) (room : Nat) {data : Bytes}
    (h : w.run (BodyCursor.blank [] (total - 0x20)) = some ((), BodyCursor.blank front room))
    (layout : front ++ zeros room = data) :
    buildBody now opcode sessionId total w = some (SubPacket.new now opcode sessionId data) := by
  rw [buildBody, Writer.fill_eq h, Option.map_some, layout]

section Layouts

variable (now sessionId : UInt32)

theorem buildSessionBeginConfirm_eq (errorCode : UInt16) :
    buildSessionBeginConfirm now sessionId errorCode =
      some (SubPacket.new now opSessionBegin sessionId
        (u32Bytes sessionId ++ (u16Bytes errorCode ++ zeros 2))) :=
  buildBody_filled _ _ (by simp; rfl) (by simp)

theorem buildSessionEndConfirm_eq (destinationZone : UInt32) (errorCode : UInt16) :
    buildSessionEndConfirm now sessionId destinationZone errorCode =
      some (SubPacket.new now opSessionEnd sessionId
        (u32Bytes sessionId ++ (u16Bytes errorCode ++ (u32Bytes destinationZone ++ zeros 6)))) :=
  buildBody_filled _ _ (by simp; rfl) (by simp)

theorem buildWorldRequestZoneChange_eq (zone : UInt32) (spawnType : UInt8)
    (x y z rotation : UInt32) :
    buildWorldRequestZoneChange now sessionId zone spawnType x y z rotation =
      some (SubPacket.new now opWorldZoneChangeRequest sessionId
        (u32Bytes sessionId ++ (u32Bytes zone ++ (u16Bytes spawnType.toUInt16 ++ (u32Bytes x ++
          (u32Bytes y ++ (u32Bytes z ++ (u32Bytes rotation ++ zeros 14)))))))) :=
  buildBody_filled _ _ (by simp; rfl) (by simp)

theorem buildPartyModifyByName_eq (command : UInt16) (name : Text) :
    buildPartyModifyByName now sessionId command name =
      some (SubPacket.new now opWorldPartyModify sessionId
        (u16Bytes command ++ (paddedField name 0x20 ++ zeros 6))) :=
  buildBody_filled _ _ (by simp; rfl) (by simp)

theorem buildPartyModifyByActor_eq (command : UInt16) (actorId : UInt32) :
    buildPartyModifyByActor now sessionId command actorId =
      some (SubPacket.new now opWorldPartyModify sessionId
        (u16Bytes (command + 2) ++ (u32Bytes actorId ++ zeros 34))) :=
  buildBody_filled _ _ (by simp; rfl) (by simp)

theorem buildPartyLeave_eq (isDisband : Bool) :
    buildPartyLeave now sessionId isDisband =
      some (SubPacket.new now opWorldPartyLeave sessionId
        (u16Bytes (if isDisband then 1 else 0) ++ zeros 6)) :=
  buildBody_filled _ _ (by simp; rfl) (by simp)

theorem buildPartyInviteByName_eq (name : Text) :
    buildPartyInviteByName now sessionId name =
      some (SubPacket.new now opWorldPartyInvite sessionId
        (u16Bytes 0 ++ (paddedField name 0x20 ++ zeros 6))) :=
  buildBody_filled _ _ (by simp; rfl) (by simp)

theorem buildPartyInviteByActor_eq (actorId : UInt32) :
    buildPartyInviteByActor now sessionId actorId =
      some (SubPacket.new now opWorldPartyInvite sessionId
        (u16Bytes 1 ++ (u32Bytes actorId ++ zeros 34))) :=
  buildBody_filled _ _ (by simp; rfl) (by simp)

theorem buildGroupInviteResult_eq (groupType result : UInt32) :
    buildGroupInviteResult now sessionId groupType result =
      some (SubPacket.new now opWorldGroupInviteResult sessionId
        (u32Bytes groupType ++ (u32Bytes result ++ zeros 0))) :=
  buildBody_filled _ _ (by simp; rfl) (by simp)

theorem buildCreateLinkshell_eq (name : Text) (crest : UInt16) (master : UInt32) :
    buildCreateLinkshell now sessionId name crest master =
      some (SubPacket.new now opWorldCreateLinkshell sessionId
        (paddedField name 0x20 ++ (u16Bytes crest ++ (u32Bytes master ++ zeros 2)))) :=
  buildBody_filled _ _ (by simp [Writer.seek_blank]; rfl) (by simp [zeros])

theorem buildModifyLinkshell_length {changeArg : UInt16} {name newName : Text}
    {crest : UInt16} {master : UInt32} {p : SubPacket}
    (h : buildModifyLinkshell now sessionId changeArg name newName crest master = some p) :
    p.data.length = 0x40 :=
  buildBody_length h (.bind (.all _) fun _ => .bind (.u16 _) fun _ => writeChange_keeps ..)

theorem buildModifyLinkshell_eq {changeArg : UInt16} (other : changeArg ≠ 0) {name : Text}
    (short : (utf8 name).length ≤ 0x20) (newName : Text) (crest : UInt16) (master : UInt32) :
    ∃ room, buildModifyLinkshell now sessionId changeArg name newName crest master =
      some (SubPacket.new now opWorldModifyLinkshell sessionId
        (utf8 name ++ (u16Bytes changeArg ++
          ((if changeArg = 1 then u16Bytes crest else if changeArg = 2 then u32Bytes master
            else []) ++ zeros room)))) := by
  have whole : (utf8 name).take 0x20 = utf8 name := List.take_of_length_le short
  obtain ⟨room, spare⟩ : ∃ room, 64 - (utf8 name).length = room + 4 + 2 :=
    ⟨58 - (utf8 name).length, by omega⟩
  have within : (utf8 name).length ≤ 64 := by omega
  have named := Writer.all_blank (utf8 name) [] within
  rw [spare, List.nil_append] at named
  by_cases first : changeArg = 1
  · subst first
    refine ⟨room + 2, buildBody_filled (utf8 name ++ u16Bytes 1 ++ u16Bytes crest) (room + 2)
      ?_ ?_⟩
    · have behind := Writer.u16_blank crest (utf8 name ++ u16Bytes 1) (room + 2)
      simp [whole, named, writeChange, behind]
    · simp
  · by_cases second : changeArg = 2
    · subst second
      refine ⟨room, buildBody_filled (utf8 name ++ u16Bytes 2 ++ u32Bytes master) room ?_ ?_⟩
      · simp [whole, named, writeChange]
      · simp
    · refine ⟨room + 4, buildBody_filled (utf8 name ++ u16Bytes changeArg) (room + 4) ?_ ?_⟩
      · simp [whole, named, writeChange, other, first, second]
      · simp [first, second]

theorem buildDeleteLinkshell_eq (name : Text) :
    buildDeleteLinkshell now sessionId name =
      some (SubPacket.new now opWorldDeleteLinkshell sessionId
        (paddedField name 0x20 ++ zeros 0)) :=
  buildBody_filled _ _ (by simp; rfl) (by simp)

theorem buildLinkshellChange_eq (lsName : Text) :
    buildLinkshellChange now sessionId lsName =
      some (SubPacket.new now opWorldLinkshellChange sessionId
        (paddedField lsName 0x20 ++ zeros 8)) :=
  buildBody_filled _ _ (by simp; rfl) (by simp)

theorem buildLinkshellInvite_eq (actorId : UInt32) (linkshellName : Text) :
    buildLinkshellInvite now sessionId actorId linkshellName =
      some (SubPacket.new now opWorldLinkshellInvite sessionId
        (u32Bytes actorId ++ (paddedField linkshellName 0x20 ++ zeros 4))) :=
  buildBody_filled _ _ (by simp; rfl) (by simp)

theorem writeKickedName_blank (kickedName : Option Text) (isKicked : Bool) {front : Bytes}
    (two : front.length = 2) (room : Nat) :
    (writeKickedName kickedName isKicked).run (BodyCursor.blank front (room + 0x20)) =
      some ((), BodyCursor.blank
        (front ++ paddedField (if isKicked then kickedName.getD [] else []) 0x20) room) := by
  have skip : (Writer.seek 0x22).run (BodyCursor.blank front (room + 0x20)) =
      some ((), BodyCursor.blank (front ++ paddedField [] 0x20) room) := by
    rw [Writer.seek_blank front (by omega) (by omega), two, paddedField_nil]
    rfl
  cases isKicked with
  | false => simpa [writeKickedName] using skip
  | true =>
      cases kickedName with
      | none => simpa [writeKickedName] using skip
      | some name => simp [writeKickedName, Writer.seek_blank, two, zeros]

theorem buildLinkshellLeave_eq (lsName : Text) (kickedName : Option Text) (isKicked : Bool) :
    buildLinkshellLeave now sessionId lsName kickedName isKicked =
      some (SubPacket.new now opWorldLinkshellLeave sessionId
        (u16Bytes (if isKicked then 1 else 0) ++
          (paddedField (if isKicked then kickedName.getD [] else []) 0x20 ++
            (paddedField lsName 0x20 ++ zeros 6)))) := by
  have flag := length_u16Bytes (if isKicked then 1 else 0)
  have kicked := writeKickedName_blank kickedName isKicked flag 38
  exact buildBody_filled _ _ (by simp [kicked]; rfl) (by simp)

theorem buildLinkshellRankChange_eq (name lsName : Text) (rank : UInt8) :
    buildLinkshellRankChange now sessionId name lsName rank =
      some (SubPacket.new now opWorldLinkshellRankChange sessionId
        (paddedField name 0x20 ++ (paddedField lsName 0x20 ++ rank :: zeros 7))) :=
  buildBody_filled _ _ (by simp [Writer.seek_blank]; rfl) (by simp [zeros])

end Layouts
end Garlemald.Map
