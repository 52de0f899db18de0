import Garlemald.Common.BasePacket
import Garlemald.Library.Utf8

/-!
The world server's outgoing subpackets: plain frames to clients, control frames
to map servers, and game messages. A control frame carries its opcode as its
type and the session id as its target.
-/

namespace Garlemald.World
open Library Garlemald.Common

def u32BytesBE (x : UInt32) : Bytes := (u32Bytes x).reverse

inductive LuaParam where
  | int32 (value : UInt32)
  | string (value : Text)
  | actor (id : UInt32)
deriving DecidableEq, Repr

def luaEnd : UInt8 := 0x0F

def LuaParam.write : LuaParam → Bytes
  | int32 value => 0x0 :: u32BytesBE value
  | string value => 0x2 :: (utf8 value ++ [0])
  | actor id => 0x6 :: u32BytesBE id

def writeLuaParams (params : List LuaParam) : Bytes := params.flatMap LuaParam.write ++ [luaEnd]

def opClient0x2 : UInt16 := 0x0002

def opClient0x7 : UInt16 := 0x0007

def opClient0x8 : UInt16 := 0x0008

def opSessionBegin : UInt16 := 0x1000

def opSessionEnd : UInt16 := 0x1001

def opLinkshellResult : UInt16 := 0x1025

/-- A fixed blob with the actor id in its first four bytes. -/
def build0x2Packet (now actorId : UInt32) : SubPacket :=
  SubPacket.newWithFlag now false opClient0x2 0 (u32Bytes actorId ++
    [0xC8, 0xD6, 0xAF, 0x2B, 0x38, 0x2B, 0x5F, 0x26, 0xB8, 0x8D, 0xF0, 0x2B,
      0xC8, 0xFD, 0x85, 0xFE, 0xA8, 0x7C, 0x5B, 0x09, 0x38, 0x2B, 0x5F, 0x26, 0xC8, 0xD6,
      0xAF, 0x2B, 0xB8, 0x8D, 0xF0, 0x2B, 0x88, 0xAF, 0x5E, 0x26])

def build0x7Packet (now actorId : UInt32) : SubPacket :=
  SubPacket.newWithFlag now false opClient0x7 0 (u32Bytes actorId ++ u32Bytes now)

def build0x8PingPacket (now actorId : UInt32) : SubPacket :=
  SubPacket.newWithFlag now false opClient0x8 0 (u32Bytes actorId ++ u32Bytes now)

section Control

variable (now sessionId : UInt32)

def buildSessionBegin (isLogin : Bool) : SubPacket :=
  (SubPacket.newWithFlag now false opSessionBegin sessionId
    [if isLogin then 1 else 0]).setTargetId sessionId

def buildSessionEnd : SubPacket :=
  (SubPacket.newWithFlag now false opSessionEnd sessionId (zeros 4)).setTargetId sessionId

/-- The coordinates and the rotation are the bit patterns of 32-bit floats. -/
def buildSessionEndWithZone (destinationZoneId : UInt32) (spawnType : UInt8)
    (x y z rotation : UInt32) : SubPacket :=
  (SubPacket.newWithFlag now false opSessionEnd sessionId
    (u32Bytes destinationZoneId ++ (u16Bytes spawnType.toUInt16 ++ (u32Bytes x ++
      (u32Bytes y ++ (u32Bytes z ++ u32Bytes rotation)))))).setTargetId sessionId

def buildLinkshellResult (result : UInt32) : SubPacket :=
  (SubPacket.newWithFlag now false opLinkshellResult sessionId
    (u32Bytes result)).setTargetId sessionId

end Control

/-- A text of the event log, without a display id or a custom sender. -/
def buildGameMessage (now sourceActorId receiverActorId senderActorId : UInt32) (textId : UInt16)
    (log : UInt8) (luaParams : List LuaParam) : SubPacket :=
  SubPacket.new now 0x01FD sourceActorId (u32Bytes receiverActorId ++ (u32Bytes senderActorId ++
    (u16Bytes textId ++ (log :: 0 :: writeLuaParams luaParams))))

def messageTypeParty : UInt8 := 0x04

def messageTypeGeneralInfo : UInt8 := 0x1D

def buildSetActiveLinkshell (now sessionId : UInt32) (groupId : UInt64) : SubPacket :=
  (SubPacket.new now 0x018A sessionId (u64Bytes groupId ++ (zeros 0x38 ++ (u32Bytes 20002 ++
    (zeros 0x1C ++ (u32Bytes (if groupId = 0 then 0 else 1) ++ zeros 0x14)))))).setTargetId
      sessionId

def buildSendMessage (now sourceSession targetSession : UInt32) (messageType : UInt8)
    (senderName message : Text) : SubPacket :=
  (SubPacket.new now 0x00CA sourceSession (zeros 12 ++ (messageType :: 0 :: 0 :: 0 ::
    (paddedField senderName 0x20 ++ (utf8 message ++ [0]))))).setTargetId targetSession

structure ControlFrame (opcode : UInt16) (sessionId : UInt32) (p : SubPacket) : Prop where
  type_eq : p.header.type = opcode
  target_eq : p.header.targetId = sessionId
  source_eq : p.header.sourceId = sessionId
  sized : p.Sized
  fits : basepacketSize + p.encoding.length < 0x10000

theorem controlFrame_of_data (now sessionId : UInt32) {opcode : UInt16} {data : Bytes}
    (plain : opcode ≠ subpacketTypeGamemessage) (short : data.length ≤ 0x20) :
    ControlFrame opcode sessionId
      ((SubPacket.newWithFlag now false opcode sessionId data).setTargetId sessionId) := by
  refine ⟨rfl, rfl, rfl, ?_, ?_⟩
  · apply SubPacket.Sized.setTargetId
    exact SubPacket.newWithFlag_sized (by omega) fun _ => plain
  · have content : ((SubPacket.newWithFlag now false opcode sessionId data).setTargetId
        sessionId).data.length = data.length := rfl
    rw [SubPacket.length_encoding, content]
    simp only [basepacketSize, subpacketSize, gamemessageSize]
    split <;> omega

theorem buildSessionBegin_frame (now sessionId : UInt32) (isLogin : Bool) :
    ControlFrame opSessionBegin sessionId (buildSessionBegin now sessionId isLogin) :=
  controlFrame_of_data now sessionId (by decide) (Nat.le_of_ble_eq_true rfl)

theorem buildSessionEnd_frame (now sessionId : UInt32) :
    ControlFrame opSessionEnd sessionId (buildSessionEnd now sessionId) :=
  controlFrame_of_data now sessionId (by decide) (by decide)

theorem buildSessionEndWithZone_frame (now sessionId destinationZoneId : UInt32)
    (spawnType : UInt8) (x y z rotation : UInt32) :
    ControlFrame opSessionEnd sessionId
      (buildSessionEndWithZone now sessionId destinationZoneId spawnType x y z rotation) :=
  controlFrame_of_data now sessionId (by decide) (by simp)

end Garlemald.World
