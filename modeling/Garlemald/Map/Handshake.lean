import Garlemald.Map.WorldPackets

/-!
The map server's replies to the session handshake. Unlike the requests, they are
plain subpackets: the opcode is the type of the subpacket, and the session id is
its target.
-/

namespace Garlemald.Map
open Library Garlemald.Common

section Builders

variable (now sessionId : UInt32)

def buildSessionBegin (errorCode : UInt16) : Option SubPacket := do
  let data ← Writer.fill 6 do
    Writer.u32 sessionId
    Writer.u16 errorCode
  return (SubPacket.newWithFlag now false opSessionBegin sessionId data).setTargetId sessionId

def buildSessionEnd (errorCode : UInt16) (destinationZone : UInt32) : Option SubPacket := do
  let data ← Writer.fill 10 do
    Writer.u32 sessionId
    Writer.u16 errorCode
    Writer.u32 destinationZone
  return (SubPacket.newWithFlag now false opSessionEnd sessionId data).setTargetId sessionId

end Builders

theorem buildSessionBegin_eq (now sessionId : UInt32) (errorCode : UInt16) :
    buildSessionBegin now sessionId errorCode =
      some ((SubPacket.newWithFlag now false opSessionBegin sessionId
        (u32Bytes sessionId ++ u16Bytes errorCode)).setTargetId sessionId) := by
  have filled : Writer.fill 6 (do Writer.u32 sessionId; Writer.u16 errorCode) =
      some (u32Bytes sessionId ++ u16Bytes errorCode ++ zeros 0) := by
    apply Writer.fill_eq
    simp
  rw [zeros, List.replicate_zero, List.append_nil] at filled
  rw [buildSessionBegin, filled]
  rfl

theorem buildSessionEnd_eq (now sessionId : UInt32) (errorCode : UInt16)
    (destinationZone : UInt32) :
    buildSessionEnd now sessionId errorCode destinationZone =
      some ((SubPacket.newWithFlag now false opSessionEnd sessionId
        (u32Bytes sessionId ++ (u16Bytes errorCode ++ u32Bytes destinationZone))).setTargetId
          sessionId) := by
  have filled : Writer.fill 10 (do
      Writer.u32 sessionId; Writer.u16 errorCode; Writer.u32 destinationZone) =
      some (u32Bytes sessionId ++ u16Bytes errorCode ++ u32Bytes destinationZone ++ zeros 0) := by
    apply Writer.fill_eq
    simp
  rw [zeros, List.replicate_zero, List.append_nil, List.append_assoc] at filled
  rw [buildSessionEnd, filled]
  rfl

structure HandshakeReply (opcode : UInt16) (sessionId : UInt32) (p : SubPacket) : Prop where
  type_eq : p.header.type = opcode
  target_eq : p.header.targetId = sessionId
  sized : p.Sized
  fits : basepacketSize + p.encoding.length < 0x10000

theorem buildSessionEnd_frame {now sessionId destinationZone : UInt32} {errorCode : UInt16}
    {p : SubPacket} (h : buildSessionEnd now sessionId errorCode destinationZone = some p) :
    HandshakeReply opSessionEnd sessionId p := by
  rw [buildSessionEnd_eq] at h
  cases h
  have short : (u32Bytes sessionId ++ (u16Bytes errorCode ++ u32Bytes destinationZone)).length =
      10 := by simp
  refine ⟨rfl, rfl, ?_, ?_⟩
  · apply SubPacket.Sized.setTargetId
    apply SubPacket.newWithFlag_sized
    · rw [short]
      decide
    · intro _
      decide
  · rw [SubPacket.length_encoding, SubPacket.setTargetId_data]
    change basepacketSize + (subpacketSize + (u32Bytes sessionId ++
      (u16Bytes errorCode ++ u32Bytes destinationZone)).length + 0) < 0x10000
    rw [short]
    decide

end Garlemald.Map
