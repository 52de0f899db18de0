import Garlemald.Map.Handshake
import Garlemald.World.Relay

/-!
Requests of the map server on their way through the relay of the world server.
The relay tells control packets by the type of the subpacket, and the request
builders leave their opcode to the inner header of an untargeted game message.
The handshake replies, built as plain subpackets, do reach the handler.
-/

namespace Garlemald.Link
open Library Garlemald.Common Garlemald.Map
open Garlemald.World hiding opSessionBegin opSessionEnd buildSessionBegin buildSessionEnd

variable {δ : Type} (inflate : Bytes → Option Bytes)

/-- The frame carries a subpacket that the relay hands to the control handler under the
given opcode. -/
def Dispatched (w : Server δ) (opcode : UInt16) (frame : Bytes) : Prop :=
  ∃ subs, subpacketsOf inflate frame = .ok subs ∧
    ∃ sub ∈ subs, w.relayRoute sub = .worldPacket ∧ sub.header.type = opcode

/-- The request builds, serialises, and is dispatched with its opcode when the wrapped
bytes reach the relay. -/
def ReachesHandler (w : Server δ) (now sessionId : UInt32) (time : UInt64) (k : WorldPacket) :
    Prop :=
  ∃ p bytes, k.build now sessionId = some p ∧ p.toBytes = .ok bytes ∧
    Dispatched inflate w k.opcode (wrapSubpacketsInBasepacket time bytes)

theorem relayRoute_untargeted {opcode : UInt16} {p : SubPacket}
    (h : UntargetedMessage opcode p) (w : Server δ) : w.relayRoute p = .noTarget := by
  have game : Server.isWorldPacket p = false := by
    rw [Server.isWorldPacket, h.type_eq]
    rfl
  simp only [Server.relayRoute, game, h.target_eq, if_true]
  rfl

theorem subpacketsOf_untargeted {opcode : UInt16} {p : SubPacket}
    (h : UntargetedMessage opcode p) {bytes : Bytes} (written : p.toBytes = .ok bytes)
    (time : UInt64) : subpacketsOf inflate (wrapSubpacketsInBasepacket time bytes) = .ok [p] := by
  rw [SubPacket.toBytes_sized h.sized] at written
  cases written
  exact subpacketsOf_wrap inflate time h.sized h.fits

theorem relayFrame_untargeted (db : Database δ) {opcode : UInt16} {p : SubPacket}
    (h : UntargetedMessage opcode p) {bytes : Bytes} (written : p.toBytes = .ok bytes)
    (w : Server δ) (now : UInt32) (time : UInt64) :
    w.relayFrame db inflate now (wrapSubpacketsInBasepacket time bytes) = w := by
  simp only [Server.relayFrame, subpacketsOf_untargeted inflate h written time, List.foldl_cons,
    List.foldl_nil, Server.relaySubPacket, relayRoute_untargeted h w]

theorem not_reachesHandler (w : Server δ) (now sessionId : UInt32) (time : UInt64)
    (k : WorldPacket) : ¬ ReachesHandler inflate w now sessionId time k := by
  intro held
  obtain ⟨p, bytes, built, written, subs, received, sub, member, route, _⟩ := held
  have untargeted := WorldPacket.build_untargeted built
  rw [subpacketsOf_untargeted inflate untargeted written] at received
  cases received
  obtain rfl := List.mem_singleton.mp member
  rw [relayRoute_untargeted untargeted] at route
  contradiction

/-- No request of the map server reaches the control handler: whenever one is built, the
relay drops it and leaves the world server as it was. -/
theorem worldPacket_dropped (db : Database δ) (w : Server δ) (now sessionId : UInt32)
    (time : UInt64) (k : WorldPacket) :
    ¬ ReachesHandler inflate w now sessionId time k ∧
      ∀ p bytes, k.build now sessionId = some p → p.toBytes = .ok bytes →
        w.relayRoute p = .noTarget ∧
          w.relayFrame db inflate now (wrapSubpacketsInBasepacket time bytes) = w := by
  refine ⟨not_reachesHandler inflate w now sessionId time k, fun p bytes built written => ?_⟩
  have untargeted := WorldPacket.build_untargeted built
  exact ⟨relayRoute_untargeted untargeted w,
    relayFrame_untargeted inflate db untargeted written w now time⟩

/-- The end confirm built as a request, for a session the world server knows. -/
theorem sessionEndConfirm_not_dispatched :
    (buildSessionEndConfirm 0 7 0 0).map (fun p => (p.header.type, p.header.targetId)) =
        some (subpacketTypeGamemessage, 0) ∧
      ¬ ReachesHandler (fun _ => none)
        { sessions := (({} : SessionRegistry).add .zone 7
            { sessionId := 7, channel := .zone, client := { connSeq := 1 } }), db := () }
        0 7 0 (.sessionEndConfirm 0 0) :=
  ⟨by decide, fun reaches => not_reachesHandler _ _ _ _ _ _ reaches⟩

theorem sessionEnd_reply_dispatched (w : Server δ) (now sessionId destinationZone : UInt32)
    (errorCode : UInt16) (time : UInt64) :
    ∃ p, buildSessionEnd now sessionId errorCode destinationZone = some p ∧
      p.toBytes = .ok p.encoding ∧
        Dispatched inflate w opSessionEnd (wrapSubpacketsInBasepacket time p.encoding) := by
  have built := buildSessionEnd_eq now sessionId errorCode destinationZone
  have frame := buildSessionEnd_frame built
  refine ⟨_, built, SubPacket.toBytes_sized frame.sized, _,
    subpacketsOf_wrap inflate time frame.sized frame.fits, _, List.mem_singleton_self _, ?_, rfl⟩
  have control : Server.isWorldPacket ((SubPacket.newWithFlag now false opSessionEnd sessionId
      (u32Bytes sessionId ++ (u16Bytes errorCode ++ u32Bytes destinationZone))).setTargetId
        sessionId) = true := rfl
  simp only [Server.relayRoute, control, if_true]

end Garlemald.Link
