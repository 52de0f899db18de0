import Garlemald.Map.Session
import Garlemald.World.Relay

/-!
The session-end handshake between the two servers, from the frame of the request
to the relay of the reply. The map server removes the session and answers with
error code 1, which the world server reads as a failure: the pending record
stays, and no map server is told to begin the session.
-/

namespace Garlemald.Link
open Library Garlemald.Common Garlemald.Map
open Garlemald.World hiding opSessionBegin opSessionEnd buildSessionBegin buildSessionEnd

/-- A session end the world server sends: a plain one, or the first half of a zone change. -/
inductive EndOrder where
  | plain
  | withZone (destinationZoneId : UInt32) (spawnType : UInt8) (x y z rotation : UInt32)
deriving DecidableEq, Repr

namespace EndOrder

def build (now sessionId : UInt32) : EndOrder → SubPacket
  | plain => World.buildSessionEnd now sessionId
  | withZone zone spawnType x y z rotation =>
      World.buildSessionEndWithZone now sessionId zone spawnType x y z rotation

def destination : EndOrder → Option UInt32
  | plain => none
  | withZone zone _ _ _ _ _ => some zone

theorem build_frame (now sessionId : UInt32) (order : EndOrder) :
    ControlFrame opSessionEnd sessionId (order.build now sessionId) := by
  cases order with
  | plain => exact World.buildSessionEnd_frame now sessionId
  | withZone zone spawnType x y z rotation =>
      exact World.buildSessionEndWithZone_frame now sessionId zone spawnType x y z rotation

end EndOrder

section Exchange

variable {δ : Type} (db : Database δ) (inflate : Bytes → Option Bytes)

/-- The relay takes the reply as the success of the request: the pending record of the id
is consumed, and the map server that owns the destination is told to begin the session. -/
def TakenAsSuccess (w : Server δ) (now sessionId : UInt32) (order : EndOrder)
    (reply : SubPacket) : Prop :=
  (∃ p, Server.endConfirmOf reply = some p ∧ p.sessionId = sessionId ∧ p.errorCode = 0) ∧
    (w.relaySubPacket db now reply).sessions.pendingSessionEnds sessionId = none ∧
      ∀ zone handle, order.destination = some zone → w.zoneServerFor zone = some handle →
        (w.relaySubPacket db now reply).outbound handle =
          w.outbound handle ++ [World.buildSessionBegin now sessionId false]

variable {destinationZone : UInt32} {now sessionId : UInt32} {errorCode : UInt16}
  {reply : SubPacket}

theorem endConfirmOf_reply
    (h : Map.buildSessionEnd now sessionId errorCode destinationZone = some reply) :
    Server.endConfirmOf reply = some ⟨sessionId, errorCode, destinationZone⟩ := by
  rw [buildSessionEnd_eq] at h
  cases h
  have read := SessionEndConfirmPacket.parse_layout sessionId destinationZone errorCode []
  rw [List.append_nil] at read
  exact read

theorem relaySubPacket_error (failed : errorCode ≠ 0)
    (h : Map.buildSessionEnd now sessionId errorCode destinationZone = some reply) (w : Server δ)
    (time : UInt32) : w.relaySubPacket db time reply = w := by
  have confirm := endConfirmOf_reply h
  have control : Server.isWorldPacket reply = true := by
    rw [Server.isWorldPacket, (buildSessionEnd_frame h).type_eq]
    rfl
  have handled := Server.handleWorldPacket_endConfirm db time confirm w
  have route : w.relayRoute reply = .worldPacket := by
    simp only [Server.relayRoute, control, if_true]
  rw [Server.relaySubPacket, route]
  simp only [handled, Server.handleSessionEndConfirm]
  rw [if_pos failed]

theorem not_takenAsSuccess (failed : errorCode ≠ 0)
    (h : Map.buildSessionEnd now sessionId errorCode destinationZone = some reply) (w : Server δ)
    (time : UInt32) (order : EndOrder) : ¬ TakenAsSuccess db w time sessionId order reply := by
  intro held
  obtain ⟨⟨p, confirm, _, success⟩, _⟩ := held
  rw [endConfirmOf_reply h] at confirm
  cases confirm
  exact failed success

/-- Whatever end the world server sends, the map server removes the session, and the
world server takes the reply as an error and stays as it was. -/
theorem session_end_reply_never_success (load : UInt32 → Option PlayerCharacter)
    (m : MapServer) (w : Server δ) (link : Nat) (now replied taken sessionId : UInt32)
    (sent back : UInt64) (order : EndOrder) :
    ∃ m' reply,
      m.processFrame load replied link inflate
          (wrapSubpacketsInBasepacket sent (order.build now sessionId).encoding) = some m' ∧
        m'.replies link = m.replies link ++ [reply] ∧ ¬ m'.Registered sessionId ∧
        reply.toBytes = .ok reply.encoding ∧
        w.relayFrame db inflate taken (wrapSubpacketsInBasepacket back reply.encoding) = w ∧
        ¬ TakenAsSuccess db w taken sessionId order reply := by
  have frame := order.build_frame now sessionId
  have built := buildSessionEnd_eq replied sessionId 1 0
  have reply := buildSessionEnd_frame built
  have ended := MapServer.handleSessionEnd_eq replied link m (order.build now sessionId)
  rw [frame.source_eq] at ended
  have processed : m.processFrame load replied link inflate
      (wrapSubpacketsInBasepacket sent (order.build now sessionId).encoding) =
        m.handleSessionEnd replied link (order.build now sessionId) := by
    rw [MapServer.processFrame_wrap load replied link inflate frame.sized frame.fits,
      MapServer.handleSubPacket, frame.type_eq, if_neg (by decide), if_pos rfl]
  refine ⟨_, _, processed.trans ended, ?_, ?_, SubPacket.toBytes_sized reply.sized, ?_,
    not_takenAsSuccess db (by decide) built w taken order⟩
  · simp [MapServer.send, MapServer.removeSession]
  · simp [MapServer.Registered, MapServer.send, MapServer.removeSession]
  · rw [Server.relayFrame_wrap db inflate taken reply.sized reply.fits]
    exact relaySubPacket_error db (by decide) built w taken

end Exchange

/-- The reply for session 7 leaves the record of its end in place. -/
theorem session_end_reply_keeps_record :
    ∃ reply, Map.buildSessionEnd 0 7 1 0 = some reply ∧
      ((({ sessions := ({} : SessionRegistry).markPendingEnd 7 1, db := () } : Server Unit
        ).relaySubPacket Database.inZone166 0 reply).sessions.pendingSessionEnds 7) = some 1 ∧
      ¬ TakenAsSuccess Database.inZone166
        { sessions := ({} : SessionRegistry).markPendingEnd 7 1, db := () } 0 7 .plain reply := by
  have built := buildSessionEnd_eq 0 7 1 0
  exact ⟨_, built, by decide, not_takenAsSuccess Database.inZone166 (by decide) built _ 0 .plain⟩

end Garlemald.Link
