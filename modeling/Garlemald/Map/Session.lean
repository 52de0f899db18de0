import Garlemald.Map.Handshake
import Mathlib.Logic.Function.Basic

/-!
The map server's part of the session handshake: the tables of clients and
sessions, the actor registry with its session index, and the two handlers that
fill and empty them. A begin is acknowledged by nothing; an end is answered on
the link it came on.
-/

namespace Garlemald.Map
open Library Garlemald.Common
open Function (update)

structure ActorHandle where
  actorId : UInt32
  zoneId : UInt32
  sessionId : UInt32
deriving DecidableEq, Repr

structure ActorRegistry where
  actors : UInt32 → Option ActorHandle := fun _ => none
  sessionIndex : UInt32 → Option UInt32 := fun _ => none

namespace ActorRegistry

/-- Session id 0 is not indexed. -/
def insert (r : ActorRegistry) (handle : ActorHandle) : ActorRegistry :=
  { actors := update r.actors handle.actorId (some handle)
    sessionIndex :=
      if handle.sessionId ≠ 0 then
        update r.sessionIndex handle.sessionId (some handle.actorId)
      else r.sessionIndex }

def removeSession (r : ActorRegistry) (sessionId : UInt32) : ActorRegistry :=
  match r.sessionIndex sessionId with
  | some actorId =>
      { actors := update r.actors actorId none
        sessionIndex := update r.sessionIndex sessionId none }
  | none => r

def bySession (r : ActorRegistry) (sessionId : UInt32) : Option ActorHandle :=
  (r.sessionIndex sessionId).bind r.actors

end ActorRegistry

structure MapSession where
  id : UInt32
  currentZoneId : UInt32
deriving DecidableEq, Repr

structure PlayerCharacter where
  currentZoneId : UInt32
deriving DecidableEq, Repr

structure MapServer where
  /-- The link a session's packets go out on. -/
  clients : UInt32 → Option Nat := fun _ => none
  sessions : UInt32 → Option MapSession := fun _ => none
  registry : ActorRegistry := {}
  /-- What has been queued for a link. -/
  replies : Nat → List SubPacket := fun _ => []

namespace MapServer

variable (loadPlayerCharacter : UInt32 → Option PlayerCharacter) (now : UInt32) (link : Nat)

def registerClient (m : MapServer) (sessionId : UInt32) : MapServer :=
  { m with clients := update m.clients sessionId (some link) }

def upsertSession (m : MapServer) (session : MapSession) : MapServer :=
  { m with sessions := update m.sessions session.id (some session) }

def removeSession (m : MapServer) (sessionId : UInt32) : MapServer :=
  { m with
    clients := update m.clients sessionId none
    sessions := update m.sessions sessionId none }

def send (m : MapServer) (sub : SubPacket) : MapServer :=
  { m with replies := update m.replies link (m.replies link ++ [sub]) }

/-- A session without a character row is not begun. The move into the zone that a
transfer adds to a begin changes no table here. -/
def handleSessionBegin (m : MapServer) (sub : SubPacket) : MapServer :=
  let sessionId := sub.header.sourceId
  match loadPlayerCharacter sessionId with
  | none => m
  | some loaded =>
      let m := m.registerClient link sessionId
      let m := m.upsertSession ⟨sessionId, loaded.currentZoneId⟩
      { m with registry := m.registry.insert ⟨sessionId, loaded.currentZoneId, sessionId⟩ }

/-- `none` is a panic of the reply builder. -/
def handleSessionEnd (m : MapServer) (sub : SubPacket) : Option MapServer := do
  let sessionId := sub.header.sourceId
  let m := { m with registry := m.registry.removeSession sessionId }
  let m := m.removeSession sessionId
  let reply ← buildSessionEnd now sessionId 1 0
  return m.send link reply

def handleSubPacket (m : MapServer) (sub : SubPacket) : Option MapServer :=
  if sub.header.type = opSessionBegin then
    some (m.handleSessionBegin loadPlayerCharacter link sub)
  else if sub.header.type = opSessionEnd then m.handleSessionEnd now link sub
  else some m

/-- A frame of the world server; one that does not inflate or split is passed over. -/
def processFrame (inflate : Bytes → Option Bytes) (frame : Bytes) (m : MapServer) :
    Option MapServer :=
  match subpacketsOf inflate frame with
  | .ok subs => subs.foldlM (handleSubPacket loadPlayerCharacter now link) m
  | _ => some m

def Registered (m : MapServer) (sessionId : UInt32) : Prop := (m.sessions sessionId).isSome

instance (m : MapServer) (sessionId : UInt32) : Decidable (m.Registered sessionId) :=
  inferInstanceAs (Decidable (_ = true))

theorem handleSessionEnd_eq (m : MapServer) (sub : SubPacket) :
    m.handleSessionEnd now link sub =
      some ((({ m with registry := m.registry.removeSession sub.header.sourceId }).removeSession
        sub.header.sourceId).send link
          ((SubPacket.newWithFlag now false opSessionEnd sub.header.sourceId
            (u32Bytes sub.header.sourceId ++ (u16Bytes 1 ++ u32Bytes 0))).setTargetId
              sub.header.sourceId)) := by
  rw [handleSessionEnd, buildSessionEnd_eq]
  rfl

theorem registered_handleSessionBegin (m : MapServer) (sub : SubPacket) (id : UInt32) :
    (m.handleSessionBegin loadPlayerCharacter link sub).Registered id ↔
      (id = sub.header.sourceId ∧ (loadPlayerCharacter id).isSome) ∨ m.Registered id := by
  simp only [handleSessionBegin]
  split
  · next missing =>
      constructor
      · exact Or.inr
      · intro held
        rcases held with ⟨rfl, loaded⟩ | before
        · rw [missing] at loaded
          contradiction
        · exact before
  · next loaded found =>
      by_cases here : id = sub.header.sourceId
      · subst here
        simp [Registered, upsertSession, registerClient, found]
      · simp [Registered, upsertSession, registerClient, here]

theorem registered_handleSessionEnd {m m' : MapServer} {sub : SubPacket}
    (h : m.handleSessionEnd now link sub = some m') (id : UInt32) :
    m'.Registered id ↔ id ≠ sub.header.sourceId ∧ m.Registered id := by
  rw [handleSessionEnd_eq] at h
  cases h
  by_cases here : id = sub.header.sourceId <;> simp [Registered, send, removeSession, here]

theorem processFrame_wrap (inflate : Bytes → Option Bytes) {p : SubPacket} (sized : p.Sized)
    {time : UInt64} (fits : basepacketSize + p.encoding.length < 0x10000) (m : MapServer) :
    processFrame loadPlayerCharacter now link inflate
        (wrapSubpacketsInBasepacket time p.encoding) m =
      m.handleSubPacket loadPlayerCharacter now link p := by
  simp [processFrame, subpacketsOf_wrap inflate time sized fits]

end MapServer
end Garlemald.Map
