import Garlemald.Common.BasePacket
import Garlemald.World.Managers
import Garlemald.World.Receive
import Garlemald.World.Send

/-!
The packet processor of the world server as a function of its whole state: the
session registry, the routing of zones to map servers, the managers, the storage
and the queues of outgoing subpackets. A handler's second result is `false` when
it returns an error; the state it reached by then stays.
-/

namespace Garlemald.World
open Library Garlemald.Common
open Function (update)

structure EndRequest where
  sessionId : UInt32
  connSeq : UInt64
deriving DecidableEq, Repr

structure Server (δ : Type) where
  sessions : SessionRegistry := {}
  zoneRouting : UInt32 → Option ZoneServerHandle := fun _ => none
  parties : PartyManager := {}
  linkshells : LinkshellManager := {}
  nextGroupId : UInt64 := 0xA0000000
  /-- The sessions a connection has opened, by its sequence number. -/
  owned : UInt64 → List (SessionChannel × UInt32) := fun _ => []
  /-- What has been queued for a map server. -/
  outbound : ZoneServerHandle → List SubPacket := fun _ => []
  /-- What has been queued for a client, by the sequence number of its connection. -/
  clientTx : UInt64 → List SubPacket := fun _ => []
  /-- The connections told to shut down. -/
  shutdown : UInt64 → Bool := fun _ => false
  /-- The history of session ends asked of map servers; no handler reads it. -/
  endsRequested : List EndRequest := []
  db : δ

/-- `false` is an error, which ends the processing of the frame. -/
abbrev Handled (δ : Type) := Server δ × Bool

namespace Server

variable {δ : Type} (db : Database δ) (inflate : Bytes → Option Bytes) (now : UInt32)

def zoneServerFor (w : Server δ) (zoneId : UInt32) : Option ZoneServerHandle := w.zoneRouting zoneId

def sendZone (w : Server δ) (handle : ZoneServerHandle) (sub : SubPacket) : Server δ :=
  { w with outbound := update w.outbound handle (w.outbound handle ++ [sub]) }

def sendClient (w : Server δ) (connSeq : UInt64) (sub : SubPacket) : Server δ :=
  { w with clientTx := update w.clientTx connSeq (w.clientTx connSeq ++ [sub]) }

def noteOwned (w : Server δ) (connSeq : UInt64) (channel : SessionChannel) (sessionId : UInt32) :
    Server δ :=
  { w with owned := update w.owned connSeq (w.owned connSeq ++ [(channel, sessionId)]) }

/-- Ask the map server a session is routed to for its end, on behalf of a connection. -/
def requestEnd (w : Server δ) (routing : Option ZoneServerHandle) (sessionId : UInt32)
    (connSeq : UInt64) : Server δ :=
  match routing with
  | some handle =>
      let w :=
        { w with
          sessions := w.sessions.markPendingEnd sessionId connSeq
          endsRequested := w.endsRequested ++ [EndRequest.mk sessionId connSeq] }
      w.sendZone handle (buildSessionEnd now sessionId)
  | none => w

/-- Tear down a session that a duplicate login replaces. A hello on the same
connection is a resend and tears nothing down. -/
def endExistingSession (w : Server δ) (channel : SessionChannel) (old : Session)
    (client : ClientHandle) : Server δ :=
  if old.client.connSeq = client.connSeq then w
  else
    let w :=
      if channel = .zone then
        w.requestEnd now old.state.routing1 old.sessionId old.client.connSeq
      else w
    { w with
      sessions := w.sessions.removeIf channel old.sessionId old.client.connSeq
      shutdown := update w.shutdown old.client.connSeq true }

def helloChannel (connectionType : UInt16) : SessionChannel :=
  if connectionType = packetTypeZone then .zone
  else if connectionType = packetTypeChat then .chat
  else .zone

/-- The fresh session of a hello, with the character row if there is one. -/
def helloSession (channel : SessionChannel) (sessionId : UInt32) (client : ClientHandle)
    (snap : Option ZoneSessionInfo) : Session :=
  { sessionId, channel, client
    state := match snap with
      | some snap =>
          { characterName := snap.characterName, currentZoneId := snap.currentZoneId
            activeLinkshellName := snap.activeLinkshell }
      | none => {} }

/-- A zone session whose zone has a map server is begun there. -/
def beginRouting (w : Server δ) (session : Session) : Session × Server δ :=
  if session.channel = .zone then
    match w.zoneServerFor session.state.currentZoneId with
    | some handle =>
        ({ session with state := { session.state with routing1 := some handle } },
          w.sendZone handle (buildSessionBegin now session.sessionId true))
    | none => (session, w)
  else (session, w)

def startSession (w : Server δ) (channel : SessionChannel) (sessionId : UInt32)
    (client : ClientHandle) (snap : Option ZoneSessionInfo) : Server δ :=
  let (session, w) := w.beginRouting now (helloSession channel sessionId client snap)
  let w := match w.sessions.get channel sessionId with
    | some old => w.endExistingSession now channel old client
    | none => w
  let w := { w with sessions := w.sessions.add channel sessionId session }
  let w := w.noteOwned client.connSeq channel sessionId
  (w.sendClient client.connSeq (build0x7Packet now 0x0E016EE5)).sendClient client.connSeq
    (build0x2Packet now sessionId)

def handleHello (client : ClientHandle) (packet : BasePacket) (w : Server δ) : Handled δ :=
  match HelloPacket.parse packet.data with
  | none => (w, false)
  | some hello =>
      let (loaded, s) := db.loadZoneSessionInfo hello.sessionId w.db
      (startSession now { w with db := s } (helloChannel packet.header.connectionType)
        hello.sessionId client (loaded.getD none), true)

/-- Tear down one session of a dropped connection, unless another connection has it by now. -/
def dropSession (client : ClientHandle) (w : Server δ) (entry : SessionChannel × UInt32) :
    Server δ :=
  match w.sessions.get entry.1 entry.2 with
  | none => w
  | some session =>
      if session.client.connSeq = client.connSeq then
        let w :=
          if entry.1 = .zone then
            w.requestEnd now session.state.routing1 entry.2 client.connSeq
          else w
        { w with sessions := w.sessions.removeIf entry.1 entry.2 client.connSeq }
      else w

def handleDisconnect (client : ClientHandle) (w : Server δ) : Server δ :=
  (w.owned client.connSeq).foldl (dropSession now client) w

def handlePing (client : ClientHandle) (w : Server δ) : Server δ :=
  w.sendClient client.connSeq (build0x8PingPacket now client.id)

def motdLines : List Text :=
  ["-------- Login Message --------".toList,
    "Welcome to Garlemald!".toList,
    "Welcome to Eorzea!".toList,
    "Here is a test Message of the Day from the World Server!".toList]

/-- Party chat goes to the other members of the sender's party who are online. -/
def fanOutPartyChat (target : UInt32) (senderName message : Text) (w : Server δ)
    (member : UInt32) : Server δ :=
  if member = target then w
  else match w.sessions.get .zone member with
    | some peer => w.sendClient peer.client.connSeq
        (buildSendMessage now target peer.sessionId messageTypeParty senderName message)
    | none => w

def sendMotd (target : UInt32) (connSeq : UInt64) (w : Server δ) : Server δ :=
  let w := motdLines.foldl (fun w line => w.sendClient connSeq
    (buildSendMessage now target target messageTypeGeneralInfo [] line)) w
  w.sendClient connSeq (buildSetActiveLinkshell now target 0)

def forwardToZone (sub : SubPacket) (state : SessionState) (w : Server δ) : Server δ :=
  let w := match state.routing1 with
    | some zone => w.sendZone zone sub
    | none => w
  match state.routing2 with
  | some zone => w.sendZone zone sub
  | none => w

def handleGameMessage (sub : SubPacket) (w : Server δ) : Server δ :=
  let target := sub.header.targetId
  match w.sessions.get .zone target with
  | none => w
  | some session =>
      let party := if sub.gameMessage.opcode = 0x00C9 then w.parties.getParty target else none
      match party with
      | some party =>
          party.members.foldl (fanOutPartyChat now target session.state.characterName
            (PartyChatMessagePacket.parse sub.data).message) w
      | none =>
          let w := if sub.gameMessage.opcode = 0x0006 then
              sendMotd now target session.client.connSeq w
            else w
          forwardToZone sub session.state w

def isStaleEndConfirm (currentConnSeq requestingConnSeq : Option UInt64) : Bool :=
  match currentConnSeq, requestingConnSeq with
  | some c, some r => c ≠ r
  | _, _ => false

/-- The end confirm of a map server: an error, the second half of a zone change, or a
teardown of both channels unless it is stale. -/
def handleSessionEndConfirm (target : UInt32) (p : SessionEndConfirmPacket) (w : Server δ) :
    Server δ :=
  if p.errorCode ≠ 0 then w
  else match (if p.destinationZone ≠ 0 then w.sessions.get .zone target else none) with
    | some session =>
        match w.zoneServerFor p.destinationZone with
        | some handle =>
            let w := w.sendZone handle (buildSessionBegin now p.sessionId false)
            let session := { session with state := { session.state with routing1 := some handle } }
            { w with sessions := w.sessions.put .zone target (some session) }
        | none => w
    | none =>
        let (recorded, sessions) := w.sessions.takePendingEnd p.sessionId
        let current := (sessions.get .zone p.sessionId).map (·.client.connSeq)
        if isStaleEndConfirm current recorded then { w with sessions }
        else
          let sessions := sessions.remove .zone p.sessionId
          { w with sessions := sessions.remove .chat p.sessionId }

def handleZoneChangeRequest (target : UInt32) (p : WorldRequestZoneChangePacket) (w : Server δ) :
    Server δ :=
  match w.sessions.get .zone target with
  | none => w
  | some session =>
      match session.state.routing1 with
      | some handle => w.sendZone handle (buildSessionEndWithZone now p.sessionId
          p.destinationZoneId p.destinationSpawnType p.destinationX p.destinationY p.destinationZ
          p.destinationRot)
      | none => w

/-! ### Parties -/

/-- The change is made to a clone of the party, and the party is disbanded. -/
def handlePartyModify (sub : SubPacket) (w : Server δ) : Handled δ :=
  match PartyModifyPacket.parse sub.data with
  | none => (w, false)
  | some _ =>
      let target := sub.header.targetId
      match w.parties.getParty target with
      | some party =>
          if 1 < party.memberCount then ({ w with parties := w.parties.disband target }, true)
          else (w, true)
      | none => (w, true)

def handlePartyLeave (sub : SubPacket) (w : Server δ) : Handled δ :=
  match PartyLeavePacket.parse sub.data with
  | none => (w, false)
  | some p =>
      let source := sub.header.sourceId
      if p.isDisband then ({ w with parties := w.parties.disband source }, true)
      else ({ w with parties := (w.parties.removeMember source source).1 }, true)

def handlePartyInvite (sub : SubPacket) (w : Server δ) : Handled δ :=
  match PartyInvitePacket.parse sub.data with
  | none => (w, false)
  | some p =>
      let source := sub.header.sourceId
      let (parties, nextGroupId) := w.parties.ensureParty w.nextGroupId source
      let parties :=
        if p.command = 1 ∧ p.actorId ≠ 0 then parties.addMember source p.actorId else parties
      ({ w with parties, nextGroupId }, true)

def handleGroupInviteResult (sub : SubPacket) (w : Server δ) : Handled δ :=
  match GroupInviteResultPacket.parse sub.data with
  | none => (w, false)
  | some _ => (w, true)

/-! ### Linkshells -/

def handleCreateLinkshell (sub : SubPacket) (w : Server δ) : Handled δ :=
  match CreateLinkshellPacket.parse sub.data with
  | none => (w, false)
  | some p =>
      let source := sub.header.sourceId
      let (err, s) := LinkshellManager.canCreateLinkshell db p.name w.db
      let w := { w with db := s }
      let (finalErr, w) :=
        if err = 0 then
          let (created, linkshells, nextGroupId, s) :=
            w.linkshells.createLinkshell db w.nextGroupId p.name p.crestId p.master w.db
          ((if created.isSome then 0 else 3 : UInt32),
            { w with linkshells, nextGroupId, db := s })
        else (err, w)
      match w.sessions.get .zone source with
      | some session =>
          (w.sendClient session.client.connSeq (buildLinkshellResult now source finalErr), true)
      | none => (w, true)

/-- A rename and a change of master change nothing here. -/
def handleModifyLinkshell (sub : SubPacket) (w : Server δ) : Handled δ :=
  match ModifyLinkshellPacket.parse sub.data with
  | none => (w, false)
  | some p =>
      if p.argCode = ModifyLinkshellPacket.codeCrestchange then
        let (changed, linkshells, s) :=
          w.linkshells.changeLinkshellCrest db p.currentName p.crestId w.db
        ({ w with linkshells, db := s }, changed.isSome)
      else (w, true)

def handleDeleteLinkshell (sub : SubPacket) (w : Server δ) : Handled δ :=
  match DeleteLinkshellPacket.parse sub.data with
  | none => (w, false)
  | some _ => (w, true)

def handleLinkshellChange (sub : SubPacket) (w : Server δ) : Handled δ :=
  match LinkshellChangePacket.parse sub.data with
  | none => (w, false)
  | some p =>
      match w.sessions.get .zone sub.header.sourceId with
      | none => (w, true)
      | some session =>
          match db.setActiveLs session.sessionId p.lsName w.db with
          | (none, s) => ({ w with db := s }, false)
          | (some _, s) =>
              let state := { session.state with activeLinkshellName := p.lsName }
              let sessions := w.sessions.put .zone sub.header.sourceId (some { session with state })
              ({ w with sessions, db := s }, true)

def sendGameMessageTo (recipientCharaId : UInt32) (textId : UInt16) (luaParams : List LuaParam)
    (w : Server δ) : Server δ :=
  match w.sessions.get .zone recipientCharaId with
  | none => w
  | some session => w.sendClient session.client.connSeq
      (buildGameMessage now recipientCharaId recipientCharaId 0 textId 0x20 luaParams)

def sessionCharacterName (w : Server δ) (charaId : UInt32) : Option Text :=
  (w.sessions.get .zone charaId).map (·.state.characterName)

/-- Tell one member `own` and every other member `others`. -/
def notifyMembers (lsId : UInt64) (subject : UInt32) (own others : UInt16 × List LuaParam)
    (w : Server δ) : Server δ :=
  match w.linkshells.getCachedById lsId with
  | none => w
  | some ls => ls.members.foldl (fun w member =>
      if member.characterId = subject then sendGameMessageTo now subject own.1 own.2 w
      else sendGameMessageTo now member.characterId others.1 others.2 w) w

def notifyLinkshellJoin (lsId : UInt64) (joinerId : UInt32) (lsName : Text) (w : Server δ) :
    Server δ :=
  let joinerName := (w.sessionCharacterName joinerId).getD []
  notifyMembers now lsId joinerId (25157, [.int32 0, .actor joinerId, .string lsName])
    (25284, [.int32 0, .string joinerName, .string lsName]) w

def notifyLinkshellSelfLeave (leaverId : UInt32) (lsName : Text) (w : Server δ) : Server δ :=
  sendGameMessageTo now leaverId 25162 [.int32 1, .string lsName] w

def notifyLinkshellKick (lsId : UInt64) (kickedId : UInt32) (kickedName lsName : Text)
    (w : Server δ) : Server δ :=
  notifyMembers now lsId kickedId (25184, [.int32 1, .string lsName])
    (25280, [.int32 1, .string kickedName, .string lsName]) w

def notifyLinkshellRankChange (targetId : UInt32) (rank : UInt8) (lsName : Text) (w : Server δ) :
    Server δ :=
  sendGameMessageTo now targetId 25277 [.int32 (100000 + rank.toUInt32), .string lsName] w

/-- The linkshell of a name, with the managers and the storage behind the lookup. -/
def lookupLinkshell (name : Text) (w : Server δ) : Option (Option Linkshell) × Server δ :=
  let (found, linkshells, nextGroupId, s) :=
    w.linkshells.getOrLoadLinkshell db w.nextGroupId name w.db
  (found, { w with linkshells, nextGroupId, db := s })

def handleLinkshellInvite (sub : SubPacket) (w : Server δ) : Handled δ :=
  match LinkshellInvitePacket.parse sub.data with
  | none => (w, false)
  | some p =>
      match w.lookupLinkshell db p.lsName with
      | (none, w) => (w, false)
      | (some none, w) => (w, true)
      | (some (some ls), w) =>
          let (added, linkshells, s) :=
            w.linkshells.addMember db ls.dbId p.actorId Linkshell.rankMember w.db
          let w := { w with linkshells, db := s }
          if added.isSome then (notifyLinkshellJoin now ls.dbId p.actorId p.lsName w, true)
          else (w, false)

def leaveTarget (p : LinkshellLeavePacket) (sourceId : UInt32) (w : Server δ) :
    Option (Option UInt32) × Server δ :=
  if p.isKicked then
    let (found, s) := db.characterIdByName p.kickedName w.db
    (found, { w with db := s })
  else (some (some sourceId), w)

def handleLinkshellLeave (sub : SubPacket) (w : Server δ) : Handled δ :=
  match LinkshellLeavePacket.parse sub.data with
  | none => (w, false)
  | some p =>
      match w.lookupLinkshell db p.lsName with
      | (none, w) => (w, false)
      | (some none, w) => (w, true)
      | (some (some ls), w) =>
          match w.leaveTarget db p sub.header.sourceId with
          | (none, w) => (w, false)
          | (some none, w) => (w, true)
          | (some (some target), w) =>
              let w :=
                if p.isKicked then notifyLinkshellKick now ls.dbId target p.kickedName p.lsName w
                else notifyLinkshellSelfLeave now target p.lsName w
              let (removed, linkshells, s) := w.linkshells.removeMember db ls.dbId target w.db
              ({ w with linkshells, db := s }, removed.isSome)

def handleLinkshellRankChange (sub : SubPacket) (w : Server δ) : Handled δ :=
  match LinkshellRankChangePacket.parse sub.data with
  | none => (w, false)
  | some p =>
      match w.lookupLinkshell db p.lsName with
      | (none, w) => (w, false)
      | (some none, w) => (w, true)
      | (some (some ls), w) =>
          match db.characterIdByName p.name w.db with
          | (none, s) => ({ w with db := s }, false)
          | (some none, s) => ({ w with db := s }, true)
          | (some (some targetId), s) =>
              let (changed, linkshells, s) :=
                w.linkshells.changeRank db ls.dbId targetId p.rank s
              let w := { w with linkshells, db := s }
              if changed.isSome then
                (notifyLinkshellRankChange now targetId p.rank p.lsName w, true)
              else (w, false)

/-! ### Dispatch -/

def handleWorldPacket (sub : SubPacket) (w : Server δ) : Handled δ :=
  let target := sub.header.targetId
  if sub.header.type = 0x1000 then (w, true)
  else if sub.header.type = 0x1001 then
    match SessionEndConfirmPacket.parse sub.data with
    | some p => (handleSessionEndConfirm now target p w, true)
    | none => (w, true)
  else if sub.header.type = 0x1002 then
    match WorldRequestZoneChangePacket.parse sub.data with
    | some p => (handleZoneChangeRequest now target p w, true)
    | none => (w, true)
  else if sub.header.type = 0x1020 then handlePartyModify sub w
  else if sub.header.type = 0x1021 then handlePartyLeave sub w
  else if sub.header.type = 0x1022 then handlePartyInvite sub w
  else if sub.header.type = 0x1023 then handleGroupInviteResult sub w
  else if sub.header.type = 0x1025 then handleCreateLinkshell db now sub w
  else if sub.header.type = 0x1026 then handleModifyLinkshell db sub w
  else if sub.header.type = 0x1027 then handleDeleteLinkshell sub w
  else if sub.header.type = 0x1028 then handleLinkshellChange db sub w
  else if sub.header.type = 0x1029 then handleLinkshellInvite db now sub w
  else if sub.header.type = 0x1030 then (w, true)
  else if sub.header.type = 0x1031 then handleLinkshellLeave db now sub w
  else if sub.header.type = 0x1032 then handleLinkshellRankChange db now sub w
  else (w, true)

def isWorldPacket (sub : SubPacket) : Bool := 0x1000 ≤ sub.header.type

def handleSubPacket (client : ClientHandle) (packet : BasePacket) (sub : SubPacket)
    (w : Server δ) : Handled δ :=
  if sub.header.type = 0x01 then handleHello db now client packet w
  else if sub.header.type = 0x07 then (handlePing now client w, true)
  else if sub.header.type = 0x08 then (w, true)
  else if sub.header.type = subpacketTypeGamemessage then (handleGameMessage now sub w, true)
  else if isWorldPacket sub then handleWorldPacket db now sub w
  else (w, true)

/-- The subpackets of a frame in order, up to the first error. -/
def handleSubPackets (client : ClientHandle) (packet : BasePacket) :
    List SubPacket → Server δ → Handled δ
  | [], w => (w, true)
  | sub :: subs, w =>
      match handleSubPacket db now client packet sub w with
      | (w, true) => handleSubPackets client packet subs w
      | (w, false) => (w, false)

def processPacket (client : ClientHandle) (packet : BasePacket) (w : Server δ) : Handled δ :=
  match packet.inflated inflate with
  | .ok packet =>
      match packet.getSubpackets with
      | .ok subs => handleSubPackets db now client packet subs w
      | _ => (w, false)
  | _ => (w, false)

@[simp] theorem sendZone_sessions (w : Server δ) (handle : ZoneServerHandle) (sub : SubPacket) :
    (w.sendZone handle sub).sessions = w.sessions := rfl

@[simp] theorem sendClient_sessions (w : Server δ) (connSeq : UInt64) (sub : SubPacket) :
    (w.sendClient connSeq sub).sessions = w.sessions := rfl

def endConfirmOf (sub : SubPacket) : Option SessionEndConfirmPacket :=
  if sub.header.type = 0x1001 then SessionEndConfirmPacket.parse sub.data else none

theorem handleWorldPacket_endConfirm {sub : SubPacket} {p : SessionEndConfirmPacket}
    (h : endConfirmOf sub = some p) (w : Server δ) :
    handleWorldPacket db now sub w =
      (handleSessionEndConfirm now sub.header.targetId p w, true) := by
  rw [endConfirmOf] at h
  split at h
  · next type => simp [handleWorldPacket, type, h]
  · contradiction

end Server
end Garlemald.World
