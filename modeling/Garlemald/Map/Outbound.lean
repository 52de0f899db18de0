import Garlemald.Common.FastPaths
import Garlemald.Library.Utf8

/-!
What goes out to the clients of the map server. A function has a builder make a subpacket, gives it
a target or not, and puts its bytes on the queue of a client; the write task wraps every entry of
the queue in a frame, which the world server takes apart.
-/

namespace Garlemald.Map

open Library Common

/-- What a builder hands to the constructor of a subpacket. None makes a game message without its
header. -/
structure Draft where
  isGameMessage : Bool
  opcode : UInt16
  sourceId : UInt32
  data : Bytes
  typed : isGameMessage = false → opcode ≠ subpacketTypeGamemessage

namespace Draft

def new (opcode : UInt16) (sourceId : UInt32) (data : Bytes) : Draft :=
  { isGameMessage := true, opcode, sourceId, data, typed := by simp }

/-- `now` is the Unix time that the constructor stamps on a game message. -/
def build (now : UInt32) (draft : Draft) : SubPacket :=
  SubPacket.newWithFlag now draft.isGameMessage draft.opcode draft.sourceId draft.data

def size (draft : Draft) : ℕ :=
  subpacketSize + draft.data.length + (if draft.isGameMessage then gamemessageSize else 0)

end Draft

inductive Target where
  | session
  | player

/-- How a function makes the bytes that it queues out of what its builder made: it sets the target,
or its builder does; nobody does; it stamps the bytes; or it wraps the subpacket in a frame. -/
inductive Form where
  | targeted (target : Target)
  | untargeted
  | stamped
  | framed

/-- The functions that queue bytes. Those of one name in two files do the same here; the chat of
`dispatch_social_event` stands apart from its other events, and the answer to a handshake apart
from the rest of `process_packet`. -/
inductive Sender where
  | applyStartDream
  | applyEndDream
  | applyLogout
  | applyQuitGame
  | applyIssueChocobo
  | applySetChocoboName
  | emitGrandCompanyPacket
  | applySendMountAppearance
  | applyPromoteGc
  | broadcastAroundActor
  | dispatchAreaEvent
  | sendToSelfIfPlayer
  | handleHandshakeResponse
  | handlePing
  | dispatchDirectorEvent
  | dispatchGroupEvent
  | broadcastMemberList
  | dispatchInventoryEvent
  | sendInventoryPacket
  | dispatchSocialEvent
  | dispatchAchievementEvent
  | sendToPlayer
  | broadcastQuestEnpcUpdate
  | broadcastQuestEnpcClear
  | broadcastQuestEnpcGraphic
  | kickQuestProximityPushes
  | handleGameMessage
  | sendQuestJournalData
  | applySendDataPacket
  | dispatchChat
  | applySendMessage
  | handleSessionEnd
  | handleGmPing
  | handleGmHandshakeAck
  | handleZoneInComplete
  | handleWarp
  | dispatchNpcEventStarted
  | releaseUnclaimedOwnerWithEndEvent
  | applyPostZoneInLuaCommand
  | applyDoZoneChangeContent
  | applyDoZoneChange
  | applySpawnMyRetainer
  | applyDespawnMyRetainer
  | sendAchievedAetheryte
  | applyEquipAbility
  | applyUnequipAbility
  | applyEquipAbilityInFirstOpenSlot
  | applyWarpToPosition
  | applyWarpToPositionRuntime
  | applyAddQuest
  | applyAbandonQuest
  | finishCompleteQuest
  | sendCommandErrorResult
  | dispatchHotbarCommand
  | sendHotbarSlotUpdate
  | emitPartyGroupTrio
  | emitExpPropertyUpdates
  | applyChangeMusic
  | applyChangeSpeed
  | applyKickEvent
  | resendInitialEquipment
  | sendGilUpdate
  | sendInventoryBracket
  | applySendGameMessage
  | applySendGameMessageLocalizedDisplayName
  | applyPlayerSetNpcLs
  | applyQuestSetNpcLsFrom
  | tickOnce
  | sendZoneInBundle
  | doSeamlessZoneChange
  | sendInstanceUpdate

def Sender.form : Sender → Form
  | applyStartDream | applyEndDream | applyLogout | applyQuitGame | applyIssueChocobo
  | applySetChocoboName | emitGrandCompanyPacket => .framed
  | applySendMountAppearance | applyPromoteGc | broadcastAroundActor | dispatchAreaEvent
  | sendToSelfIfPlayer => .stamped
  | handleHandshakeResponse | handlePing | dispatchDirectorEvent | dispatchGroupEvent
  | broadcastMemberList | dispatchInventoryEvent | sendInventoryPacket
  | dispatchSocialEvent => .untargeted
  | dispatchAchievementEvent | sendToPlayer | broadcastQuestEnpcUpdate | broadcastQuestEnpcClear
  | broadcastQuestEnpcGraphic | kickQuestProximityPushes | handleGameMessage
  | sendQuestJournalData | applySendDataPacket => .targeted .player
  -- every other sets the id of the session, the chat and the handshakes in their builders
  | _ => .targeted .session

/-- One entry of a queue: most hold one subpacket, the change of a state three. -/
structure Call where
  sender : Sender
  sessionId : UInt32
  playerId : UInt32
  drafts : List Draft
  filled : drafts ≠ []

namespace Call

variable (now : UInt32) (sent : UInt64) (call : Call)

def id : Target → UInt32
  | .session => call.sessionId
  | .player => call.playerId

def built : List SubPacket :=
  match call.sender.form with
  | .targeted target => call.drafts.map fun draft => (draft.build now).setTargetId (call.id target)
  | .stamped => call.drafts.map fun draft => (draft.build now).retarget call.sessionId
  | .untargeted | .framed => call.drafts.map (Draft.build now)

/-- The bytes that are queued. No frame is compressed. -/
def queue : Outcome PacketError Bytes :=
  match call.sender.form with
  | .targeted target =>
      reencode (call.drafts.map fun draft => (draft.build now).setTargetId (call.id target))
  | .untargeted => reencode (call.drafts.map (Draft.build now))
  | .stamped => do
      let bytes ← reencode (call.drafts.map (Draft.build now))
      return (SubPacket.stampTargetIdIfZero bytes call.sessionId).1
  | .framed => do
      let base ← BasePacket.createFromSubpackets (fun _ => none) sent
        (call.drafts.map (Draft.build now)) true false
      base.toBytes

end Call

/-- What the world server splits off the frame that the write task makes of an entry. -/
def received (written : UInt64) (bytes : Bytes) : Outcome PacketError (List SubPacket) := do
  (← BasePacket.fromBytes (wrapSubpacketsInBasepacket written bytes)).getSubpackets

def body (total : ℕ) : Bytes := zeros (total - 0x20)

def opLogout : UInt16 := 0x000E

def opQuit : UInt16 := 0x0011

def opSetGrandCompany : UInt16 := 0x0194

def opSetChocoboName : UInt16 := 0x0198

def opSetHasChocobo : UInt16 := 0x0199

def opSetPlayerDream : UInt16 := 0x01A7

def buildLogout (actorId : UInt32) : Draft :=
  { isGameMessage := false, opcode := opLogout, sourceId := actorId, data := body 0x28
    typed := by decide }

def buildQuit (actorId : UInt32) : Draft :=
  { isGameMessage := false, opcode := opQuit, sourceId := actorId, data := body 0x28
    typed := by decide }

def buildSetPlayerDream (actorId : UInt32) (dreamId innId : UInt8) : Draft :=
  .new opSetPlayerDream actorId ([dreamId, innId] ++ (body 0x28).drop 2)

def buildSetChocoboName (actorId : UInt32) (name : Text) : Draft :=
  let written := (utf8 name).take 0x20
  .new opSetChocoboName actorId (written ++ (body 0x40).drop written.length)

def buildSetHasChocobo (actorId : UInt32) (hasChocobo : Bool) : Draft :=
  .new opSetHasChocobo actorId ([if hasChocobo then 1 else 0] ++ (body 0x28).drop 1)

def buildSetGrandCompany (actorId : UInt32)
    (currentAllegiance rankLimsa rankGridania rankUldah : UInt8) : Draft :=
  .new opSetGrandCompany actorId
    ([currentAllegiance, rankLimsa, rankGridania, rankUldah] ++ (body 0x28).drop 4)

/-- What is read of a player: the room of an inn that it stands in is zero elsewhere. -/
structure PlayerHandle where
  actorId : UInt32
  sessionId : UInt32
  innCode : UInt8
  gcCurrent : UInt8
  gcRankLimsa : UInt8
  gcRankGridania : UInt8
  gcRankUldah : UInt8

structure Clients where
  registry : UInt32 → Option PlayerHandle
  client : UInt32 → Bool

namespace Clients

variable (w : Clients)

/-- One entry for one subpacket to the session of a player, if it has a client. -/
def send (sender : Sender) (handle : PlayerHandle) (draft : Draft) : List Call :=
  if w.client handle.sessionId then
    [{ sender, sessionId := handle.sessionId, playerId := handle.actorId, drafts := [draft]
       filled := by simp }]
  else []

/-- What a function that looks a player up does with it; session zero is none. -/
def withSession (playerId : UInt32) (f : PlayerHandle → List Call) : List Call :=
  match w.registry playerId with
  | none => []
  | some handle => if handle.sessionId = 0 then [] else f handle

def applyStartDream (playerId : UInt32) (dreamId : UInt8) : List Call :=
  w.withSession playerId fun handle => w.send .applyStartDream handle
    (buildSetPlayerDream handle.actorId dreamId handle.innCode)

def applyEndDream (playerId : UInt32) : List Call :=
  w.withSession playerId fun handle => w.send .applyEndDream handle
    (buildSetPlayerDream handle.actorId 0 handle.innCode)

def applyLogout (playerId : UInt32) : List Call :=
  w.withSession playerId fun handle => w.send .applyLogout handle (buildLogout handle.actorId)

def applyQuitGame (playerId : UInt32) : List Call :=
  w.withSession playerId fun handle => w.send .applyQuitGame handle (buildQuit handle.actorId)

def applyIssueChocobo (playerId : UInt32) (name : Text) : List Call :=
  match w.registry playerId with
  | none => []
  | some handle =>
      w.send .applyIssueChocobo handle (buildSetChocoboName handle.actorId name) ++
        w.send .applyIssueChocobo handle (buildSetHasChocobo handle.actorId true)

def applySetChocoboName (playerId : UInt32) (name : Text) : List Call :=
  match w.registry playerId with
  | none => []
  | some handle => w.send .applySetChocoboName handle (buildSetChocoboName handle.actorId name)

def emitGrandCompanyPacket (handle : PlayerHandle) : List Call :=
  w.send .emitGrandCompanyPacket handle (buildSetGrandCompany handle.actorId handle.gcCurrent
    handle.gcRankLimsa handle.gcRankGridania handle.gcRankUldah)

end Clients

/-- What a function queues itself; what it has others queue are operations of their own. The other
functions are there with whatever their builders made. -/
inductive Operation where
  | startDream (playerId : UInt32) (dreamId : UInt8)
  | endDream (playerId : UInt32)
  | logout (playerId : UInt32)
  | quitGame (playerId : UInt32)
  | issueChocobo (playerId : UInt32) (name : Text)
  | setChocoboName (playerId : UInt32) (name : Text)
  | grandCompany (handle : PlayerHandle)
  | other (call : Call)

def Operation.calls (w : Clients) : Operation → List Call
  | startDream playerId dreamId => w.applyStartDream playerId dreamId
  | endDream playerId => w.applyEndDream playerId
  | logout playerId => w.applyLogout playerId
  | quitGame playerId => w.applyQuitGame playerId
  | issueChocobo playerId name => w.applyIssueChocobo playerId name
  | setChocoboName playerId name => w.applySetChocoboName playerId name
  | grandCompany handle => w.emitGrandCompanyPacket handle
  | other call => [call]

end Garlemald.Map
