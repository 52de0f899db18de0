import Garlemald.Common.BasePacket
import Garlemald.Lobby.Database
import Garlemald.World.Receive

/-!
The lobby's packet processor: the handshake, the check of a login session, and the
requests about characters. Its state for a connection is the session with the
scratch of a reservation; the database is shared, and between the reads of a
handler and its write the other connections may change it.
-/

namespace Garlemald.Lobby
open Library Garlemald.Common

abbrev readFixedString := World.readFixedString

structure SecurityHandshakePacket where
  ticketPhrase : Text
  clientNumber : UInt32
deriving DecidableEq, Repr

namespace SecurityHandshakePacket

def fields : Reader SecurityHandshakePacket := do
  let ticketPhrase ← readFixedString 0x40
  let clientNumber ← Reader.u32
  return { ticketPhrase, clientNumber }

def parse (data : Bytes) : Option SecurityHandshakePacket := Reader.parse fields (data.drop 0x34)

end SecurityHandshakePacket

structure SessionPacket where
  sequence : UInt64
  session : Text
  version : Text
deriving DecidableEq, Repr

namespace SessionPacket

def fields : Reader SessionPacket := do
  let sequence ← Reader.u64
  let _ ← Reader.u32
  let _ ← Reader.u32
  let session ← readFixedString 0x40
  let version ← readFixedString 0x20
  return { sequence, session, version }

def parse (data : Bytes) : Option SessionPacket := Reader.parse fields data

end SessionPacket

structure SelectCharacterPacket where
  sequence : UInt64
  characterId : UInt32
  unknownId : UInt32
  ticket : UInt64
deriving DecidableEq, Repr

namespace SelectCharacterPacket

def fields : Reader SelectCharacterPacket := do
  let sequence ← Reader.u64
  let characterId ← Reader.u32
  let unknownId ← Reader.u32
  let ticket ← Reader.u64
  return { sequence, characterId, unknownId, ticket }

def parse (data : Bytes) : Option SelectCharacterPacket := Reader.parse fields data

end SelectCharacterPacket

structure CharacterModifyPacket where
  sequence : UInt64
  characterId : UInt32
  personType : UInt32
  slot : UInt8
  command : UInt8
  worldId : UInt16
  characterName : Text
  characterInfoEncoded : Text
deriving DecidableEq, Repr

namespace CharacterModifyPacket

def cmdReserve : UInt8 := 0x01

def cmdMake : UInt8 := 0x02

def cmdRename : UInt8 := 0x03

def cmdDelete : UInt8 := 0x04

def cmdRenameRetainer : UInt8 := 0x06

def fields : Reader CharacterModifyPacket := do
  let sequence ← Reader.u64
  let characterId ← Reader.u32
  let personType ← Reader.u32
  let slot ← Reader.u8
  let command ← Reader.u8
  let worldId ← Reader.u16
  let characterName ← readFixedString 0x20
  let characterInfoEncoded ← readFixedString 0x190
  return { sequence, characterId, personType, slot, command, worldId, characterName
           characterInfoEncoded }

def parse (data : Bytes) : Option CharacterModifyPacket := Reader.parse fields data

end CharacterModifyPacket

structure LobbySession where
  /-- The key of the cipher, once the handshake is done. -/
  blowfish : Option Bytes := none
  currentUserId : UInt32 := 0
  currentSessionToken : Text := []
  newCharaCid : UInt32 := 0
  newCharaSlot : UInt16 := 0
  newCharaWorldId : UInt16 := 0
  newCharaName : Text := []
deriving DecidableEq, Repr

structure World where
  id : UInt16
  address : Text
  port : UInt16
  name : Text
deriving DecidableEq, Repr

/-- What a handler answers, by the arguments of the packet it builds. -/
inductive Reply where
  | secureConnectionAcknowledgment
  | error (sequence : UInt64) (errorCode statusCode textId : UInt32) (message : Text)
  | accountList (sequence : UInt64)
  /-- The lists of worlds, names, retainers and characters, for the user bound. -/
  | lists (userId : UInt32)
  | selectCharacterConfirm (sequence : UInt64) (characterId : UInt32) (sessionToken : Text)
      (address : Text) (port : UInt16) (ticket : UInt64)
  | charaCreator (sequence : UInt64) (command : UInt16) (pid cid ticket : UInt32)
      (name worldName : Text)
deriving DecidableEq, Repr

/-- The configured worlds, the hash that keys are made with, the cipher and the
decoding of base 64. -/
structure PacketProcessor where
  worlds : List World
  md5 : Bytes → Bytes
  decrypt : Bytes → BasePacket → Outcome PacketError BasePacket
  decode : Text → Option Bytes

/-- The session and the database a handler leaves, and its replies or an error,
which ends the connection. -/
structure Handled where
  session : LobbySession
  db : Database
  replies : Option (List Reply)

namespace PacketProcessor

variable (p : PacketProcessor)

def worldById (id : UInt32) : Option World := p.worlds.find? fun w => w.id.toUInt32 = id

def worldMissing (sequence : UInt64) : Reply :=
  .error sequence 0 0 13001 "World Does not exist or is inactive.".toList

def generateBlowfishKey (ticketPhrase : Text) (clientNumber : UInt32) : Bytes :=
  let raw := [0x78, 0x56, 0x34, 0x12] ++ u32Bytes clientNumber ++ [0xE8, 0x03, 0x00, 0x00] ++
    (utf8 ticketPhrase).take 0x20
  p.md5 ((raw ++ zeros 0x2C).take 0x2C)

def processStartSession (session : LobbySession) (packet : BasePacket) :
    Option (LobbySession × List Reply) :=
  match SecurityHandshakePacket.parse packet.data with
  | none => none
  | some handshake =>
      let key := p.generateBlowfishKey handshake.ticketPhrase handshake.clientNumber
      some ({ session with blowfish := some key }, [.secureConnectionAcknowledgment])

def handleSessionAck (now : Nat) (session : LobbySession) (db : Database) (sub : SubPacket) :
    Handled :=
  match SessionPacket.parse sub.data with
  | none => ⟨session, db, none⟩
  | some s =>
      let userId := db.userIdFromSession s.session now
      let session := { session with currentUserId := userId, currentSessionToken := s.session }
      if userId = 0 then
        ⟨session, db, some [.error s.sequence 0 0 13001
          "Your session has expired, please login again.".toList]⟩
      else ⟨session, db, some [.accountList 1]⟩

def handleSelectCharacter (session : LobbySession) (db : Database) (sub : SubPacket) : Handled :=
  match SelectCharacterPacket.parse sub.data with
  | none => ⟨session, db, none⟩
  | some req =>
      match db.getCharacter session.currentUserId req.characterId with
      | .error _ => ⟨session, db, none⟩
      | .ok chara =>
          match chara.bind fun c => p.worldById c.serverId.toUInt32 with
          | none => ⟨session, db, some [worldMissing req.sequence]⟩
          | some world => ⟨session, db, some [.selectCharacterConfirm req.sequence
              req.characterId session.currentSessionToken world.address world.port req.ticket]⟩

def shouldRecoverReservation (command : UInt8) (worldId : UInt16) (newCharaCid : UInt32)
    (newCharaNameIsEmpty : Bool) : Bool :=
  command = CharacterModifyPacket.cmdMake ∧
    (worldId = 0 ∨ newCharaCid = 0 ∨ newCharaNameIsEmpty)

def reservationMissing (newCharaCid : UInt32) (newCharaNameIsEmpty : Bool) : Bool :=
  newCharaCid = 0 ∨ newCharaNameIsEmpty

/-- The world of a request: the one it names, or that of the reservation, or that of
the character it is about. -/
def requestWorld (session : LobbySession) (db : Database) (req : CharacterModifyPacket) : UInt16 :=
  let worldId := if req.worldId = 0 then session.newCharaWorldId else req.worldId
  if worldId = 0 ∧ req.characterId ≠ 0 then
    match db.getCharacter session.currentUserId req.characterId with
    | .ok (some chara) => chara.serverId
    | _ => worldId
  else worldId

/-- The session after a lost reservation was read back, with the world and the name
the request is answered for. -/
def recover (session : LobbySession) (db : Database) (req : CharacterModifyPacket) :
    LobbySession × UInt16 × Text :=
  let worldId := requestWorld session db req
  if shouldRecoverReservation req.command worldId session.newCharaCid
      session.newCharaName.isEmpty then
    match db.getReservedCharacter session.currentUserId with
    | .ok (some reserved) =>
        ({ session with
            newCharaCid := reserved.id
            newCharaSlot := reserved.slot
            newCharaWorldId := reserved.serverId
            newCharaName := reserved.name },
          reserved.serverId, reserved.name)
    | _ => (session, worldId, req.characterName)
  else (session, worldId, req.characterName)

def created (req : CharacterModifyPacket) (pid cid : UInt32) (name worldName : Text) : Reply :=
  .charaCreator req.sequence req.command.toUInt16 pid cid 1 name worldName

def nameTakenReply (req : CharacterModifyPacket) : Reply := .error req.sequence 1003 0 13005 []

def reserve (session : LobbySession) (db : Database) (req : CharacterModifyPacket)
    (worldId : UInt16) (name worldName : Text) : Handled :=
  let slot := req.slot.toUInt16
  let query := Database.reserveCharacter session.currentUserId slot.toUInt32 worldId.toUInt32 name
  let db' := Fallible.after query db
  match Fallible.result query db with
  | .error _ => ⟨session, db', none⟩
  | .ok (true, _) => ⟨session, db', some [nameTakenReply req]⟩
  | .ok (false, newCid) =>
      ⟨{ session with
          newCharaCid := newCid
          newCharaSlot := slot
          newCharaWorldId := worldId
          newCharaName := name }, db', some [created req 0 newCid name worldName]⟩

def make (session : LobbySession) (db : Database) (req : CharacterModifyPacket)
    (worldName : Text) : Handled :=
  match CharaInfo.parseNewCharRequest p.decode req.characterInfoEncoded with
  | none => ⟨session, db, none⟩
  | some info =>
      if reservationMissing session.newCharaCid session.newCharaName.isEmpty then
        ⟨session, db, some [.error req.sequence 0 0 13001
          "Character reservation was not found, please create the character again.".toList]⟩
      else
        let query := Database.makeCharacter session.currentUserId session.newCharaCid
          info.outfit.startingPosition
        let db' := Fallible.after query db
        match Fallible.result query db with
        | .error _ => ⟨session, db', none⟩
        | .ok _ => ⟨session, db',
            some [created req 1 session.newCharaCid session.newCharaName worldName]⟩

def rename (session : LobbySession) (db : Database) (req : CharacterModifyPacket)
    (worldId : UInt16) (name worldName : Text) : Handled :=
  let query := Database.renameCharacter session.currentUserId req.characterId worldId.toUInt32
    req.characterName
  let db' := Fallible.after query db
  match Fallible.result query db with
  | .error _ => ⟨session, db', none⟩
  | .ok true => ⟨session, db', some [nameTakenReply req]⟩
  | .ok false => ⟨session, db', some [created req 0 0 name worldName]⟩

def delete (session : LobbySession) (db : Database) (req : CharacterModifyPacket)
    (name worldName : Text) : Handled :=
  let query := Database.deleteCharacter session.currentUserId req.characterId name
  let db' := Fallible.after query db
  match Fallible.result query db with
  | .error _ => ⟨session, db', none⟩
  | .ok _ => ⟨session, db', some [created req 0 0 name worldName]⟩

def command (session : LobbySession) (db : Database) (req : CharacterModifyPacket)
    (worldId : UInt16) (name worldName : Text) : Handled :=
  if req.command = CharacterModifyPacket.cmdReserve then
    reserve session db req worldId name worldName
  else if req.command = CharacterModifyPacket.cmdMake then p.make session db req worldName
  else if req.command = CharacterModifyPacket.cmdRename then
    rename session db req worldId name worldName
  else if req.command = CharacterModifyPacket.cmdDelete then
    delete session db req name worldName
  else ⟨session, db, some [created req 0 0 name worldName]⟩

/-- `drift` is what others did to the database between the reads and the write. -/
def handleModifyCharacter (drift : Database → Database) (session : LobbySession) (db : Database)
    (sub : SubPacket) : Handled :=
  match CharacterModifyPacket.parse sub.data with
  | none => ⟨session, drift db, none⟩
  | some req =>
      let (session, worldId, name) := recover session db req
      match p.worldById worldId.toUInt32 with
      | none => ⟨session, drift db, some [worldMissing req.sequence]⟩
      | some world => p.command session (drift db) req worldId name world.name

def dispatch (now : Nat) (drift : Database → Database) (session : LobbySession) (db : Database)
    (sub : SubPacket) : Handled :=
  if sub.header.type ≠ subpacketTypeGamemessage then ⟨session, drift db, some []⟩
  else match sub.gameMessage.opcode.toNat with
    | 0x03 => ⟨session, drift db, some [.lists session.currentUserId]⟩
    | 0x04 => p.handleSelectCharacter session (drift db) sub
    | 0x05 => handleSessionAck now session (drift db) sub
    | 0x0B => p.handleModifyCharacter drift session db sub
    | _ => ⟨session, drift db, some []⟩

/-- The loop over the subpackets of a packet: an error ends it and drops the replies. -/
def dispatchAll (now : Nat) : List SubPacket → LobbySession → Database → List Reply → Handled
  | [], session, db, replies => ⟨session, db, some replies⟩
  | sub :: subs, session, db, replies =>
      let handled := p.dispatch now id session db sub
      match handled.replies with
      | none => handled
      | some more => dispatchAll now subs handled.session handled.db (replies ++ more)

def isTestTicket (packet : BasePacket) : Bool :=
  packet.header.packetSize = 0x288 ∧ packet.data[0x34]? = some 0x54

def process (now : Nat) (session : LobbySession) (db : Database) (packet : BasePacket) : Handled :=
  if isTestTicket packet then
    match p.processStartSession session packet with
    | none => ⟨session, db, none⟩
    | some (session, replies) => ⟨session, db, some replies⟩
  else match session.blowfish with
    | none => ⟨session, db, some []⟩
    | some key =>
        match (do (← p.decrypt key packet).getSubpackets) with
        | .ok subs => p.dispatchAll now subs session db []
        | _ => ⟨session, db, none⟩

end PacketProcessor
end Garlemald.Lobby
