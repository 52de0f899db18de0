import Garlemald.Lobby.Processor

/-!
What a handler does to the database and to the session. A subpacket makes at most
one query that writes, in the name of the user bound; it binds a user only as a
session packet, and keeps the key of the cipher.
-/

namespace Garlemald.Lobby
open Library Garlemald.Common

namespace PacketProcessor

variable (p : PacketProcessor)

/-- The query a command makes, if it is not refused before. -/
def commandQuery (session : LobbySession) (req : CharacterModifyPacket) (worldId : UInt16)
    (name : Text) : Option Operation :=
  let user := session.currentUserId
  if req.command = CharacterModifyPacket.cmdReserve then
    some (.reserve user req.slot.toUInt16.toUInt32 worldId.toUInt32 name)
  else if req.command = CharacterModifyPacket.cmdMake then
    match CharaInfo.parseNewCharRequest p.decode req.characterInfoEncoded with
    | none => none
    | some info =>
        if reservationMissing session.newCharaCid session.newCharaName.isEmpty then none
        else some (.make user session.newCharaCid info.outfit.startingPosition)
  else if req.command = CharacterModifyPacket.cmdRename then
    some (.rename user req.characterId worldId.toUInt32 req.characterName)
  else if req.command = CharacterModifyPacket.cmdDelete then
    some (.delete user req.characterId name)
  else none

def requested (session : LobbySession) (db : Database) (sub : SubPacket) : Option Operation :=
  match CharacterModifyPacket.parse sub.data with
  | none => none
  | some req =>
      let (session, worldId, name) := recover session db req
      match p.worldById worldId.toUInt32 with
      | none => none
      | some _ => p.commandQuery session req worldId name

def query (session : LobbySession) (db : Database) (sub : SubPacket) : Option Operation :=
  if sub.header.type = subpacketTypeGamemessage ∧ sub.gameMessage.opcode.toNat = 0x0B then
    p.requested session db sub
  else none

def SameUser (session session' : LobbySession) : Prop :=
  ∃ cid slot world name, session' = { session with
    newCharaCid := cid, newCharaSlot := slot, newCharaWorldId := world, newCharaName := name }

namespace SameUser

variable {session mid session' : LobbySession}

theorem trans (before : SameUser session mid) (after : SameUser mid session') :
    SameUser session session' := by
  obtain ⟨_, _, _, _, rfl⟩ := before
  obtain ⟨_, _, _, _, rfl⟩ := after
  exact ⟨_, _, _, _, rfl⟩

theorem user (same : SameUser session session') :
    session'.currentUserId = session.currentUserId := by
  obtain ⟨_, _, _, _, rfl⟩ := same
  rfl

theorem blowfish (same : SameUser session session') : session'.blowfish = session.blowfish := by
  obtain ⟨_, _, _, _, rfl⟩ := same
  rfl

end SameUser

theorem recover_session (session : LobbySession) (db : Database) (req : CharacterModifyPacket) :
    SameUser session (recover session db req).1 := by
  rw [recover]
  split
  · split <;> exact ⟨_, _, _, _, rfl⟩
  · exact ⟨_, _, _, _, rfl⟩

theorem commandQuery_user {session : LobbySession} {req : CharacterModifyPacket}
    {worldId : UInt16} {name : Text} {op : Operation}
    (asked : p.commandQuery session req worldId name = some op) :
    op.user = session.currentUserId := by
  rw [commandQuery] at asked
  split at asked
  · cases asked
    rfl
  · split at asked
    · split at asked
      · cases asked
      · split at asked
        · cases asked
        · cases asked
          rfl
    · split at asked
      · cases asked
        rfl
      · split at asked
        · cases asked
          rfl
        · cases asked

theorem query_user {session : LobbySession} {db : Database} {sub : SubPacket} {op : Operation}
    (asked : p.query session db sub = some op) :
    op.user = session.currentUserId := by
  rw [query] at asked
  split at asked
  · rw [requested] at asked
    cases parsed : CharacterModifyPacket.parse sub.data with
    | none => simp [parsed] at asked
    | some req =>
        simp only [parsed] at asked
        cases found : p.worldById (recover session db req).2.1.toUInt32 with
        | none => simp [found] at asked
        | some world =>
            simp only [found] at asked
            rw [p.commandQuery_user asked]
            exact (recover_session session db req).user
  · cases asked

theorem reserve_db (session : LobbySession) (db : Database) (req : CharacterModifyPacket)
    (worldId : UInt16) (name worldName : Text) :
    (reserve session db req worldId name worldName).db =
      db.perform (.reserve session.currentUserId req.slot.toUInt16.toUInt32 worldId.toUInt32
        name) := by
  simp only [reserve]
  split <;> rfl

theorem make_db {session : LobbySession} {db : Database} {req : CharacterModifyPacket}
    {worldName : Text} {info : CharaInfo}
    (parsed : CharaInfo.parseNewCharRequest p.decode req.characterInfoEncoded = some info)
    (present : reservationMissing session.newCharaCid session.newCharaName.isEmpty = false) :
    (p.make session db req worldName).db =
      db.perform (.make session.currentUserId session.newCharaCid
        info.outfit.startingPosition) := by
  simp only [make, parsed, present, Bool.false_eq_true, if_false]
  split <;> rfl

theorem rename_db (session : LobbySession) (db : Database) (req : CharacterModifyPacket)
    (worldId : UInt16) (name worldName : Text) :
    (rename session db req worldId name worldName).db =
      db.perform (.rename session.currentUserId req.characterId worldId.toUInt32
        req.characterName) := by
  simp only [rename]
  split <;> rfl

theorem delete_db (session : LobbySession) (db : Database) (req : CharacterModifyPacket)
    (name worldName : Text) :
    (delete session db req name worldName).db =
      db.perform (.delete session.currentUserId req.characterId name) := by
  simp only [delete]
  split <;> rfl

theorem command_db (session : LobbySession) (db : Database) (req : CharacterModifyPacket)
    (worldId : UInt16) (name worldName : Text) :
    (p.command session db req worldId name worldName).db =
      match p.commandQuery session req worldId name with
      | some op => db.perform op
      | none => db := by
  rw [command, commandQuery]
  by_cases isReserve : req.command = CharacterModifyPacket.cmdReserve
  · simp only [isReserve, if_true]
    exact reserve_db session db req worldId name worldName
  · simp only [isReserve, if_false]
    by_cases isMake : req.command = CharacterModifyPacket.cmdMake
    · simp only [isMake, if_true]
      cases parsed : CharaInfo.parseNewCharRequest p.decode req.characterInfoEncoded with
      | none => simp only [make, parsed]
      | some info =>
          cases missing : reservationMissing session.newCharaCid session.newCharaName.isEmpty with
          | true => simp only [make, parsed, missing, if_true]
          | false =>
              rw [p.make_db parsed missing]
              simp only [Bool.false_eq_true, if_false]
    · simp only [isMake, if_false]
      by_cases isRename : req.command = CharacterModifyPacket.cmdRename
      · simp only [isRename, if_true]
        exact rename_db session db req worldId name worldName
      · simp only [isRename, if_false]
        by_cases isDelete : req.command = CharacterModifyPacket.cmdDelete
        · simp only [isDelete, if_true]
          exact delete_db session db req name worldName
        · simp only [isDelete, if_false]

theorem handleModifyCharacter_db (drift : Database → Database) (session : LobbySession)
    (db : Database) (sub : SubPacket) :
    (p.handleModifyCharacter drift session db sub).db =
      match p.requested session db sub with
      | some op => (drift db).perform op
      | none => drift db := by
  rw [handleModifyCharacter, requested]
  cases CharacterModifyPacket.parse sub.data with
  | none => rfl
  | some req =>
      simp only
      cases p.worldById (recover session db req).2.1.toUInt32 with
      | none => rfl
      | some world => exact p.command_db _ (drift db) req _ _ world.name

theorem handleSessionAck_db (now : Nat) (session : LobbySession) (db : Database)
    (sub : SubPacket) : (handleSessionAck now session db sub).db = db := by
  rw [handleSessionAck]
  split
  · rfl
  · simp only
    split <;> rfl

theorem handleSelectCharacter_db (session : LobbySession) (db : Database) (sub : SubPacket) :
    (p.handleSelectCharacter session db sub).db = db := by
  rw [handleSelectCharacter]
  split
  · rfl
  · split
    · rfl
    · split <;> rfl

theorem dispatch_db (now : Nat) (drift : Database → Database) (session : LobbySession)
    (db : Database) (sub : SubPacket) :
    (p.dispatch now drift session db sub).db =
      match p.query session db sub with
      | some op => (drift db).perform op
      | none => drift db := by
  rw [dispatch, query]
  by_cases message : sub.header.type = subpacketTypeGamemessage
  · simp only [message, ne_eq, not_true_eq_false, if_false, true_and]
    split
    · next opcode => simp [opcode]
    · rw [handleSelectCharacter_db]
      next opcode => simp [opcode]
    · rw [handleSessionAck_db]
      next opcode => simp [opcode]
    · next opcode =>
        rw [if_pos opcode]
        exact p.handleModifyCharacter_db drift session db sub
    · next _ _ _ other =>
        rw [if_neg fun opcode => other opcode]
  · rw [if_pos message, if_neg fun both => message both.1]

theorem command_session (session : LobbySession) (db : Database) (req : CharacterModifyPacket)
    (worldId : UInt16) (name worldName : Text) :
    SameUser session (p.command session db req worldId name worldName).session := by
  rw [command]
  split
  · simp only [reserve]
    split <;> exact ⟨_, _, _, _, rfl⟩
  · split
    · simp only [make]
      split
      · exact ⟨_, _, _, _, rfl⟩
      · split
        · exact ⟨_, _, _, _, rfl⟩
        · split <;> exact ⟨_, _, _, _, rfl⟩
    · split
      · simp only [rename]
        split <;> exact ⟨_, _, _, _, rfl⟩
      · split
        · simp only [delete]
          split <;> exact ⟨_, _, _, _, rfl⟩
        · exact ⟨_, _, _, _, rfl⟩

theorem handleModifyCharacter_session (drift : Database → Database) (session : LobbySession)
    (db : Database) (sub : SubPacket) :
    SameUser session (p.handleModifyCharacter drift session db sub).session := by
  rw [handleModifyCharacter]
  cases CharacterModifyPacket.parse sub.data with
  | none => exact ⟨_, _, _, _, rfl⟩
  | some req =>
      have recovered := recover_session session db req
      simp only
      cases p.worldById (recover session db req).2.1.toUInt32 with
      | none => exact recovered
      | some world => exact recovered.trans (p.command_session _ (drift db) req _ _ world.name)

theorem handleSelectCharacter_session (session : LobbySession) (db : Database)
    (sub : SubPacket) : (p.handleSelectCharacter session db sub).session = session := by
  rw [handleSelectCharacter]
  split
  · rfl
  · split
    · rfl
    · split <;> rfl

theorem dispatch_user (now : Nat) (drift : Database → Database) (session : LobbySession)
    (db : Database) (sub : SubPacket) :
    (p.dispatch now drift session db sub).session.currentUserId = session.currentUserId ∨
      ∃ s, SessionPacket.parse sub.data = some s ∧
        (p.dispatch now drift session db sub).session.currentUserId =
          (drift db).userIdFromSession s.session now := by
  rw [dispatch]
  split
  · exact Or.inl rfl
  · split
    · exact Or.inl rfl
    · rw [handleSelectCharacter_session]
      exact Or.inl rfl
    · rw [handleSessionAck]
      cases parsed : SessionPacket.parse sub.data with
      | none => exact Or.inl rfl
      | some s =>
          refine Or.inr ⟨s, rfl, ?_⟩
          simp only
          split <;> rfl
    · exact Or.inl (p.handleModifyCharacter_session drift session db sub).user
    · exact Or.inl rfl

theorem dispatch_blowfish (now : Nat) (drift : Database → Database) (session : LobbySession)
    (db : Database) (sub : SubPacket) :
    (p.dispatch now drift session db sub).session.blowfish = session.blowfish := by
  rw [dispatch]
  split
  · rfl
  · split
    · rfl
    · rw [handleSelectCharacter_session]
    · rw [handleSessionAck]
      split
      · rfl
      · simp only
        split <;> rfl
    · exact (p.handleModifyCharacter_session drift session db sub).blowfish
    · rfl

end PacketProcessor

end Garlemald.Lobby
