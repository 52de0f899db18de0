import Garlemald.Map.Handshake
import Garlemald.World.Receive
import Garlemald.World.Send

/-!
The control bodies as the two servers write them down separately: what the map
server's builders lay out against what the world server's parsers read. Fixed
fields agree everywhere; an unpadded name does not, nor does a name behind a
command that selects an actor id.
-/

namespace Garlemald.Link
open Library Garlemald.Common Garlemald.Map
open Garlemald.World hiding opSessionBegin opSessionEnd buildSessionBegin buildSessionEnd

/-- A call of a builder that has a parser on the other side, or of the empty cancel. -/
inductive Request where
  | worldPacket (k : WorldPacket)
  | sessionBegin (errorCode : UInt16)
  | sessionEnd (errorCode : UInt16) (destinationZone : UInt32)
deriving DecidableEq, Repr

inductive ControlPacket where
  | sessionBegin (p : SessionBeginConfirmPacket)
  | sessionEnd (p : SessionEndConfirmPacket)
  | zoneChange (p : WorldRequestZoneChangePacket)
  | partyModify (p : PartyModifyPacket)
  | partyLeave (p : PartyLeavePacket)
  | partyInvite (p : PartyInvitePacket)
  | groupInviteResult (p : GroupInviteResultPacket)
  | createLinkshell (p : CreateLinkshellPacket)
  | modifyLinkshell (p : ModifyLinkshellPacket)
  | deleteLinkshell (p : DeleteLinkshellPacket)
  | linkshellChange (p : LinkshellChangePacket)
  | linkshellInvite (p : LinkshellInvitePacket)
  | linkshellLeave (p : LinkshellLeavePacket)
  | linkshellRankChange (p : LinkshellRankChangePacket)
deriving DecidableEq, Repr

/-- The parser the world server applies to a body of the given opcode. -/
def parseControl (opcode : UInt16) (data : Bytes) : Option ControlPacket :=
  if opcode = opSessionBegin then .sessionBegin <$> SessionBeginConfirmPacket.parse data
  else if opcode = opSessionEnd then .sessionEnd <$> SessionEndConfirmPacket.parse data
  else if opcode = opWorldZoneChangeRequest then
    .zoneChange <$> WorldRequestZoneChangePacket.parse data
  else if opcode = opWorldPartyModify then .partyModify <$> PartyModifyPacket.parse data
  else if opcode = opWorldPartyLeave then .partyLeave <$> PartyLeavePacket.parse data
  else if opcode = opWorldPartyInvite then .partyInvite <$> PartyInvitePacket.parse data
  else if opcode = opWorldGroupInviteResult then
    .groupInviteResult <$> GroupInviteResultPacket.parse data
  else if opcode = opWorldCreateLinkshell then
    .createLinkshell <$> CreateLinkshellPacket.parse data
  else if opcode = opWorldModifyLinkshell then
    .modifyLinkshell <$> ModifyLinkshellPacket.parse data
  else if opcode = opWorldDeleteLinkshell then
    .deleteLinkshell <$> DeleteLinkshellPacket.parse data
  else if opcode = opWorldLinkshellChange then
    .linkshellChange <$> LinkshellChangePacket.parse data
  else if opcode = opWorldLinkshellInvite then
    .linkshellInvite <$> LinkshellInvitePacket.parse data
  else if opcode = opWorldLinkshellLeave then
    .linkshellLeave <$> LinkshellLeavePacket.parse data
  else if opcode = opWorldLinkshellRankChange then
    .linkshellRankChange <$> LinkshellRankChangePacket.parse data
  else none

namespace Request

def opcode : Request → UInt16
  | worldPacket k => k.opcode
  | sessionBegin _ => opSessionBegin
  | sessionEnd _ _ => opSessionEnd

def build (now sessionId : UInt32) : Request → Option SubPacket
  | worldPacket k => k.build now sessionId
  | sessionBegin errorCode => buildSessionBegin now sessionId errorCode
  | sessionEnd errorCode destinationZone => buildSessionEnd now sessionId errorCode destinationZone

def NamesFit : Request → Prop
  | worldPacket (.partyModifyByName _ name) => FitsField 0x20 name
  | worldPacket (.partyInviteByName name) => FitsField 0x20 name
  | worldPacket (.createLinkshell name _ _) => FitsField 0x20 name
  | worldPacket (.modifyLinkshell _ name newName _ _) =>
      FitsField 0x20 name ∧ FitsField 0x20 newName
  | worldPacket (.deleteLinkshell name) => FitsField 0x20 name
  | worldPacket (.linkshellChange lsName) => FitsField 0x20 lsName
  | worldPacket (.linkshellInvite _ linkshellName) => FitsField 0x20 linkshellName
  | worldPacket (.linkshellLeave lsName kickedName _) =>
      FitsField 0x20 lsName ∧ ∀ name, kickedName = some name → FitsField 0x20 name
  | worldPacket (.linkshellRankChange name lsName _) => FitsField 0x20 name ∧ FitsField 0x20 lsName
  | _ => True

/-- The cancel is the one request without a parser. -/
def HasParser (r : Request) : Prop := r ≠ worldPacket .linkshellInviteCancel

/-- The parsed fields are the ones the body was built from. An actor id is sent under a
command that is two higher, and a selector sends the one field it selects. -/
def Carries (sessionId : UInt32) : Request → ControlPacket → Prop
  | worldPacket (.sessionBeginConfirm errorCode), .sessionBegin p => p = ⟨sessionId, errorCode⟩
  | worldPacket (.sessionEndConfirm destinationZone errorCode), .sessionEnd p =>
      p = ⟨sessionId, errorCode, destinationZone⟩
  | worldPacket (.worldRequestZoneChange zone spawnType x y z rotation), .zoneChange p =>
      p = ⟨sessionId, zone, spawnType, x, y, z, rotation⟩
  | worldPacket (.partyModifyByName command name), .partyModify p => p = ⟨command, 0, name⟩
  | worldPacket (.partyModifyByActor command actorId), .partyModify p =>
      p.command.toNat = command.toNat + 2 ∧ p.actorId = actorId ∧ p.name = []
  | worldPacket (.partyLeave isDisband), .partyLeave p => p = ⟨isDisband⟩
  | worldPacket (.partyInviteByName name), .partyInvite p => p = ⟨0, 0, name⟩
  | worldPacket (.partyInviteByActor actorId), .partyInvite p => p = ⟨1, actorId, []⟩
  | worldPacket (.groupInviteResult groupType result), .groupInviteResult p =>
      p = ⟨groupType, result⟩
  | worldPacket (.createLinkshell name crest master), .createLinkshell p =>
      p = ⟨name, crest, master⟩
  | worldPacket (.modifyLinkshell changeArg name newName crest master), .modifyLinkshell p =>
      p = { currentName := name, argCode := changeArg
            newName := if changeArg = 0 then newName else []
            crestId := if changeArg = 1 then crest else 0
            master := if changeArg = 2 then master else 0 }
  | worldPacket (.deleteLinkshell name), .deleteLinkshell p => p = ⟨name⟩
  | worldPacket (.linkshellChange lsName), .linkshellChange p => p = ⟨lsName⟩
  | worldPacket (.linkshellInvite actorId linkshellName), .linkshellInvite p =>
      p = ⟨actorId, linkshellName⟩
  | worldPacket (.linkshellLeave lsName kickedName isKicked), .linkshellLeave p =>
      p = ⟨isKicked, if isKicked then kickedName.getD [] else [], lsName⟩
  | worldPacket (.linkshellRankChange name lsName rank), .linkshellRankChange p =>
      p = ⟨name, lsName, rank⟩
  | sessionBegin errorCode, .sessionBegin p => p = ⟨sessionId, errorCode⟩
  | sessionEnd errorCode destinationZone, .sessionEnd p =>
      p = ⟨sessionId, errorCode, destinationZone⟩
  | _, _ => False

/-- The builder returns, and the parser of its opcode reads the fields back. -/
def RoundTrips (now sessionId : UInt32) (r : Request) : Prop :=
  ∃ p, r.build now sessionId = some p ∧
    ∃ parsed, parseControl r.opcode p.data = some parsed ∧ r.Carries sessionId parsed

/-- The requests whose fields the two sides agree on. -/
def Agreed : Request → Prop
  | worldPacket (.partyModifyByName command name) => command < 2 ∨ name = []
  | worldPacket (.partyModifyByActor command _) => command.toNat + 2 < 2 ^ 16
  | worldPacket (.modifyLinkshell changeArg name _ _ _) =>
      (utf8 name).length = 0x20 ∧ changeArg ≠ 0
  | _ => True

end Request

theorem Request.RoundTrips.of_parse {now sessionId : UInt32} {r : Request} {p : SubPacket}
    {α : Type} (wrap : α → ControlPacket) {parse : Bytes → Option α} {a : α}
    (parser : ∀ data, parseControl r.opcode data = wrap <$> parse data)
    (built : r.build now sessionId = some p) (read : parse p.data = some a)
    (carries : r.Carries sessionId (wrap a)) : r.RoundTrips now sessionId := by
  refine ⟨p, built, wrap a, ?_, carries⟩
  rw [parser, read]
  rfl

theorem Request.RoundTrips.parsed {now sessionId : UInt32} {r : Request} {α : Type}
    (h : r.RoundTrips now sessionId) (wrap : α → ControlPacket) (parse : Bytes → Option α)
    (parser : ∀ data, parseControl r.opcode data = wrap <$> parse data) :
    ∃ p, r.build now sessionId = some p ∧
      ∃ a, parse p.data = some a ∧ r.Carries sessionId (wrap a) := by
  obtain ⟨p, built, parsed, read, carries⟩ := h
  rw [parser] at read
  obtain ⟨a, found, rfl⟩ := Option.map_eq_some_iff.mp read
  exact ⟨p, built, a, found, carries⟩

section Agreement

variable (now sessionId : UInt32)

theorem partyModifyByName_roundTrips_iff (command : UInt16) {name : Text}
    (fits : FitsField 0x20 name) :
    (Request.worldPacket (.partyModifyByName command name)).RoundTrips now sessionId ↔
      command < 2 ∨ name = [] := by
  have built := buildPartyModifyByName_eq now sessionId command name
  constructor
  · intro trip
    obtain ⟨p, again, a, read, rfl⟩ :=
      trip.parsed .partyModify PartyModifyPacket.parse fun _ => rfl
    cases built.symm.trans again
    by_cases byName : command < 2
    · exact Or.inl byName
    · exact Or.inr (PartyModifyPacket.parse_name_nil read (UInt16.not_lt.mp byName))
  · intro agreed
    by_cases byName : command < 2
    · exact .of_parse .partyModify (fun _ => rfl) built
        (PartyModifyPacket.parse_name byName fits (zeros 6)) rfl
    · obtain rfl := agreed.resolve_left byName
      have read := PartyModifyPacket.parse_actor (UInt16.not_lt.mp byName) 0 (zeros 34)
      exact .of_parse .partyModify (fun _ => rfl) built read rfl

theorem partyModifyByActor_roundTrips_iff (command : UInt16) (actorId : UInt32) :
    (Request.worldPacket (.partyModifyByActor command actorId)).RoundTrips now sessionId ↔
      command.toNat + 2 < 2 ^ 16 := by
  have built := buildPartyModifyByActor_eq now sessionId command actorId
  constructor
  · intro trip
    obtain ⟨p, again, a, read, carries⟩ :=
      trip.parsed .partyModify PartyModifyPacket.parse fun _ => rfl
    rw [← carries.1]
    exact a.command.toNat_lt
  · intro small
    have sum : (command + 2).toNat = command.toNat + 2 := by
      rw [UInt16.toNat_add]
      exact Nat.mod_eq_of_lt small
    have byActor : 2 ≤ command + 2 := by
      rw [UInt16.le_iff_toNat_le, sum]
      exact Nat.le_add_left ..
    exact .of_parse .partyModify (fun _ => rfl) built
      (PartyModifyPacket.parse_actor byActor actorId (zeros 34)) ⟨sum, rfl, rfl⟩

theorem code_past_name (hi : UInt8) (room past : Nat) :
    (u16Value (((0 :: hi :: zeros (room + 1)).drop (past + 1)).take 2)).toNat < 256 := by
  have small := hi.toNat_lt
  cases past with
  | zero =>
      have front : ((0 :: hi :: zeros (room + 1)).drop 1).take 2 = [hi, 0] := rfl
      rw [front, u16Value, UInt16.toNat_ofNat']
      simp only [leValue, UInt8.toNat_zero]
      omega
  | succ past =>
      have behind : (0 :: hi :: zeros (room + 1)).drop (past + 2) = zeros (room + 1 - past) := by
        simp [zeros]
      have front : (zeros (room + 1 - past)).take 2 = zeros (min 2 (room + 1 - past)) := by
        simp [zeros]
      rw [behind, front, u16Value, leValue_zeros]
      decide

/-- An unpadded name keeps its boundary only when it fills its field, and a rename is
longer than the body. -/
theorem modifyLinkshell_roundTrips_iff (changeArg : UInt16) {name : Text}
    (fits : FitsField 0x20 name) (newName : Text) (crest : UInt16) (master : UInt32) :
    (Request.worldPacket (.modifyLinkshell changeArg name newName crest master)).RoundTrips
        now sessionId ↔ (utf8 name).length = 0x20 ∧ changeArg ≠ 0 := by
  constructor
  · intro trip
    obtain ⟨p, built, a, read, rfl⟩ :=
      trip.parsed .modifyLinkshell ModifyLinkshellPacket.parse fun _ => rfl
    obtain ⟨nameEq, codeEq, renameLong⟩ := ModifyLinkshellPacket.parse_shared read
    have length := buildModifyLinkshell_length now sessionId built
    have other : changeArg ≠ 0 := by
      intro rename
      have := renameLong rename
      omega
    refine ⟨?_, other⟩
    by_contra shorter
    have short : (utf8 name).length < 0x20 := Nat.lt_of_le_of_ne fits.short shorter
    obtain ⟨room, layout⟩ :=
      buildModifyLinkshell_eq now sessionId other fits.short newName crest master
    cases built.symm.trans layout
    simp only [SubPacket.new, SubPacket.newWithFlag] at nameEq codeEq length
    rw [u16Bytes_eq, List.cons_append, List.cons_append, List.nil_append] at nameEq codeEq
    by_cases low : UInt8.ofNat changeArg.toNat = 0
    · have none : (if changeArg = 1 then u16Bytes crest
          else if changeArg = 2 then u32Bytes master else []) = [] := by
        rw [if_neg (fun one => absurd (one ▸ low) (by decide)),
          if_neg (fun two => absurd (two ▸ low) (by decide))]
      simp only [none, List.nil_append, List.length_append, length_u16Bytes, length_zeros]
        at codeEq length
      rw [List.drop_append, List.drop_eq_nil_of_le (Nat.le_of_lt short), List.nil_append, low,
        show room = (61 - (utf8 name).length) + 1 by omega,
        show 0x20 - (utf8 name).length = (31 - (utf8 name).length) + 1 by omega] at codeEq
      have below := code_past_name (UInt8.ofNat (changeArg.toNat / 256))
        (61 - (utf8 name).length) (31 - (utf8 name).length)
      rw [← codeEq] at below
      have rest := congrArg UInt8.toNat low
      rw [UInt8.toNat_ofNat', UInt8.toNat_zero] at rest
      exact other (UInt16.toNat_inj.mp (by rw [UInt16.toNat_zero]; omega))
    · rw [List.take_append, List.take_of_length_le fits.short,
        show 0x20 - (utf8 name).length = (31 - (utf8 name).length) + 1 by omega,
        List.take_succ_cons] at nameEq
      exact fixedString_past fits.nulFree low _ nameEq.symm
  · intro held
    obtain ⟨full, other⟩ := held
    obtain ⟨room, built⟩ := buildModifyLinkshell_eq now sessionId other (Nat.le_of_eq full)
      newName crest master
    have read := ModifyLinkshellPacket.parse_code fits full other crest master (zeros room)
    exact .of_parse .modifyLinkshell (fun _ => rfl) built read (by
      simp [Request.Carries, other])

theorem linkshellLeave_roundTrips {lsName : Text} (fits : FitsField 0x20 lsName)
    {kickedName : Option Text} (kicked : ∀ name, kickedName = some name → FitsField 0x20 name)
    (isKicked : Bool) :
    (Request.worldPacket (.linkshellLeave lsName kickedName isKicked)).RoundTrips
      now sessionId := by
  have field : FitsField 0x20 (if isKicked then kickedName.getD [] else []) := by
    split
    · cases kickedName with
      | none => exact .nil _
      | some name => exact kicked name rfl
    · exact .nil _
  exact .of_parse .linkshellLeave (fun _ => rfl)
    (buildLinkshellLeave_eq now sessionId lsName kickedName isKicked)
    (LinkshellLeavePacket.parse_layout isKicked field fits _) rfl

/-- The parser of the world server reads back what the builder of the map server was
called with if and only if the request is one the two sides agree on. -/
theorem request_roundTrips_iff {r : Request} (parsed : r.HasParser) (fits : r.NamesFit) :
    r.RoundTrips now sessionId ↔ r.Agreed := by
  cases r with
  | sessionBegin errorCode =>
      refine iff_of_true ?_ trivial
      have read := SessionBeginConfirmPacket.parse_layout sessionId errorCode []
      rw [List.append_nil] at read
      exact .of_parse .sessionBegin (fun _ => rfl)
        (buildSessionBegin_eq now sessionId errorCode) read rfl
  | sessionEnd errorCode destinationZone =>
      refine iff_of_true ?_ trivial
      have read := SessionEndConfirmPacket.parse_layout sessionId destinationZone errorCode []
      rw [List.append_nil] at read
      exact .of_parse .sessionEnd (fun _ => rfl)
        (buildSessionEnd_eq now sessionId errorCode destinationZone) read rfl
  | worldPacket k =>
      cases k with
      | sessionBeginConfirm errorCode =>
          exact iff_of_true (.of_parse .sessionBegin (fun _ => rfl)
            (buildSessionBeginConfirm_eq now sessionId errorCode)
            (SessionBeginConfirmPacket.parse_layout ..) rfl) trivial
      | sessionEndConfirm destinationZone errorCode =>
          exact iff_of_true (.of_parse .sessionEnd (fun _ => rfl)
            (buildSessionEndConfirm_eq now sessionId destinationZone errorCode)
            (SessionEndConfirmPacket.parse_layout ..) rfl) trivial
      | worldRequestZoneChange zone spawnType x y z rotation =>
          exact iff_of_true (.of_parse .zoneChange (fun _ => rfl)
            (buildWorldRequestZoneChange_eq now sessionId zone spawnType x y z rotation)
            (WorldRequestZoneChangePacket.parse_layout ..) rfl) trivial
      | partyModifyByName command name =>
          exact partyModifyByName_roundTrips_iff now sessionId command fits
      | partyModifyByActor command actorId =>
          exact partyModifyByActor_roundTrips_iff now sessionId command actorId
      | partyLeave isDisband =>
          exact iff_of_true (.of_parse .partyLeave (fun _ => rfl)
            (buildPartyLeave_eq now sessionId isDisband)
            (PartyLeavePacket.parse_layout ..) rfl) trivial
      | partyInviteByName name =>
          exact iff_of_true (.of_parse .partyInvite (fun _ => rfl)
            (buildPartyInviteByName_eq now sessionId name)
            (PartyInvitePacket.parse_name fits _) rfl) trivial
      | partyInviteByActor actorId =>
          exact iff_of_true (.of_parse .partyInvite (fun _ => rfl)
            (buildPartyInviteByActor_eq now sessionId actorId)
            (PartyInvitePacket.parse_actor ..) rfl) trivial
      | groupInviteResult groupType result =>
          exact iff_of_true (.of_parse .groupInviteResult (fun _ => rfl)
            (buildGroupInviteResult_eq now sessionId groupType result)
            (GroupInviteResultPacket.parse_layout ..) rfl) trivial
      | createLinkshell name crest master =>
          exact iff_of_true (.of_parse .createLinkshell (fun _ => rfl)
            (buildCreateLinkshell_eq now sessionId name crest master)
            (CreateLinkshellPacket.parse_layout fits ..) rfl) trivial
      | modifyLinkshell changeArg name newName crest master =>
          exact modifyLinkshell_roundTrips_iff now sessionId changeArg fits.1 newName crest master
      | deleteLinkshell name =>
          exact iff_of_true (.of_parse .deleteLinkshell (fun _ => rfl)
            (buildDeleteLinkshell_eq now sessionId name)
            (DeleteLinkshellPacket.parse_layout fits _) rfl) trivial
      | linkshellChange lsName =>
          exact iff_of_true (.of_parse .linkshellChange (fun _ => rfl)
            (buildLinkshellChange_eq now sessionId lsName)
            (LinkshellChangePacket.parse_layout fits _) rfl) trivial
      | linkshellInvite actorId linkshellName =>
          exact iff_of_true (.of_parse .linkshellInvite (fun _ => rfl)
            (buildLinkshellInvite_eq now sessionId actorId linkshellName)
            (LinkshellInvitePacket.parse_layout _ fits _) rfl) trivial
      | linkshellInviteCancel => exact absurd rfl parsed
      | linkshellLeave lsName kickedName isKicked =>
          exact iff_of_true (linkshellLeave_roundTrips now sessionId fits.1 fits.2 isKicked) trivial
      | linkshellRankChange name lsName rank =>
          exact iff_of_true (.of_parse .linkshellRankChange (fun _ => rfl)
            (buildLinkshellRankChange_eq now sessionId name lsName rank)
            (LinkshellRankChangePacket.parse_layout fits.1 fits.2 rank _) rfl) trivial

end Agreement

/-- A linkshell name of two bytes shifts the code behind it out of its place. -/
theorem change_crest_of_short_name_misread :
    (Request.worldPacket (.modifyLinkshell 1 ['L', 'S'] [] 7 0)).NamesFit ∧
      ¬ (Request.worldPacket (.modifyLinkshell 1 ['L', 'S'] [] 7 0)).RoundTrips 0 1 := by
  refine ⟨⟨⟨by decide, by decide⟩, .nil _⟩, fun trip => ?_⟩
  have agreed := (modifyLinkshell_roundTrips_iff 0 1 1 ⟨by decide, by decide⟩ [] 7 0).mp trip
  exact absurd agreed.1 (by decide)

theorem request_roundTrips_rank_change :
    (Request.worldPacket (.linkshellRankChange ['A'] ['L', 'S'] 4)).RoundTrips 0 1 := by
  have parsed : (Request.worldPacket (.linkshellRankChange ['A'] ['L', 'S'] 4)).HasParser := by
    rw [Request.HasParser]
    decide
  have fits : (Request.worldPacket (.linkshellRankChange ['A'] ['L', 'S'] 4)).NamesFit :=
    ⟨⟨by decide, by decide⟩, by decide, by decide⟩
  exact (request_roundTrips_iff 0 1 parsed fits).mpr trivial

end Garlemald.Link
