import Garlemald.Library.Runs
import Garlemald.World.Sessions

/-!
Who is in which party, over runs of party packets and disconnects. The table of
parties is also the index from a player to its party, and only the owner of a
party ever gets an entry there: a state without a fault has parties of one. The
runs without a fault are those that never need a second entry.
-/

namespace Garlemald.World
open Library Garlemald.Common
open Function (update)

/-- What a table of parties promises: no player in two parties, no empty, repeated or
overfull member list, a leader among the members, and an entry for exactly the members. -/
structure PartyManager.Consistent (m : PartyManager) : Prop where
  atMostOne : ∀ a b p q, m.parties a = some p → m.parties b = some q →
    ∀ x, x ∈ p.members → x ∈ q.members → p = q
  nonempty : ∀ a p, m.parties a = some p → p.members ≠ []
  nodup : ∀ a p, m.parties a = some p → p.members.Nodup
  bounded : ∀ a p, m.parties a = some p → p.memberCount ≤ Party.maxMembers.toNat
  leader : ∀ a p, m.parties a = some p → p.leader ∈ p.members
  index : ∀ a p, m.parties a = some p → ∀ x, x ∈ p.members ↔ m.parties x = some p

/-- Every party consists of the player it is kept under. -/
def PartyManager.Single (m : PartyManager) : Prop :=
  ∀ a p, m.parties a = some p → p.members = [a] ∧ p.leader = a

theorem PartyManager.Single.consistent {m : PartyManager} (single : m.Single) :
    m.Consistent where
  atMostOne := by
    intro a b p q here there x inP inQ
    rw [(single a p here).1, List.mem_singleton] at inP
    rw [(single b q there).1, List.mem_singleton] at inQ
    rw [← inP, inQ, there] at here
    exact (Option.some.inj here).symm
  nonempty := by
    intro a p here
    rw [(single a p here).1]
    exact List.cons_ne_nil a []
  nodup := by
    intro a p here
    rw [(single a p here).1]
    exact List.pairwise_singleton _ a
  bounded := by
    intro a p here
    rw [Party.memberCount, (single a p here).1]
    exact (by decide : 1 ≤ Party.maxMembers.toNat)
  leader := by
    intro a p here
    rw [(single a p here).1, (single a p here).2]
    exact List.mem_singleton_self a
  index := by
    intro a p here x
    rw [(single a p here).1, List.mem_singleton]
    constructor
    · rintro rfl
      exact here
    · intro there
      have same := (single x p there).1.symm.trans (single a p here).1
      exact List.singleton_inj.mp same

theorem PartyManager.Consistent.alone {m : PartyManager} (consistent : m.Consistent)
    {a : UInt32} {p : Party} (here : m.parties a = some p) {x : UInt32} (member : x ∈ p.members) :
    m.parties x = some p :=
  (consistent.index a p here x).mp member

namespace Server

variable {δ : Type}

inductive PartyEvent where
  | invite (sub : SubPacket)
  | modify (sub : SubPacket)
  | leave (sub : SubPacket)
  | inviteResult (sub : SubPacket)
  | disconnect (now : UInt32) (client : ClientHandle)

def partyStep (w : Server δ) : PartyEvent → Option (Server δ)
  | .invite sub => some (handlePartyInvite sub w).1
  | .modify sub => some (handlePartyModify sub w).1
  | .leave sub => some (handlePartyLeave sub w).1
  | .inviteResult sub => some (handleGroupInviteResult sub w).1
  | .disconnect now client => some (handleDisconnect now client w)

def InParty (w : Server δ) (owner x : UInt32) : Prop :=
  ∃ p, w.parties.parties owner = some p ∧ x ∈ p.members

def ChangesLeader (p : PartyModifyPacket) : Prop :=
  p.command = PartyModifyPacket.modifyLeader ∨ p.command = PartyModifyPacket.modifyLeader + 2

def Kicks (p : PartyModifyPacket) : Prop :=
  p.command = PartyModifyPacket.modifyKickplayer ∨
    p.command = PartyModifyPacket.modifyKickplayer + 2

/-- The player a modification is about: a command from 2 on carries its actor id, and the
others carry the name its session is known by. -/
def Names (w : Server δ) (p : PartyModifyPacket) (x : UInt32) : Prop :=
  if 2 ≤ p.command then x = p.actorId else w.sessions.idToName x = some p.name

/-- The step keeps the promises of the table; a change of leader keeps the members of the
target's party, and a kick removes exactly the player it names. -/
structure Maintains (w : Server δ) (e : PartyEvent) : Prop where
  consistent : ∀ w', w.partyStep e = some w' → w'.parties.Consistent
  leaderChange : ∀ sub p w', e = .modify sub → PartyModifyPacket.parse sub.data = some p →
    ChangesLeader p → w.partyStep e = some w' →
      ∀ x, w'.InParty sub.header.targetId x ↔ w.InParty sub.header.targetId x
  kick : ∀ sub p w', e = .modify sub → PartyModifyPacket.parse sub.data = some p →
    Kicks p → w.partyStep e = some w' →
      ∀ x, w'.InParty sub.header.targetId x ↔
        w.InParty sub.header.targetId x ∧ ¬ w.Names p x

/-- No invite adds a player other than the inviter, no player with a party leaves it but to
disband it, and no kick names a member of the target's party. -/
def StaysAlone (w : Server δ) : PartyEvent → Prop
  | .invite sub => ∀ p, PartyInvitePacket.parse sub.data = some p → p.command = 1 →
      p.actorId = 0 ∨ p.actorId = sub.header.sourceId
  | .leave sub => ∀ p, PartyLeavePacket.parse sub.data = some p →
      p.isDisband ∨ w.parties.getParty sub.header.sourceId = none
  | .modify sub => ∀ p, PartyModifyPacket.parse sub.data = some p → Kicks p →
      ∀ x, w.InParty sub.header.targetId x → ¬ w.Names p x
  | _ => True

theorem parties_requestEnd (now : UInt32) (routing : Option ZoneServerHandle)
    (sessionId : UInt32) (connSeq : UInt64) (w : Server δ) :
    (w.requestEnd now routing sessionId connSeq).parties = w.parties := by
  cases routing <;> rfl

theorem parties_handleDisconnect (now : UInt32) (client : ClientHandle) (w : Server δ) :
    (handleDisconnect now client w).parties = w.parties := by
  have dropped (entry : SessionChannel × UInt32) (w : Server δ) :
      (dropSession now client w entry).parties = w.parties := by
    rw [dropSession]
    split
    · rfl
    · dsimp only
      split
      · split
        · exact parties_requestEnd ..
        · rfl
      · rfl
  rw [handleDisconnect]
  induction w.owned client.connSeq generalizing w with
  | nil => rfl
  | cons entry owned ih => rw [List.foldl_cons, ih, dropped]

section Single

variable {w : Server δ} (single : w.parties.Single)

include single

theorem handlePartyModify_single (sub : SubPacket) : (handlePartyModify sub w).1 = w := by
  rw [handlePartyModify]
  cases PartyModifyPacket.parse sub.data with
  | none => rfl
  | some p =>
      dsimp only
      cases here : w.parties.getParty sub.header.targetId with
      | none => rfl
      | some party =>
          have alone := (single _ party here).1
          have small : ¬ 1 < party.memberCount := by
            rw [Party.memberCount, alone]
            exact Nat.lt_irrefl 1
          simp [small]

theorem single_ensureParty (owner : UInt32) :
    ∃ p, (w.parties.ensureParty w.nextGroupId owner).1.parties owner = some p ∧
      p.members = [owner] ∧ (w.parties.ensureParty w.nextGroupId owner).1.Single := by
  rw [PartyManager.ensureParty]
  cases here : w.parties.parties owner with
  | some p => exact ⟨p, here, (single owner p here).1, single⟩
  | none =>
      refine ⟨Party.new w.nextGroupId owner, Function.update_self .., rfl, ?_⟩
      intro a p found
      by_cases own : a = owner
      · subst own
        simp only [Function.update_self, Option.some.injEq] at found
        cases found
        exact ⟨rfl, rfl⟩
      · simp only [Function.update_of_ne own] at found
        exact single a p found

theorem handlePartyInvite_single (sub : SubPacket) :
    ((handlePartyInvite sub w).1.parties.Consistent → w.StaysAlone (.invite sub)) ∧
      (w.StaysAlone (.invite sub) → (handlePartyInvite sub w).1.parties.Single) := by
  simp only [StaysAlone, handlePartyInvite]
  cases parsed : PartyInvitePacket.parse sub.data with
  | none => exact ⟨fun _ p impossible => by contradiction, fun _ => single⟩
  | some invite =>
      obtain ⟨p, here, alone, ensured⟩ := single_ensureParty single sub.header.sourceId
      dsimp only
      by_cases adds : invite.command = 1 ∧ invite.actorId ≠ 0
      · rw [if_pos adds]
        simp only [PartyManager.addMember, here]
        constructor
        · rintro consistent _ ⟨⟩ -
          by_cases self : invite.actorId = sub.header.sourceId
          · exact Or.inr self
          · have added : (p.addMember invite.actorId).members =
                [sub.header.sourceId, invite.actorId] := by
              simp [Party.addMember, alone, self]
            have found := consistent.alone (Function.update_self ..) (x := invite.actorId)
              (by rw [added]; exact List.mem_cons_of_mem _ (List.mem_singleton_self _))
            simp only [Function.update_of_ne self] at found
            have single := (ensured _ _ found).1
            rw [added] at single
            exact absurd (List.cons.inj single).2 (List.cons_ne_nil _ _)
        · intro stays
          have self : invite.actorId = sub.header.sourceId :=
            (stays invite rfl adds.1).resolve_left adds.2
          have same : p.addMember invite.actorId = p := by simp [Party.addMember, alone, self]
          rw [same, ← here, Function.update_eq_self]
          exact ensured
      · rw [if_neg adds]
        constructor
        · rintro - _ ⟨⟩ accepts
          exact Or.inl (not_not.mp fun actor => adds ⟨accepts, actor⟩)
        · intro _
          exact ensured

theorem single_disband (owner : UInt32) : (w.parties.disband owner).Single := by
  intro a p found
  by_cases own : a = owner
  · subst own
    simp [PartyManager.disband] at found
  · simp only [PartyManager.disband, Function.update_of_ne own] at found
    exact single a p found

theorem handlePartyLeave_single (sub : SubPacket) :
    ((handlePartyLeave sub w).1.parties.Consistent → w.StaysAlone (.leave sub)) ∧
      (w.StaysAlone (.leave sub) → (handlePartyLeave sub w).1.parties.Single) := by
  simp only [StaysAlone, handlePartyLeave]
  cases parsed : PartyLeavePacket.parse sub.data with
  | none => exact ⟨fun _ p impossible => by contradiction, fun _ => single⟩
  | some leave =>
      dsimp only
      by_cases disbands : leave.isDisband = true
      · rw [if_pos disbands]
        refine ⟨?_, fun _ => single_disband single sub.header.sourceId⟩
        rintro - _ ⟨⟩
        exact Or.inl disbands
      · rw [if_neg disbands]
        cases here : w.parties.getParty sub.header.sourceId with
        | none =>
            have gone : w.parties.parties sub.header.sourceId = none := here
            simp only [PartyManager.removeMember, gone]
            exact ⟨fun _ p _ => Or.inr trivial, fun _ => single⟩
        | some p =>
            have found : w.parties.parties sub.header.sourceId = some p := here
            have alone := (single _ p found).1
            simp only [PartyManager.removeMember, found]
            constructor
            · intro consistent
              have empty : (p.removeMember sub.header.sourceId).1.members = [] := by
                simp [Party.removeMember, alone]
              exact absurd empty (consistent.nonempty _ _ (Function.update_self ..))
            · intro stays
              rcases stays leave rfl with yes | impossible
              · exact absurd yes disbands
              · contradiction

end Single

theorem maintains_iff {w : Server δ} (single : w.parties.Single) (e : PartyEvent) :
    w.Maintains e ↔ w.StaysAlone e := by
  cases e with
  | invite sub =>
      constructor
      · intro maintains
        exact (handlePartyInvite_single single sub).1 (maintains.consistent _ rfl)
      · intro stays
        refine ⟨?_, fun _ _ _ impossible => by contradiction,
          fun _ _ _ impossible => by contradiction⟩
        rintro _ ⟨⟩
        exact ((handlePartyInvite_single single sub).2 stays).consistent
  | leave sub =>
      constructor
      · intro maintains
        exact (handlePartyLeave_single single sub).1 (maintains.consistent _ rfl)
      · intro stays
        refine ⟨?_, fun _ _ _ impossible => by contradiction,
          fun _ _ _ impossible => by contradiction⟩
        rintro _ ⟨⟩
        exact ((handlePartyLeave_single single sub).2 stays).consistent
  | modify sub =>
      have kept := handlePartyModify_single single sub
      constructor
      · intro maintains p parsed kicks x member named
        have removed := (maintains.kick sub p _ rfl parsed kicks rfl x).mp
        rw [kept] at removed
        exact (removed member).2 named
      · intro stays
        refine ⟨?_, ?_, ?_⟩
        · rintro _ ⟨⟩
          rw [kept]
          exact single.consistent
        · rintro _ p _ ⟨⟩ _ _ ⟨⟩ x
          rw [kept]
        · rintro _ p _ ⟨⟩ parsed kicks ⟨⟩ x
          rw [kept, iff_self_and]
          exact stays p parsed kicks x
  | inviteResult sub =>
      have kept : (handleGroupInviteResult sub w).1 = w := by
        rw [handleGroupInviteResult]
        split <;> rfl
      refine iff_of_true ⟨?_, fun _ _ _ impossible => by contradiction,
        fun _ _ _ impossible => by contradiction⟩ trivial
      rintro _ ⟨⟩
      rw [kept]
      exact single.consistent
  | disconnect now client =>
      refine iff_of_true ⟨?_, fun _ _ _ impossible => by contradiction,
        fun _ _ _ impossible => by contradiction⟩ trivial
      rintro _ ⟨⟩
      rw [parties_handleDisconnect]
      exact single.consistent

theorem single_step {w w' : Server δ} {e : PartyEvent} (single : w.parties.Single)
    (stays : w.StaysAlone e) (taken : w.partyStep e = some w') : w'.parties.Single := by
  cases e with
  | invite sub =>
      cases taken
      exact (handlePartyInvite_single single sub).2 stays
  | leave sub =>
      cases taken
      exact (handlePartyLeave_single single sub).2 stays
  | modify sub =>
      cases taken
      rw [handlePartyModify_single single]
      exact single
  | inviteResult sub =>
      cases taken
      rw [handleGroupInviteResult]
      split
      · exact single
      · exact single
  | disconnect now client =>
      cases taken
      rw [parties_handleDisconnect]
      exact single

/-- From no party at all, every step of a run keeps the promises of the table if and only
if every step leaves the players with parties of their own. -/
theorem party_membership_iff (w : Server δ) (es : List PartyEvent) :
    EachStep partyStep Maintains { w with parties := {} } es ↔
      EachStep partyStep StaysAlone { w with parties := {} } es := by
  apply EachStep.congr_of_inv (I := fun w : Server δ => w.parties.Single)
  · intro w e _ single _
    exact maintains_iff single e
  · intro w e w' single stays taken
    exact single_step single stays taken
  · intro a p found
    contradiction

/-- Player 1 accepts players 2 and 3 into its party and kicks player 2. -/
def kickOfThree : List PartyEvent :=
  [.invite (.newWithFlag 0 false 0x1022 1 (u16Bytes 1 ++ u32Bytes 2)),
    .invite (.newWithFlag 0 false 0x1022 1 (u16Bytes 1 ++ u32Bytes 3)),
    .modify ((SubPacket.newWithFlag 0 false 0x1020 1 (u16Bytes 3 ++ u32Bytes 2)).setTargetId 1)]

theorem kick_disbands_party :
    ¬ EachStep partyStep Maintains ({ db := () } : Server Unit) kickOfThree := by
  intro maintains
  have facts : ((run partyStep ({ db := () } : Server Unit) (kickOfThree.take 2)).map fun w =>
      ((w.parties.parties 1).map (·.members),
        (handlePartyModify ((SubPacket.newWithFlag 0 false 0x1020 1
          (u16Bytes 3 ++ u32Bytes 2)).setTargetId 1) w).1.parties.parties 1)) =
      some (some [1, 2, 3], none) := by decide
  obtain ⟨w, reached, same⟩ := Option.map_eq_some_iff.mp facts
  simp only [Prod.mk.injEq, Option.map_eq_some_iff] at same
  obtain ⟨⟨party, here, members⟩, gone⟩ := same
  have step := EachStep.reached (kickOfThree.take 2) maintains reached rfl
  have kept := (step.kick _ ⟨3, 2, []⟩ _ rfl (by decide) (Or.inr rfl) rfl 3).mpr
    ⟨⟨party, here, by rw [members]; decide⟩, by simp [Names]⟩
  obtain ⟨left, found, -⟩ := kept
  exact absurd (gone.symm.trans found) (by simp)

end Server
end Garlemald.World
