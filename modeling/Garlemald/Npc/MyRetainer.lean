import Garlemald.Content.Director
import Garlemald.Npc.ActorId
import Mathlib.Data.Finset.Basic

/-!
Summoned retainers. A session keeps one record, a summon sends an actor and a group under ids made
of the zone and the player, and what a change of zones wipes from a client it leaves in the record.
-/

namespace Garlemald.Npc
open Library Content

structure RetainerTemplate where
  id : UInt32
  classPath : Text

structure SpawnedRetainer where
  retainerId : UInt32
  actorId : UInt32
  groupId : UInt64
deriving DecidableEq

structure RetainerSession where
  spawnedRetainer : Option SpawnedRetainer
  pendingZoneIn : Bool

/-- A player's handle and session, and the retainers and the groups that the client has been sent
and not told to drop, if there is one. -/
structure Summoner where
  sessionId : UInt32
  zoneId : UInt32
  session : Option RetainerSession
  client : Bool
  actors : Finset UInt32
  groups : Finset UInt64

/-- With the ids of the npcs and directors that are there. -/
structure Summons where
  players : UInt32 → Option Summoner
  retainers : UInt32 → List RetainerTemplate
  live : Finset UInt32

def retainerActorId (zoneId playerId : UInt32) : UInt32 :=
  ((4 : UInt32) <<< 28) ||| ((zoneId &&& 0x1FF) <<< 19) ||| battleNpcNumber playerId

def retainerMeetingGroupId (retainerActorId : UInt32) : UInt64 :=
  ((0x52000000 : UInt64) <<< 32) ||| retainerActorId.toUInt64

/-- The owner's retainers in the order of their ids; the first is 1. -/
def loadRetainer (rows : List RetainerTemplate) (retainerIndex : Int32) : Option RetainerTemplate :=
  rows[(max (retainerIndex - 1) 0).toInt.toNat]?

/-- How the client is told of a new zone: all actors are wiped and then spawned anew, or the ones of
the new zone are sent first and all but those are deleted, at once or later. -/
inductive ZoneIn where
  | wipe
  | bundle (keep : List UInt32)
  | deferred

inductive SummonEvent where
  | spawnMyRetainer (playerId : UInt32) (retainerIndex : Int32)
  | despawnMyRetainer (playerId : UInt32)
  | dismissMyRetainer (playerId retainerId : UInt32)
  | doZoneChange (playerId zoneId : UInt32) (here : Bool) (zoneIn : ZoneIn)
  | sendZoneIn (playerId : UInt32) (keep : List UInt32)
  | crossBoundary (playerId zoneId : UInt32)
  | spawnNpc (areaId actorNumber : UInt32)
  | createDirector (zoneId localId : UInt32)
  | remove (actorId : UInt32)

namespace Summoner

variable (b : Summoner)

def spawned : Option SpawnedRetainer := b.session.bind (·.spawnedRetainer)

def spawnedActors : Finset UInt32 := b.spawned.elim ∅ fun r => {r.actorId}

def spawnedGroups : Finset UInt64 := b.spawned.elim ∅ fun r => {r.groupId}

def setSpawned (record : Option SpawnedRetainer) : Summoner :=
  { b with session := b.session.map fun s => { s with spawnedRetainer := record } }

/-- The bundle, the group and the record; nothing if the retainer has no class. -/
def spawnMyRetainer (playerId : UInt32) (rows : List RetainerTemplate) (retainerIndex : Int32) :
    Summoner :=
  match loadRetainer rows retainerIndex with
  | none => b
  | some template =>
      if b.sessionId = 0 ∨ template.classPath = [] then b
      else
        let actorId := retainerActorId b.zoneId playerId
        let groupId := retainerMeetingGroupId actorId
        let sent :=
          if b.client then
            { b with actors := insert actorId b.actors, groups := insert groupId b.groups }
          else b
        sent.setSpawned (some ⟨template.id, actorId, groupId⟩)

def despawnMyRetainer : Summoner :=
  match b.spawned with
  | none => b
  | some r =>
      if b.sessionId = 0 then b
      else
        let sent :=
          if b.client then
            { b with actors := b.actors.erase r.actorId, groups := b.groups.erase r.groupId }
          else b
        sent.setSpawned none

def dismissMyRetainer (retainerId : UInt32) : Summoner :=
  if b.sessionId ≠ 0 ∧ b.spawned.any (·.retainerId = retainerId) then b.setSpawned none else b

/-- All actors but the ones kept are deleted; groups are not actors. -/
def deleteAllActors (keep : List UInt32) : Summoner :=
  if b.client then { b with actors := b.actors.filter (· ∈ keep) } else b

def park (pending : Bool) : Summoner :=
  { b with session := b.session.map fun s => { s with pendingZoneIn := pending } }

/-- A zone of this server gets a session for whoever comes without one. -/
def enter (zoneId : UInt32) (here : Bool) : Summoner :=
  { b with
    zoneId
    session := if here then some (b.session.getD ⟨none, false⟩) else b.session }

def doZoneChange (zoneId : UInt32) (here : Bool) : ZoneIn → Summoner
  | .wipe => (b.enter zoneId here).deleteAllActors []
  | .bundle keep =>
      if (b.enter zoneId here).session.isSome then (b.enter zoneId here).deleteAllActors keep
      else b.enter zoneId here
  | .deferred =>
      if b.client then (b.enter zoneId here).park true else b.enter zoneId here

def crossBoundary (zoneId : UInt32) : Summoner :=
  if b.session.isSome then { b with zoneId } else b

def sendZoneIn (keep : List UInt32) : Summoner :=
  if b.session.any (·.pendingZoneIn) then (b.park false).deleteAllActors keep else b

end Summoner

namespace Summons

variable (w : Summons)

def update (playerId : UInt32) (f : Summoner → Summoner) : Summons :=
  { w with players := Function.update w.players playerId ((w.players playerId).map f) }

def apply : SummonEvent → Summons
  | .spawnMyRetainer playerId retainerIndex =>
      w.update playerId (·.spawnMyRetainer playerId (w.retainers playerId) retainerIndex)
  | .despawnMyRetainer playerId => w.update playerId (·.despawnMyRetainer)
  | .dismissMyRetainer playerId retainerId =>
      { w.update playerId (·.dismissMyRetainer retainerId) with
        retainers := Function.update w.retainers playerId
          ((w.retainers playerId).filter (·.id ≠ retainerId)) }
  | .doZoneChange playerId zoneId here zoneIn =>
      w.update playerId (·.doZoneChange zoneId here zoneIn)
  | .sendZoneIn playerId keep => w.update playerId (·.sendZoneIn keep)
  | .crossBoundary playerId zoneId => w.update playerId (·.crossBoundary zoneId)
  | .spawnNpc areaId actorNumber =>
      { w with live := insert (compositeId areaId actorNumber) w.live }
  | .createDirector zoneId localId =>
      { w with live := insert (encodeDirectorActorId zoneId localId) w.live }
  | .remove actorId => { w with live := w.live.erase actorId }

def step (event : SummonEvent) : Option Summons := some (w.apply event)

/-- No npc, director or retainer of another player has the id. -/
def Free (playerId actorId : UInt32) : Prop :=
  actorId ∉ w.live ∧ ∀ other b r, other ≠ playerId → w.players other = some b → b.spawned = some r →
    r.actorId ≠ actorId

end Summons

structure Summoner.Shown (b : Summoner) : Prop where
  actors : b.client = true → b.actors = b.spawnedActors
  groups : b.client = true → b.groups = b.spawnedGroups

theorem Summoner.shown_iff (b : Summoner) : b.Shown ↔
    (b.client = true → b.actors = b.spawnedActors ∧ b.groups = b.spawnedGroups) :=
  ⟨fun shown there => ⟨shown.actors there, shown.groups there⟩,
    fun both => ⟨fun there => (both there).1, fun there => (both there).2⟩⟩

def Summoner.Summoning (b : Summoner) (rows : List RetainerTemplate) (retainerIndex : Int32) :
    Prop :=
  b.sessionId ≠ 0 ∧ ∃ template ∈ loadRetainer rows retainerIndex, template.classPath ≠ []

namespace Summons

structure Sound (w : Summons) : Prop where
  shown : ∀ playerId b, w.players playerId = some b → b.Shown
  free : ∀ playerId b r, w.players playerId = some b → b.spawned = some r →
    w.Free playerId r.actorId

/-- A summon by a client with a session, under an id that nobody else has, finds out at most the
retainer with that id; a retainer that is out is neither dismissed nor wiped; no npc comes under the
id of one. -/
def Fits (w : Summons) : SummonEvent → Prop
  | .spawnMyRetainer playerId retainerIndex => ∀ b, w.players playerId = some b →
      b.Summoning (w.retainers playerId) retainerIndex →
        (b.client = true → b.session.isSome ∧
          ∀ r ∈ b.spawned, r.actorId = retainerActorId b.zoneId playerId) ∧
        (b.session.isSome → w.Free playerId (retainerActorId b.zoneId playerId))
  | .dismissMyRetainer playerId retainerId => ∀ b, w.players playerId = some b →
      b.sessionId ≠ 0 → b.client = true → ∀ r ∈ b.spawned, r.retainerId ≠ retainerId
  | .doZoneChange playerId _ _ .wipe => ∀ b, w.players playerId = some b →
      b.client = true → b.spawned = none
  | .doZoneChange playerId _ _ (.bundle keep) => ∀ b, w.players playerId = some b →
      b.client = true → ∀ r ∈ b.spawned, r.actorId ∈ keep
  | .sendZoneIn playerId keep => ∀ b, w.players playerId = some b →
      b.session.any (·.pendingZoneIn) = true → b.client = true →
        ∀ r ∈ b.spawned, r.actorId ∈ keep
  | .spawnNpc areaId actorNumber => ∀ playerId b r, w.players playerId = some b →
      b.spawned = some r → r.actorId ≠ compositeId areaId actorNumber
  | _ => True

def Named (w : Summons) : Prop :=
  ∀ playerId b r, w.players playerId = some b → b.spawned = some r →
    r.groupId = retainerMeetingGroupId r.actorId ∧
      ∃ zoneId, r.actorId = retainerActorId zoneId playerId

end Summons

/-! ### Ids -/

theorem retainerActorId_eq (zoneId playerId : UInt32) :
    retainerActorId zoneId playerId =
      compositeId (zoneId &&& 0x1FF) (battleNpcNumber playerId) := by
  have low : battleNpcNumber playerId &&& 0x7FFFF = battleNpcNumber playerId := by
    apply UInt32.toNat_inj.mp
    rw [toNat_low, toNat_battleNpcNumber]
    omega
  rw [compositeId, low, retainerActorId]

theorem compositeId_eq_retainerActorId (areaId actorNumber zoneId playerId : UInt32) :
    compositeId areaId actorNumber = retainerActorId zoneId playerId ↔
      zoneBits areaId = zoneId &&& 0x1FF ∧
        actorNumber.toNat % 2 ^ 19 = 2 ^ 18 + playerId.toNat % 2 ^ 18 := by
  have kept : zoneBits (zoneId &&& 0x1FF) = zoneId &&& 0x1FF := by
    rw [zoneBits, UInt32.and_assoc]
    rfl
  rw [retainerActorId_eq, compositeId_eq_iff, kept, toNat_battleNpcNumber]
  have small : 2 ^ 18 + playerId.toNat % 2 ^ 18 < 2 ^ 19 := by omega
  rw [Nat.mod_eq_of_lt small]

theorem retainerActorId_eq_iff (zoneId zoneId' playerId playerId' : UInt32) :
    retainerActorId zoneId playerId = retainerActorId zoneId' playerId' ↔
      zoneId &&& 0x1FF = zoneId' &&& 0x1FF ∧
        playerId.toNat % 2 ^ 18 = playerId'.toNat % 2 ^ 18 := by
  have kept : zoneBits (zoneId &&& 0x1FF) = zoneId &&& 0x1FF := by
    rw [zoneBits, UInt32.and_assoc]
    rfl
  have small : 2 ^ 18 + playerId.toNat % 2 ^ 18 < 2 ^ 19 := by omega
  rw [retainerActorId_eq, compositeId_eq_retainerActorId, kept, toNat_battleNpcNumber,
    Nat.mod_eq_of_lt small, Nat.add_right_inj]

theorem encodeDirectorActorId_ne (zoneId localId zoneId' playerId : UInt32) :
    retainerActorId zoneId' playerId ≠ encodeDirectorActorId zoneId localId := by
  intro same
  have bit := congrArg (fun id : UInt32 => id.toBitVec.getLsbD 29) same
  simp [retainerActorId, encodeDirectorActorId, battleNpcNumber] at bit

/-! ### What an event does to one player -/

namespace Summoner

variable {b : Summoner} {Free : UInt32 → Prop}

theorem spawned_setSpawned (b : Summoner) (record : Option SpawnedRetainer) :
    (b.setSpawned record).spawned = b.session.bind fun _ => record := by
  cases known : b.session with
  | none => simp [setSpawned, spawned, known]
  | some s => simp [setSpawned, spawned, known]

theorem spawnMyRetainer_cases (playerId : UInt32) (rows : List RetainerTemplate)
    (retainerIndex : Int32) :
    (¬b.Summoning rows retainerIndex ∧ b.spawnMyRetainer playerId rows retainerIndex = b) ∨
    b.Summoning rows retainerIndex ∧ ∃ template,
      b.spawnMyRetainer playerId rows retainerIndex =
        (if b.client then
          { b with
            actors := insert (retainerActorId b.zoneId playerId) b.actors
            groups := insert (retainerMeetingGroupId (retainerActorId b.zoneId playerId))
              b.groups }
        else b).setSpawned (some ⟨template, retainerActorId b.zoneId playerId,
          retainerMeetingGroupId (retainerActorId b.zoneId playerId)⟩) := by
  rw [Summoning, spawnMyRetainer]
  cases loaded : loadRetainer rows retainerIndex with
  | none => simp
  | some template =>
      dsimp only
      split
      · rename_i idle
        refine .inl ⟨?_, rfl⟩
        rintro ⟨player, loaded, same, classed⟩
        cases same
        exact idle.elim player classed
      · rename_i busy
        rw [not_or] at busy
        exact .inr ⟨⟨busy.1, template, rfl, busy.2⟩, template.id, rfl⟩

theorem spawn_spawned {playerId : UInt32} {rows : List RetainerTemplate} {retainerIndex : Int32}
    {r : SpawnedRetainer} (out : (b.spawnMyRetainer playerId rows retainerIndex).spawned = some r) :
    b.spawned = some r ∨ r.groupId = retainerMeetingGroupId r.actorId ∧
      ∃ zoneId, r.actorId = retainerActorId zoneId playerId := by
  obtain ⟨_, same⟩ | ⟨_, template, same⟩ :=
    spawnMyRetainer_cases (b := b) playerId rows retainerIndex
  · exact .inl (same ▸ out)
  · rw [same, spawned_setSpawned] at out
    obtain ⟨_, _, new⟩ := Option.bind_eq_some_iff.mp out
    cases new
    exact .inr ⟨rfl, b.zoneId, rfl⟩

theorem insert_spawnedActors (actorId : UInt32) :
    insert actorId b.spawnedActors = {actorId} ↔ ∀ r ∈ b.spawned, r.actorId = actorId := by
  rw [spawnedActors]
  cases b.spawned with
  | none => simp
  | some r => simp [Finset.ext_iff]

theorem insert_spawnedGroups
    (named : ∀ r, b.spawned = some r → r.groupId = retainerMeetingGroupId r.actorId)
    {actorId : UInt32} (same : ∀ r ∈ b.spawned, r.actorId = actorId) :
    insert (retainerMeetingGroupId actorId) b.spawnedGroups = {retainerMeetingGroupId actorId} := by
  rw [spawnedGroups]
  cases out : b.spawned with
  | none => simp
  | some r => simp [named r out, same r out]

theorem spawn_exact {playerId : UInt32} {rows : List RetainerTemplate} {retainerIndex : Int32}
    (shown : b.Shown) (free : ∀ r, b.spawned = some r → Free r.actorId)
    (named : ∀ r, b.spawned = some r → r.groupId = retainerMeetingGroupId r.actorId) :
    (b.spawnMyRetainer playerId rows retainerIndex).Shown ∧
        (∀ r, (b.spawnMyRetainer playerId rows retainerIndex).spawned = some r →
          Free r.actorId) ↔
      (b.Summoning rows retainerIndex →
        (b.client = true → b.session.isSome ∧
          ∀ r ∈ b.spawned, r.actorId = retainerActorId b.zoneId playerId) ∧
        (b.session.isSome → Free (retainerActorId b.zoneId playerId))) := by
  obtain ⟨idle, same⟩ | ⟨summoning, template, same⟩ :=
    spawnMyRetainer_cases (b := b) playerId rows retainerIndex
  · rw [same]
    exact iff_of_true ⟨shown, free⟩ fun summoning => absurd summoning idle
  · rw [same, forall_prop_of_true summoning]
    refine and_congr ?_ ?_
    · cases there : b.client with
      | false => simp [shown_iff, setSpawned, there]
      | true =>
          rw [shown_iff, if_pos rfl]
          cases known : b.session with
          | none => simp [setSpawned, spawnedActors, spawned, known]
          | some s =>
              have both : insert (retainerActorId b.zoneId playerId) b.actors =
                    {retainerActorId b.zoneId playerId} ∧
                  insert (retainerMeetingGroupId (retainerActorId b.zoneId playerId)) b.groups =
                    {retainerMeetingGroupId (retainerActorId b.zoneId playerId)} ↔
                  ∀ r ∈ b.spawned, r.actorId = retainerActorId b.zoneId playerId := by
                rw [shown.actors there, shown.groups there, insert_spawnedActors]
                exact and_iff_left_of_imp (insert_spawnedGroups named)
              simpa [setSpawned, spawnedActors, spawnedGroups, spawned, known, there] using both
    · have kept : ∀ sent : Summoner, sent.session = b.session → ∀ record,
          (∀ r, (sent.setSpawned (some record)).spawned = some r → Free r.actorId) ↔
            (b.session.isSome → Free record.actorId) := by
        intro sent same record
        rw [spawned_setSpawned, same]
        cases b.session with
        | none => simp
        | some s => simp
      exact kept _ (by split <;> rfl) _

theorem shown_setSpawned_none :
    (b.setSpawned none).Shown ↔ (b.client = true → b.actors = ∅ ∧ b.groups = ∅) := by
  have gone : (b.setSpawned none).spawned = none := by simp [spawned_setSpawned]
  rw [shown_iff, spawnedActors, spawnedGroups, gone]
  rfl

theorem despawn_shown (shown : b.Shown) : b.despawnMyRetainer.Shown := by
  rw [despawnMyRetainer]
  split
  · exact shown
  · rename_i r out
    split
    · exact shown
    · rw [shown_setSpawned_none]
      cases there : b.client with
      | false => simp [there]
      | true =>
          simp [shown.actors there, shown.groups there, spawnedActors, spawnedGroups, out]

theorem despawn_spawned {r : SpawnedRetainer} (out : b.despawnMyRetainer.spawned = some r) :
    b.spawned = some r := by
  rw [despawnMyRetainer] at out
  split at out
  · exact out
  · split at out
    · exact out
    · simp [spawned_setSpawned] at out

theorem dismiss_shown_iff (shown : b.Shown) (retainerId : UInt32) :
    (b.dismissMyRetainer retainerId).Shown ↔
      (b.sessionId ≠ 0 → b.client = true → ∀ r ∈ b.spawned, r.retainerId ≠ retainerId) := by
  rw [dismissMyRetainer]
  cases out : b.spawned with
  | none => simpa using shown
  | some r =>
      split
      · rename_i own
        have same : r.retainerId = retainerId := by simpa using own.2
        rw [shown_setSpawned_none]
        cases there : b.client with
        | false => simp
        | true => simp [shown.actors there, spawnedActors, out, own.1, same]
      · rename_i other
        refine iff_of_true shown fun player _ r' mem same => other ⟨player, ?_⟩
        cases mem
        simpa using same

theorem dismiss_spawned {retainerId : UInt32} {r : SpawnedRetainer}
    (out : (b.dismissMyRetainer retainerId).spawned = some r) : b.spawned = some r := by
  rw [dismissMyRetainer] at out
  split at out
  · simp [spawned_setSpawned] at out
  · exact out

theorem deleteAllActors_shown_iff (shown : b.Shown) (keep : List UInt32) :
    (b.deleteAllActors keep).Shown ↔ (b.client = true → ∀ r ∈ b.spawned, r.actorId ∈ keep) := by
  rw [deleteAllActors]
  split
  · rename_i there
    have kept : b.spawnedActors.filter (· ∈ keep) = b.spawnedActors ↔
        ∀ r ∈ b.spawned, r.actorId ∈ keep := by
      rw [Finset.filter_eq_self, spawnedActors]
      cases b.spawned with
      | none => simp
      | some r => simp
    rw [shown_iff, ← kept]
    simp only [there, forall_const, shown.actors there, shown.groups there]
    exact and_iff_left rfl
  · rename_i gone
    exact iff_of_true shown fun there => absurd there gone

theorem spawned_deleteAllActors (keep : List UInt32) :
    (b.deleteAllActors keep).spawned = b.spawned := by
  rw [deleteAllActors]
  split
  · rfl
  · rfl

theorem spawned_park (pending : Bool) : (b.park pending).spawned = b.spawned := by
  rw [spawned, spawned, park]
  cases b.session with
  | none => rfl
  | some s => rfl

theorem spawned_enter (zoneId : UInt32) (here : Bool) :
    (b.enter zoneId here).spawned = b.spawned := by
  rw [spawned, spawned, enter]
  cases here with
  | false => rfl
  | true =>
      cases b.session with
      | none => rfl
      | some s => rfl

theorem Shown.entered (shown : b.Shown) (zoneId : UInt32) (here : Bool) :
    (b.enter zoneId here).Shown := by
  rw [shown_iff, spawnedActors, spawnedGroups, spawned_enter]
  exact b.shown_iff.mp shown

theorem Shown.parked (shown : b.Shown) (pending : Bool) : (b.park pending).Shown := by
  rw [shown_iff, spawnedActors, spawnedGroups, spawned_park]
  exact b.shown_iff.mp shown

theorem zoneChange_shown_iff (shown : b.Shown) (zoneId : UInt32) (here : Bool) (zoneIn : ZoneIn) :
    (b.doZoneChange zoneId here zoneIn).Shown ↔
      match zoneIn with
      | .wipe => b.client = true → b.spawned = none
      | .bundle keep => b.client = true → ∀ r ∈ b.spawned, r.actorId ∈ keep
      | .deferred => True := by
  have entered := shown.entered zoneId here
  cases zoneIn with
  | wipe =>
      rw [doZoneChange, deleteAllActors_shown_iff entered, spawned_enter]
      refine forall_congr' fun _ => ?_
      simp [Option.eq_none_iff_forall_ne_some]
  | bundle keep =>
      rw [doZoneChange]
      split
      · rw [deleteAllActors_shown_iff entered, spawned_enter]
        rfl
      · rename_i gone
        have none_out : b.spawned = none := by
          rw [← spawned_enter zoneId here, spawned, Option.not_isSome_iff_eq_none.mp gone]
          rfl
        refine iff_of_true entered fun _ r out => ?_
        rw [none_out] at out
        cases out
  | deferred =>
      refine iff_of_true ?_ trivial
      rw [doZoneChange]
      split
      · exact entered.parked true
      · exact entered

theorem spawned_doZoneChange (zoneId : UInt32) (here : Bool) (zoneIn : ZoneIn) :
    (b.doZoneChange zoneId here zoneIn).spawned = b.spawned := by
  have entered : (b.enter zoneId here).spawned = b.spawned := spawned_enter zoneId here
  cases zoneIn with
  | wipe => exact (spawned_deleteAllActors []).trans entered
  | bundle keep =>
      rw [doZoneChange]
      split
      · exact (spawned_deleteAllActors keep).trans entered
      · exact entered
  | deferred =>
      rw [doZoneChange]
      split
      · exact (spawned_park true).trans entered
      · exact entered

theorem crossBoundary_shown (shown : b.Shown) (zoneId : UInt32) :
    (b.crossBoundary zoneId).Shown := by
  rw [crossBoundary]
  split
  · exact ⟨shown.actors, shown.groups⟩
  · exact shown

theorem spawned_crossBoundary (zoneId : UInt32) : (b.crossBoundary zoneId).spawned = b.spawned := by
  rw [crossBoundary]
  split
  · rfl
  · rfl

theorem sendZoneIn_shown_iff (shown : b.Shown) (keep : List UInt32) :
    (b.sendZoneIn keep).Shown ↔
      (b.session.any (·.pendingZoneIn) = true → b.client = true →
        ∀ r ∈ b.spawned, r.actorId ∈ keep) := by
  rw [sendZoneIn]
  split
  · rename_i pending
    rw [deleteAllActors_shown_iff (shown.parked false), spawned_park, forall_prop_of_true pending]
    rfl
  · rename_i idle
    exact iff_of_true shown fun pending => absurd pending idle

theorem spawned_sendZoneIn (keep : List UInt32) : (b.sendZoneIn keep).spawned = b.spawned := by
  rw [sendZoneIn]
  split
  · rw [spawned_deleteAllActors, spawned_park]
  · rfl

end Summoner

namespace Summons

variable {w : Summons} {playerId : UInt32} {f : Summoner → Summoner}

theorem players_update_self :
    (w.update playerId f).players playerId = (w.players playerId).map f :=
  Function.update_self ..

theorem players_update_of_ne {other : UInt32} (apart : other ≠ playerId) :
    (w.update playerId f).players other = w.players other :=
  Function.update_of_ne apart ..

theorem free_update (actorId : UInt32) :
    (w.update playerId f).Free playerId actorId ↔ w.Free playerId actorId := by
  refine and_congr_right fun _ => forall_congr' fun other => ?_
  refine forall₂_congr fun b r => forall_congr' fun apart => ?_
  rw [players_update_of_ne apart]

theorem sound_update (sound : w.Sound) : (w.update playerId f).Sound ↔
    ∀ b, w.players playerId = some b →
      (f b).Shown ∧ ∀ r, (f b).spawned = some r → w.Free playerId r.actorId := by
  constructor
  · intro after b known
    have there : (w.update playerId f).players playerId = some (f b) := by
      rw [players_update_self, known]
      rfl
    exact ⟨after.shown _ _ there, fun r out => (free_update _).mp (after.free _ _ r there out)⟩
  · intro own
    have cases_update : ∀ other b, (w.update playerId f).players other = some b →
        (other = playerId ∧ ∃ before, w.players playerId = some before ∧ b = f before) ∨
          other ≠ playerId ∧ w.players other = some b := by
      intro other b there
      by_cases same : other = playerId
      · subst same
        rw [players_update_self] at there
        obtain ⟨before, known, rfl⟩ := Option.map_eq_some_iff.mp there
        exact .inl ⟨rfl, before, known, rfl⟩
      · rw [players_update_of_ne same] at there
        exact .inr ⟨same, there⟩
    constructor
    · intro other b there
      obtain ⟨rfl, before, known, rfl⟩ | ⟨_, old⟩ := cases_update other b there
      · exact (own before known).1
      · exact sound.shown other b old
    · intro other b r there out
      obtain ⟨rfl, before, known, rfl⟩ | ⟨apart, old⟩ := cases_update other b there
      · exact (free_update _).mpr ((own before known).2 r out)
      · refine ⟨(sound.free other b r old out).1, fun third b' r' different there' out' => ?_⟩
        obtain ⟨rfl, before, known, rfl⟩ | ⟨_, old'⟩ := cases_update third b' there'
        · exact (((own before known).2 r' out').2 other b r apart old out).symm
        · exact (sound.free other b r old out).2 third b' r' different old' out'

theorem named_update (named : w.Named)
    (own : ∀ b r, w.players playerId = some b → (f b).spawned = some r →
      b.spawned = some r ∨ r.groupId = retainerMeetingGroupId r.actorId ∧
        ∃ zoneId, r.actorId = retainerActorId zoneId playerId) :
    (w.update playerId f).Named := by
  intro other b r there out
  by_cases same : other = playerId
  · subst same
    rw [players_update_self] at there
    obtain ⟨before, known, rfl⟩ := Option.map_eq_some_iff.mp there
    exact (own before r known out).elim (named other before r known) id
  · rw [players_update_of_ne same] at there
    exact named other b r there out

theorem sound_update_of_kept (sound : w.Sound)
    (kept : ∀ b r, (f b).spawned = some r → b.spawned = some r) :
    (w.update playerId f).Sound ↔ ∀ b, w.players playerId = some b → (f b).Shown := by
  rw [sound_update sound]
  refine forall₂_congr fun b known => and_iff_left fun r out => ?_
  exact sound.free playerId b r known (kept b r out)

theorem sound_retainers (retainers : UInt32 → List RetainerTemplate) :
    { w with retainers }.Sound ↔ w.Sound :=
  ⟨fun sound => ⟨sound.shown, sound.free⟩, fun sound => ⟨sound.shown, sound.free⟩⟩

theorem sound_live (sound : w.Sound) (live : Finset UInt32) :
    { w with live }.Sound ↔ ∀ playerId b r, w.players playerId = some b →
      b.spawned = some r → r.actorId ∉ live := by
  constructor
  · intro after playerId b r known out
    exact (after.free playerId b r known out).1
  · intro apart
    exact ⟨sound.shown, fun playerId b r known out =>
      ⟨apart playerId b r known out, (sound.free playerId b r known out).2⟩⟩

theorem exact_step {e : SummonEvent} (named : w.Named) (sound : w.Sound) :
    (w.apply e).Sound ↔ w.Fits e := by
  cases e with
  | spawnMyRetainer playerId retainerIndex =>
      rw [apply, sound_update sound]
      refine forall₂_congr fun b known => ?_
      exact Summoner.spawn_exact (sound.shown _ b known) (fun r => sound.free _ b r known)
        fun r out => (named _ b r known out).1
  | despawnMyRetainer playerId =>
      rw [apply, sound_update_of_kept sound fun b r => Summoner.despawn_spawned]
      exact iff_of_true (fun b known => Summoner.despawn_shown (sound.shown _ b known)) trivial
  | dismissMyRetainer playerId retainerId =>
      refine (sound_retainers _).trans ?_
      rw [sound_update_of_kept sound fun b r => Summoner.dismiss_spawned]
      exact forall₂_congr fun b known => Summoner.dismiss_shown_iff (sound.shown _ b known) _
  | doZoneChange playerId zoneId here zoneIn =>
      have kept : ∀ b r, (Summoner.doZoneChange b zoneId here zoneIn).spawned = some r →
          b.spawned = some r := fun b r => (Summoner.spawned_doZoneChange ..).symm.trans
      rw [apply, sound_update_of_kept sound kept]
      have changed : ∀ b, w.players playerId = some b → _ := fun b known =>
        Summoner.zoneChange_shown_iff (sound.shown _ b known) zoneId here zoneIn
      cases zoneIn with
      | wipe => exact forall₂_congr changed
      | bundle keep => exact forall₂_congr changed
      | deferred => exact iff_of_true (fun b known => (changed b known).mpr trivial) trivial
  | sendZoneIn playerId keep =>
      have kept : ∀ b r, (Summoner.sendZoneIn b keep).spawned = some r → b.spawned = some r :=
        fun b r => (Summoner.spawned_sendZoneIn keep).symm.trans
      rw [apply, sound_update_of_kept sound kept]
      exact forall₂_congr fun b known => Summoner.sendZoneIn_shown_iff (sound.shown _ b known) keep
  | crossBoundary playerId zoneId =>
      have kept : ∀ b r, (Summoner.crossBoundary b zoneId).spawned = some r → b.spawned = some r :=
        fun b r => (Summoner.spawned_crossBoundary zoneId).symm.trans
      rw [apply, sound_update_of_kept sound kept]
      refine iff_of_true (fun b known => ?_) trivial
      exact Summoner.crossBoundary_shown (sound.shown _ b known) zoneId
  | spawnNpc areaId actorNumber =>
      rw [apply, sound_live sound]
      refine forall₃_congr fun playerId b r => forall₂_congr fun known out => ?_
      rw [Finset.mem_insert, not_or]
      exact and_iff_left (sound.free playerId b r known out).1
  | createDirector zoneId localId =>
      rw [apply, sound_live sound]
      refine iff_of_true (fun playerId b r known out => ?_) trivial
      obtain ⟨_, zone, same⟩ := named playerId b r known out
      rw [Finset.mem_insert, not_or, same]
      exact ⟨encodeDirectorActorId_ne _ _ _ _, same ▸ (sound.free playerId b r known out).1⟩
  | remove actorId =>
      rw [apply, sound_live sound]
      refine iff_of_true (fun playerId b r known out there => ?_) trivial
      exact (sound.free playerId b r known out).1 (Finset.mem_of_mem_erase there)

theorem named_update_of_kept (named : w.Named)
    (kept : ∀ b r, (f b).spawned = some r → b.spawned = some r) : (w.update playerId f).Named :=
  named_update named fun b r _ out => .inl (kept b r out)

theorem named_step {e : SummonEvent} (named : w.Named) : (w.apply e).Named := by
  cases e with
  | spawnMyRetainer playerId retainerIndex =>
      exact named_update named fun b r _ => Summoner.spawn_spawned
  | despawnMyRetainer playerId =>
      exact named_update_of_kept named fun b r => Summoner.despawn_spawned
  | dismissMyRetainer playerId retainerId =>
      exact named_update_of_kept named fun b r => Summoner.dismiss_spawned
  | doZoneChange playerId zoneId here zoneIn =>
      exact named_update_of_kept named fun b r => (Summoner.spawned_doZoneChange ..).symm.trans
  | sendZoneIn playerId keep =>
      exact named_update_of_kept named fun b r => (Summoner.spawned_sendZoneIn keep).symm.trans
  | crossBoundary playerId zoneId =>
      exact named_update_of_kept named fun b r =>
        (Summoner.spawned_crossBoundary zoneId).symm.trans
  | spawnNpc areaId actorNumber => exact named
  | createDirector zoneId localId => exact named
  | remove actorId => exact named

def atStart (w : Summons) : Summons :=
  { w with
    players := fun playerId =>
      (w.players playerId).map fun b => { b.setSpawned none with actors := ∅, groups := ∅ } }

theorem spawned_atStart {b : Summoner} (known : w.atStart.players playerId = some b) :
    b.spawned = none ∧ b.actors = ∅ ∧ b.groups = ∅ := by
  obtain ⟨before, _, rfl⟩ := Option.map_eq_some_iff.mp known
  have gone : (before.setSpawned none).spawned = none := by simp [Summoner.spawned_setSpawned]
  exact ⟨gone, rfl, rfl⟩

theorem sound_atStart (w : Summons) : w.atStart.Sound := by
  constructor
  · intro playerId b known
    obtain ⟨gone, actors, groups⟩ := spawned_atStart known
    rw [Summoner.shown_iff, Summoner.spawnedActors, Summoner.spawnedGroups, gone]
    exact fun _ => ⟨actors, groups⟩
  · intro playerId b r known out
    rw [(spawned_atStart known).1] at out
    cases out

theorem named_atStart (w : Summons) : w.atStart.Named := by
  intro playerId b r known out
  rw [(spawned_atStart known).1] at out
  cases out

/-- Every client has the retainer and the group of its session's record alone, under an id of their
own, throughout exactly the runs whose events fit. Players share an id when their own ids agree in
the low 18 bits and their zones in the low 9, and the battle npc of a player's number has it. -/
theorem one_retainer_iff (w : Summons) (events : List SummonEvent) :
    (Always step Sound w.atStart events ↔ EachStep step Fits w.atStart events) ∧
    (∀ zoneId zoneId' playerId playerId',
      retainerActorId zoneId playerId = retainerActorId zoneId' playerId' ↔
        zoneId &&& 0x1FF = zoneId' &&& 0x1FF ∧
          playerId.toNat % 2 ^ 18 = playerId'.toNat % 2 ^ 18) ∧
    ∀ areaId actorNumber zoneId playerId,
      compositeId areaId actorNumber = retainerActorId zoneId playerId ↔
        zoneBits areaId = zoneId &&& 0x1FF ∧
          actorNumber.toNat % 2 ^ 19 = 2 ^ 18 + playerId.toNat % 2 ^ 18 := by
  refine ⟨?_, retainerActorId_eq_iff, compositeId_eq_retainerActorId⟩
  apply always_iff_eachStep (I := Named) _ _ w.named_atStart w.sound_atStart
  · intro s e s' named sound taken
    cases taken
    exact exact_step named sound
  · intro s e s' named _ _ taken
    cases taken
    exact named_step named

def oneSummoner : Summons where
  players := fun playerId =>
    if playerId = 1 then some ⟨1, 100, some ⟨none, false⟩, true, ∅, ∅⟩ else none
  retainers := fun playerId => if playerId = 1 then [⟨1001, ['/']⟩] else []
  live := ∅

/-- A dismissed retainer stays on the client; a wiped one stays in the record; another zone gives it
another id; and a battle npc takes its id. -/
theorem retainers_doubled_and_forgotten :
    ¬Always step Sound oneSummoner.atStart [.spawnMyRetainer 1 1, .dismissMyRetainer 1 1001] ∧
    ¬Always step Sound oneSummoner.atStart [.spawnMyRetainer 1 1, .doZoneChange 1 200 true .wipe] ∧
    ¬Always step Sound oneSummoner.atStart
      [.spawnMyRetainer 1 1, .crossBoundary 1 101, .spawnMyRetainer 1 1] ∧
    ¬Always step Sound oneSummoner.atStart
      [.spawnMyRetainer 1 1, .spawnNpc 100 (battleNpcNumber 1)] := by
  refine ⟨fun always => ?_, fun always => ?_, fun always => ?_, fun always => ?_⟩
  · have last := always_iff_reached.mp always _ List.prefix_rfl _ rfl
    exact absurd ((last.shown 1 _ rfl).actors rfl) (by decide)
  · have last := always_iff_reached.mp always _ List.prefix_rfl _ rfl
    exact absurd ((last.shown 1 _ rfl).actors rfl) (by decide)
  · have last := always_iff_reached.mp always _ List.prefix_rfl _ rfl
    exact absurd ((last.shown 1 _ rfl).actors rfl) (by decide)
  · have last := always_iff_reached.mp always _ List.prefix_rfl _ rfl
    exact absurd (last.free 1 _ _ rfl rfl).1 (by decide)

end Summons

end Garlemald.Npc
