import Garlemald.Library.Table
import Garlemald.Lua.WakeUps
import Garlemald.Zone.Despawn

/-!
The end of a content instance. The command that ends it names a zone and perhaps an area, the one
that fills the roster of its director names the director; whose instance is meant is found by a
look through the sessions.
-/

namespace Garlemald.Content

open Library Lua

inductive ActorKindTag where
  | player
  | npc
  | battleNpc
  | ally
  | pet
deriving DecidableEq

structure ActorHandle where
  actorId : UInt32
  kind : ActorKindTag
  zoneId : UInt32
  sessionId : UInt32
deriving DecidableEq

/-- The actors by their ids, and the index of the players by their sessions. -/
structure ActorRegistry where
  actors : UInt32 → Option ActorHandle
  sessionIndex : UInt32 → Option UInt32

namespace ActorRegistry

def remove (r : ActorRegistry) (actorId : UInt32) : ActorRegistry :=
  match r.actors actorId with
  | none => r
  | some h =>
      { actors := Function.update r.actors actorId none
        sessionIndex :=
          if h.kind = .player ∧ h.sessionId ≠ 0 then
            Function.update r.sessionIndex h.sessionId none
          else r.sessionIndex }

def bySession (r : ActorRegistry) (sessionId : UInt32) : Option ActorHandle :=
  (r.sessionIndex sessionId).bind r.actors

end ActorRegistry

structure ActiveContentScript where
  parentZoneId : UInt32
  areaName : Text
  directorActorId : UInt32
  spawnedActorIds : List UInt32

/-- What of a session belongs to its content. Of the login director and of a parked kick only the
actor they are about is kept. -/
structure Session where
  transientPartyMembers : List UInt32 := []
  partyGroupOrdinal : UInt32 := 0
  transientDirectorMembers : UInt32 → Option (List UInt32) := fun _ => none
  activeContentScript : Option ActiveContentScript := none
  pendingContentKickEvent : Option UInt32 := none
  loginDirector : Option UInt32 := none

structure Chara where
  minimumHpLock : ℚ
  loginDirectorActorId : UInt32

/-- The sessions in the order in which the map gives them, and what else the commands touch. -/
structure Instances (θ : Type) where
  sessions : Table UInt32 Session
  registry : ActorRegistry
  zones : UInt32 → Option Zone
  characters : UInt32 → Chara
  scheduler : CoroutineScheduler θ

def Session.roster (s : Session) (directorActorId : UInt32) : List UInt32 :=
  (s.transientDirectorMembers directorActorId).getD []

def pushNew (ids : List UInt32) (actorId : UInt32) : List UInt32 :=
  if actorId ∈ ids then ids else ids ++ [actorId]

/-- Whether a command about a zone and an area finds this session; no name stands for any area. -/
def Session.matchesArea (s : Session) (parentZoneId : UInt32) (areaName : Text) : Bool :=
  s.activeContentScript.any fun active =>
    active.parentZoneId == parentZoneId && (areaName.isEmpty || active.areaName == areaName)

def Session.matchesDirector (s : Session) (directorActorId : UInt32) : Bool :=
  s.activeContentScript.any fun active => active.directorActorId == directorActorId

def Session.addDirectorMember (s : Session) (directorActorId memberActorId : UInt32) : Session :=
  { s with
    transientDirectorMembers := Function.update s.transientDirectorMembers directorActorId
      (some (pushNew (s.roster directorActorId) memberActorId)) }

def Session.cleared (s : Session) (directorId : UInt32) : Session :=
  { s with
    transientDirectorMembers := Function.update s.transientDirectorMembers directorId none
    transientPartyMembers := []
    partyGroupOrdinal :=
      if s.transientPartyMembers.isEmpty then s.partyGroupOrdinal else s.partyGroupOrdinal + 1
    activeContentScript := none
    pendingContentKickEvent := none
    loginDirector := if s.loginDirector = some directorId then none else s.loginDirector }

/-- Monsters and allies are despawned from a roster, never its player or its director. -/
def ActorRegistry.isContentNpc (r : ActorRegistry) (actorId : UInt32) : Bool :=
  (r.actors actorId).any fun member => member.kind == .battleNpc || member.kind == .ally

def despawnSet (r : ActorRegistry) (s : Session) (active : ActiveContentScript) : List UInt32 :=
  let members := (s.roster active.directorActorId).filter r.isContentNpc
  active.spawnedActorIds.foldl pushNew (members.foldl pushNew [])

namespace Instances

variable {θ : Type} (w : Instances θ)

def applyDespawnActor (actorId : UInt32) : Instances θ :=
  match w.registry.actors actorId with
  | none => w
  | some handle =>
      match w.zones handle.zoneId with
      | none => w
      | some zone =>
          { w with
            registry := w.registry.remove actorId
            zones := Function.update w.zones handle.zoneId
              (some { zone with core := (zone.core.removeActor actorId).1 }) }

def applyContentFinished (lua : Bool) (parentZoneId : UInt32) (areaName : Text) : Instances θ :=
  match w.sessions.entries.find? fun e => e.2.matchesArea parentZoneId areaName with
  | none => w
  | some ⟨sessionId, snap⟩ =>
      match snap.activeContentScript with
      | none => w
      | some active =>
          let despawned := (despawnSet w.registry snap active).foldl applyDespawnActor w
          let stored :=
            { despawned with
              sessions := despawned.sessions.insert sessionId
                (snap.cleared active.directorActorId) }
          match stored.registry.bySession sessionId with
          | none => stored
          | some player =>
              let c := stored.characters player.actorId
              { stored with
                characters := Function.update stored.characters player.actorId
                  { minimumHpLock := 0
                    loginDirectorActorId :=
                      if c.loginDirectorActorId = active.directorActorId then 0
                      else c.loginDirectorActorId }
                scheduler :=
                  if player.actorId = 0 ∨ lua = false then stored.scheduler
                  else (stored.scheduler.purgeOwner player.actorId).2 }

def applyDirectorAddMember (directorActorId memberActorId : UInt32) : Instances θ :=
  if directorActorId = 0 ∨ memberActorId = 0 then w
  else
    match w.sessions.entries.find? fun e => e.2.matchesDirector directorActorId with
    | none => w
    | some ⟨sessionId, snap⟩ =>
        { w with
          sessions := w.sessions.insert sessionId
            (snap.addDirectorMember directorActorId memberActorId) }

end Instances

inductive ContentCommand where
  | contentFinished (parentZoneId : UInt32) (areaName : Text)
  | directorAddMember (directorActorId memberActorId : UInt32)

def Instances.apply {θ : Type} (w : Instances θ) (lua : Bool) : ContentCommand → Instances θ
  | .contentFinished parentZoneId areaName => w.applyContentFinished lua parentZoneId areaName
  | .directorAddMember directorActorId memberActorId =>
      w.applyDirectorAddMember directorActorId memberActorId

/-- The actors of the content of a session: its roster and what was spawned for it. -/
def Session.contentActors (s : Session) : List UInt32 :=
  match s.activeContentScript with
  | none => []
  | some active => s.roster active.directorActorId ++ active.spawnedActorIds

def Instances.stored {θ : Type} (w : Instances θ) (zoneId : UInt32) (place : Zone.Place)
    (actorId : UInt32) : Option Zone.StoredActor :=
  (w.zones zoneId).bind fun zone => (zone.area place).val.actors.lookup actorId

/-- The coroutines that belong to nobody of the given player stay parked. -/
structure KeepsOthers {θ : Type} (player : Option UInt32) (s s' : CoroutineScheduler θ) :
    Prop where
  time : ∀ e ∈ s.sleepingOnTime, some e.2.ownerPlayerId ≠ player → e ∈ s'.sleepingOnTime
  signal : ∀ name, ∀ c ∈ s.waitingOn name, some c.ownerPlayerId ≠ player → c ∈ s'.waitingOn name
  event : ∀ key, ∀ c ∈ s.filedUnder key,
    some c.ownerPlayerId ≠ player → some key ≠ player → c ∈ s'.filedUnder key

/-- A command changes only the content of the session that issued it. -/
structure Isolated {θ : Type} (issuer : UInt32) (w w' : Instances θ) : Prop where
  sessions : ∀ id, id ≠ issuer → w'.sessions.lookup id = w.sessions.lookup id
  despawned : ∀ actorId zoneId place,
    w'.registry.actors actorId ≠ w.registry.actors actorId ∨
        w'.stored zoneId place actorId ≠ w.stored zoneId place actorId →
      ∃ s, w.sessions.lookup issuer = some s ∧ actorId ∈ s.contentActors
  others : ∀ id s, w.sessions.lookup id = some s → id ≠ issuer →
    ∀ actorId ∈ s.contentActors, w'.registry.actors actorId = w.registry.actors actorId ∧
      ∀ zoneId place, w'.stored zoneId place actorId = w.stored zoneId place actorId
  characters : ∀ actorId, w'.characters actorId ≠ w.characters actorId →
    (w.registry.bySession issuer).map (·.actorId) = some actorId
  coroutines : KeepsOthers ((w.registry.bySession issuer).map (·.actorId)) w.scheduler
    w'.scheduler

structure Instances.Despawns {θ : Type} (w : Instances θ) (s : Session) (actorId : UInt32) :
    Prop where
  listed : ∃ active, s.activeContentScript = some active ∧
    ((actorId ∈ s.roster active.directorActorId ∧ w.registry.isContentNpc actorId = true) ∨
      actorId ∈ active.spawnedActorIds)
  hosted : ∃ handle, w.registry.actors actorId = some handle ∧
    (w.zones handle.zoneId).isSome = true

/-- No session but the one that issued the command fits it, and the despawned actors are in no
other content. -/
def Instances.Fits {θ : Type} (w : Instances θ) (issuer : UInt32) : ContentCommand → Prop
  | .contentFinished parentZoneId areaName =>
      (∀ id s, w.sessions.lookup id = some s → id ≠ issuer →
          s.matchesArea parentZoneId areaName = false) ∧
        ∀ own, w.sessions.lookup issuer = some own →
          own.matchesArea parentZoneId areaName = true →
          ∀ id s, w.sessions.lookup id = some s → id ≠ issuer →
            ∀ actorId ∈ s.contentActors, ¬ w.Despawns own actorId
  | .directorAddMember directorActorId memberActorId =>
      directorActorId = 0 ∨ memberActorId = 0 ∨
        ∀ id s, w.sessions.lookup id = some s → id ≠ issuer →
          s.matchesDirector directorActorId = true → memberActorId ∈ s.roster directorActorId

theorem mem_pushNew {actorId id : UInt32} (ids : List UInt32) :
    actorId ∈ pushNew ids id ↔ actorId ∈ ids ∨ actorId = id := by
  unfold pushNew
  split
  · rename_i known
    refine ⟨.inl, ?_⟩
    rintro (old | rfl)
    · exact old
    · exact known
  · simp

namespace ActorRegistry

variable {r : ActorRegistry}

theorem remove_other {actorId other : UInt32} (away : other ≠ actorId) :
    (r.remove actorId).actors other = r.actors other := by
  unfold remove
  cases r.actors actorId with
  | none => rfl
  | some h => exact Function.update_of_ne away _ _

theorem remove_self (actorId : UInt32) : (r.remove actorId).actors actorId = none := by
  unfold remove
  cases found : r.actors actorId with
  | none => exact found
  | some h => exact Function.update_self ..

theorem remove_bySession {actorId sessionId : UInt32} {h : ActorHandle}
    (found : (r.remove actorId).bySession sessionId = some h) : r.bySession sessionId = some h := by
  obtain ⟨id, index, handle⟩ := Option.bind_eq_some_iff.mp found
  have away : id ≠ actorId := by
    rintro rfl
    rw [remove_self] at handle
    cases handle
  rw [remove_other away] at handle
  have before : r.sessionIndex sessionId = some id := by
    revert index
    unfold remove
    cases r.actors actorId with
    | none => exact fun index => index
    | some gone =>
        simp only
        split
        · by_cases same : sessionId = gone.sessionId
          · subst same
            simp
          · simp [same]
        · exact fun index => index
  exact Option.bind_eq_some_iff.mpr ⟨id, before, handle⟩

end ActorRegistry

namespace Instances

variable {θ : Type} {w : Instances θ}

/-- What stays as it is when actors are despawned. -/
structure DespawnFrame (w w' : Instances θ) : Prop where
  sessions : w'.sessions = w.sessions
  characters : w'.characters = w.characters
  scheduler : w'.scheduler = w.scheduler
  hosted : ∀ zoneId, (w'.zones zoneId).isSome = (w.zones zoneId).isSome
  bySession : ∀ sessionId h, w'.registry.bySession sessionId = some h →
    w.registry.bySession sessionId = some h

theorem DespawnFrame.refl (w : Instances θ) : DespawnFrame w w :=
  ⟨rfl, rfl, rfl, fun _ => rfl, fun _ _ found => found⟩

theorem DespawnFrame.trans {w₁ w₂ w₃ : Instances θ} (first : DespawnFrame w₁ w₂)
    (second : DespawnFrame w₂ w₃) : DespawnFrame w₁ w₃ where
  sessions := second.sessions.trans first.sessions
  characters := second.characters.trans first.characters
  scheduler := second.scheduler.trans first.scheduler
  hosted zoneId := (second.hosted zoneId).trans (first.hosted zoneId)
  bySession sessionId h found := first.bySession sessionId h (second.bySession sessionId h found)

theorem lookup_removeActor_ne {core : Zone.AreaCore} {actorId other : UInt32}
    (away : other ≠ actorId) :
    (core.removeActor actorId).1.actors.lookup other = core.actors.lookup other := by
  unfold Zone.AreaCore.removeActor
  cases core.actors.lookup actorId with
  | none => rfl
  | some prev => exact AList.lookup_erase_ne away

theorem despawn_frame (w : Instances θ) (actorId : UInt32) :
    DespawnFrame w (w.applyDespawnActor actorId) := by
  unfold applyDespawnActor
  cases found : w.registry.actors actorId with
  | none => exact .refl w
  | some handle =>
      simp only
      cases there : w.zones handle.zoneId with
      | none => exact .refl w
      | some zone =>
          refine ⟨rfl, rfl, rfl, fun zoneId => ?_, fun _ _ => ActorRegistry.remove_bySession⟩
          by_cases same : zoneId = handle.zoneId
          · subst same
            simp [there]
          · simp [same]

variable {actorId : UInt32}

theorem despawnAll_frame (ids : List UInt32) (w : Instances θ) :
    DespawnFrame w (ids.foldl applyDespawnActor w) := by
  induction ids generalizing w with
  | nil => exact .refl w
  | cons id ids ih => exact (despawn_frame w id).trans (ih _)

structure Finished (w w' : Instances θ) (id : UInt32) (snap : Session)
    (active : ActiveContentScript) : Prop where
  sessions : w'.sessions = w.sessions.insert id (snap.cleared active.directorActorId)
  registry : w'.registry = ((despawnSet w.registry snap active).foldl applyDespawnActor w).registry
  zones : w'.zones = ((despawnSet w.registry snap active).foldl applyDespawnActor w).zones
  characters : ∀ actorId, w'.characters actorId ≠ w.characters actorId →
    (w.registry.bySession id).map (·.actorId) = some actorId
  scheduler : w'.scheduler = w.scheduler ∨ ∃ player, w.registry.bySession id = some player ∧
    player.actorId ≠ 0 ∧ w'.scheduler = (w.scheduler.purgeOwner player.actorId).2

theorem finished (lua : Bool) {parentZoneId : UInt32} {areaName : Text} {id : UInt32}
    {snap : Session} {active : ActiveContentScript}
    (first : w.sessions.entries.find? (fun e => e.2.matchesArea parentZoneId areaName) =
      some ⟨id, snap⟩) (running : snap.activeContentScript = some active) :
    Finished w (w.applyContentFinished lua parentZoneId areaName) id snap active := by
  have frame := despawnAll_frame (despawnSet w.registry snap active) w
  unfold applyContentFinished
  simp only [first, running]
  cases player : ((despawnSet w.registry snap active).foldl applyDespawnActor
      w).registry.bySession id with
  | none =>
      refine ⟨?_, rfl, rfl, fun actorId changed => ?_, .inl frame.scheduler⟩
      · rw [frame.sessions]
      · exact absurd (congrFun frame.characters actorId) changed
  | some h =>
      have before := frame.bySession id h player
      refine ⟨?_, rfl, rfl, fun actorId changed => ?_, ?_⟩
      · simp only [frame.sessions]
      · by_cases same : actorId = h.actorId
        · rw [before, same]
          rfl
        · refine absurd ?_ changed
          simp only [Function.update_of_ne same, frame.characters]
      · by_cases skipped : h.actorId = 0 ∨ lua = false
        · exact .inl ((if_pos skipped).trans frame.scheduler)
        · refine .inr ⟨h, before, fun zero => skipped (.inl zero), ?_⟩
          rw [← frame.scheduler]
          exact if_neg skipped

end Instances

variable {θ : Type}

theorem Isolated.refl (issuer : UInt32) (w : Instances θ) : Isolated issuer w w where
  sessions _ _ := rfl
  despawned _ _ _ changed := by simp at changed
  others _ _ _ _ _ _ := ⟨rfl, fun _ _ => rfl⟩
  characters _ changed := absurd rfl changed
  coroutines := ⟨fun _ parked _ => parked, fun _ _ parked _ => parked, fun _ _ parked _ _ => parked⟩

variable {sessions : Table UInt32 Session} {s : Session}

theorem lookup_of_find (hit : Session → Bool) {id : UInt32}
    (first : sessions.entries.find? (fun e => hit e.2) = some ⟨id, s⟩) :
    sessions.lookup id = some s ∧ hit s = true := by
  have passes := List.find?_some first
  exact ⟨AList.mem_lookup_iff.mpr (List.mem_of_find?_eq_some first), passes⟩

end Garlemald.Content
