import Garlemald.Common.LuaParam
import Garlemald.Library.WriteBack
import Mathlib.Data.Finset.Basic

/-!
The sessions of the map server and the steps on them. Most steps take a copy of a session and put
the whole copy back; a few change the session under the lock of the table.
-/

namespace Garlemald.Map

open Library Common

variable {φ : Type}

structure LoginDirectorSpec where
  actorId : UInt32
  zoneActorId : UInt32
  classPath : Text
  className : Text
deriving DecidableEq

structure PendingKickEvent where
  triggerActorId : UInt32
  ownerActorId : UInt32
  eventName : Text
  args : List LuaParam
deriving DecidableEq

structure PendingZoneIn where
  fireAtUnixMs : UInt64
  spawnType : UInt16
  commitKeepList : Bool
  notifyPrivateArea : Bool
deriving DecidableEq

structure SpawnedRetainer (φ : Type) where
  retainerId : UInt32
  actorClassId : UInt32
  classPath : Text
  name : Text
  actorId : UInt32
  position : φ × φ × φ
  rotation : φ
  sentSpawnPackets : Bool
  groupId : UInt64
deriving DecidableEq

structure ActiveContentScript where
  parentZoneId : UInt32
  areaName : Text
  areaClassPath : Text
  directorName : Text
  directorActorId : UInt32
  contentAreaActorId : UInt32
  contentScript : Text
  warpComplete : Bool
  spawnedActorIds : List UInt32
deriving DecidableEq

structure DeferredWarp (φ : Type) where
  playerId : UInt32
  zoneId : UInt32
  privateArea : Option Text
  privateAreaType : UInt32
  spawnType : UInt8
  x : φ
  y : φ
  z : φ
  rotation : φ
deriving DecidableEq

/-- A session; its coordinates are never computed with. -/
structure Session (φ : Type) where
  id : UInt32
  languageCode : UInt32
  isUpdatesLocked : Bool
  errorMessage : Text
  currentZoneId : UInt32
  currentPrivateAreaName : Option Text
  currentPrivateAreaLevel : UInt32
  destinationZoneId : UInt32
  destinationSpawnType : UInt8
  destinationX : φ
  destinationY : φ
  destinationZ : φ
  destinationRot : φ
  loginDirector : Option LoginDirectorSpec
  pendingKickEvent : Option PendingKickEvent
  pendingContentKickEvent : Option PendingKickEvent
  pendingZoneIn : Option PendingZoneIn
  spawnedRetainer : Option (SpawnedRetainer φ)
  isSleeping : Bool
  currentDreamId : Option UInt8
  transientPartyMembers : List UInt32
  partyGroupOrdinal : UInt32
  transientDirectorMembers : UInt32 → Option (List UInt32)
  activeContentScript : Option ActiveContentScript
  contentWarpAcked : Bool
  reloadInFlight : Bool
  deferWarpsUntilZoneInAck : Bool
  deferredLoginWarp : Option (DeferredWarp φ)
  mergedZoneId : Option UInt32
  actorInstanceList : Finset UInt32

namespace Session

inductive Field where
  | id | languageCode | isUpdatesLocked | errorMessage
  | currentZoneId | currentPrivateAreaName | currentPrivateAreaLevel
  | destinationZoneId | destinationSpawnType
  | destinationX | destinationY | destinationZ | destinationRot
  | loginDirector | pendingKickEvent | pendingContentKickEvent | pendingZoneIn
  | spawnedRetainer | isSleeping | currentDreamId
  | transientPartyMembers | partyGroupOrdinal | transientDirectorMembers
  | activeContentScript | contentWarpAcked | reloadInFlight
  | deferWarpsUntilZoneInAck | deferredLoginWarp | mergedZoneId | actorInstanceList
deriving DecidableEq

def Field.Value (φ : Type) : Field → Type
  | .id | .languageCode | .currentZoneId | .currentPrivateAreaLevel | .destinationZoneId
  | .partyGroupOrdinal => UInt32
  | .isUpdatesLocked | .isSleeping | .contentWarpAcked | .reloadInFlight
  | .deferWarpsUntilZoneInAck => Bool
  | .errorMessage => Text
  | .currentPrivateAreaName => Option Text
  | .destinationSpawnType => UInt8
  | .destinationX | .destinationY | .destinationZ | .destinationRot => φ
  | .loginDirector => Option LoginDirectorSpec
  | .pendingKickEvent | .pendingContentKickEvent => Option PendingKickEvent
  | .pendingZoneIn => Option PendingZoneIn
  | .spawnedRetainer => Option (SpawnedRetainer φ)
  | .currentDreamId => Option UInt8
  | .transientPartyMembers => List UInt32
  | .transientDirectorMembers => UInt32 → Option (List UInt32)
  | .activeContentScript => Option ActiveContentScript
  | .deferredLoginWarp => Option (DeferredWarp φ)
  | .mergedZoneId => Option UInt32
  | .actorInstanceList => Finset UInt32

def get (s : Session φ) : (k : Field) → k.Value φ
  | .id => s.id
  | .languageCode => s.languageCode
  | .isUpdatesLocked => s.isUpdatesLocked
  | .errorMessage => s.errorMessage
  | .currentZoneId => s.currentZoneId
  | .currentPrivateAreaName => s.currentPrivateAreaName
  | .currentPrivateAreaLevel => s.currentPrivateAreaLevel
  | .destinationZoneId => s.destinationZoneId
  | .destinationSpawnType => s.destinationSpawnType
  | .destinationX => s.destinationX
  | .destinationY => s.destinationY
  | .destinationZ => s.destinationZ
  | .destinationRot => s.destinationRot
  | .loginDirector => s.loginDirector
  | .pendingKickEvent => s.pendingKickEvent
  | .pendingContentKickEvent => s.pendingContentKickEvent
  | .pendingZoneIn => s.pendingZoneIn
  | .spawnedRetainer => s.spawnedRetainer
  | .isSleeping => s.isSleeping
  | .currentDreamId => s.currentDreamId
  | .transientPartyMembers => s.transientPartyMembers
  | .partyGroupOrdinal => s.partyGroupOrdinal
  | .transientDirectorMembers => s.transientDirectorMembers
  | .activeContentScript => s.activeContentScript
  | .contentWarpAcked => s.contentWarpAcked
  | .reloadInFlight => s.reloadInFlight
  | .deferWarpsUntilZoneInAck => s.deferWarpsUntilZoneInAck
  | .deferredLoginWarp => s.deferredLoginWarp
  | .mergedZoneId => s.mergedZoneId
  | .actorInstanceList => s.actorInstanceList

/-- A new session; `zero` is where coordinates begin. -/
def new (zero : φ) (id : UInt32) : Session φ where
  id := id
  languageCode := 1
  isUpdatesLocked := true
  errorMessage := []
  currentZoneId := 0
  currentPrivateAreaName := none
  currentPrivateAreaLevel := 0
  destinationZoneId := 0
  destinationSpawnType := 0
  destinationX := zero
  destinationY := zero
  destinationZ := zero
  destinationRot := zero
  loginDirector := none
  pendingKickEvent := none
  pendingContentKickEvent := none
  pendingZoneIn := none
  spawnedRetainer := none
  isSleeping := false
  currentDreamId := none
  transientPartyMembers := []
  partyGroupOrdinal := 0
  transientDirectorMembers := fun _ => none
  activeContentScript := none
  contentWarpAcked := false
  reloadInFlight := false
  deferWarpsUntilZoneInAck := false
  deferredLoginWarp := none
  mergedZoneId := none
  actorInstanceList := ∅

end Session

/-- The steps on a session, by the function that makes them and what it is given. -/
inductive Update (φ : Type) where
  | handleLanguageCode (languageCode : UInt32)
  | createDirector (spec : LoginDirectorSpec)
  | setLoginDirector (actorId : UInt32) (classPath className : Text)
  | setPos (x y z rotation : φ)
  | kickEventAtLogin (kick : PendingKickEvent)
  | createContentArea (active : ActiveContentScript)
  | spawnContentActor (parentZoneId actorId : UInt32)
  | directorAddMember (directorActorId memberActorId : UInt32)
  | contentDirectorAddMember (directorActorId memberActorId : UInt32)
  | partyAddMember (memberActorId : UInt32)
  | kickEvent (kick : PendingKickEvent)
  | contentFinished (parentZoneId : UInt32) (areaName : Text)
  | deferWarp (warp : DeferredWarp φ)
  | doZoneChange (spawnType : UInt8) (useWipeReloadRecipe : Bool)
  | parkZoneIn (pending : PendingZoneIn)
  | takeZoneIn
  | clearKickEvent
  | doZoneChangeContent (spawnType : UInt8)
  | reparkKickEvent
  | contentWarpComplete
  | handleZoneInComplete
  | spawnMyRetainer (retainer : SpawnedRetainer φ)
  | despawnMyRetainer
  | dismissMyRetainer (retainerId : UInt32)
  | renameRetainer (retainerId : UInt32) (newName : Text)
  | setSleeping
  | startDream (dreamId : UInt8)
  | endDream
  | wake
  | warpToPosition (x y z rotation : φ) (spawnType : UInt8)
  | warpToZone (zoneId : UInt32) (x y z : φ)
  | moveToZone (zoneId : UInt32) (x y z rotation : φ) (attached : Option (Text × UInt32))
  | doSeamlessZoneChange (zoneId : UInt32)
  | mergeZones (zoneId : UInt32)
  | leaveMergeStrip
  | seedInstanceList (actorIds : Finset UInt32)
  | growInstanceList (actorIds : Finset UInt32)

def pushNew (ids : List UInt32) (actorId : UInt32) : List UInt32 :=
  if actorId ∈ ids then ids else ids ++ [actorId]

namespace Session

variable (s : Session φ)

def addDirectorMember (directorActorId memberActorId : UInt32) : Session φ :=
  { s with
    transientDirectorMembers := Function.update s.transientDirectorMembers directorActorId
      (some (pushNew ((s.transientDirectorMembers directorActorId).getD []) memberActorId)) }

def addPartyMember (memberActorId : UInt32) : Session φ :=
  if memberActorId ∈ s.transientPartyMembers then s
  else
    { s with
      transientPartyMembers := s.transientPartyMembers ++ [memberActorId]
      partyGroupOrdinal := s.partyGroupOrdinal + 1 }

/-- The windows in which a kick is parked: a reload under way, or the content of its director not
acknowledged. -/
def parksKick (kick : PendingKickEvent) : Bool :=
  s.reloadInFlight ||
    !s.contentWarpAcked && s.activeContentScript.any (·.directorActorId = kick.ownerActorId)

def finishContent (directorId : UInt32) : Session φ :=
  { s with
    transientDirectorMembers := Function.update s.transientDirectorMembers directorId none
    transientPartyMembers := []
    partyGroupOrdinal :=
      if s.transientPartyMembers.isEmpty then s.partyGroupOrdinal else s.partyGroupOrdinal + 1
    activeContentScript := none
    pendingContentKickEvent := none
    loginDirector :=
      if s.loginDirector.any (·.actorId = directorId) then none else s.loginDirector }

/-- A kick that is parked stays so when a parked warp is about to be replayed. -/
def zoneInComplete : Session φ :=
  { s with
    reloadInFlight := false
    deferWarpsUntilZoneInAck := false
    deferredLoginWarp := none
    pendingContentKickEvent :=
      if s.deferredLoginWarp.isNone then none else s.pendingContentKickEvent }

end Session

namespace Update

/-- Whether a step stays under the lock of the table. -/
def locked : Update φ → Bool
  | moveToZone .. | doSeamlessZoneChange _ | mergeZones _ | leaveMergeStrip
  | seedInstanceList _ | growInstanceList _ => true
  | _ => false

/-- What a step makes of the session it read; `none` where it writes nothing back. -/
def change (s : Session φ) : Update φ → Option (Session φ)
  | handleLanguageCode languageCode =>
      some { s with languageCode := languageCode, destinationSpawnType := 1 }
  | createDirector spec => some { s with loginDirector := some spec }
  | setLoginDirector actorId classPath className =>
      if classPath ≠ [] ∧ actorId ≠ 0 then
        some { s with
          loginDirector := some ⟨actorId, s.currentZoneId, classPath, className⟩ }
      else none
  | setPos x y z rotation =>
      some { s with
        destinationX := x, destinationY := y, destinationZ := z, destinationRot := rotation }
  | kickEventAtLogin kick =>
      if s.reloadInFlight then some { s with pendingContentKickEvent := some kick }
      else some { s with pendingKickEvent := some kick }
  | createContentArea active =>
      some { s with
        activeContentScript := some { active with warpComplete := false, spawnedActorIds := [] }
        contentWarpAcked := false }
  | spawnContentActor parentZoneId actorId =>
      match s.activeContentScript with
      | none => none
      | some active =>
          if active.parentZoneId = parentZoneId ∧ actorId ∉ active.spawnedActorIds then
            some { s with
              activeContentScript := some { active with
                spawnedActorIds := active.spawnedActorIds ++ [actorId] } }
          else none
  | directorAddMember directorActorId memberActorId =>
      some (s.addDirectorMember directorActorId memberActorId)
  | contentDirectorAddMember directorActorId memberActorId =>
      if s.activeContentScript.any (·.directorActorId = directorActorId) then
        some (s.addDirectorMember directorActorId memberActorId)
      else none
  | partyAddMember memberActorId => some (s.addPartyMember memberActorId)
  | kickEvent kick =>
      if s.parksKick kick then some { s with pendingContentKickEvent := some kick } else none
  | contentFinished parentZoneId areaName =>
      match s.activeContentScript with
      | none => none
      | some active =>
          if active.parentZoneId = parentZoneId ∧ (areaName = [] ∨ active.areaName = areaName) then
            some (s.finishContent active.directorActorId)
          else none
  | deferWarp warp =>
      if s.deferWarpsUntilZoneInAck then some { s with deferredLoginWarp := some warp } else none
  | doZoneChange spawnType useWipeReloadRecipe =>
      some { s with
        destinationSpawnType := spawnType
        reloadInFlight := s.reloadInFlight || useWipeReloadRecipe }
  | parkZoneIn pending => some { s with pendingZoneIn := some pending }
  | takeZoneIn => some { s with pendingZoneIn := none }
  | clearKickEvent => some { s with pendingKickEvent := none }
  | doZoneChangeContent spawnType =>
      some { s with destinationSpawnType := spawnType, reloadInFlight := true }
  | reparkKickEvent =>
      s.pendingKickEvent.map fun kick =>
        { s with pendingKickEvent := none, pendingContentKickEvent := some kick }
  | contentWarpComplete =>
      some { s with
        activeContentScript := s.activeContentScript.map ({ · with warpComplete := true })
        contentWarpAcked := true }
  | handleZoneInComplete => some s.zoneInComplete
  | spawnMyRetainer retainer => some { s with spawnedRetainer := some retainer }
  | despawnMyRetainer => some { s with spawnedRetainer := none }
  | dismissMyRetainer retainerId =>
      if s.spawnedRetainer.any (·.retainerId = retainerId) then
        some { s with spawnedRetainer := none }
      else none
  | renameRetainer retainerId newName =>
      if s.spawnedRetainer.any (·.retainerId = retainerId) then
        some { s with spawnedRetainer := s.spawnedRetainer.map ({ · with name := newName }) }
      else none
  | setSleeping => some { s with isSleeping := true }
  | startDream dreamId => some { s with currentDreamId := some dreamId }
  | endDream => some { s with currentDreamId := none }
  | wake => some { s with currentDreamId := none, isSleeping := false }
  | warpToPosition x y z rotation spawnType =>
      some { s with
        destinationX := x, destinationY := y, destinationZ := z, destinationRot := rotation
        destinationSpawnType := spawnType }
  | warpToZone zoneId x y z =>
      some { s with
        destinationZoneId := zoneId
        destinationX := x, destinationY := y, destinationZ := z
        destinationSpawnType := 2 }
  | moveToZone zoneId x y z rotation attached =>
      some { s with
        isUpdatesLocked := false
        currentZoneId := zoneId
        destinationZoneId := zoneId
        destinationX := x, destinationY := y, destinationZ := z, destinationRot := rotation
        currentPrivateAreaName := attached.map Prod.fst
        currentPrivateAreaLevel := (attached.map Prod.snd).getD 0 }
  | doSeamlessZoneChange zoneId => some { s with currentZoneId := zoneId, mergedZoneId := none }
  | mergeZones zoneId => some { s with mergedZoneId := some zoneId }
  | leaveMergeStrip => some { s with mergedZoneId := none }
  | seedInstanceList actorIds => some { s with actorInstanceList := actorIds }
  | growInstanceList actorIds =>
      some { s with actorInstanceList := s.actorInstanceList ∪ actorIds }

/-- A zone change is made for a session that is not there, too. -/
def fetch (zero : φ) (id : UInt32) (found : Option (Session φ)) : Update φ → Option (Session φ)
  | moveToZone .. => some (found.getD (.new zero id))
  | _ => found

end Update

structure Sessions (φ : Type) where
  session : UInt32 → Option (Session φ)
  keyed : ∀ id s, session id = some s → s.id = id

theorem Session.addPartyMember_id (s : Session φ) (memberActorId : UInt32) :
    (s.addPartyMember memberActorId).id = s.id := by
  unfold addPartyMember
  split <;> rfl

theorem Update.change_id {u : Update φ} {s s' : Session φ} (changed : u.change s = some s') :
    s'.id = s.id := by
  unfold change at changed
  split at changed
  case h_10 memberActorId =>
    cases changed
    exact s.addPartyMember_id memberActorId
  case h_19 =>
    obtain ⟨_, _, rfl⟩ := Option.map_eq_some_iff.mp changed
    rfl
  all_goals
    repeat' split at changed
    all_goals
      cases changed
      try rfl

def Sessions.upsertSession (t : Sessions φ) (s : Session φ) : Sessions φ where
  session := Function.update t.session s.id (some s)
  keyed id s' found := by
    by_cases same : id = s.id
    · subst same
      rw [Function.update_self] at found
      rw [← Option.some.inj found]
    · rw [Function.update_of_ne same] at found
      exact t.keyed id s' found

structure Race (φ : Type) where
  sessions : Sessions φ
  phase : Side → Phase (Session φ)

namespace Race

def begin (sessions : Sessions φ) : Race φ := ⟨sessions, fun _ => .waiting⟩

variable (zero : φ) (id : UInt32) (updates : Side → Update φ) (r : Race φ)

def settle (side : Side) (read : Session φ) : Option (Session φ) → Race φ
  | none => { r with phase := Function.update r.phase side (.closed none) }
  | some written =>
      { sessions := r.sessions.upsertSession written
        phase := Function.update r.phase side (.closed (some (read, written))) }

/-- A step reads the session, in its second turn it writes it back; under the lock it does both at
once. -/
def turn (side : Side) : Race φ :=
  match r.phase side with
  | .waiting =>
      match (updates side).fetch zero id (r.sessions.session id) with
      | none => { r with phase := Function.update r.phase side (.closed none) }
      | some read =>
          if (updates side).locked then r.settle side read ((updates side).change read)
          else { r with phase := Function.update r.phase side (.holding read) }
  | .holding copy => r.settle side copy ((updates side).change copy)
  | .closed _ => r

def reads (side : Side) : Option (Session φ) :=
  match r.phase side with
  | .waiting =>
      if (updates side).locked then (updates side).fetch zero id (r.sessions.session id) else none
  | .holding copy => some copy
  | .closed _ => none

def Disjoint : Prop :=
  ∀ k, ¬ ((r.phase .first).Changed Session.get k ∧ (r.phase .second).Changed Session.get k)

def Kept : Prop :=
  ∃ s, r.sessions.session id = some s ∧
    ∀ side read written, r.phase side = .closed (some (read, written)) →
      ∀ k, read.get k ≠ written.get k → s.get k = written.get k

/-- No step writes a change while the other holds a copy that it will write back. -/
def Apart (side : Side) : Prop :=
  ∀ read, r.reads zero id updates side = some read →
    ∀ written, (updates side).change read = some written →
      (∃ k, read.get k ≠ written.get k) →
        ∀ copy, r.phase side.other = .holding copy → (updates side.other).change copy = none

variable {zero : φ} {id : UInt32} {updates : Side → Update φ} {r : Race φ} {side : Side}

def steps (updates : Side → Update φ) (side : Side) : SharedStep (Session φ) where
  locked := (updates side).locked
  change s := (updates side).change s

structure Views (id : UInt32) (r : Race φ) (s : Shared (Session φ)) : Prop where
  stored : r.sessions.session id = some s.stored
  phase : r.phase = s.phase
  copies : ∀ side copy, s.phase side = .holding copy → copy.id = id

theorem Views.settle {s : Shared (Session φ)} (views : r.Views id s) {read : Session φ}
    {written : Option (Session φ)} (own : ∀ new, written = some new → new.id = id) :
    (r.settle side read written).Views id (s.settle side read written) := by
  have copies : ∀ a copy, (s.settle side read written).phase a = .holding copy → copy.id = id := by
    intro a copy holding
    by_cases same : a = side
    · subst same
      rw [Shared.settle_self] at holding
      cases holding
    · exact views.copies a copy ((Function.update_of_ne same _ _).symm.trans holding)
  have phase : (r.settle side read written).phase = (s.settle side read written).phase := by
    cases written <;> simp only [Race.settle, Shared.settle, views.phase] <;> rfl
  refine ⟨?_, phase, copies⟩
  cases written with
  | none => exact views.stored
  | some new =>
      have keeps := own new rfl
      subst keeps
      exact Function.update_self _ _ _

theorem fetch_some (u : Update φ) (s : Session φ) : u.fetch zero id (some s) = some s := by
  cases u <;> rfl

theorem Views.turn {s : Shared (Session φ)} (views : r.Views id s) (side : Side) :
    (r.turn zero id updates side).Views id (s.turn (steps updates) side) := by
  unfold Race.turn Shared.turn
  rw [views.phase, views.stored, fetch_some]
  cases now : s.phase side with
  | waiting =>
      by_cases locked : (updates side).locked = true
      · have stays : (steps updates side).locked = true := locked
        have current := r.sessions.keyed id s.stored views.stored
        simp only [if_pos locked, if_pos stays]
        exact views.settle fun new changed => (Update.change_id changed).trans current
      · have leaves : ¬ (steps updates side).locked = true := locked
        simp only [if_neg locked, if_neg leaves]
        refine ⟨views.stored, rfl, fun a copy holding => ?_⟩
        by_cases same : a = side
        · subst same
          replace holding := (Function.update_self _ _ _).symm.trans holding
          cases holding
          exact r.sessions.keyed id s.stored views.stored
        · exact views.copies a copy ((Function.update_of_ne same _ _).symm.trans holding)
  | holding copy =>
      exact views.settle fun new changed =>
        (Update.change_id changed).trans (views.copies side copy now)
  | closed change => exact views

theorem Views.apart_iff {s : Shared (Session φ)} (views : r.Views id s) (side : Side) :
    r.Apart zero id updates side ↔ s.Apart Session.get (steps updates) side := by
  have reading : r.reads zero id updates side = s.reads (steps updates) side := by
    unfold Race.reads Shared.reads
    rw [views.phase, views.stored, fetch_some]
    cases s.phase side <;> rfl
  unfold Race.Apart Shared.Apart
  rw [reading, views.phase]
  rfl

theorem Views.kept_iff {s : Shared (Session φ)} (views : r.Views id s) :
    r.Kept id ↔ s.Kept Session.get := by
  unfold Race.Kept Shared.Kept
  rw [views.stored, views.phase]
  constructor
  · rintro ⟨stored, same, kept⟩
    cases same
    exact kept
  · exact fun kept => ⟨s.stored, rfl, kept⟩

theorem Views.run {s : Shared (Session φ)} (views : r.Views id s) {sides : List Side}
    {r' : Race φ}
    (ended : run (fun r side => some (r.turn zero id updates side)) r sides = some r') :
    ∃ s', Library.run (fun s side => some (s.turn (steps updates) side)) s sides = some s' ∧
      r'.Views id s' ∧
      (EachStep (fun r side => some (r.turn zero id updates side)) (Apart zero id updates) r sides ↔
        EachStep (fun s side => some (s.turn (steps updates) side))
          (Shared.Apart Session.get (steps updates)) s sides) := by
  induction sides generalizing r s with
  | nil =>
      cases ended
      exact ⟨s, rfl, views, Iff.rfl⟩
  | cons side sides ih =>
      obtain ⟨s', reached, onward, same⟩ := ih (views.turn side) ended
      refine ⟨s', reached, onward, ?_⟩
      constructor
      · rintro apart _ ⟨⟩
        obtain ⟨now, later⟩ := apart _ rfl
        exact ⟨(views.apart_iff side).mp now, same.mp later⟩
      · rintro apart _ ⟨⟩
        obtain ⟨now, later⟩ := apart _ rfl
        exact ⟨(views.apart_iff side).mpr now, same.mpr later⟩

/-- Of two steps on one session that change different fields, the session keeps all changes exactly
if neither writes a change while the other holds a copy that it will write back. -/
theorem updates_kept_iff (zero : φ) (id : UInt32) (updates : Side → Update φ)
    {sessions : Sessions φ} {s : Session φ} (there : sessions.session id = some s)
    {sides : List Side} {r : Race φ}
    (ended : Library.run (fun r side => some (r.turn zero id updates side)) (begin sessions)
      sides = some r)
    (closed : ∀ side, (r.phase side).isClosed = true) (disjoint : r.Disjoint) :
    r.Kept id ↔
      EachStep (fun r side => some (r.turn zero id updates side)) (Apart zero id updates)
        (begin sessions) sides := by
  have begins : (begin sessions).Views id (.start s) :=
    ⟨there, rfl, fun _ _ holding => by cases holding⟩
  obtain ⟨s', reached, views, same⟩ := begins.run ended
  rw [views.kept_iff, same]
  apply Shared.kept_iff Session.get (steps updates) reached
  · rw [← views.phase]
    exact closed
  · intro k both
    apply disjoint k
    rw [views.phase]
    exact both

def bundled : Session ℕ := { Session.new 0 1 with pendingZoneIn := some ⟨0, 2, true, false⟩ }

def parked : Sessions ℕ where
  session id := if id = 1 then some bundled else none
  keyed id s found := by
    split at found
    · rename_i same
      cases found
      exact same.symm
    · cases found

def rosterAndTicker : Side → Update ℕ
  | .first => .partyAddMember 5
  | .second => .takeZoneIn

theorem rosterAndTicker_disjoint {r : Race ℕ} {read : Session ℕ} {read' : Session ℕ}
    (joined : r.phase .first = .closed (some (read, read.addPartyMember 5)))
    (taken : r.phase .second = .closed (some (read', { read' with pendingZoneIn := none }))) :
    r.Disjoint := by
  rintro k ⟨⟨_, _, closed, differs⟩, ⟨_, _, closed', differs'⟩⟩
  rw [joined] at closed
  rw [taken] at closed'
  cases closed
  cases closed'
  cases k
  case pendingZoneIn =>
    apply differs
    unfold Session.addPartyMember
    split <;> rfl
  all_goals exact differs' rfl

theorem updates_kept_serial : ∃ r, Library.run
    (fun r side => some (r.turn 0 1 rosterAndTicker side)) (begin parked)
      [.first, .first, .second, .second] = some r ∧ r.Kept 1 := by
  refine ⟨_, rfl, (@updates_kept_iff ℕ 0 1 rosterAndTicker parked bundled rfl
    [.first, .first, .second, .second] _ rfl ?_ ?_).mpr ?_⟩
  · rintro ⟨⟩ <;> rfl
  · exact rosterAndTicker_disjoint rfl rfl
  · iterate 4
      rintro _ ⟨⟩
      refine ⟨fun _ _ _ _ _ _ holding => (by cases holding), ?_⟩
    trivial

theorem update_lost : ∃ r, Library.run
    (fun r side => some (r.turn 0 1 rosterAndTicker side)) (begin parked)
      [.first, .second, .second, .first] = some r ∧
      (∀ side, (r.phase side).isClosed = true) ∧ r.Disjoint ∧ ¬ r.Kept 1 := by
  refine ⟨_, rfl, ?_, rosterAndTicker_disjoint rfl rfl, ?_⟩
  · rintro ⟨⟩ <;> rfl
  · rintro ⟨s, found, kept⟩
    have back : s.pendingZoneIn = bundled.pendingZoneIn := by
      cases found
      rfl
    have cleared : s.pendingZoneIn = none :=
      kept .second _ _ rfl .pendingZoneIn (Option.some_ne_none _)
    rw [cleared] at back
    cases back

end Race

end Garlemald.Map
