import Garlemald.Battle.Disengage
import Garlemald.Lua.Absence
import Garlemald.Zone.Absence

/-!
What a session leaves behind it. While it lasts the player is put into areas, NPCs turn on it,
scripts wait for it and other clients may be sent its actor; its end goes through the scheduler,
the registry and the tables of sessions and clients.
-/

namespace Garlemald

open Library Common

/-- Whether an NPC hates an actor or has it for its target. -/
def Battle.BattleNpc.against {φ : Type} (npc : BattleNpc φ) (actorId : UInt32) : Bool :=
  npc.hate.any (·.actorId == actorId) || npc.ai.currentState.any (·.targetActorId == actorId)

/-- The NPC as if it had never met the actor. -/
def Battle.BattleNpc.without {φ : Type} (npc : BattleNpc φ) (actorId : UInt32) : BattleNpc φ :=
  { npc with
    hate := npc.hate.clearHate (some actorId)
    ai :=
      if npc.ai.currentState.any (·.targetActorId == actorId) then npc.ai.clearStates else npc.ai }

def Zone.StoredPlace.session (row : StoredPlace) : PlayerSession where
  currentPrivateAreaName :=
    if row.currentPrivateArea = [] then none else some row.currentPrivateArea
  currentPrivateAreaLevel := row.currentPrivateAreaType
  currentZoneId := row.currentZoneId
  deferWarpsUntilZoneInAck := true

namespace Map

open Function (update)

/-- The session of the player, with the zone of its character. Its parties, the rosters of its
directors, its content and its retainer are fields of it. -/
structure PlayerRecord where
  location : Zone.PlayerSession
  characterZoneId : UInt32
  content : Content.Session := {}
  spawnedRetainer : Option UInt32 := none

/-- What of a server one player is in, and what of the other sessions looks at it: their areas,
their clients and whether these have been sent the actor of the player. -/
structure Server (θ φ : Type) where
  zones : UInt32 → Option Zone
  registry : ActorRegistry
  session : Option PlayerRecord
  others : UInt32 → Option Zone.Session
  clients : UInt32 → Bool
  row : Zone.StoredPlace
  npcs : UInt32 → Option (Battle.BattleNpc φ)
  scheduler : Option (Lua.CoroutineScheduler θ)
  seenBy : UInt32 → Bool

/-- What happens on a server in the life of a session: to the session itself, to the other actors
of the areas and to the NPCs, in the scheduler and to the other sessions. The end of a content
instance is the despawn of its actors and then `contentFinished`. -/
inductive Occurrence (θ φ : Type) where
  | sessionBegin (isLogin : Bool) (spawn : Vector3 ℚ)
  | languageCode (spawn : Vector3 ℚ)
  | location (op : Zone.LocationOp)
  | fill (content : Content.Session) (spawnedRetainer : Option UInt32)
  | contentFinished (directorId : UInt32)
  | area (zoneId : UInt32) (place : Zone.Place) (op : Zone.AreaOperation)
  | spawnNpc (actorId zoneId : UInt32) (npc : Battle.BattleNpc φ)
  | despawnActor (actorId : UInt32)
  | npc (actorId : UInt32) (happening : Battle.BattleNpc.Happening φ)
  | script (event : Lua.Event θ)
  | otherSession (sessionId zoneId : UInt32) (session : Option Zone.Session)
  | sendZoneInBundle (viewer : UInt32) (stream : Zone.Stream) (recipe : Zone.ZoneIn)
      (position : Vector3 ℚ)
  | sendInstanceUpdate (viewer : UInt32) (stream : Zone.Stream)

namespace Server

variable {θ φ : Type} (atlas : Zone.Atlas) (checked : Bool) (w : Server θ φ)

def editArea (zoneId : UInt32) (place : Zone.Place) (f : Zone.SortedCore → Zone.SortedCore) :
    Server θ φ :=
  { w with
    zones := update w.zones zoneId ((w.zones zoneId).map fun zone => zone.edit f place) }

/-- The session and the handle of the player, as a move of the player looks them up. -/
def whereabouts : Option (ActorHandle × PlayerRecord × Zone.Whereabouts) := do
  let handle ← w.registry.bySession atlas.actorId
  let s ← w.session
  some (handle, s, ⟨w.zones, s.location, handle.zoneId, s.characterZoneId, w.row⟩)

def move (f : Zone.Whereabouts → Zone.Whereabouts) : Server θ φ :=
  match w.whereabouts atlas with
  | none => w
  | some (handle, s, there) =>
      let moved := f there
      { w with
        zones := moved.zones
        registry :=
          { w.registry with
            actors := update w.registry.actors handle.actorId
              (some { handle with zoneId := moved.handleZoneId }) }
        session :=
          some { s with location := moved.session, characterZoneId := moved.characterZoneId }
        row := moved.row }

/-- The change of zone that puts the player where its session says it is. -/
def enterZone (spawn : Vector3 ℚ) : Server θ φ :=
  w.move atlas fun v =>
    v.doZoneChangeWithPrivateArea atlas v.session.currentZoneId v.session.currentPrivateAreaName
      v.session.currentPrivateAreaLevel spawn

def begun : Server θ φ :=
  { w with
    clients := update w.clients atlas.actorId true
    session := some { location := w.row.session, characterZoneId := w.row.currentZoneId }
    registry := w.registry.insert ⟨atlas.actorId, w.row.currentZoneId, atlas.actorId⟩ }

/-- At a login the player is not put into its zone before the client asks for it. -/
def handleSessionBegin (isLogin : Bool) (spawn : Vector3 ℚ) : Server θ φ :=
  if isLogin then w.begun atlas else (w.begun atlas).enterZone atlas spawn

def handleSessionEnd : Server θ φ :=
  { w with
    scheduler :=
      match w.registry.bySession atlas.actorId with
      | none => w.scheduler
      | some handle => w.scheduler.map fun s => (s.purgeOwner handle.actorId).2
    registry := w.registry.removeSession atlas.actorId
    clients := update w.clients atlas.actorId false
    session := none }

def contentFinished (directorId : UInt32) : Server θ φ :=
  { w with
    session := w.session.map fun s => { s with content := s.content.cleared directorId }
    scheduler :=
      match w.registry.bySession atlas.actorId with
      | none => w.scheduler
      | some handle =>
          if handle.actorId = 0 then w.scheduler
          else w.scheduler.map fun s => (s.purgeOwner handle.actorId).2 }

def world : Zone.World where
  sessions := update w.others atlas.actorId (w.session.map (·.location.toSession))
  clients := w.clients

/-- The clients near the actor are told to remove it before it leaves the registry and the zone. -/
def applyDespawnActor (actorId : UInt32) : Server θ φ :=
  match w.registry.actors actorId with
  | none => w
  | some handle =>
      match w.zones handle.zoneId with
      | none => w
      | some zone =>
          let told :=
            (Zone.recipients (w.world atlas) w.registry checked zone actorId).getD []
          { w.editArea handle.zoneId none fun core => (core.removeActor actorId).1 with
            registry := Zone.handleRemoved w.registry handle
            npcs := update w.npcs actorId none
            seenBy := fun viewer =>
              w.seenBy viewer && !(actorId == atlas.actorId && told.contains viewer) }

/-- What a client is sent of the areas of the server, as far as it is about the player. -/
def shown (viewer : UInt32) (stream : Zone.Stream) (send : Zone.Stream → Zone.Stream) :
    Server θ φ :=
  let streamed := send
    { stream with
      whereabouts := { stream.whereabouts with zones := w.zones }
      registry := w.registry
      clients := w.clients
      shown := if w.seenBy viewer then {atlas.actorId} else ∅ }
  { w with seenBy := update w.seenBy viewer (decide (atlas.actorId ∈ streamed.shown)) }

def area (zoneId : UInt32) (place : Zone.Place) (op : Zone.AreaOperation) : Server θ φ :=
  if op.adds = some atlas.actorId then w else w.editArea zoneId place (·.operate op)

def spawnNpc (actorId zoneId : UInt32) (npc : Battle.BattleNpc φ) : Server θ φ :=
  if actorId = atlas.actorId then w
  else
    { w with
      registry := w.registry.insert ⟨actorId, zoneId, 0⟩
      npcs := update w.npcs actorId (some npc) }

def otherSession (sessionId zoneId : UInt32) (session : Option Zone.Session) : Server θ φ :=
  if sessionId = atlas.actorId then w
  else
    { w with
      others := update w.others sessionId session
      clients := update w.clients sessionId session.isSome
      registry :=
        match session with
        | some _ => w.registry.insert ⟨sessionId, zoneId, sessionId⟩
        | none => w.registry.removeSession sessionId }

variable [F32 φ]

def step : Occurrence θ φ → Server θ φ
  | .sessionBegin isLogin spawn => w.handleSessionBegin atlas isLogin spawn
  | .languageCode spawn => w.enterZone atlas spawn
  | .location op => w.move atlas fun v => v.step atlas op
  | .fill content retainer =>
      { w with
        session := w.session.map fun s =>
          { s with content := content, spawnedRetainer := retainer } }
  | .contentFinished directorId => w.contentFinished atlas directorId
  | .area zoneId place op => w.area atlas zoneId place op
  | .spawnNpc actorId zoneId npc => w.spawnNpc atlas actorId zoneId npc
  | .despawnActor actorId => w.applyDespawnActor atlas checked actorId
  | .npc actorId happening =>
      { w with npcs := update w.npcs actorId ((w.npcs actorId).bind (·.step happening)) }
  | .script event => { w with scheduler := w.scheduler.map (·.apply event) }
  | .otherSession sessionId zoneId session => w.otherSession atlas sessionId zoneId session
  | .sendZoneInBundle viewer stream recipe position =>
      w.shown atlas viewer stream fun s => s.sendZoneInBundle atlas checked viewer recipe position
  | .sendInstanceUpdate viewer stream =>
      w.shown atlas viewer stream fun s => s.sendInstanceUpdate atlas checked viewer

def mine (own : θ → Bool) (player : UInt32) (c : Lua.ParkedCoroutine θ) : Bool :=
  own c.thread || c.ownerPlayerId == player

/-- The server as if the player had never been on it. -/
def forgotten (own : θ → Bool) : Server θ φ :=
  { w with
    zones := fun zoneId => (w.zones zoneId).map fun zone => zone.without atlas.actorId
    npcs := fun actorId => (w.npcs actorId).map fun npc => npc.without atlas.actorId
    scheduler := w.scheduler.map fun s => s.without (mine own atlas.actorId) atlas.actorId
    seenBy := fun _ => false }

/-- No session and no handle of the registry is about the actor. -/
structure Unregistered (r : ActorRegistry) (actorId : UInt32) : Prop where
  session : r.sessionIndex actorId = none
  index : ∀ sessionId, r.sessionIndex sessionId ≠ some actorId
  actors : ∀ other handle, r.actors other = some handle →
    other ≠ actorId ∧ handle.actorId ≠ actorId ∧ handle.sessionId ≠ actorId

/-- Nothing on the server is left of the player, and what happens on it is what would happen on a
server that the player has never been on. -/
structure NoTrace (own : θ → Bool) : Prop where
  areas : Zone.Absent w.zones atlas.actorId
  npcs : ∀ actorId npc, w.npcs actorId = some npc → npc.against atlas.actorId = false
  session : w.session = none
  client : w.clients atlas.actorId = false
  registry : Unregistered w.registry atlas.actorId
  parked : ∀ s, w.scheduler = some s → s.Free (mine own atlas.actorId) atlas.actorId
  removed : ∀ viewer, w.seenBy viewer = false
  relogin : ∀ es, run (fun w e => some (step atlas checked w e)) (w.forgotten atlas own) es =
    run (fun w e => some (step atlas checked w e)) w es

/-- A coroutine of the session is named after the player, so that a purge finds it. -/
def Named (own : θ → Bool) (player : UInt32) (wait : Lua.Wait) (c : Lua.ParkedCoroutine θ) :
    Prop :=
  own c.thread = true → c.ownerPlayerId = player ∨ wait = .event player

/-- The condition on a call of the scheduler. While the player is registered the coroutines of its
session are named; a player that is not registered is not purged, and nothing of it is parked. -/
def ParksWell (own : θ → Bool) (event : Lua.Event θ) : Prop :=
  match w.registry.bySession atlas.actorId with
  | some _ => ∀ wait c, event.parks = some (wait, c) → Named own atlas.actorId wait c
  | none =>
      (∀ wait c, event.parks = some (wait, c) →
        mine own atlas.actorId c = false ∧ wait ≠ .event atlas.actorId) ∧
      ∀ owner, event ≠ .setEventOwnerContext atlas.actorId owner

/-- The condition on what happens: the player is put into no area, no NPC turns on it, what its
session parks can be purged, and it is not despawned itself while something of it is parked. -/
def Fits (own : θ → Bool) : Occurrence θ φ → Prop
  | .sessionBegin isLogin _ => isLogin = true ∨ w.zones w.row.currentZoneId = none
  | .languageCode _ => ∀ handle s there, w.whereabouts atlas = some (handle, s, there) →
      w.zones s.location.currentZoneId = none
  | .location op => ∀ handle s there, w.whereabouts atlas = some (handle, s, there) →
      ¬ there.Places atlas op
  | .spawnNpc actorId _ npc => actorId = atlas.actorId ∨ npc.against atlas.actorId = false
  | .despawnActor actorId => actorId = atlas.actorId →
      ∀ handle, w.registry.actors actorId = some handle →
        (w.zones handle.zoneId).isSome = true →
        ∀ s, w.scheduler = some s → s.Free (mine own atlas.actorId) atlas.actorId
  | .npc actorId happening => ∀ npc after, w.npcs actorId = some npc →
      npc.step happening = some after → after.against atlas.actorId = false
  | .script event => ∀ s, w.scheduler = some s → w.ParksWell atlas own event
  | .fill .. => True
  | .contentFinished _ => True
  | .area .. => True
  | .otherSession .. => True
  | .sendZoneInBundle .. => True
  | .sendInstanceUpdate .. => True

end Server

end Map

end Garlemald
