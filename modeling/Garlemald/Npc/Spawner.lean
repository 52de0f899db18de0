import Garlemald.Content.Teardown
import Garlemald.Npc.ActorId
import Garlemald.Zone.Location

/-!
How actors that are no players come into the world: from the seeds of a zone at boot, and from the
commands of a content script. An applier puts the actor into the grid of the zone and into the
registry under the id it was given, and looks for the session whose content it belongs to.
-/

namespace Garlemald.Npc

open Library Common Content

/-- A seed; the zone it is listed for is where it is spawned. -/
structure SpawnLocation where
  classId : UInt32
  uniqueId : Text
  privateAreaName : Text
  privateAreaLevel : UInt32
  position : Vector3 ℚ

def SpawnLocation.isInPrivateArea (seed : SpawnLocation) : Bool := !seed.privateAreaName.isEmpty

structure BattleNpcSpawn where
  actorClassId : UInt32
  position : Vector3 ℚ
  allegiance : UInt32

/-- What is loaded of the game data: the class path of each actor class, which classes fight, the
seeds of the zones with those of their private areas behind, and the battle npcs. -/
structure Catalog where
  actorClasses : UInt32 → Option Text
  battleClassIds : UInt32 → Bool
  seeds : UInt32 → List SpawnLocation
  battleNpcs : UInt32 → Option BattleNpcSpawn

/-- What an actor was made from: a player, a seed and its number, a battle npc or a name. -/
inductive Origin where
  | player
  | seed (actorNumber : UInt32) (uniqueId : Text)
  | battleNpc (bnpcId : UInt32)
  | named (uniqueId : Text)
deriving DecidableEq

/-- Of the character of a handle what it was made from is kept, and what decides its respawn. -/
structure ActorHandle where
  actorId : UInt32
  kind : ActorKindTag
  zoneId : UInt32
  sessionId : UInt32
  privateArea : Zone.Place
  origin : Origin
  dead : Bool
  respawnDisabled : Bool

/-- The actors by their ids, the zones and the sessions. Beside stand the ids under which an actor
lived when another was put into a grid or into the registry. -/
structure World where
  registry : Table UInt32 ActorHandle
  zones : UInt32 → Option Zone
  sessions : Table UInt32 Session
  takenOver : List UInt32

namespace World

variable (w : World)

def claim (actorId : UInt32) : World :=
  if (w.registry.lookup actorId).isSome then { w with takenOver := w.takenOver ++ [actorId] } else w

/-- `add_actor` in an area of a zone. -/
def addActor (zoneId : UInt32) (place : Zone.Place) (actor : Zone.StoredActor) : World :=
  { w.claim actor.actorId with
    zones := Function.update w.zones zoneId
      ((w.zones zoneId).map fun zone => zone.edit (·.addActor actor) place) }

def updateActorPosition (zoneId actorId : UInt32) (position : Vector3 ℚ) : World :=
  { w with
    zones := Function.update w.zones zoneId
      ((w.zones zoneId).map fun zone => zone.edit (·.updateActorPosition actorId position) none) }

/-- `insert` of the registry, which replaces what is there. -/
def insert (handle : ActorHandle) : World :=
  { w.claim handle.actorId with registry := w.registry.insert handle.actorId handle }

def runsContentIn (zoneId sessionId : UInt32) : Bool :=
  (w.sessions.lookup sessionId).any fun snap =>
    snap.activeContentScript.any (·.parentZoneId == zoneId)

/-- The first session that runs content in the zone gets the actor on its list. -/
def recordSpawn (order : List UInt32) (zoneId actorId : UInt32) : World × Bool :=
  match order.find? (w.runsContentIn zoneId) with
  | none => (w, false)
  | some sessionId =>
      match w.sessions.lookup sessionId with
      | none => (w, false)
      | some snap =>
          let active := snap.activeContentScript.map fun active =>
            { active with spawnedActorIds := pushNew active.spawnedActorIds actorId }
          ({ w with
              sessions := w.sessions.insert sessionId { snap with activeContentScript := active } },
            true)

end World

section Boot

variable (catalog : Catalog)

/-- One seed, put where it belongs: a private area that is not there leaves it in the zone. -/
def spawnOne (zoneId actorNumber : UInt32) (seed : SpawnLocation) (zone : Zone) (w : World) :
    World :=
  let isBattle := catalog.battleClassIds seed.classId
  let actorId := compositeId zoneId actorNumber
  let routed := if seed.isInPrivateArea then
      zone.route (some (seed.privateAreaName, seed.privateAreaLevel))
    else none
  let stored : Zone.StoredActor :=
    { actorId, kind := if isBattle then .battleNpc else .npc, position := seed.position,
      grid := (0, 0), isAlive := true }
  (w.addActor zoneId routed stored).insert
    { actorId, kind := if isBattle then .battleNpc else .npc, zoneId, sessionId := 0,
      privateArea := routed, origin := .seed actorNumber seed.uniqueId, dead := false,
      respawnDisabled := false }

def Catalog.spawnable (seed : SpawnLocation) : Bool :=
  (catalog.actorClasses seed.classId).any fun classPath => !classPath.isEmpty

def spawnSeeds (zoneId : UInt32) (zone : Zone) : UInt32 → List SpawnLocation → World → World
  | _, [], w => w
  | nextNumber, seed :: seeds, w =>
      if catalog.spawnable seed then
        spawnSeeds zoneId zone (nextNumber + 1) seeds
          (spawnOne catalog zoneId nextNumber seed zone w)
      else spawnSeeds zoneId zone nextNumber seeds w

def nextNumber (zone : Zone) : UInt32 :=
  UInt32.ofNat zone.core.val.actors.entries.length + 1

def spawnZone (zoneId : UInt32) (w : World) : World :=
  match w.zones zoneId with
  | none => w
  | some zone => spawnSeeds catalog zoneId zone (nextNumber zone) (catalog.seeds zoneId) w

end Boot

inductive LuaCommand where
  | spawnBattleNpcById (bnpcId parentZoneId expectedActorId : UInt32)
  | spawnActor (zoneId actorClassId : UInt32) (uniqueId : Text) (position : Vector3 ℚ)
      (expectedActorId : UInt32)

def LuaCommand.expectedActorId : LuaCommand → UInt32
  | .spawnBattleNpcById _ _ expectedActorId => expectedActorId
  | .spawnActor _ _ _ _ expectedActorId => expectedActorId

def bindSpawnBattleNpcById (parentZoneId id : UInt32) : LuaCommand × UInt32 :=
  let expectedActorId := compositeId parentZoneId (battleNpcNumber id)
  (.spawnBattleNpcById id parentZoneId expectedActorId, expectedActorId)

def bindSpawnActor (zoneId classId : UInt32) (uniqueId : Text) (position : Vector3 ℚ) :
    LuaCommand × UInt32 :=
  let expectedActorId := compositeId zoneId (namedNumber uniqueId)
  (.spawnActor zoneId classId uniqueId position expectedActorId, expectedActorId)

section Appliers

variable (catalog : Catalog) (order : List UInt32) (reads : Bool) (w : World)

/-- With the world comes the id of the actor that was put in. `reads` says whether the database can
be read. -/
def applySpawnBattleNpcById (bnpcId parentZoneId expectedActorId : UInt32) :
    World × Option UInt32 :=
  match if reads then catalog.battleNpcs bnpcId else none with
  | none => (w, none)
  | some spawn =>
      match catalog.actorClasses spawn.actorClassId with
      | none => (w, none)
      | some _ =>
          let actorNumber := expectedActorId &&& 0x7FFFF
          let actorId := compositeId parentZoneId actorNumber
          if actorId ≠ expectedActorId then (w, none)
          else
            match w.zones parentZoneId with
            | none => (w, none)
            | some _ =>
                let stored : Zone.StoredActor :=
                  { actorId, kind := .battleNpc, position := spawn.position, grid := (0, 0),
                    isAlive := true }
                let placed := (w.addActor parentZoneId none stored).updateActorPosition
                  parentZoneId actorId spawn.position
                let (recorded, contentSpawn) := placed.recordSpawn order parentZoneId actorId
                (recorded.insert
                  { actorId, kind := if spawn.allegiance = 1 then .ally else .battleNpc,
                    zoneId := parentZoneId, sessionId := 0, privateArea := none,
                    origin := .battleNpc bnpcId, dead := false, respawnDisabled := contentSpawn },
                  some actorId)

def applySpawnActor (zoneId actorClassId : UInt32) (uniqueId : Text) (position : Vector3 ℚ)
    (expectedActorId : UInt32) : World × Option UInt32 :=
  match if reads then catalog.actorClasses actorClassId else none with
  | none => (w, none)
  | some _ =>
      let rawActorNumber := expectedActorId &&& 0x7FFFF
      let actorId := compositeId zoneId rawActorNumber
      if actorId ≠ expectedActorId then (w, none)
      else
        match w.zones zoneId with
        | none => (w, none)
        | some _ =>
            let stored : Zone.StoredActor :=
              { actorId, kind := .npc, position, grid := (0, 0), isAlive := true }
            let placed := w.addActor zoneId none stored
            let inserted := placed.insert
              { actorId, kind := .npc, zoneId, sessionId := 0, privateArea := none,
                origin := .named uniqueId, dead := false, respawnDisabled := false }
            ((inserted.recordSpawn order zoneId actorId).1, some actorId)

def applyCommand : LuaCommand → World × Option UInt32
  | .spawnBattleNpcById bnpcId parentZoneId expectedActorId =>
      applySpawnBattleNpcById catalog order reads w bnpcId parentZoneId expectedActorId
  | .spawnActor zoneId actorClassId uniqueId position expectedActorId =>
      applySpawnActor catalog order reads w zoneId actorClassId uniqueId position expectedActorId

end Appliers

namespace World

variable (w : World)

def applyDespawnActor (actorId : UInt32) : World :=
  match w.registry.lookup actorId with
  | none => w
  | some handle =>
      match w.zones handle.zoneId with
      | none => w
      | some zone =>
          { w with
            registry := w.registry.erase actorId
            zones := Function.update w.zones handle.zoneId
              (some { zone with core := (zone.core.removeActor actorId).1 }) }

def alter (actorId : UInt32) (f : ActorHandle → ActorHandle) : World :=
  match w.registry.lookup actorId with
  | none => w
  | some handle => { w with registry := w.registry.insert actorId (f handle) }

def die (actorId : UInt32) : World := w.alter actorId fun handle => { handle with dead := true }

/-- A dead actor comes back where it is registered. -/
def respawn (actorId : UInt32) : World :=
  w.alter actorId fun handle =>
    if handle.dead ∧ handle.kind ≠ .player ∧ handle.respawnDisabled = false then
      { handle with dead := false }
    else handle

def setContent (sessionId : UInt32) (content : Option ActiveContentScript) : World :=
  match w.sessions.lookup sessionId with
  | none => w
  | some snap =>
      { w with
        sessions := w.sessions.insert sessionId { snap with activeContentScript := content } }

end World

/-- A script that spawns: a battle npc in the zone of its content, or an actor of a name. -/
inductive Spawn where
  | battleNpcById (parentZoneId id : UInt32)
  | actor (zoneId classId : UInt32) (uniqueId : Text) (position : Vector3 ℚ)

def Spawn.bind : Spawn → LuaCommand × UInt32
  | .battleNpcById parentZoneId id => bindSpawnBattleNpcById parentZoneId id
  | .actor zoneId classId uniqueId position => bindSpawnActor zoneId classId uniqueId position

/-- What happens to the world. A script of a session spawns; the sessions are looked through in the
order that the map gives them. -/
inductive Op where
  | boot (zoneId : UInt32)
  | spawn (issuer : UInt32) (order : List UInt32) (reads : Bool) (spawn : Spawn)
  | despawn (actorId : UInt32)
  | die (actorId : UInt32)
  | respawn (actorId : UInt32)
  | startContent (sessionId : UInt32) (parentZoneId : UInt32) (areaName : Text)
      (directorActorId : UInt32)
  | endContent (sessionId : UInt32)

/-- No map gives an order that is not one of its keys. -/
def World.step (catalog : Catalog) (w : World) : Op → Option World
  | .boot zoneId => some (spawnZone catalog zoneId w)
  | .spawn _ order reads spawn =>
      if order.Perm w.sessions.entries.keys then
        some (applyCommand catalog order reads w spawn.bind.1).1
      else none
  | .despawn actorId => some (w.applyDespawnActor actorId)
  | .die actorId => some (w.die actorId)
  | .respawn actorId => some (w.respawn actorId)
  | .startContent sessionId parentZoneId areaName directorActorId =>
      some (w.setContent sessionId (some ⟨parentZoneId, areaName, directorActorId, []⟩))
  | .endContent sessionId => some (w.setContent sessionId none)

end Garlemald.Npc
