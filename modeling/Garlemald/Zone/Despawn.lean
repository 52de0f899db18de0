import Garlemald.Common.FastPaths
import Garlemald.Map.Session
import Garlemald.Zone.Nearby

/-!
Broadcasts around an actor, and the one that tells the clients near it that the actor
is gone. That one is made when the actor has left the table, which is where the
broadcast looks for the cell that it is made around.
-/

namespace Garlemald.Zone

open Library Common

def BROADCAST_RADIUS : ℚ := 50

def OP_REMOVE_ACTOR : UInt16 := 0x00CB

/-- A body whose table and grid agree, as every life of an area leaves it. -/
abbrev SortedCore := { core : AreaCore // core.Sorted }

/-- An area of a zone: the zone itself, or the private area of a name and a level. -/
abbrev Place := Option (Text × UInt32)

end Garlemald.Zone

structure Garlemald.Zone where
  core : Garlemald.Zone.SortedCore
  privateAreas : Library.Text × UInt32 → Option Garlemald.Zone.SortedCore

namespace Garlemald.Zone

open Library Common

structure Session where
  currentPrivateAreaName : Option Text
  currentPrivateAreaLevel : UInt32

structure World where
  sessions : UInt32 → Option Session
  clients : UInt32 → Bool

def SortedCore.removeActor (core : SortedCore) (actorId : UInt32) : SortedCore × List AreaEvent :=
  (⟨(core.val.removeActor actorId).1, AreaCore.removeActor_sorted core.property actorId⟩,
    (core.val.removeActor actorId).2.1)

/-- The area that stands for a place: the zone where there is no such private area. -/
def route (zone : Zone) (place : Place) : Place := place.filter fun name =>
  (zone.privateAreas name).isSome

def area (zone : Zone) (place : Place) : SortedCore :=
  (place.bind zone.privateAreas).getD zone.core

def removeActor (zone : Zone) (place : Place) (actorId : UInt32) : Zone × List AreaEvent :=
  let removed := (zone.area place).removeActor actorId
  match zone.route place with
  | none => ({ zone with core := removed.1 }, removed.2)
  | some name =>
      ({ zone with privateAreas := Function.update zone.privateAreas name (some removed.1) },
        removed.2)

variable (world : World) (registry : Map.ActorRegistry) (checked : Bool)

def sourcePrivateArea (sourceActorId : UInt32) : Place := do
  let handle ← registry.actors sourceActorId
  if handle.sessionId = 0 then none
  else
    let session ← world.sessions handle.sessionId
    let name ← session.currentPrivateAreaName
    some (name, session.currentPrivateAreaLevel)

def connected (playerActorId : UInt32) : Option UInt32 := do
  let handle ← registry.actors playerActorId
  if world.clients handle.sessionId then some handle.sessionId else none

/-- The sessions a broadcast goes to; nothing where the build stops at an overflow. -/
def recipients (zone : Zone) (sourceActorId : UInt32) : Option (List UInt32) :=
  if zone.core.val.isIsolated then some []
  else do
    let core := (zone.area (sourcePrivateArea world registry sourceActorId)).val
    let around ← core.actorsAround checked sourceActorId BROADCAST_RADIUS
    let nearby := (around.filter fun a => a.kind == .player).map (·.actorId)
    some (nearby.filterMap (connected world registry))

def broadcastAroundActor (zone : Zone) (sourceActorId : UInt32) (packetBytes : Bytes) :
    Option (List (UInt32 × Bytes)) :=
  (recipients world registry checked zone sourceActorId).map fun sessions =>
    sessions.map fun session => (session, (SubPacket.stampTargetIdIfZero packetBytes session).1)

def buildRemoveActor (now : UInt32) (actorId : UInt32) : SubPacket :=
  .new now OP_REMOVE_ACTOR actorId (u32Bytes actorId ++ zeros 4)

def dispatchActorRemoved (now : UInt32) (zone : Zone) (actorId : UInt32) :
    Option (List (UInt32 × Bytes)) :=
  broadcastAroundActor world registry checked zone actorId (buildRemoveActor now actorId).encoding

def removal (now actorId session : UInt32) : Bytes :=
  ((buildRemoveActor now actorId).setTargetId session).encoding

theorem stamp_removal (now actorId session : UInt32) :
    (SubPacket.stampTargetIdIfZero (buildRemoveActor now actorId).encoding session).1 =
      removal now actorId session := by
  have sized : ∀ p ∈ [buildRemoveActor now actorId], p.Sized := by
    intro p member
    obtain rfl := List.mem_singleton.mp member
    exact SubPacket.newWithFlag_sized (by simp) nofun
  have few := length_le_encodings [buildRemoveActor now actorId] []
  have stamped := stampFrom_encodings session sized [] (.inl (by decide) : Stops []) few 0
  rw [List.flatMap_singleton, List.append_nil, List.nil_append] at stamped
  rw [SubPacket.stampTargetIdIfZero]
  exact (congrArg Prod.fst stamped).trans (by simp [removal]; rfl)

variable {world registry checked}

variable {actorId : UInt32} {zone : Zone}

theorem route_absent {name : Text × UInt32} (absent : zone.privateAreas name = none) :
    zone.route (some name) = none := by
  simp [route, Option.filter, absent]

theorem route_present {name : Text × UInt32} {core : SortedCore}
    (present : zone.privateAreas name = some core) : zone.route (some name) = some name := by
  simp [route, Option.filter, present]

theorem area_route (zone : Zone) (place : Place) :
    zone.area (zone.route place) = zone.area place := by
  cases place with
  | none => rfl
  | some name =>
      cases found : zone.privateAreas name with
      | none =>
          rw [route_absent found]
          simp [area, found]
      | some core => rw [route_present found]

theorem route_route (zone : Zone) (place : Place) :
    zone.route (zone.route place) = zone.route place := by
  cases place with
  | none => rfl
  | some name =>
      cases found : zone.privateAreas name with
      | none =>
          rw [route_absent found]
          rfl
      | some core => rw [route_present found, route_present found]

theorem area_removeActor (zone : Zone) (place other : Place) (actorId : UInt32) :
    (zone.removeActor place actorId).1.area other =
      if zone.route other = zone.route place then ((zone.area place).removeActor actorId).1
      else zone.area other := by
  unfold removeActor
  cases here : zone.route place with
  | none =>
      cases other with
      | none => rfl
      | some name =>
          cases found : zone.privateAreas name with
          | none => simp [route_absent found, area, found]
          | some core => simp [route_present found, area, found]
  | some name =>
      cases other with
      | none => simp [area, route]
      | some name' =>
          by_cases same : name' = name
          · have present : zone.route (some name) = some name := by
              rw [← here, route_route]
            simp [same, present, area]
          · cases found : zone.privateAreas name' with
            | none => simp [route_absent found, area, found, same]
            | some core => simp [route_present found, area, found, same]

theorem events_removeActor (zone : Zone) (place : Place) (actorId : UInt32) :
    (zone.removeActor place actorId).2 = ((zone.area place).val.removeActor actorId).2.1 := by
  unfold removeActor
  cases zone.route place <;> rfl

theorem removeActor_isIsolated (core : AreaCore) (actorId : UInt32) :
    (core.removeActor actorId).1.isIsolated = core.isIsolated := by
  unfold AreaCore.removeActor
  cases core.actors.lookup actorId <;> rfl

theorem lookup_removeActor (core : AreaCore) (actorId : UInt32) :
    (core.removeActor actorId).1.actors.lookup actorId = none := by
  unfold AreaCore.removeActor
  cases found : core.actors.lookup actorId with
  | none => exact found
  | some prev => exact AList.lookup_erase _ _

theorem zone_isIsolated (zone : Zone) (place : Place) (actorId : UInt32) :
    (zone.removeActor place actorId).1.core.val.isIsolated = zone.core.val.isIsolated := by
  unfold removeActor
  cases here : zone.route place with
  | none =>
      have own : zone.area place = zone.core := by
        rw [← area_route, here]
        rfl
      rw [own]
      exact removeActor_isIsolated zone.core.val actorId
  | some name => rfl

theorem recipients_removed {place : Place}
    (same : zone.route (sourcePrivateArea world registry actorId) = zone.route place) :
    recipients world registry checked (zone.removeActor place actorId).1 actorId = some [] := by
  unfold recipients
  split
  · rfl
  · rw [area_removeActor, if_pos same]
    have gone := lookup_removeActor (zone.area place).val actorId
    simp only [SortedCore.removeActor, AreaCore.actorsAround, gone]
    rfl

theorem recipients_elsewhere {place : Place}
    (other : zone.route (sourcePrivateArea world registry actorId) ≠ zone.route place) :
    recipients world registry checked (zone.removeActor place actorId).1 actorId =
      recipients world registry checked zone actorId := by
  unfold recipients
  rw [zone_isIsolated, area_removeActor, if_neg other]

/-- A session whose player stands near an actor: another player of the area with a client,
in a cell next to the actor's or in the same. -/
def Watches (world : World) (registry : Map.ActorRegistry) (core : AreaCore)
    (prev : StoredActor) (actorId session : UInt32) : Prop :=
  core.isIsolated = false ∧ ∃ a, core.actors.lookup a.actorId = some a ∧ a.actorId ≠ actorId ∧
    a.kind = .player ∧ (|prev.grid.1 - a.grid.1| ≤ 1 ∧ |prev.grid.2 - a.grid.2| ≤ 1) ∧
      connected world registry a.actorId = some session

theorem actorsAround_broadcast (checked : Bool) {core : AreaCore} (sorted : core.Sorted)
    {prev : StoredActor} (stored : core.actors.lookup actorId = some prev) :
    core.actorsAround checked actorId BROADCAST_RADIUS =
      some (core.gather (some actorId) (AreaCore.square prev.grid.1 prev.grid.2 1)) := by
  have within := sorted.inBounds stored
  have one : AreaCore.radiusCells BROADCAST_RADIUS = 1 := by with_unfolding_all decide
  have fits : AreaCore.Fits prev.grid.1 prev.grid.2 1 := by
    have blocks : NUM_X_BLOCKS = 200 ∧ NUM_Y_BLOCKS = 200 := by decide
    unfold AreaCore.InBounds at within
    unfold AreaCore.Fits
    omega
  rw [AreaCore.actorsAround, stored, one]
  exact AreaCore.collect_fits checked within (by decide) fits (some actorId)

theorem mem_around {core : AreaCore} (sorted : core.Sorted) {prev a : StoredActor} :
    a ∈ core.gather (some actorId) (AreaCore.square prev.grid.1 prev.grid.2 1) ↔
      core.actors.lookup a.actorId = some a ∧ a.actorId ≠ actorId ∧
        ¬ (core.isIsolated = true ∧ a.kind = .player) ∧
          |prev.grid.1 - a.grid.1| ≤ 1 ∧ |prev.grid.2 - a.grid.2| ≤ 1 := by
  rw [AreaCore.mem_gather]
  constructor
  · rintro ⟨c, near, id, inside, found⟩
    obtain ⟨other, row, apart⟩ := AreaCore.collected_some.mp found
    obtain ⟨rfl, _⟩ := sorted.rows id a row
    have there := (sorted.mem_cell (AreaCore.square_inBounds near)).mp inside
    rw [AreaCore.placed, row] at there
    have grid : a.grid = c := Option.some.inj there
    subst grid
    have square := AreaCore.mem_cellsBetween.mp near
    refine ⟨row, fun same => other (congrArg some same), apart, ?_⟩
    rw [abs_le, abs_le]
    omega
  · rintro ⟨row, other, apart, nearX, nearY⟩
    have within := sorted.inBounds row
    have there : core.placed a.actorId = some a.grid := by rw [AreaCore.placed, row]; rfl
    refine ⟨a.grid, AreaCore.mem_square within nearX nearY, a.actorId, ?_, ?_⟩
    · exact (sorted.mem_cell within).mpr there
    · exact AreaCore.collected_some.mpr ⟨fun same => other (Option.some.inj same), row, apart⟩

variable (checked) in
theorem mem_recipients (listed : zone.core.val.isIsolated = false) {prev : StoredActor}
    {core : SortedCore} (routed : zone.area (sourcePrivateArea world registry actorId) = core)
    (stored : core.val.actors.lookup actorId = some prev) :
    ∃ before, recipients world registry checked zone actorId = some before ∧
      ∀ session, session ∈ before ↔ Watches world registry core.val prev actorId session := by
  refine ⟨(((core.val.gather (some actorId) (AreaCore.square prev.grid.1 prev.grid.2 1)).filter
    fun a => a.kind == .player).map (·.actorId)).filterMap (connected world registry), ?_, ?_⟩
  · unfold recipients
    simp only [listed, routed, actorsAround_broadcast checked core.property stored]
    rfl
  · intro session
    simp only [List.mem_filterMap, List.mem_map, List.mem_filter, mem_around core.property,
      beq_iff_eq]
    constructor
    · rintro ⟨id, ⟨a, ⟨⟨row, other, apart, near⟩, player⟩, rfl⟩, session⟩
      refine ⟨?_, a, row, other, player, near, session⟩
      exact Bool.eq_false_iff.mpr fun isolated => apart ⟨isolated, player⟩
    · rintro ⟨together, a, row, other, player, near, session⟩
      refine ⟨a.actorId, ⟨a, ⟨⟨row, other, ?_, near⟩, player⟩, rfl⟩, session⟩
      rw [together]
      exact fun isolated => nomatch isolated.1

/-- The packet that says that an actor is gone goes to everybody whom a broadcast of the
actor reached before it was removed. -/
def DespawnSeen (world : World) (registry : Map.ActorRegistry) (checked : Bool) (now : UInt32)
    (zone : Zone) (place : Place) (actorId : UInt32) : Prop :=
  (zone.removeActor place actorId).2 =
      [.actorRemoved (zone.area place).val.actorId actorId] ∧
    ∀ before, recipients world registry checked zone actorId = some before →
      ∃ sent, dispatchActorRemoved world registry checked now (zone.removeActor place actorId).1
          actorId = some sent ∧
        ∀ session ∈ before, (session, removal now actorId session) ∈ sent

/-- An actor is seen to be gone exactly where there was nobody to see it: in an isolated
zone, when its broadcasts are made in another area, or when no other player with a client
stands near. -/
theorem despawnSeen_iff (now : UInt32) {zone : Zone} {place : Place} {actorId : UInt32}
    {prev : StoredActor} (stored : (zone.area place).val.actors.lookup actorId = some prev) :
    DespawnSeen world registry checked now zone place actorId ↔
      zone.core.val.isIsolated = true ∨
        zone.route (sourcePrivateArea world registry actorId) ≠ zone.route place ∨
          ∀ session, ¬ Watches world registry (zone.area place).val prev actorId session := by
  have event : (zone.removeActor place actorId).2 =
      [.actorRemoved (zone.area place).val.actorId actorId] := by
    rw [events_removeActor, AreaCore.removeActor, stored]
  by_cases isolated : zone.core.val.isIsolated = true
  · refine iff_of_true ⟨event, fun before reached => ?_⟩ (.inl isolated)
    refine ⟨[], ?_, fun session member => ?_⟩
    · rw [dispatchActorRemoved, broadcastAroundActor, recipients, zone_isIsolated, if_pos isolated]
      rfl
    · rw [recipients, if_pos isolated] at reached
      rw [← Option.some.inj reached] at member
      cases member
  by_cases same : zone.route (sourcePrivateArea world registry actorId) = zone.route place
  · -- The broadcast is made around an actor that its own area no longer knows.
    have routed : zone.area (sourcePrivateArea world registry actorId) = zone.area place := by
      rw [← area_route, same, area_route]
    obtain ⟨before, reached, watching⟩ := mem_recipients checked
      (Bool.eq_false_iff.mpr isolated) routed stored
    have silent : dispatchActorRemoved world registry checked now
        (zone.removeActor place actorId).1 actorId = some [] := by
      rw [dispatchActorRemoved, broadcastAroundActor, recipients_removed same]
      rfl
    constructor
    · rintro ⟨_, told⟩
      refine .inr (.inr fun session watches => ?_)
      obtain ⟨sent, dispatched, all⟩ := told before reached
      have heard := all session ((watching session).mpr watches)
      rw [Option.some.inj (silent.symm.trans dispatched).symm] at heard
      cases heard
    · rintro (zoneIsolated | elsewhere | nobody)
      · exact absurd zoneIsolated isolated
      · exact absurd same elsewhere
      · refine ⟨event, fun before' reached' => ⟨[], silent, fun session member => ?_⟩⟩
        rw [Option.some.inj (reached'.symm.trans reached)] at member
        exact absurd ((watching session).mp member) (nobody session)
  · refine iff_of_true ⟨event, fun before reached => ?_⟩ (.inr (.inl same))
    have dispatched : dispatchActorRemoved world registry checked now
        (zone.removeActor place actorId).1 actorId =
          some (before.map fun session => (session, removal now actorId session)) := by
      rw [dispatchActorRemoved, broadcastAroundActor, recipients_elsewhere same, reached]
      simp only [stamp_removal, Option.map_some]
    exact ⟨_, dispatched, fun session member => List.mem_map.mpr ⟨session, member, rfl⟩⟩

def grove : Zone where
  core := ⟨AreaCore.twoActors, AreaCore.addActor_sorted
    (AreaCore.addActor_sorted (AreaCore.empty_sorted _ rfl rfl) _) _⟩
  privateAreas := fun _ => none

def online (client : Bool) : World := ⟨fun _ => none, fun session => client && session == 1⟩

def onePlayer : Map.ActorRegistry where
  actors := Function.update (fun _ => none) 1 (some ⟨1, 100, 1⟩)

theorem wolf_unwatched : (grove.area none).val.actors.lookup 2 = some AreaCore.wolf ∧
    DespawnSeen (online false) onePlayer true 0 grove none 2 := by
  have stored : (grove.area none).val.actors.lookup 2 = some AreaCore.wolf := by decide
  refine ⟨stored, (despawnSeen_iff 0 stored).mpr ?_⟩
  refine .inr (.inr ?_)
  rintro session ⟨_, a, _, _, _, _, client⟩
  unfold connected at client
  cases found : onePlayer.actors a.actorId with
  | none =>
      rw [found] at client
      cases client
  | some handle =>
      rw [found] at client
      cases client

/-- The player next to the wolf is not told that it is gone. -/
theorem wolf_lingers : (grove.area none).val.actors.lookup 2 = some AreaCore.wolf ∧
    ¬ DespawnSeen (online true) onePlayer true 0 grove none 2 := by
  refine ⟨by decide, ?_⟩
  rintro ⟨_, told⟩
  have reached : recipients (online true) onePlayer true grove 2 = some [1] := by
    with_unfolding_all decide
  have silent : recipients (online true) onePlayer true (grove.removeActor none 2).1 2 =
      some [] := by decide
  obtain ⟨sent, dispatched, all⟩ := told [1] reached
  rw [dispatchActorRemoved, broadcastAroundActor, silent] at dispatched
  have heard := all 1 (List.mem_singleton_self 1)
  rw [← Option.some.inj dispatched] at heard
  cases heard

end Garlemald.Zone
