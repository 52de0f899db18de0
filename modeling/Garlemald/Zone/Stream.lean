import Garlemald.Zone.Location
import Mathlib.Data.Finset.Basic
import Mathlib.Data.Finset.Lattice.Lemmas

/-!
The actors that a client has been shown, and the list that a session keeps of them. A zone-in
bundle resets the list, an update while the player walks makes it grow, and the removal of an
actor is told to the clients near it.
-/

namespace Garlemald.Zone

open Library Common

def INSTANCE_STREAM_RADIUS : ℚ := 50
def CONTENT_ACTOR_BAND_BIT : UInt32 := 0x40000
def WORLD_MASTER_ACTOR_ID : UInt32 := 0x5FF80001
def DEBUG_ACTOR_ID : UInt32 := 0x5FF80002

def AreaCore.actorsAroundPoint (core : AreaCore) (checked : Bool) (x z checkDistance : ℚ) :
    Option (List StoredActor) :=
  let cell := posToGrid x z
  core.collectActorsInCells checked cell.1 cell.2 (radiusCells checkDistance) none

def ActorKind.isPopulace : ActorKind → Bool
  | .npc | .battleNpc | .ally => true
  | _ => false

def inContentBand (actorId : UInt32) : Bool := actorId &&& CONTENT_ACTOR_BAND_BIT != 0

/-- How the client is cleared around a zone-in bundle: not at all, by the list of what is kept at
its end, or as a whole before it. -/
inductive ZoneIn where
  | login
  | warp
  | reload
deriving DecidableEq

/-- A session and its client. Of the client, the populace that it was sent and not told to remove,
and whether some actor was sent to it twice without a removal between. -/
structure Stream where
  whereabouts : Whereabouts
  registry : Map.ActorRegistry
  others : UInt32 → Option Session
  clients : UInt32 → Bool
  contentWarpAcked : Bool
  destinationSpawnType : UInt8
  loginDirector : Option UInt32
  contentDirector : Option UInt32
  actorInstanceList : Finset UInt32
  shown : Finset UInt32
  twice : Bool

inductive StreamOp where
  | location (op : LocationOp)
  | sendZoneInBundle (recipe : ZoneIn) (position : Vector3 ℚ)
  | sendInstanceUpdate
  | spawnActor (zoneId : UInt32) (actor : StoredActor) (handle : Map.ActorHandle)
  | moveActor (zoneId : UInt32) (place : Place) (actorId : UInt32) (position : Vector3 ℚ)
  | applyDespawnActor (actorId : UInt32)
  | session (contentWarpAcked : Bool) (destinationSpawnType : UInt8)
      (loginDirector contentDirector : Option UInt32)
  | client (sessionId : UInt32) (connected : Bool)
  | sessionBegin (session : PlayerSession)

def handleRemoved (registry : Map.ActorRegistry) (handle : Map.ActorHandle) :
    Map.ActorRegistry where
  actors := Function.update registry.actors handle.actorId none
  sessionIndex :=
    if handle.sessionId ≠ 0 then Function.update registry.sessionIndex handle.sessionId none
    else registry.sessionIndex

namespace Stream

variable (atlas : Atlas) (checked : Bool) (sessionId : UInt32) (s : Stream)

def inContentInstance : Bool :=
  s.whereabouts.session.activeContentZoneId = some s.whereabouts.session.currentZoneId

def registered (actorId : UInt32) : Bool := (s.registry.actors actorId).isSome

/-- The populace near a position in the zones on the other side of a boundary. -/
def partnerZoneActorsAround (position : Vector3 ℚ) : List StoredActor :=
  let zoneId := s.whereabouts.session.currentZoneId
  (atlas.seamlessPartnerZones (atlas.regionId zoneId) zoneId).eraseDups.flatMap fun partnerId =>
    match s.whereabouts.zones partnerId with
    | none => []
    | some partner =>
        ((partner.core.val.actorsAroundPoint checked position.x position.z
          INSTANCE_STREAM_RADIUS).getD []).filter (·.kind.isPopulace)

/-- Inside a content instance only its own actors are kept, and players. -/
def keepsInInstance (a : StoredActor) : Bool :=
  !s.inContentInstance || a.kind == .player ||
    inContentBand a.actorId && (s.destinationSpawnType != 0x16 || s.contentWarpAcked)

def neighbours (actorId : UInt32) (zone : Zone) (position : Vector3 ℚ) : List StoredActor :=
  let session := s.whereabouts.session
  let own :=
    match session.place.bind zone.privateAreas with
    | some core => (core.val.actors.entries.map (·.2)).filter (·.actorId != actorId)
    | none =>
        ((zone.core.val.actorsAround checked actorId INSTANCE_STREAM_RADIUS).getD []).filter
          fun a => a.actorId != actorId && s.keepsInInstance a
  own ++
    if session.currentPrivateAreaName.isNone && !s.inContentInstance then
      s.partnerZoneActorsAround atlas checked position
    else []

def spawnedNpcIds (actorId : UInt32) (zone : Zone) (position : Vector3 ℚ) : List UInt32 :=
  (((s.neighbours atlas checked actorId zone position).filter (·.kind.isPopulace)).map
    (·.actorId)).filter s.registered

/-- What the commit at the end of a bundle does not remove, beside the populace of the bundle. -/
def masters (actorId : UInt32) (zone : Zone) : List UInt32 :=
  [actorId, DEBUG_ACTOR_ID, WORLD_MASTER_ACTOR_ID, zone.core.val.actorId] ++
    s.loginDirector.toList ++ s.contentDirector.toList

def addActor (actorId : UInt32) : Stream :=
  { s with
    shown := insert actorId s.shown
    twice := s.twice || actorId ∈ s.shown }

/-- The actor of the session and its zone, where the client is there to be sent a bundle. -/
def viewer : Option (Map.ActorHandle × Zone) :=
  if s.clients sessionId then do
    let handle ← s.registry.bySession sessionId
    let zone ← s.whereabouts.zones s.whereabouts.session.currentZoneId
    some (handle, zone)
  else none

def sendZoneInBundle (recipe : ZoneIn) (position : Vector3 ℚ) : Stream :=
  let wiped :=
    if recipe = .reload ∧ s.clients sessionId = true then { s with shown := ∅ } else s
  match s.viewer sessionId with
  | none => wiped
  | some (handle, zone) =>
      let spawned := s.spawnedNpcIds atlas checked handle.actorId zone position
      let added := spawned.foldl addActor wiped
      let keep := s.masters handle.actorId zone ++ spawned
      { added with
        actorInstanceList := spawned.toFinset
        shown := if recipe = .warp then added.shown.filter (· ∈ keep) else added.shown }

/-- An update is held back in private areas, and in a content instance until the client has loaded
it. -/
def streams : Bool :=
  s.whereabouts.session.currentPrivateAreaName.isNone &&
    !(s.inContentInstance && !s.contentWarpAcked)

/-- The populace near the player that is not in the list. -/
def streamList (actorId : UInt32) (zone : Zone) : List UInt32 :=
  let own :=
    ((zone.core.val.actorsAround checked actorId INSTANCE_STREAM_RADIUS).getD []).filter fun a =>
      a.actorId != actorId && a.kind.isPopulace &&
        (!s.inContentInstance || inContentBand a.actorId)
  let partners :=
    if s.inContentInstance then []
    else
      match zone.core.val.actors.lookup actorId with
      | none => []
      | some row => s.partnerZoneActorsAround atlas checked row.position
  ((own ++ partners).map (·.actorId)).filter fun id => id ∉ s.actorInstanceList

def sendInstanceUpdate : Stream :=
  match s.viewer sessionId with
  | none => s
  | some (handle, zone) =>
      if s.streams then
        let added := (s.streamList atlas checked handle.actorId zone).filter s.registered
        { added.foldl addActor s with
          actorInstanceList := s.actorInstanceList ∪ added.toFinset }
      else s

def world : World where
  sessions := Function.update s.others sessionId (some s.whereabouts.session.toSession)
  clients := s.clients

def told (actorId : UInt32) (zone : Zone) : Bool :=
  sessionId ∈ (recipients (s.world sessionId) s.registry checked zone actorId).getD []

def applyDespawnActor (actorId : UInt32) : Stream :=
  match s.registry.actors actorId with
  | none => s
  | some handle =>
      match s.whereabouts.zones handle.zoneId with
      | none => s
      | some zone =>
          { s with
            registry := handleRemoved s.registry handle
            whereabouts := s.whereabouts.editArea handle.zoneId none fun core =>
              (core.removeActor actorId).1
            shown :=
              if s.told checked sessionId actorId zone then s.shown.erase actorId else s.shown }

def spawnActor (zoneId : UInt32) (actor : StoredActor) (handle : Map.ActorHandle) : Stream :=
  match s.whereabouts.zones zoneId with
  | none => s
  | some _ =>
      { s with
        registry := s.registry.insert handle
        whereabouts := s.whereabouts.editArea zoneId none (·.addActor actor) }

def step : StreamOp → Stream
  | .location op => { s with whereabouts := s.whereabouts.step atlas op }
  | .sendZoneInBundle recipe position => s.sendZoneInBundle atlas checked sessionId recipe position
  | .sendInstanceUpdate => s.sendInstanceUpdate atlas checked sessionId
  | .spawnActor zoneId actor handle => s.spawnActor zoneId actor handle
  | .moveActor zoneId place actorId position =>
      { s with
        whereabouts :=
          s.whereabouts.editArea zoneId place (·.updateActorPosition actorId position) }
  | .applyDespawnActor actorId => s.applyDespawnActor checked sessionId actorId
  | .session acked spawnType login content =>
      { s with
        contentWarpAcked := acked
        destinationSpawnType := spawnType
        loginDirector := login
        contentDirector := content }
  | .client id connected => { s with clients := Function.update s.clients id connected }
  | .sessionBegin session =>
      { s with
        whereabouts := { s.whereabouts with session := session }
        clients := Function.update s.clients sessionId true
        contentWarpAcked := false
        destinationSpawnType := 0
        loginDirector := none
        contentDirector := none
        actorInstanceList := ∅
        shown := ∅ }

/-- The list is what the client has, and nothing was sent twice. -/
structure Mirrored : Prop where
  list : s.actorInstanceList = s.shown
  once : s.twice = false

/-- The registered populace within the radius of the player, in its zone and the zones across a
boundary; in a content instance, the actors of the instance. -/
def Eligible (actorId : UInt32) (zone : Zone) (a : StoredActor) : Prop :=
  s.registered a.actorId = true ∧ a.kind.isPopulace = true ∧
    ∃ row, zone.core.val.actors.lookup actorId = some row ∧
      |a.position.x - row.position.x| ≤ INSTANCE_STREAM_RADIUS ∧
      |a.position.z - row.position.z| ≤ INSTANCE_STREAM_RADIUS ∧
      ((a.actorId ≠ actorId ∧ zone.core.val.actors.lookup a.actorId = some a ∧
          (s.inContentInstance = true → inContentBand a.actorId = true)) ∨
        s.inContentInstance = false ∧
          ∃ partnerId ∈ atlas.seamlessPartnerZones
              (atlas.regionId s.whereabouts.session.currentZoneId)
              s.whereabouts.session.currentZoneId,
            ∃ partner, s.whereabouts.zones partnerId = some partner ∧
              partner.core.val.actors.lookup a.actorId = some a)

/-- After an update that is not held back nothing that is eligible is missing. -/
def NoneMissing : StreamOp → Prop
  | .sendInstanceUpdate => s.streams = true →
      ∀ handle zone, s.viewer sessionId = some (handle, zone) →
        ∀ a, s.Eligible atlas handle.actorId zone a →
          a.actorId ∈ (s.sendInstanceUpdate atlas checked sessionId).shown
  | _ => True

/-- The condition on an event. -/
def Fits : StreamOp → Prop
  | .sendZoneInBundle recipe position =>
      match s.viewer sessionId with
      | none => recipe = .reload → s.clients sessionId = true → s.shown = ∅
      | some (handle, zone) =>
          let spawned := s.spawnedNpcIds atlas checked handle.actorId zone position
          spawned.Nodup ∧
            match recipe with
            | .login => s.shown = ∅
            | .warp => ∀ id ∈ s.shown, id ∉ s.masters handle.actorId zone ++ spawned
            | .reload => True
  | .sendInstanceUpdate => s.streams = true →
      ∀ handle zone, s.viewer sessionId = some (handle, zone) →
        ((s.streamList atlas checked handle.actorId zone).filter s.registered).Nodup
  | .applyDespawnActor actorId => ∀ handle zone, s.registry.actors actorId = some handle →
      s.whereabouts.zones handle.zoneId = some zone →
        s.told checked sessionId actorId zone = true → actorId ∉ s.shown
  | _ => True

variable {atlas : Atlas} {checked : Bool} {sessionId : UInt32} {s : Stream}

end Stream

theorem AreaCore.fits_stream {c : Cell} (within : AreaCore.InBounds c) :
    AreaCore.Fits c.1 c.2 (AreaCore.radiusCells INSTANCE_STREAM_RADIUS) := by
  have one : AreaCore.radiusCells INSTANCE_STREAM_RADIUS = 1 := by with_unfolding_all decide
  have blocks : NUM_X_BLOCKS = 200 ∧ NUM_Y_BLOCKS = 200 := by decide
  unfold AreaCore.InBounds at within
  rw [one]
  unfold AreaCore.Fits
  omega

theorem AreaCore.mem_actorsAroundPoint {core : AreaCore} (h : core.Sorted) (checked : Bool)
    {x z : ℚ} {a : StoredActor} (row : core.actors.lookup a.actorId = some a)
    (apart : ¬ (core.isIsolated = true ∧ a.kind = .player))
    (nearX : |a.position.x - x| ≤ INSTANCE_STREAM_RADIUS)
    (nearZ : |a.position.z - z| ≤ INSTANCE_STREAM_RADIUS) :
    a ∈ (core.actorsAroundPoint checked x z INSTANCE_STREAM_RADIUS).getD [] := by
  have nonneg : (0 : ℚ) ≤ INSTANCE_STREAM_RADIUS := by decide
  have within := AreaCore.posToGrid_inBounds x z
  rw [AreaCore.actorsAroundPoint, AreaCore.collect_fits checked within
    (AreaCore.radiusCells_bounds _).1 (AreaCore.fits_stream within), Option.getD_some,
    AreaCore.mem_gather]
  rw [abs_sub_comm] at nearX nearZ
  obtain ⟨cellX, cellZ⟩ := AreaCore.posToGrid_near nonneg nearX nearZ
  rw [← (h.rows _ _ row).2] at cellX cellZ
  have inside := h.inBounds row
  have there : core.placed a.actorId = some a.grid := by rw [AreaCore.placed, row]; rfl
  refine ⟨a.grid, AreaCore.mem_square inside cellX cellZ, a.actorId, ?_, ?_⟩
  · exact (h.mem_cell inside).mpr there
  · exact AreaCore.collected_some.mpr ⟨Option.some_ne_none _, row, apart⟩

theorem AreaCore.mem_actorsAround {core : AreaCore} (h : core.Sorted) (checked : Bool)
    {centerActorId : UInt32} {center : StoredActor}
    (stored : core.actors.lookup centerActorId = some center) {a : StoredActor}
    (wanted : core.Wanted centerActorId center INSTANCE_STREAM_RADIUS a) :
    a ∈ (core.actorsAround checked centerActorId INSTANCE_STREAM_RADIUS).getD [] := by
  have nonneg : (0 : ℚ) ≤ INSTANCE_STREAM_RADIUS := by decide
  have fits := AreaCore.fits_stream (h.inBounds stored)
  obtain ⟨found, query, _, complete⟩ :=
    (AreaCore.findsAll_iff h checked stored nonneg).mpr (.inl fits)
  rw [query, Option.getD_some]
  exact complete a wanted

namespace Stream

variable {atlas : Atlas} {checked : Bool} {sessionId : UInt32} {s : Stream}

theorem shown_foldl (s : Stream) (ids : List UInt32) :
    (ids.foldl addActor s).shown = s.shown ∪ ids.toFinset := by
  induction ids generalizing s with
  | nil => simp
  | cons id ids ih =>
      rw [List.foldl_cons, ih, List.toFinset_cons, Finset.union_insert, addActor,
        Finset.insert_union]

theorem once_foldl (s : Stream) (ids : List UInt32) :
    (ids.foldl addActor s).twice = false ↔
      s.twice = false ∧ ids.Nodup ∧ ∀ id ∈ ids, id ∉ s.shown := by
  induction ids generalizing s with
  | nil => simp
  | cons id ids ih =>
      rw [List.foldl_cons, ih, List.nodup_cons, List.forall_mem_cons]
      simp only [addActor, Bool.or_eq_false_iff, decide_eq_false_iff_not, Finset.mem_insert,
        not_or]
      constructor
      · rintro ⟨⟨once, new⟩, distinct, apart⟩
        refine ⟨once, ⟨fun inside => (apart id inside).1 rfl, distinct⟩, new, ?_⟩
        exact fun other inside => (apart other inside).2
      · rintro ⟨once, ⟨outside, distinct⟩, new, apart⟩
        refine ⟨⟨once, new⟩, distinct, fun other inside => ⟨?_, apart other inside⟩⟩
        rintro rfl
        exact outside inside

theorem Eligible.streamed {actorId : UInt32} {zone : Zone} {a : StoredActor}
    (eligible : s.Eligible atlas actorId zone a) (missing : a.actorId ∉ s.actorInstanceList) :
    a.actorId ∈ s.streamList atlas checked actorId zone := by
  obtain ⟨_, populace, row, stored, nearX, nearZ, place⟩ := eligible
  have noPlayer : a.kind ≠ .player := by
    intro same
    rw [same] at populace
    cases populace
  refine List.mem_filter.mpr ⟨List.mem_map.mpr ⟨a, List.mem_append.mpr ?_, rfl⟩, ?_⟩
  · rcases place with ⟨other, here, band⟩ | ⟨outside, partnerId, across, partner, hosted, there⟩
    · left
      have wanted : zone.core.val.Wanted actorId row INSTANCE_STREAM_RADIUS a :=
        ⟨other, here, fun both => noPlayer both.2, nearX, nearZ⟩
      refine List.mem_filter.mpr ⟨AreaCore.mem_actorsAround zone.core.property checked stored
        wanted, ?_⟩
      simp only [populace, bne_iff_ne.mpr other, Bool.true_and, Bool.or_eq_true,
        Bool.not_eq_true']
      cases inside : s.inContentInstance with
      | false => exact .inl rfl
      | true => exact .inr (band inside)
    · right
      rw [outside, if_neg Bool.false_ne_true, stored]
      refine List.mem_flatMap.mpr ⟨partnerId, List.mem_eraseDups.mpr across, ?_⟩
      rw [hosted]
      refine List.mem_filter.mpr ⟨?_, populace⟩
      exact AreaCore.mem_actorsAroundPoint partner.core.property checked there
        (fun both => noPlayer both.2) nearX nearZ
  · exact decide_eq_true missing

theorem sendInstanceUpdate_eq {handle : Map.ActorHandle} {zone : Zone} (streams : s.streams = true)
    (views : s.viewer sessionId = some (handle, zone)) :
    s.sendInstanceUpdate atlas checked sessionId =
      { ((s.streamList atlas checked handle.actorId zone).filter s.registered).foldl addActor s with
        actorInstanceList := s.actorInstanceList ∪
          ((s.streamList atlas checked handle.actorId zone).filter s.registered).toFinset } := by
  rw [sendInstanceUpdate, views]
  simp only [if_pos streams]

theorem noneMissing (held : s.Mirrored) (op : StreamOp) :
    s.NoneMissing atlas checked sessionId op := by
  cases op
  case sendInstanceUpdate =>
    intro streams handle zone views a eligible
    rw [sendInstanceUpdate_eq streams views]
    change _ ∈ (List.foldl addActor s _).shown
    rw [shown_foldl, Finset.mem_union]
    by_cases listed : a.actorId ∈ s.actorInstanceList
    · exact .inl (held.list ▸ listed)
    · refine .inr (List.mem_toFinset.mpr (List.mem_filter.mpr ⟨?_, eligible.1⟩))
      exact eligible.streamed listed
  all_goals trivial

theorem mirrored_update (held : s.Mirrored) :
    (s.sendInstanceUpdate atlas checked sessionId).Mirrored ↔
      s.Fits atlas checked sessionId .sendInstanceUpdate := by
  cases views : s.viewer sessionId with
  | none =>
      rw [sendInstanceUpdate, views]
      refine iff_of_true held fun _ handle zone seen => ?_
      rw [views] at seen
      cases seen
  | some view =>
      obtain ⟨handle, zone⟩ := view
      cases streams : s.streams with
      | false =>
          rw [sendInstanceUpdate, views]
          simp only [streams, Bool.false_eq_true, if_false]
          refine iff_of_true held fun opens => ?_
          rw [streams] at opens
          cases opens
      | true =>
          have new : ∀ id ∈ (s.streamList atlas checked handle.actorId zone).filter s.registered,
              id ∉ s.shown := by
            intro id inside
            have fresh := List.of_mem_filter (List.mem_filter.mp inside).1
            rw [← held.list]
            exact of_decide_eq_true fresh
          rw [sendInstanceUpdate_eq streams views]
          constructor
          · intro after _ handle' zone' seen
            rw [views] at seen
            cases seen
            exact ((once_foldl s _).mp after.once).2.1
          · intro distinct
            refine ⟨?_, (once_foldl s _).mpr ⟨held.once, distinct streams handle zone views, new⟩⟩
            change _ = (List.foldl addActor s _).shown
            rw [shown_foldl, held.list]

theorem mirrored_despawn (held : s.Mirrored) (actorId : UInt32) :
    (s.applyDespawnActor checked sessionId actorId).Mirrored ↔
      s.Fits atlas checked sessionId (.applyDespawnActor actorId) := by
  unfold applyDespawnActor Fits
  cases found : s.registry.actors actorId with
  | none =>
      refine iff_of_true held fun _ _ same => ?_
      rw [found] at same
      cases same
  | some handle =>
      simp only
      cases hosted : s.whereabouts.zones handle.zoneId with
      | none =>
          refine iff_of_true held fun _ _ same there => ?_
          rw [found] at same
          cases same
          rw [hosted] at there
          cases there
      | some zone =>
          simp only
          constructor
          · intro after handle' zone' same there told
            rw [found] at same
            cases same
            rw [hosted] at there
            cases there
            have list := after.list
            simp only [if_pos told] at list
            rw [held.list] at list
            exact Finset.erase_eq_self.mp list.symm
          · intro fits
            refine ⟨?_, held.once⟩
            simp only
            split
            · rename_i told
              rw [Finset.erase_eq_self.mpr (fits handle zone found hosted told)]
              exact held.list
            · exact held.list

theorem connected_of_viewer {view : Map.ActorHandle × Zone}
    (views : s.viewer sessionId = some view) : s.clients sessionId = true := by
  unfold viewer at views
  split at views
  · assumption
  · cases views

theorem mirrored_unsent (held : s.Mirrored) (recipe : ZoneIn) (position : Vector3 ℚ)
    (views : s.viewer sessionId = none) :
    (s.sendZoneInBundle atlas checked sessionId recipe position).Mirrored ↔
      s.Fits atlas checked sessionId (.sendZoneInBundle recipe position) := by
  unfold sendZoneInBundle Fits
  rw [views]
  simp only
  split
  · rename_i wiped
    constructor
    · intro after _ _
      rw [← held.list]
      exact after.list
    · exact fun empty => ⟨held.list.trans (empty wiped.1 wiped.2), held.once⟩
  · rename_i kept
    exact iff_of_true held fun same connected => absurd ⟨same, connected⟩ kept

theorem mirrored_sent {t : Stream} {spawned : List UInt32} {shown : Finset UInt32}
    (once : t.twice = false)
    (after : shown = t.shown ∪ spawned.toFinset) :
    Mirrored { spawned.foldl addActor t with
        actorInstanceList := spawned.toFinset, shown := shown } ↔
      spawned.Nodup ∧ t.shown = ∅ := by
  constructor
  · intro mirrored
    obtain ⟨_, distinct, apart⟩ := (once_foldl t spawned).mp mirrored.once
    refine ⟨distinct, Finset.eq_empty_of_forall_notMem fun id inside => ?_⟩
    have list : spawned.toFinset = shown := mirrored.list
    rw [after] at list
    have there : id ∈ spawned.toFinset := by
      rw [list]
      exact Finset.mem_union_left _ inside
    exact apart id (List.mem_toFinset.mp there) inside
  · rintro ⟨distinct, empty⟩
    refine ⟨?_, (once_foldl t spawned).mpr ⟨once, distinct, fun id _ inside => ?_⟩⟩
    · rw [after, empty, Finset.empty_union]
    · rw [empty] at inside
      exact absurd inside (Finset.notMem_empty id)

theorem mirrored_committed {spawned masters : List UInt32} (once : s.twice = false) :
    Mirrored { spawned.foldl addActor s with
        actorInstanceList := spawned.toFinset
        shown := (spawned.foldl addActor s).shown.filter (· ∈ masters ++ spawned) } ↔
      spawned.Nodup ∧ ∀ id ∈ s.shown, id ∉ masters ++ spawned := by
  constructor
  · intro mirrored
    obtain ⟨_, distinct, apart⟩ := (once_foldl s spawned).mp mirrored.once
    refine ⟨distinct, fun id inside kept => ?_⟩
    have there : id ∈ spawned.toFinset := by
      have list : spawned.toFinset = _ := mirrored.list
      rw [list, Finset.mem_filter, shown_foldl]
      exact ⟨Finset.mem_union_left _ inside, kept⟩
    exact apart id (List.mem_toFinset.mp there) inside
  · rintro ⟨distinct, cleared⟩
    refine ⟨?_, (once_foldl s spawned).mpr ⟨once, distinct, fun id bundled inside =>
      cleared id inside (List.mem_append_right _ bundled)⟩⟩
    ext id
    simp only [shown_foldl, Finset.mem_filter, Finset.mem_union, List.mem_toFinset,
      List.mem_append]
    constructor
    · exact fun bundled => ⟨.inr bundled, .inr bundled⟩
    · rintro ⟨inside | bundled, kept⟩
      · exact absurd (List.mem_append.mpr kept) (cleared id inside)
      · exact bundled

theorem mirrored_bundle (held : s.Mirrored) (recipe : ZoneIn) (position : Vector3 ℚ) :
    (s.sendZoneInBundle atlas checked sessionId recipe position).Mirrored ↔
      s.Fits atlas checked sessionId (.sendZoneInBundle recipe position) := by
  cases views : s.viewer sessionId with
  | none => exact mirrored_unsent held recipe position views
  | some view =>
      obtain ⟨handle, zone⟩ := view
      have connected := connected_of_viewer views
      unfold sendZoneInBundle Fits
      rw [views]
      cases recipe with
      | login =>
          exact mirrored_sent held.once (shown_foldl s _)
      | warp => exact mirrored_committed held.once
      | reload =>
          simp only [connected, if_true, and_true]
          refine (mirrored_sent (t := { s with shown := ∅ }) held.once (shown_foldl _ _)).trans ?_
          exact and_iff_left rfl

theorem mirrored_step (held : s.Mirrored) (op : StreamOp) :
    (s.step atlas checked sessionId op).Mirrored ↔ s.Fits atlas checked sessionId op := by
  cases op with
  | sendZoneInBundle recipe position => exact mirrored_bundle held recipe position
  | sendInstanceUpdate => exact mirrored_update held
  | applyDespawnActor actorId => exact mirrored_despawn held actorId
  | spawnActor zoneId actor handle =>
      refine iff_of_true ?_ trivial
      rw [step, spawnActor]
      split
      · exact held
      · exact ⟨held.list, held.once⟩
  | sessionBegin session => exact iff_of_true ⟨rfl, held.once⟩ trivial
  | location op => exact iff_of_true ⟨held.list, held.once⟩ trivial
  | moveActor zoneId place actorId position => exact iff_of_true ⟨held.list, held.once⟩ trivial
  | session acked spawnType login content => exact iff_of_true ⟨held.list, held.once⟩ trivial
  | client id connected => exact iff_of_true ⟨held.list, held.once⟩ trivial

/-- The list of a session stays what its client has, with nothing sent twice and nothing missing
after an update, exactly in the runs whose events all meet their condition. -/
theorem instance_list_iff (atlas : Atlas) (checked : Bool) (sessionId : UInt32) {s : Stream}
    (now : s.Mirrored) (ops : List StreamOp) :
    (Always (fun s op => some (s.step atlas checked sessionId op)) Mirrored s ops ∧
      EachStep (fun s op => some (s.step atlas checked sessionId op))
        (NoneMissing atlas checked sessionId) s ops) ↔
      EachStep (fun s op => some (s.step atlas checked sessionId op))
        (Fits atlas checked sessionId) s ops := by
  apply always_and_eachStep_iff (I := fun _ => True) _ (fun _ _ _ _ _ _ _ => trivial) trivial now
  intro s op s' _ held taken
  rw [← Option.some.inj taken, and_iff_left (noneMissing held op)]
  exact mirrored_step held op

def plain : Atlas := ⟨1, fun _ => 101, fun _ => []⟩

def meadow : Zone where
  core := SortedCore.addActor (SortedCore.addActor
    ⟨.new 128 false, AreaCore.empty_sorted _ rfl rfl⟩ AreaCore.player) AreaCore.wolf
  privateAreas := fun _ => none

def wanderer : Stream where
  whereabouts :=
    { zones := fun id => if id = 128 then some meadow else none
      session :=
        { currentPrivateAreaName := none, currentPrivateAreaLevel := 0, currentZoneId := 128 }
      handleZoneId := 128
      characterZoneId := 128
      row := ⟨128, [], 0⟩ }
  registry :=
    { actors := fun id =>
        if id = 1 then some ⟨1, 128, 7⟩ else if id = 2 then some ⟨2, 128, 0⟩ else none
      sessionIndex := fun id => if id = 7 then some 1 else none }
  others := fun _ => none
  clients := fun id => id = 7
  contentWarpAcked := false
  destinationSpawnType := 0
  loginDirector := none
  contentDirector := none
  actorInstanceList := {2}
  shown := {2}
  twice := false

theorem instance_list_lost : wanderer.Mirrored ∧
    ¬ Always (fun s op => some (step plain false 7 s op)) Mirrored wanderer
        [.applyDespawnActor 2, .spawnActor 128 AreaCore.wolf ⟨2, 128, 0⟩, .sendInstanceUpdate] ∧
      ¬ EachStep (fun s op => some (step plain false 7 s op)) (NoneMissing plain false 7) wanderer
        ([.applyDespawnActor 2, .spawnActor 128 AreaCore.wolf ⟨2, 128, 0⟩] ++
          [.sendInstanceUpdate]) := by
  refine ⟨⟨rfl, rfl⟩, fun held => ?_, fun complete => ?_⟩
  · have list := (always_iff_reached.mp held _ List.prefix_rfl _ rfl).list
    revert list
    with_unfolding_all decide
  · have update := complete.reached _ rfl rfl
    refine absurd (update rfl ⟨1, 128, 7⟩ _ rfl AreaCore.wolf ?_) ?_
    · refine ⟨?_, rfl, AreaCore.player, ?_, ?_, ?_, .inl ⟨?_, ?_, ?_⟩⟩
      all_goals with_unfolding_all decide
    · with_unfolding_all decide

theorem instance_list_reload :
    Always (fun s op => some (step plain false 7 s op)) Mirrored wanderer
        [.moveActor 128 none 2 ⟨200, 0, 0⟩, .sendZoneInBundle .reload ⟨0, 0, 0⟩] ∧
      EachStep (fun s op => some (step plain false 7 s op)) (NoneMissing plain false 7) wanderer
        [.moveActor 128 none 2 ⟨200, 0, 0⟩, .sendZoneInBundle .reload ⟨0, 0, 0⟩] := by
  refine (instance_list_iff plain false 7 ⟨rfl, rfl⟩ _).mpr ?_
  rintro _ ⟨⟩
  refine ⟨trivial, ?_⟩
  rintro _ ⟨⟩
  refine ⟨⟨?_, trivial⟩, trivial⟩
  with_unfolding_all decide

end Stream
end Garlemald.Zone
