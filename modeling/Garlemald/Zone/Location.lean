import Garlemald.Library.Runs
import Garlemald.Zone.Despawn

/-!
Where a player is. The areas of the zones, the session, the handle in the registry, the character
and its stored row all say so, and each way of moving the player writes some of them: a warp, a
change of zone, a walk over a seamless boundary and a walk into the strip in which two zones are
merged.
-/

namespace Garlemald.Zone

open Library Common

structure Box where
  x1 : ℚ
  y1 : ℚ
  x2 : ℚ
  y2 : ℚ

def checkPosInBounds (x y : ℚ) (box : Box) : Bool :=
  ((box.x1 < x && x < box.x2) || (box.x1 > x && x > box.x2)) &&
    ((box.y1 < y && y < box.y2) || (box.y1 > y && y > box.y2))

structure SeamlessBoundary where
  zoneId1 : UInt32
  zoneId2 : UInt32
  zone1 : Box
  zone2 : Box
  merge : Box

inductive SeamlessResult where
  | none
  | insideZoneOne
  | insideZoneTwo
  | zoneChanged (zoneId : UInt32)
  | zoneMerged (zoneId : UInt32)
deriving DecidableEq

/-- What a session says about where its player is and which changes of it are held back. -/
structure PlayerSession extends Session where
  currentZoneId : UInt32
  mergedZoneId : Option UInt32 := none
  deferWarpsUntilZoneInAck : Bool := false
  reloadInFlight : Bool := false
  pendingZoneIn : Bool := false
  activeContentZoneId : Option UInt32 := none

def Session.place (s : Session) : Place :=
  s.currentPrivateAreaName.map fun name => (name, s.currentPrivateAreaLevel)

def PlayerSession.enter (s : PlayerSession) (zoneId : UInt32) (place : Place) : PlayerSession :=
  { s with
    currentZoneId := zoneId
    currentPrivateAreaName := place.map Prod.fst
    currentPrivateAreaLevel := (place.map Prod.snd).getD 0 }

/-- The columns of a character that say where it is; an empty name is no private area. -/
structure StoredPlace where
  currentZoneId : UInt32
  currentPrivateArea : Text
  currentPrivateAreaType : UInt32
deriving DecidableEq

def StoredPlace.place (row : StoredPlace) : Place :=
  if row.currentPrivateArea = [] then none
  else some (row.currentPrivateArea, row.currentPrivateAreaType)

/-- The zones that the server hosts and what is known of one player with a session. -/
structure Whereabouts where
  zones : UInt32 → Option Zone
  session : PlayerSession
  handleZoneId : UInt32
  characterZoneId : UInt32
  row : StoredPlace

def find (zone : Zone) : Place → Option SortedCore
  | none => some zone.core
  | some name => zone.privateAreas name

def edit (zone : Zone) (f : SortedCore → SortedCore) : Place → Zone
  | none => { zone with core := f zone.core }
  | some name =>
      { zone with
        privateAreas :=
          Function.update zone.privateAreas name ((zone.privateAreas name).map f) }

/-- A player as it is put into an area. -/
def playerActor (actorId : UInt32) (position : Vector3 ℚ) : StoredActor where
  actorId := actorId
  kind := .player
  position := position
  grid := (0, 0)
  isAlive := true

def SortedCore.addActor (core : SortedCore) (given : StoredActor) : SortedCore :=
  ⟨(core.val.addActor given).1, AreaCore.addActor_sorted core.property given⟩

def SortedCore.updateActorPosition (core : SortedCore) (actorId : UInt32)
    (position : Vector3 ℚ) : SortedCore :=
  ⟨(core.val.updateActorPosition actorId position).1,
    AreaCore.updateActorPosition_sorted core.property actorId position⟩

/-- The actor of the player, the regions of the zones and the boundaries in each region. -/
structure Atlas where
  actorId : UInt32
  regionId : UInt32 → UInt32
  boundaries : UInt32 → List SeamlessBoundary

/-- The zones on the other side of a boundary of a zone. -/
def Atlas.seamlessPartnerZones (atlas : Atlas) (region zoneId : UInt32) : List UInt32 :=
  (atlas.boundaries region).filterMap fun b =>
    let partner := if b.zoneId1 = zoneId then b.zoneId2 else b.zoneId1
    if (b.zoneId1 = zoneId ∨ b.zoneId2 = zoneId) ∧ partner ≠ zoneId then some partner else none

namespace Whereabouts

variable (atlas : Atlas) (w : Whereabouts)

def editArea (zoneId : UInt32) (place : Place) (f : SortedCore → SortedCore) : Whereabouts :=
  { w with
    zones := Function.update w.zones zoneId ((w.zones zoneId).map fun zone => zone.edit f place) }

/-- `remove_actor` in an area, if there is one. -/
def detach (zoneId : UInt32) (place : Place) : Whereabouts :=
  w.editArea zoneId place fun core => (core.removeActor atlas.actorId).1

def attach (zoneId : UInt32) (place : Place) (position : Vector3 ℚ) : Whereabouts :=
  w.editArea zoneId place fun core => core.addActor (playerActor atlas.actorId position)

/-- The private area that is asked for, where the zone has it. -/
def routed (zoneId : UInt32) (place : Place) : Place :=
  (w.zones zoneId).bind fun zone => zone.route place

def doZoneChangeWithPrivateArea (zoneId : UInt32) (privateAreaName : Option Text)
    (privateAreaLevel : UInt32) (spawn : Vector3 ℚ) : Whereabouts :=
  match w.zones zoneId with
  | none => w
  | some _ =>
      let s := w.session
      let zoneChanged := s.currentZoneId ≠ 0 ∧ s.currentZoneId ≠ zoneId
      let privateAreaChanged := s.currentPrivateAreaName ≠ privateAreaName ∨
        s.currentPrivateAreaLevel ≠ privateAreaLevel
      let left :=
        if zoneChanged then w.detach atlas s.currentZoneId s.place
        else if privateAreaChanged then w.detach atlas zoneId s.place
        else w
      let place := w.routed zoneId (privateAreaName.map (·, privateAreaLevel))
      { left.attach atlas zoneId place spawn with session := s.enter zoneId place }

/-- The regions of the old and the new zone are compared; a zone that is not hosted has another
one as the old and as the new zone. -/
def sameRegion (zoneId : UInt32) : Bool :=
  let region (id default : UInt32) : UInt32 :=
    match w.zones id with
    | none => default
    | some _ => atlas.regionId id
  region w.session.currentZoneId 0 = region zoneId 0xFFFF

/-- The classification of a warp: whether the client has the place loaded already. -/
def usesWipeReloadRecipe (zoneId : UInt32) (privateArea : Option Text) : Bool :=
  let old := w.session
  old.currentZoneId = zoneId ||
    w.sameRegion atlas zoneId && old.currentPrivateAreaName.isNone && privateArea.isNone &&
      (atlas.seamlessPartnerZones (atlas.regionId zoneId) old.currentZoneId).contains zoneId

/-- The warp of a registered player. It is parked while the client is at its first loading, and
the bundle of a warp within a region is held back; without a client nothing is sent. -/
def applyDoZoneChange (zoneId : UInt32) (privateArea : Option Text) (privateAreaType : UInt32)
    (position : Vector3 ℚ) (client : Bool) : Whereabouts :=
  if w.session.deferWarpsUntilZoneInAck then w
  else
    let wipe := w.usesWipeReloadRecipe atlas zoneId privateArea
    let defer := !wipe && client && w.sameRegion atlas zoneId
    let moved := w.doZoneChangeWithPrivateArea atlas zoneId privateArea privateAreaType position
    { moved with
      characterZoneId := zoneId
      handleZoneId := zoneId
      row := ⟨zoneId, privateArea.getD [], privateAreaType⟩
      session :=
        { moved.session with
          reloadInFlight := moved.session.reloadInFlight || wipe
          pendingZoneIn := moved.session.pendingZoneIn || defer } }

def doSeamlessZoneChange (zoneId : UInt32) (position : Vector3 ℚ) : Whereabouts :=
  match w.zones zoneId with
  | none => w
  | some _ =>
      let moved := (w.detach atlas w.session.currentZoneId none).attach atlas zoneId none position
      { moved with session := { w.session with currentZoneId := zoneId, mergedZoneId := none } }

def mergeZones (zoneId : UInt32) (position : Vector3 ℚ) : Whereabouts :=
  match w.zones zoneId with
  | none => w
  | some _ =>
      { w.attach atlas zoneId none position with
        session := { w.session with mergedZoneId := some zoneId } }

def dropMerge : Whereabouts :=
  { w with session := { w.session with mergedZoneId := none } }

/-- The loop over the boundaries of a region; the first box around the position decides. -/
def seamlessLoop (position : Vector3 ℚ) : List SeamlessBoundary → SeamlessResult × Whereabouts
  | [] => (.none, w)
  | b :: rest =>
      if checkPosInBounds position.x position.z b.zone1 then
        if w.session.currentZoneId = b.zoneId1 then (.insideZoneOne, w.dropMerge)
        else (.zoneChanged b.zoneId1, w.doSeamlessZoneChange atlas b.zoneId1 position)
      else if checkPosInBounds position.x position.z b.zone2 then
        if w.session.currentZoneId = b.zoneId2 then (.insideZoneTwo, w.dropMerge)
        else (.zoneChanged b.zoneId2, w.doSeamlessZoneChange atlas b.zoneId2 position)
      else if checkPosInBounds position.x position.z b.merge then
        let merged := if w.session.currentZoneId = b.zoneId1 then b.zoneId2 else b.zoneId1
        if w.session.mergedZoneId = some merged then (.zoneMerged merged, w)
        else (.zoneMerged merged, w.mergeZones atlas merged position)
      else seamlessLoop position rest

def seamlessCheck (position : Vector3 ℚ) : SeamlessResult × Whereabouts :=
  match w.zones w.session.currentZoneId with
  | none => (.none, w)
  | some _ =>
      w.seamlessLoop atlas position (atlas.boundaries (atlas.regionId w.session.currentZoneId))

/-- The area that holds the player gets the position, and the merged zone beside the zone. -/
def updateActorPosition (position : Vector3 ℚ) : Whereabouts :=
  let s := w.session
  let move := fun core : SortedCore => core.updateActorPosition atlas.actorId position
  match w.routed s.currentZoneId s.place with
  | some name => w.editArea s.currentZoneId (some name) move
  | none =>
      let moved := w.editArea s.currentZoneId none move
      match s.mergedZoneId with
      | none => moved
      | some merged =>
          if merged = s.currentZoneId then moved else moved.editArea merged none move

def followed : SeamlessResult × Whereabouts → Whereabouts
  | (.zoneChanged zoneId, moved) =>
      { moved with
        handleZoneId := zoneId
        characterZoneId := zoneId
        row :=
          match moved.session.place with
          | none => ⟨zoneId, [], 0⟩
          | some (name, level) => ⟨zoneId, name, level⟩ }
  | (_, moved) => moved

/-- The part of a position report that is about where the player is. -/
def handleUpdatePosition (position : Vector3 ℚ) : Whereabouts :=
  if w.session.pendingZoneIn || w.session.reloadInFlight then w
  else
    let updated := w.updateActorPosition atlas position
    if w.session.activeContentZoneId = some w.session.currentZoneId then updated
    else followed (updated.seamlessCheck atlas position)

end Whereabouts

/-- What moves the player, and what changes the latches of its session besides. -/
inductive LocationOp where
  | applyDoZoneChange (zoneId : UInt32) (privateArea : Option Text) (privateAreaType : UInt32)
      (position : Vector3 ℚ) (client : Bool)
  | doZoneChange (zoneId : UInt32) (privateAreaName : Option Text) (privateAreaLevel : UInt32)
      (spawn : Vector3 ℚ)
  | updatePosition (position : Vector3 ℚ)
  | latches (defer reload pending : Bool) (content : Option UInt32)

namespace Whereabouts

variable (atlas : Atlas) (w : Whereabouts)

def step : LocationOp → Whereabouts
  | .applyDoZoneChange zoneId privateArea privateAreaType position client =>
      w.applyDoZoneChange atlas zoneId privateArea privateAreaType position client
  | .doZoneChange zoneId name level spawn =>
      w.doZoneChangeWithPrivateArea atlas zoneId name level spawn
  | .updatePosition position => w.handleUpdatePosition atlas position
  | .latches defer reload pending content =>
      { w with
        session :=
          { w.session with
            deferWarpsUntilZoneInAck := defer
            reloadInFlight := reload
            pendingZoneIn := pending
            activeContentZoneId := content } }

/-- Whether the player is in an area, if there is such an area. -/
def projection (zoneId : UInt32) (place : Place) : Option Bool :=
  ((w.zones zoneId).bind fun zone => zone.find place).map fun core =>
    (core.val.actors.lookup atlas.actorId).isSome

/-- The player is in one area, and in the merged zone where there is one, and every record of
where it is names that area. Zone 0 is no zone. -/
structure Consistent : Prop where
  zone : w.session.currentZoneId ≠ 0
  areas : ∀ zoneId place, w.projection atlas zoneId place = some true ↔
    (zoneId = w.session.currentZoneId ∧ place = w.session.place) ∨
      (w.session.mergedZoneId = some zoneId ∧ place = none)
  handle : w.handleZoneId = w.session.currentZoneId
  character : w.characterZoneId = w.session.currentZoneId
  row : w.row.currentZoneId = w.session.currentZoneId ∧ w.row.place = w.session.place

/-- All records of where the player is are the same. -/
structure SameLocation (w w' : Whereabouts) : Prop where
  projection : ∀ zoneId place, w'.projection atlas zoneId place = w.projection atlas zoneId place
  zone : w'.session.currentZoneId = w.session.currentZoneId
  place : w'.session.place = w.session.place
  merged : w'.session.mergedZoneId = w.session.mergedZoneId
  handle : w'.handleZoneId = w.handleZoneId
  character : w'.characterZoneId = w.characterZoneId
  row : w'.row = w.row

/-- What the first box around a position asks for. -/
inductive Crossing where
  | stay
  | home
  | into (zoneId : UInt32)
  | strip (zoneId : UInt32)

def crossing (currentZoneId : UInt32) (position : Vector3 ℚ) : List SeamlessBoundary → Crossing
  | [] => .stay
  | b :: rest =>
      if checkPosInBounds position.x position.z b.zone1 then
        if currentZoneId = b.zoneId1 then .home else .into b.zoneId1
      else if checkPosInBounds position.x position.z b.zone2 then
        if currentZoneId = b.zoneId2 then .home else .into b.zoneId2
      else if checkPosInBounds position.x position.z b.merge then
        .strip (if currentZoneId = b.zoneId1 then b.zoneId2 else b.zoneId1)
      else crossing currentZoneId position rest

def crossingAt (position : Vector3 ℚ) : Crossing :=
  crossing w.session.currentZoneId position
    (atlas.boundaries (atlas.regionId w.session.currentZoneId))

def destination : LocationOp → Option UInt32
  | .applyDoZoneChange zoneId _ _ _ _ => some zoneId
  | .doZoneChange zoneId _ _ _ => some zoneId
  | .updatePosition position =>
      match w.crossingAt atlas position with
      | .into zoneId => some zoneId
      | .strip zoneId => some zoneId
      | .stay => none
      | .home => none
  | .latches .. => none

/-- A change to a zone that is not hosted changes nothing. -/
def RefusesUnhosted (op : LocationOp) : Prop :=
  ∀ zoneId, w.destination atlas op = some zoneId → w.zones zoneId = none →
    SameLocation atlas w (w.step atlas op)

/-- The player is not beside its area in a merged zone. -/
def Single : Prop := ∀ zoneId, w.session.mergedZoneId = some zoneId →
  zoneId = w.session.currentZoneId ∧ w.session.place = none

/-- A change of area does not take the player out of the zone that its session still calls the
merged one. -/
def KeepsMerged (zoneId : UInt32) (place : Place) : Prop :=
  w.session.mergedZoneId = some w.session.currentZoneId → w.session.place = none →
    zoneId = w.session.currentZoneId ∧ place = none

def CrossingFits : Crossing → Prop
  | .stay => True
  | .home => w.Single
  | .into zoneId => (w.zones zoneId).isSome = true ∧ zoneId ≠ 0 ∧ w.session.place = none ∧
      ∀ merged, w.session.mergedZoneId = some merged →
        merged = zoneId ∨ merged = w.session.currentZoneId
  | .strip zoneId => w.session.mergedZoneId = some zoneId ∨ w.zones zoneId = none ∨ w.Single

/-- The condition on an operation. -/
def Fits : LocationOp → Prop
  | .applyDoZoneChange zoneId name level _ _ => w.session.deferWarpsUntilZoneInAck = true ∨
      ((w.zones zoneId).isSome = true ∧ zoneId ≠ 0 ∧
        w.KeepsMerged zoneId (w.routed zoneId (name.map (·, level))) ∧
        StoredPlace.place ⟨zoneId, name.getD [], level⟩ =
          w.routed zoneId (name.map (·, level)))
  | .doZoneChange zoneId name level _ => (w.zones zoneId).isSome = true →
      zoneId = w.session.currentZoneId ∧ w.routed zoneId (name.map (·, level)) = w.session.place
  | .updatePosition position =>
      w.session.pendingZoneIn = true ∨ w.session.reloadInFlight = true ∨
        w.session.activeContentZoneId = some w.session.currentZoneId ∨
        w.CrossingFits (w.crossingAt atlas position)
  | .latches .. => True

end Whereabouts

theorem lookup_addActor (core : AreaCore) (given : StoredActor) :
    ((core.addActor given).1.actors.lookup given.actorId).isSome = true := by
  have stored : ∀ actor, ((core.actors.insert given.actorId actor).lookup
      given.actorId).isSome = true := by
    intro actor
    rw [AList.lookup_insert]
    rfl
  unfold AreaCore.addActor
  cases found : core.actors.lookup given.actorId with
  | none =>
      simp only [found]
      exact stored _
  | some prev =>
      simp only [found]
      split
      · exact stored _
      · exact stored _

theorem lookup_updateActorPosition (core : AreaCore) (actorId : UInt32) (position : Vector3 ℚ) :
    ((core.updateActorPosition actorId position).1.actors.lookup actorId).isSome =
      (core.actors.lookup actorId).isSome := by
  unfold AreaCore.updateActorPosition
  cases found : core.actors.lookup actorId with
  | none => simp only [found]
  | some actor =>
      simp only
      split
      · simp
      · simp [AreaCore.setCell]

theorem find_edit (zone : Zone) (f : SortedCore → SortedCore) (place other : Place) :
    (zone.edit f place).find other =
      if other = place then (zone.find place).map f else zone.find other := by
  cases place with
  | none =>
      cases other with
      | none => rfl
      | some name => rfl
  | some name =>
      cases other with
      | none => rfl
      | some name' =>
          by_cases same : name' = name
          · subst same
            simp [find, edit]
          · simp [find, edit, same]

@[simp] theorem PlayerSession.enter_place (s : PlayerSession) (zoneId : UInt32) (place : Place) :
    (s.enter zoneId place).place = place := by
  cases place with
  | none => rfl
  | some name => rfl

namespace Whereabouts

variable {atlas : Atlas} {w : Whereabouts}

variable {zoneId : UInt32} {place : Place} {position : Vector3 ℚ} {zoneId' : UInt32}
  {w' : Whereabouts}

theorem projection_editArea {f : SortedCore → SortedCore}
    {g : Bool → Bool} (seen : ∀ core : SortedCore,
      ((f core).val.actors.lookup atlas.actorId).isSome =
        g (core.val.actors.lookup atlas.actorId).isSome) (zoneId' : UInt32) (place' : Place) :
    (w.editArea zoneId place f).projection atlas zoneId' place' =
      if zoneId' = zoneId ∧ place' = place then (w.projection atlas zoneId place).map g
      else w.projection atlas zoneId' place' := by
  by_cases here : zoneId' = zoneId
  · subst here
    cases hosted : w.zones zoneId' with
    | none => simp [projection, editArea, hosted]
    | some zone =>
        by_cases same : place' = place
        · subst same
          cases found : zone.find place' with
          | none => simp [projection, editArea, hosted, find_edit, found]
          | some core => simp [projection, editArea, hosted, find_edit, found, seen]
        · simp [projection, editArea, hosted, find_edit, same]
  · simp [projection, editArea, here]

theorem projection_detach (zoneId : UInt32) (place : Place) (zoneId' : UInt32) (place' : Place) :
    (w.detach atlas zoneId place).projection atlas zoneId' place' =
      if zoneId' = zoneId ∧ place' = place then
        (w.projection atlas zoneId place).map fun _ => false
      else w.projection atlas zoneId' place' := by
  apply projection_editArea
  intro core
  simp [SortedCore.removeActor, lookup_removeActor]

theorem projection_attach (zoneId : UInt32) (place : Place) (position : Vector3 ℚ)
    (zoneId' : UInt32) (place' : Place) :
    (w.attach atlas zoneId place position).projection atlas zoneId' place' =
      if zoneId' = zoneId ∧ place' = place then
        (w.projection atlas zoneId place).map fun _ => true
      else w.projection atlas zoneId' place' := by
  apply projection_editArea
  intro core
  exact lookup_addActor core.val (playerActor atlas.actorId position)

theorem present_detach {place' : Place} :
    (w.detach atlas zoneId place).projection atlas zoneId' place' = some true ↔
      w.projection atlas zoneId' place' = some true ∧ ¬ (zoneId' = zoneId ∧ place' = place) := by
  rw [projection_detach]
  by_cases here : zoneId' = zoneId ∧ place' = place
  · simp [here]
  · simp [here]

theorem present_attach (stands : (w.projection atlas zoneId place).isSome = true) {place' : Place} :
    (w.attach atlas zoneId place position).projection atlas zoneId' place' = some true ↔
      (zoneId' = zoneId ∧ place' = place) ∨ w.projection atlas zoneId' place' = some true := by
  obtain ⟨before, found⟩ := Option.isSome_iff_exists.mp stands
  rw [projection_attach, found]
  by_cases here : zoneId' = zoneId ∧ place' = place
  · simp [here]
  · simp [here]

theorem isSome_detach (zoneId : UInt32) (place : Place) (zoneId' : UInt32) (place' : Place) :
    ((w.detach atlas zoneId place).projection atlas zoneId' place').isSome =
      (w.projection atlas zoneId' place').isSome := by
  rw [projection_detach]
  by_cases here : zoneId' = zoneId ∧ place' = place
  · obtain ⟨rfl, rfl⟩ := here
    simp
  · simp [here]

theorem zones_editArea {f : SortedCore → SortedCore} :
    (w.editArea zoneId place f).zones zoneId' = none ↔
      w.zones zoneId' = none := by
  by_cases here : zoneId' = zoneId
  · subst here
    simp [editArea]
  · simp [editArea, here]

theorem isSome_projection_none :
    (w.projection atlas zoneId none).isSome = (w.zones zoneId).isSome := by
  cases hosted : w.zones zoneId with
  | none => simp [projection, hosted]
  | some zone => simp [projection, hosted, find]

theorem isSome_projection_some {zone : Zone} (hosted : w.zones zoneId = some zone)
    (name : Text × UInt32) :
    (w.projection atlas zoneId (some name)).isSome = (zone.privateAreas name).isSome := by
  simp [projection, hosted, find]

variable (atlas) in
theorem routed_stands (hosted : (w.zones zoneId).isSome = true) (place : Place) :
    (w.projection atlas zoneId (w.routed zoneId place)).isSome = true := by
  obtain ⟨zone, found⟩ := Option.isSome_iff_exists.mp hosted
  rw [routed, found, Option.bind_some]
  cases place with
  | none => exact isSome_projection_none.trans hosted
  | some name =>
      cases private_ : zone.privateAreas name with
      | none =>
          rw [route_absent private_]
          exact isSome_projection_none.trans hosted
      | some core =>
          rw [route_present private_, isSome_projection_some found, private_]
          rfl

theorem routed_self (stands : (w.projection atlas zoneId place).isSome = true) :
    w.routed zoneId place = place := by
  cases found : w.zones zoneId with
  | none =>
      rw [projection, found] at stands
      cases stands
  | some zone =>
      rw [routed, found, Option.bind_some]
      cases place with
      | none => rfl
      | some name =>
          rw [isSome_projection_some found] at stands
          obtain ⟨core, present⟩ := Option.isSome_iff_exists.mp stands
          exact route_present present

theorem hosted_of_present (present : w.projection atlas zoneId place = some true) :
    (w.zones zoneId).isSome = true := by
  cases found : w.zones zoneId with
  | none =>
      rw [projection, found] at present
      cases present
  | some zone => rfl

theorem Consistent.inside (held : w.Consistent atlas) :
    w.projection atlas w.session.currentZoneId w.session.place = some true :=
  (held.areas _ _).mpr (.inl ⟨rfl, rfl⟩)

theorem present_zoneChange (held : w.Consistent atlas) (hosted : (w.zones zoneId).isSome = true)
    (name : Option Text) (level : UInt32) (spawn : Vector3 ℚ) (zoneId' : UInt32) (place' : Place) :
    (w.doZoneChangeWithPrivateArea atlas zoneId name level spawn).projection atlas zoneId' place' =
        some true ↔
      (zoneId' = zoneId ∧ place' = w.routed zoneId (name.map (·, level))) ∨
        (w.projection atlas zoneId' place' = some true ∧
          ¬ (zoneId' = w.session.currentZoneId ∧ place' = w.session.place)) := by
  obtain ⟨zone, found⟩ := Option.isSome_iff_exists.mp hosted
  have stands := routed_stands atlas hosted (name.map (·, level))
  unfold doZoneChangeWithPrivateArea
  simp only [found]
  split
  · exact (present_attach ((isSome_detach ..).trans stands)).trans (or_congr_right present_detach)
  · rename_i stays
    have same : zoneId = w.session.currentZoneId := by
      by_contra other
      exact stays ⟨held.zone, fun equal => other equal.symm⟩
    subst same
    split
    · exact (present_attach ((isSome_detach ..).trans stands)).trans (or_congr_right present_detach)
    · rename_i unchanged
      -- The player is put once more where it is.
      obtain ⟨sameName, sameLevel⟩ := not_or.mp unchanged
      have asked : name.map (·, level) = w.session.place := by
        rw [Session.place, not_not.mp sameName, not_not.mp sameLevel]
      rw [asked, routed_self (by rw [held.inside]; rfl)] at stands ⊢
      refine (present_attach stands).trans ?_
      have inside := held.inside
      constructor
      · rintro (here | present)
        · exact .inl here
        · by_cases here : zoneId' = w.session.currentZoneId ∧ place' = w.session.place
          · exact .inl here
          · exact .inr ⟨present, here⟩
      · rintro (here | ⟨present, _⟩)
        · exact .inl here
        · exact .inr present

variable (atlas) in
theorem zoneChange_hosted (hosted : (w.zones zoneId).isSome = true) (name : Option Text)
    (level : UInt32) (spawn : Vector3 ℚ) :
    (w.doZoneChangeWithPrivateArea atlas zoneId name level spawn).session =
      w.session.enter zoneId (w.routed zoneId (name.map (·, level))) := by
  obtain ⟨zone, found⟩ := Option.isSome_iff_exists.mp hosted
  simp only [doZoneChangeWithPrivateArea, found]

theorem zoneChange_unhosted (absent : w.zones zoneId = none) (name : Option Text) (level : UInt32)
    (spawn : Vector3 ℚ) : w.doZoneChangeWithPrivateArea atlas zoneId name level spawn = w := by
  simp only [doZoneChangeWithPrivateArea, absent]

variable (atlas) in
theorem zoneChange_records (zoneId : UInt32) (name : Option Text) (level : UInt32)
    (spawn : Vector3 ℚ) :
    (w.doZoneChangeWithPrivateArea atlas zoneId name level spawn).handleZoneId = w.handleZoneId ∧
      (w.doZoneChangeWithPrivateArea atlas zoneId name level spawn).characterZoneId =
        w.characterZoneId ∧
      (w.doZoneChangeWithPrivateArea atlas zoneId name level spawn).row = w.row := by
  unfold doZoneChangeWithPrivateArea
  cases w.zones zoneId with
  | none => exact ⟨rfl, rfl, rfl⟩
  | some zone =>
      simp only
      split
      · exact ⟨rfl, rfl, rfl⟩
      · split
        · exact ⟨rfl, rfl, rfl⟩
        · exact ⟨rfl, rfl, rfl⟩

theorem areas_moved (held : w.Consistent atlas) :
    (∀ zoneId' place',
      (zoneId' = zoneId ∧ place' = place) ∨
          (w.projection atlas zoneId' place' = some true ∧
            ¬ (zoneId' = w.session.currentZoneId ∧ place' = w.session.place)) ↔
        (zoneId' = zoneId ∧ place' = place) ∨
          (w.session.mergedZoneId = some zoneId' ∧ place' = none)) ↔
      w.KeepsMerged zoneId place := by
  constructor
  · intro right merged outside
    obtain here | ⟨_, elsewhere⟩ := (right w.session.currentZoneId none).mpr (.inr ⟨merged, rfl⟩)
    · exact ⟨here.1.symm, here.2.symm⟩
    · exact absurd ⟨rfl, outside.symm⟩ elsewhere
  · intro keeps zoneId' place'
    constructor
    · rintro (here | ⟨present, elsewhere⟩)
      · exact .inl here
      · obtain left | merged := (held.areas zoneId' place').mp present
        · exact absurd left elsewhere
        · exact .inr merged
    · rintro (here | ⟨merged, rfl⟩)
      · exact .inl here
      · by_cases left : zoneId' = w.session.currentZoneId ∧ none = w.session.place
        · obtain ⟨rfl, outside⟩ := left
          obtain ⟨stays, same⟩ := keeps merged outside.symm
          exact .inl ⟨stays.symm, same.symm⟩
        · exact .inr ⟨(held.areas zoneId' none).mpr (.inr ⟨merged, rfl⟩), left⟩

theorem consistent_moved (held : w.Consistent atlas)
    (areas : ∀ zoneId' place', w'.projection atlas zoneId' place' = some true ↔
      (zoneId' = zoneId ∧ place' = place) ∨
        (w.projection atlas zoneId' place' = some true ∧
          ¬ (zoneId' = w.session.currentZoneId ∧ place' = w.session.place)))
    (zone : w'.session.currentZoneId = zoneId) (inside : w'.session.place = place)
    (merged : w'.session.mergedZoneId = w.session.mergedZoneId) :
    w'.Consistent atlas ↔ zoneId ≠ 0 ∧ w.KeepsMerged zoneId place ∧ w'.handleZoneId = zoneId ∧
      w'.characterZoneId = zoneId ∧ w'.row.currentZoneId = zoneId ∧ w'.row.place = place := by
  subst zone inside
  constructor
  · intro after
    refine ⟨after.zone, (areas_moved held).mp fun zoneId' place' => ?_, after.handle,
      after.character, after.row⟩
    rw [← areas, ← merged]
    exact after.areas zoneId' place'
  · rintro ⟨real, keeps, handle, character, row⟩
    refine ⟨real, fun zoneId' place' => ?_, handle, character, row⟩
    rw [areas, merged]
    exact (areas_moved held).mpr keeps zoneId' place'

theorem Consistent.elsewhere (held : w.Consistent atlas) (absent : w.zones zoneId = none) :
    zoneId ≠ w.session.currentZoneId := by
  rintro rfl
  have hosted := hosted_of_present held.inside
  rw [absent] at hosted
  cases hosted

theorem SameLocation.refl (w : Whereabouts) : SameLocation atlas w w :=
  ⟨fun _ _ => rfl, rfl, rfl, rfl, rfl, rfl, rfl⟩

theorem doZoneChange_iff (held : w.Consistent atlas) (zoneId : UInt32) (name : Option Text)
    (level : UInt32) (spawn : Vector3 ℚ) :
    (w.doZoneChangeWithPrivateArea atlas zoneId name level spawn).Consistent atlas ↔
      w.Fits atlas (.doZoneChange zoneId name level spawn) := by
  cases found : w.zones zoneId with
  | none =>
      rw [zoneChange_unhosted found]
      apply iff_of_true held
      intro hosted
      rw [found] at hosted
      cases hosted
  | some zone =>
      have hosted : (w.zones zoneId).isSome = true := by
        rw [found]
        rfl
      have session := zoneChange_hosted atlas hosted name level spawn
      obtain ⟨handle, character, row⟩ := zoneChange_records atlas (w := w) zoneId
        name level spawn
      rw [consistent_moved held (present_zoneChange held hosted name level spawn)
        (by rw [session]; rfl) (by rw [session]; exact PlayerSession.enter_place _ _ _)
        (by rw [session]; rfl), handle, character, row, held.handle, held.character, held.row.1,
        held.row.2]
      constructor
      · rintro ⟨_, _, zone, _, _, place⟩ _
        exact ⟨zone.symm, place.symm⟩
      · intro fits
        obtain ⟨rfl, same⟩ := fits hosted
        exact ⟨held.zone, fun _ outside => ⟨rfl, same.trans outside⟩, rfl, rfl, rfl, same.symm⟩

variable (atlas) in
theorem warp_records (ready : w.session.deferWarpsUntilZoneInAck = false) (zoneId : UInt32)
    (name : Option Text) (level : UInt32) (position : Vector3 ℚ) (client : Bool) :
    let moved := w.doZoneChangeWithPrivateArea atlas zoneId name level position
    let warped := w.applyDoZoneChange atlas zoneId name level position client
    (∀ zoneId' place', warped.projection atlas zoneId' place' =
        moved.projection atlas zoneId' place') ∧
      warped.session.currentZoneId = moved.session.currentZoneId ∧
      warped.session.place = moved.session.place ∧
      warped.session.mergedZoneId = moved.session.mergedZoneId ∧
      warped.handleZoneId = zoneId ∧ warped.characterZoneId = zoneId ∧
      warped.row = ⟨zoneId, name.getD [], level⟩ := by
  intro moved warped
  simp only [warped, applyDoZoneChange, ready]
  exact ⟨fun _ _ => rfl, rfl, rfl, rfl, rfl, rfl, rfl⟩

theorem applyDoZoneChange_iff (held : w.Consistent atlas) (zoneId : UInt32) (name : Option Text)
    (level : UInt32) (position : Vector3 ℚ) (client : Bool) :
    (w.step atlas (.applyDoZoneChange zoneId name level position client)).Consistent atlas ∧
        w.RefusesUnhosted atlas (.applyDoZoneChange zoneId name level position client) ↔
      w.Fits atlas (.applyDoZoneChange zoneId name level position client) := by
  cases parked : w.session.deferWarpsUntilZoneInAck with
  | true =>
      have same : w.step atlas (.applyDoZoneChange zoneId name level position client) = w := by
        simp only [step, applyDoZoneChange, parked]
        rfl
      refine iff_of_true ⟨same.symm ▸ held, fun _ _ _ => ?_⟩ (.inl parked)
      rw [same]
      exact .refl w
  | false =>
      obtain ⟨areas, zone, place, merged, handle, character, row⟩ :=
        warp_records atlas parked zoneId name level position client
      change (w.applyDoZoneChange atlas zoneId name level position client).Consistent atlas ∧ _ ↔ _
      cases found : w.zones zoneId with
      | none =>
          apply iff_of_false
          · rintro ⟨_, refuses⟩
            have kept := (refuses zoneId rfl found).handle
            exact held.elsewhere found (handle.symm.trans (kept.trans held.handle))
          · rintro (waits | ⟨hosted, _⟩)
            · rw [parked] at waits
              cases waits
            · rw [found] at hosted
              cases hosted
      | some there =>
          have hosted : (w.zones zoneId).isSome = true := by
            rw [found]
            rfl
          have session := zoneChange_hosted atlas hosted name level position
          rw [consistent_moved held
            (fun _ _ => (by rw [areas] : _ ↔ _).trans
              (present_zoneChange held hosted name level position _ _))
            (zone.trans (by rw [session]; rfl))
            (place.trans (by rw [session]; exact PlayerSession.enter_place _ _ _))
            (merged.trans (by rw [session]; rfl)), handle, character, row]
          constructor
          · rintro ⟨⟨real, keeps, _, _, _, stored⟩, _⟩
            exact .inr ⟨hosted, real, keeps, stored⟩
          · rintro (waits | ⟨_, real, keeps, stored⟩)
            · rw [parked] at waits
              cases waits
            · refine ⟨⟨real, keeps, rfl, rfl, rfl, stored⟩, ?_⟩
              rintro _ ⟨⟩ absent
              rw [found] at absent
              cases absent

theorem projection_move (zoneId : UInt32) (place : Place) (position : Vector3 ℚ)
    (zoneId' : UInt32) (place' : Place) :
    (w.editArea zoneId place fun core => core.updateActorPosition atlas.actorId position).projection
      atlas zoneId' place' = w.projection atlas zoneId' place' := by
  rw [projection_editArea (g := id) fun core => lookup_updateActorPosition core.val _ _]
  by_cases here : zoneId' = zoneId ∧ place' = place
  · obtain ⟨rfl, rfl⟩ := here
    simp
  · rw [if_neg here]

variable (atlas) in
theorem updateActorPosition_same (w : Whereabouts) (position : Vector3 ℚ) :
    SameLocation atlas w (w.updateActorPosition atlas position) ∧
      ∀ zoneId, (w.updateActorPosition atlas position).zones zoneId = none ↔
        w.zones zoneId = none := by
  have one : ∀ zoneId place,
      let moved := w.editArea zoneId place fun core =>
        core.updateActorPosition atlas.actorId position
      SameLocation atlas w moved ∧
        ∀ zoneId', moved.zones zoneId' = none ↔ w.zones zoneId' = none := by
    intro zoneId place moved
    exact ⟨⟨projection_move _ _ _, rfl, rfl, rfl, rfl, rfl, rfl⟩, fun _ => zones_editArea⟩
  unfold updateActorPosition
  simp only
  split
  · exact one _ _
  · split
    · exact one _ _
    · split
      · exact one _ _
      · obtain ⟨same, hosted⟩ := one w.session.currentZoneId none
        refine ⟨⟨fun _ _ => ?_, rfl, rfl, rfl, rfl, rfl, rfl⟩, fun _ => ?_⟩
        · rw [projection_move]
          exact same.projection _ _
        · exact zones_editArea.trans (hosted _)

theorem Consistent.of_same (held : w.Consistent atlas) (same : SameLocation atlas w w') :
    w'.Consistent atlas where
  zone := same.zone ▸ held.zone
  areas zoneId place := by
    rw [same.projection, same.zone, same.place, same.merged]
    exact held.areas zoneId place
  handle := by
    rw [same.handle, same.zone]
    exact held.handle
  character := by
    rw [same.character, same.zone]
    exact held.character
  row := by
    rw [same.row, same.zone, same.place]
    exact held.row

def cross (atlas : Atlas) (w : Whereabouts) (position : Vector3 ℚ) : Crossing → Whereabouts
  | .stay => w
  | .home => w.dropMerge
  | .into zoneId => followed (.zoneChanged zoneId, w.doSeamlessZoneChange atlas zoneId position)
  | .strip zoneId =>
      if w.session.mergedZoneId = some zoneId then w else w.mergeZones atlas zoneId position

theorem followed_seamlessLoop (position : Vector3 ℚ) (boundaries : List SeamlessBoundary) :
    followed (w.seamlessLoop atlas position boundaries) =
      w.cross atlas position (crossing w.session.currentZoneId position boundaries) := by
  induction boundaries with
  | nil => rfl
  | cons b rest ih =>
      unfold seamlessLoop crossing
      by_cases first : checkPosInBounds position.x position.z b.zone1 = true
      · by_cases home : w.session.currentZoneId = b.zoneId1
        · simp [first, home, followed, cross]
        · simp [first, home, cross]
      · by_cases second : checkPosInBounds position.x position.z b.zone2 = true
        · by_cases home : w.session.currentZoneId = b.zoneId2
          · simp [first, second, home, followed, cross]
          · simp [first, second, home, cross]
        · by_cases strip : checkPosInBounds position.x position.z b.merge = true
          · generalize other : (if w.session.currentZoneId = b.zoneId1 then b.zoneId2
              else b.zoneId1) = merged
            by_cases already : w.session.mergedZoneId = some merged
            · simp [first, second, strip, already, followed, cross]
            · simp [first, second, strip, already, followed, cross]
          · simpa [first, second, strip] using ih

theorem handleUpdatePosition_eq (held : w.Consistent atlas) (position : Vector3 ℚ)
    (loaded : w.session.pendingZoneIn = false ∧ w.session.reloadInFlight = false)
    (outside : w.session.activeContentZoneId ≠ some w.session.currentZoneId) :
    w.handleUpdatePosition atlas position =
      (w.updateActorPosition atlas position).cross atlas position
        (w.crossingAt atlas position) := by
  obtain ⟨same, _⟩ := updateActorPosition_same atlas w position
  have hosted := hosted_of_present (held.of_same same).inside
  obtain ⟨zone, found⟩ := Option.isSome_iff_exists.mp hosted
  simp only [handleUpdatePosition, loaded.1, loaded.2, outside, seamlessCheck, found]
  rw [crossingAt, ← same.zone]
  exact followed_seamlessLoop position _

theorem into_iff (held : w.Consistent atlas) (hosted : (w.zones zoneId).isSome = true)
    (elsewhere : zoneId ≠ w.session.currentZoneId) (position : Vector3 ℚ) :
    (w.cross atlas position (.into zoneId)).Consistent atlas ↔ w.CrossingFits (.into zoneId) := by
  obtain ⟨zone, found⟩ := Option.isSome_iff_exists.mp hosted
  have stands : ((w.detach atlas w.session.currentZoneId none).projection atlas zoneId
      none).isSome = true := by
    rw [isSome_detach, isSome_projection_none]
    exact hosted
  have areas : ∀ zoneId' place',
      (w.cross atlas position (.into zoneId)).projection atlas zoneId' place' = some true ↔
        (zoneId' = zoneId ∧ place' = none) ∨ (w.projection atlas zoneId' place' = some true ∧
          ¬ (zoneId' = w.session.currentZoneId ∧ place' = none)) := by
    intro zoneId' place'
    simp only [cross, doSeamlessZoneChange, found]
    exact (present_attach stands).trans (or_congr_right present_detach)
  have session : (w.cross atlas position (.into zoneId)).session =
      { w.session with currentZoneId := zoneId, mergedZoneId := none } := by
    simp only [cross, doSeamlessZoneChange, found, followed]
  constructor
  · intro after
    have real := after.zone
    have right := after.areas
    rw [session] at real
    simp only [areas, session] at right
    have outside : w.session.place = none := by
      obtain ⟨_, place⟩ | ⟨present, _⟩ := (right zoneId w.session.place).mpr (.inl ⟨rfl, rfl⟩)
      · exact place
      · obtain ⟨here, _⟩ | ⟨_, place⟩ := (held.areas _ _).mp present
        · exact absurd here elsewhere
        · exact place
    refine ⟨hosted, real, outside, fun merged latched => ?_⟩
    by_cases left : merged = w.session.currentZoneId
    · exact .inr left
    · have present := (held.areas merged none).mpr (.inr ⟨latched, rfl⟩)
      obtain ⟨here, _⟩ | ⟨gone, _⟩ := (right merged none).mp (.inr ⟨present, fun h => left h.1⟩)
      · exact .inl here
      · cases gone
  · rintro ⟨_, real, outside, latches⟩
    refine ⟨?_, ?_, ?_, ?_, ?_⟩
    · rw [session]
      exact real
    · intro zoneId' place'
      rw [areas, session]
      constructor
      · rintro (⟨rfl, rfl⟩ | ⟨present, left⟩)
        · exact .inl ⟨rfl, outside.symm⟩
        · obtain ⟨rfl, rfl⟩ | ⟨latched, rfl⟩ := (held.areas zoneId' place').mp present
          · exact absurd ⟨rfl, outside⟩ left
          · obtain rfl | rfl := latches zoneId' latched
            · exact .inl ⟨rfl, outside.symm⟩
            · exact absurd ⟨rfl, rfl⟩ left
      · rintro (⟨rfl, rfl⟩ | ⟨gone, _⟩)
        · exact .inl ⟨rfl, outside⟩
        · cases gone
    · rw [session]
      rfl
    · rw [session]
      rfl
    · have place : (w.doSeamlessZoneChange atlas zoneId position).session.place = none := by
        simp only [doSeamlessZoneChange, found]
        exact outside
      have row : (w.cross atlas position (.into zoneId)).row = ⟨zoneId, [], 0⟩ := by
        simp only [cross, followed, place]
      rw [session, row]
      exact ⟨rfl, outside.symm⟩

theorem cross_iff (held : w.Consistent atlas) (position : Vector3 ℚ) (c : Crossing)
    (away : ∀ zoneId, c = .into zoneId → zoneId ≠ w.session.currentZoneId) :
    (w.cross atlas position c).Consistent atlas ↔ w.CrossingFits c := by
  have inside := held.inside
  cases c with
  | stay => exact iff_of_true held trivial
  | home =>
      constructor
      · intro after zoneId merged
        have present := (held.areas zoneId none).mpr (.inr ⟨merged, rfl⟩)
        obtain ⟨here, place⟩ | ⟨gone, _⟩ := (after.areas zoneId none).mp present
        · exact ⟨here, place.symm⟩
        · cases gone
      · intro single
        refine ⟨held.zone, fun zoneId place => (held.areas zoneId place).trans ?_, held.handle,
          held.character, held.row⟩
        constructor
        · rintro (here | ⟨merged, rfl⟩)
          · exact .inl here
          · obtain ⟨here, outside⟩ := single zoneId merged
            exact .inl ⟨here, outside.symm⟩
        · rintro (here | ⟨gone, _⟩)
          · exact .inl here
          · cases gone
  | into zoneId =>
      have elsewhere := away zoneId rfl
      cases found : w.zones zoneId with
      | none =>
          apply iff_of_false
          · intro after
            have zone := after.handle
            rw [cross, doSeamlessZoneChange, found] at zone
            exact elsewhere zone
          · rintro ⟨hosted, _⟩
            rw [found] at hosted
            cases hosted
      | some zone =>
          have hosted : (w.zones zoneId).isSome = true := by
            rw [found]
            rfl
          exact into_iff held hosted elsewhere position
  | strip zoneId =>
      by_cases already : w.session.mergedZoneId = some zoneId
      · rw [cross, if_pos already]
        exact iff_of_true held (.inl already)
      · rw [cross, if_neg already, mergeZones]
        cases found : w.zones zoneId with
        | none => exact iff_of_true held (.inr (.inl found))
        | some zone =>
            have stands : (w.projection atlas zoneId none).isSome = true := by
              rw [isSome_projection_none, found]
              rfl
            constructor
            · intro after
              refine .inr (.inr fun merged latched => ?_)
              have present := (held.areas merged none).mpr (.inr ⟨latched, rfl⟩)
              obtain ⟨here, place⟩ | ⟨again, _⟩ :=
                (after.areas merged none).mp ((present_attach stands).mpr (.inr present))
              · exact ⟨here, place.symm⟩
              · cases again
                exact absurd latched already
            · rintro (merged | absent | single)
              · exact absurd merged already
              · rw [found] at absent
                cases absent
              · refine ⟨held.zone, fun zoneId' place' => (present_attach stands).trans ?_,
                  held.handle, held.character, held.row⟩
                constructor
                · rintro (⟨rfl, rfl⟩ | present)
                  · exact .inr ⟨rfl, rfl⟩
                  · obtain here | ⟨latched, rfl⟩ := (held.areas zoneId' place').mp present
                    · exact .inl here
                    · obtain ⟨here, outside⟩ := single zoneId' latched
                      exact .inl ⟨here, outside.symm⟩
                · rintro (here | ⟨merged, rfl⟩)
                  · exact .inr ((held.areas zoneId' place').mpr (.inl here))
                  · cases merged
                    exact .inl ⟨rfl, rfl⟩

theorem crossing_away {currentZoneId zoneId : UInt32} {boundaries : List SeamlessBoundary}
    (crosses : crossing currentZoneId position boundaries = .into zoneId) :
    zoneId ≠ currentZoneId := by
  induction boundaries with
  | nil => cases crosses
  | cons b rest ih =>
      unfold crossing at crosses
      split at crosses
      · split at crosses
        · cases crosses
        · rename_i away
          cases crosses
          exact fun same => away same.symm
      · split at crosses
        · split at crosses
          · cases crosses
          · rename_i away
            cases crosses
            exact fun same => away same.symm
        · split at crosses
          · cases crosses
          · exact ih crosses

theorem cross_same (absent : w.zones zoneId = none) :
    SameLocation atlas w (w.cross atlas position (.strip zoneId)) := by
  by_cases already : w.session.mergedZoneId = some zoneId
  · rw [cross, if_pos already]
    exact .refl w
  · rw [cross, if_neg already, mergeZones, absent]
    exact .refl w

theorem SameLocation.trans {w₁ w₂ w₃ : Whereabouts} (first : SameLocation atlas w₁ w₂)
    (second : SameLocation atlas w₂ w₃) : SameLocation atlas w₁ w₃ where
  projection zoneId place := (second.projection zoneId place).trans (first.projection zoneId place)
  zone := second.zone.trans first.zone
  place := second.place.trans first.place
  merged := second.merged.trans first.merged
  handle := second.handle.trans first.handle
  character := second.character.trans first.character
  row := second.row.trans first.row

theorem crossingFits_same (same : SameLocation atlas w w')
    (hosted : ∀ zoneId, w'.zones zoneId = none ↔ w.zones zoneId = none) (c : Crossing) :
    w'.CrossingFits c ↔ w.CrossingFits c := by
  cases c with
  | stay => exact Iff.rfl
  | home =>
      simp only [CrossingFits, Single]
      rw [same.merged, same.zone, same.place]
  | into zoneId =>
      have there : (w'.zones zoneId).isSome = true ↔ (w.zones zoneId).isSome = true := by
        rw [Option.isSome_iff_ne_none, Option.isSome_iff_ne_none, ne_eq, ne_eq, hosted]
      simp only [CrossingFits]
      rw [there, same.merged, same.zone, same.place]
  | strip zoneId =>
      simp only [CrossingFits, Single]
      rw [hosted, same.merged, same.zone, same.place]

theorem updatePosition_iff (held : w.Consistent atlas) (position : Vector3 ℚ) :
    (w.step atlas (.updatePosition position)).Consistent atlas ∧
        w.RefusesUnhosted atlas (.updatePosition position) ↔
      w.Fits atlas (.updatePosition position) := by
  obtain ⟨same, hosted⟩ := updateActorPosition_same atlas w position
  by_cases waits : w.session.pendingZoneIn = true ∨ w.session.reloadInFlight = true
  · have still : w.handleUpdatePosition atlas position = w := by
      unfold handleUpdatePosition
      rw [if_pos (by simpa using waits)]
    have fits : w.Fits atlas (.updatePosition position) := by
      obtain pending | reload := waits
      · exact .inl pending
      · exact .inr (.inl reload)
    refine iff_of_true ⟨?_, fun _ _ _ => ?_⟩ fits
    · rw [step, still]
      exact held
    · rw [step, still]
      exact .refl w
  · obtain ⟨pending, reload⟩ := not_or.mp waits
    by_cases content : w.session.activeContentZoneId = some w.session.currentZoneId
    · have moved : w.handleUpdatePosition atlas position =
          w.updateActorPosition atlas position := by
        unfold handleUpdatePosition
        rw [if_neg (by simpa using waits)]
        simp only [content, if_true]
      refine iff_of_true ⟨?_, fun _ _ _ => ?_⟩ (.inr (.inr (.inl content)))
      · rw [step, moved]
        exact held.of_same same
      · rw [step, moved]
        exact same
    · have loaded : w.session.pendingZoneIn = false ∧ w.session.reloadInFlight = false :=
        ⟨Bool.eq_false_iff.mpr pending, Bool.eq_false_iff.mpr reload⟩
      have crosses := handleUpdatePosition_eq held position loaded content
      have whole := (cross_iff (held.of_same same) position (w.crossingAt atlas position)
        fun zoneId into => same.zone ▸ crossing_away into).trans (crossingFits_same same hosted _)
      rw [← crosses] at whole
      have fits : w.Fits atlas (.updatePosition position) ↔
          w.CrossingFits (w.crossingAt atlas position) := by
        simp only [Fits, loaded.1, loaded.2, content, Bool.false_eq_true, false_or]
      rw [fits, ← whole]
      refine and_iff_left_of_imp fun after zoneId asked absent => ?_
      have meets := whole.mp after
      rw [step, crosses]
      rw [destination] at asked
      cases c : w.crossingAt atlas position with
      | stay =>
          rw [c] at asked
          cases asked
      | home =>
          rw [c] at asked
          cases asked
      | into there =>
          rw [c] at asked meets
          cases asked
          obtain ⟨there, _⟩ := meets
          rw [absent] at there
          cases there
      | strip there =>
          rw [c] at asked
          cases asked
          exact same.trans (cross_same ((hosted zoneId).mpr absent))

theorem step_iff (held : w.Consistent atlas) (op : LocationOp) :
    (w.step atlas op).Consistent atlas ∧ w.RefusesUnhosted atlas op ↔ w.Fits atlas op := by
  cases op with
  | applyDoZoneChange zoneId name level position client =>
      exact applyDoZoneChange_iff held zoneId name level position client
  | doZoneChange zoneId name level spawn =>
      refine Iff.trans (and_iff_left ?_) (doZoneChange_iff held zoneId name level spawn)
      rintro _ ⟨⟩ absent
      rw [step, zoneChange_unhosted absent]
      exact .refl w
  | updatePosition position => exact updatePosition_iff held position
  | latches defer reload pending content =>
      refine iff_of_true ⟨?_, nofun⟩ trivial
      exact held.of_same ⟨fun _ _ => rfl, rfl, rfl, rfl, rfl, rfl, rfl⟩

variable (atlas)

/-- In a run, the records name one area and changes to zones that are not hosted change nothing,
exactly if every operation meets its condition. -/
theorem location_iff (start : w.Consistent atlas) (ops : List LocationOp) :
    Always (fun w op => some (step atlas w op)) (Consistent atlas) w ops ∧
        EachStep (fun w op => some (step atlas w op)) (RefusesUnhosted atlas) w ops ↔
      EachStep (fun w op => some (step atlas w op)) (Fits atlas) w ops := by
  apply always_and_eachStep_iff (I := fun _ => True) _ (fun _ _ _ _ _ _ _ => trivial) trivial start
  rintro s op _ _ held ⟨⟩
  exact step_iff held op

def shore : Zone where
  core := ⟨.new 2 false, AreaCore.empty_sorted _ rfl rfl⟩
  privateAreas := fun _ => none

def border : Atlas where
  actorId := 1
  regionId := fun _ => 101
  boundaries := fun _ => [⟨1, 2, ⟨0, 0, 10, 10⟩, ⟨20, 0, 30, 10⟩, ⟨10, 0, 20, 10⟩⟩]

/-- The player in the first of two zones. -/
def settled : Whereabouts where
  zones := fun zoneId => if zoneId = 1 then some grove else if zoneId = 2 then some shore else none
  session := { currentPrivateAreaName := none, currentPrivateAreaLevel := 0, currentZoneId := 1 }
  handleZoneId := 1
  characterZoneId := 1
  row := ⟨1, [], 0⟩

theorem settled_consistent : settled.Consistent border where
  zone := by decide
  areas zoneId place := by
    have away : ∀ merged, settled.session.mergedZoneId = some merged → False := by
      intro merged latched
      cases latched
    cases place with
    | none =>
        by_cases first : zoneId = 1
        · subst first
          exact iff_of_true (by decide) (.inl ⟨rfl, rfl⟩)
        · apply iff_of_false
          · by_cases second : zoneId = 2
            · subst second
              decide
            · simp [projection, settled, first, second]
          · rintro (⟨here, _⟩ | ⟨latched, _⟩)
            · exact first here
            · exact away _ latched
    | some name =>
        apply iff_of_false
        · by_cases first : zoneId = 1
          · simp [projection, settled, first, find, grove]
          · by_cases second : zoneId = 2
            · simp [projection, settled, second, find, shore]
            · simp [projection, settled, first, second]
        · rintro (⟨_, inside⟩ | ⟨_, inside⟩)
          · cases inside
          · cases inside
  handle := rfl
  character := rfl
  row := ⟨rfl, rfl⟩

theorem warp_kept :
    Always (fun w op => some (step border w op)) (Consistent border) settled
        [.applyDoZoneChange 2 none 0 ⟨25, 0, 5⟩ true] ∧
      EachStep (fun w op => some (step border w op)) (RefusesUnhosted border) settled
        [.applyDoZoneChange 2 none 0 ⟨25, 0, 5⟩ true] := by
  apply (location_iff border settled_consistent _).mpr
  rintro _ ⟨⟩
  refine ⟨.inr ⟨rfl, by decide, ?_, rfl⟩, trivial⟩
  intro latched
  cases latched

/-- A warp to a zone that is not hosted is in the registry, and after a walk into the strip and
back the player is still in the zone on the other side. -/
theorem warp_recorded : settled.Consistent border ∧
    ¬ EachStep (fun w op => some (step border w op)) (RefusesUnhosted border) settled
      [.applyDoZoneChange 9 none 0 ⟨0, 0, 0⟩ true] ∧
    ¬ Always (fun w op => some (step border w op)) (Consistent border) settled
      [.updatePosition ⟨15, 0, 5⟩, .updatePosition ⟨5, 0, 5⟩] := by
  refine ⟨settled_consistent, fun refused => ?_, fun held => ?_⟩
  · have kept := ((refused _ rfl).1 9 rfl rfl).handle
    exact absurd kept (by decide)
  · have after := ((held.2 _ rfl).2 _ rfl).areas 2 none
    have behind : ((settled.step border (.updatePosition ⟨15, 0, 5⟩)).step border
        (.updatePosition ⟨5, 0, 5⟩)).projection border 2 none = some true := by decide
    obtain ⟨here, _⟩ | ⟨latched, _⟩ := after.mp behind
    · exact absurd here (by decide)
    · exact absurd latched (by decide)

end Whereabouts
end Garlemald.Zone
