import Garlemald.Content.Teardown
import Garlemald.Zone.Stream

/-!
An actor that no area has. Only its own moves put a player into an area, and only those into a zone
that is hosted; a client is sent nothing of an actor that no area has.
-/

namespace Garlemald.Zone

open Library Common

def AreaOperation.adds : AreaOperation → Option UInt32
  | .addActor actor => some actor.actorId
  | _ => none

def SortedCore.operate (core : SortedCore) : AreaOperation → SortedCore
  | .addActor actor => core.addActor actor
  | .updateActorPosition actorId position => core.updateActorPosition actorId position
  | .setActorAlive actorId isAlive =>
      ⟨core.val.setActorAlive actorId isAlive,
        AreaCore.setActorAlive_sorted core.property actorId isAlive⟩
  | .removeActor actorId => (core.removeActor actorId).1
  | .clear => ⟨core.val.clear, AreaCore.empty_sorted _ rfl rfl⟩

/-- The zone as if an actor had never been put into any of its areas. -/
def without (zone : Zone) (actorId : UInt32) : Zone where
  core := (zone.core.removeActor actorId).1
  privateAreas name := (zone.privateAreas name).map fun core => (core.removeActor actorId).1

/-- No area of a zone has the actor. -/
def Absent (zones : UInt32 → Option Zone) (actorId : UInt32) : Prop :=
  ∀ zoneId zone place core, zones zoneId = some zone → zone.find place = some core →
    core.val.actors.lookup actorId = none

def Whereabouts.Inside (atlas : Atlas) (w : Whereabouts) : Prop :=
  ∃ zoneId place, w.projection atlas zoneId place = some true

/-- A move that puts the player into an area: one into a zone that is hosted. -/
def Whereabouts.Places (atlas : Atlas) (w : Whereabouts) : LocationOp → Prop
  | .applyDoZoneChange zoneId _ _ _ _ =>
      w.session.deferWarpsUntilZoneInAck = false ∧ (w.zones zoneId).isSome = true
  | .doZoneChange zoneId _ _ _ => (w.zones zoneId).isSome = true
  | .updatePosition position =>
      w.session.pendingZoneIn = false ∧ w.session.reloadInFlight = false ∧
        w.session.activeContentZoneId ≠ some w.session.currentZoneId ∧
        (w.zones w.session.currentZoneId).isSome = true ∧
        match w.crossingAt atlas position with
        | .into zoneId => (w.zones zoneId).isSome = true
        | .strip zoneId =>
            w.session.mergedZoneId ≠ some zoneId ∧ (w.zones zoneId).isSome = true
        | .stay => False
        | .home => False
  | .latches .. => False

variable {core : SortedCore} {actorId : UInt32} {a : StoredActor}

theorem SortedCore.removeActor_absent (absent : core.val.actors.lookup actorId = none) :
    (core.removeActor actorId).1 = core := by
  apply Subtype.ext
  change (core.val.removeActor actorId).1 = core.val
  unfold AreaCore.removeActor
  rw [absent]

theorem SortedCore.absent_removeActor (absent : core.val.actors.lookup actorId = none)
    (removed : UInt32) : (core.removeActor removed).1.val.actors.lookup actorId = none := by
  by_cases same : actorId = removed
  · rw [same]
    exact lookup_removeActor core.val removed
  · exact (Content.Instances.lookup_removeActor_ne same).trans absent

theorem without_eq {zone : Zone}
    (absent : ∀ place core, zone.find place = some core → core.val.actors.lookup actorId = none) :
    zone.without actorId = zone := by
  have areas : (fun name => (zone.privateAreas name).map fun core =>
      (core.removeActor actorId).1) = zone.privateAreas := by
    funext name
    cases found : zone.privateAreas name with
    | none => rfl
    | some core =>
        exact congrArg some (SortedCore.removeActor_absent (absent (some name) core found))
  rw [without, areas, SortedCore.removeActor_absent (absent none zone.core rfl)]

theorem SortedCore.operate_absent (absent : core.val.actors.lookup actorId = none)
    {op : AreaOperation} (other : ∀ actor, op = .addActor actor → actor.actorId ≠ actorId) :
    (core.operate op).val.actors.lookup actorId = none := by
  cases op with
  | addActor actor =>
      have away : actorId ≠ actor.actorId := (other actor rfl).symm
      change (core.val.addActor actor).1.actors.lookup actorId = none
      have stored : ∀ row, (core.val.actors.insert actor.actorId row).lookup actorId = none :=
        fun row => (AList.lookup_insert_ne away).trans absent
      unfold AreaCore.addActor
      cases found : core.val.actors.lookup actor.actorId with
      | none =>
          simp only [found]
          exact stored _
      | some prev =>
          simp only [found]
          split
          · exact stored _
          · exact stored _
  | updateActorPosition moved position =>
      change (core.val.updateActorPosition moved position).1.actors.lookup actorId = none
      by_cases same : actorId = moved
      · subst same
        have kept := lookup_updateActorPosition core.val actorId position
        rw [absent] at kept
        exact Option.not_isSome_iff_eq_none.mp (by simp [kept])
      · unfold AreaCore.updateActorPosition
        cases found : core.val.actors.lookup moved with
        | none => exact absent
        | some actor =>
            simp only
            split
            · exact (AList.lookup_insert_ne same).trans absent
            · exact (AList.lookup_insert_ne same).trans absent
  | setActorAlive moved isAlive =>
      change (core.val.setActorAlive moved isAlive).actors.lookup actorId = none
      unfold AreaCore.setActorAlive
      cases found : core.val.actors.lookup moved with
      | none => exact absent
      | some actor =>
          have away : actorId ≠ moved := by
            rintro rfl
            rw [absent] at found
            cases found
          exact (AList.lookup_insert_ne away).trans absent
  | removeActor removed => exact SortedCore.absent_removeActor absent removed
  | clear => exact AList.lookup_empty _

def Stored (zones : UInt32 → Option Zone) (a : StoredActor) : Prop :=
  ∃ zoneId zone place core, zones zoneId = some zone ∧ zone.find place = some core ∧
    core.val.actors.lookup a.actorId = some a

theorem Absent.of_stored {zones : UInt32 → Option Zone} (absent : Absent zones actorId)
    (stored : Stored zones a) : a.actorId ≠ actorId := by
  rintro rfl
  obtain ⟨zoneId, zone, place, core, hosted, found, row⟩ := stored
  rw [absent zoneId zone place core hosted found] at row
  cases row

theorem lookup_of_collected {checked : Bool} {gx gy radius : ℤ} {exclude : Option UInt32}
    (member : a ∈ (core.val.collectActorsInCells checked gx gy radius exclude).getD []) :
    core.val.actors.lookup a.actorId = some a := by
  cases collected : core.val.collectActorsInCells checked gx gy radius exclude with
  | none =>
      rw [collected] at member
      cases member
  | some found =>
      rw [collected] at member
      simp only [AreaCore.collectActorsInCells, bind, Option.bind_eq_some_iff] at collected
      obtain ⟨_, _, _, _, _, _, _, _, gathered⟩ := collected
      rw [← Option.some.inj gathered, Option.getD_some, AreaCore.mem_gather] at member
      obtain ⟨_, _, id, _, row⟩ := member
      obtain ⟨_, stored, _⟩ := AreaCore.collected_some.mp row
      rwa [(core.property.rows id a stored).1]

theorem lookup_of_around {checked : Bool} {center : UInt32} {distance : ℚ}
    (member : a ∈ (core.val.actorsAround checked center distance).getD []) :
    core.val.actors.lookup a.actorId = some a := by
  unfold AreaCore.actorsAround at member
  split at member
  · cases member
  · exact lookup_of_collected member

namespace Stream

variable {atlas : Atlas} {checked : Bool} {s : Stream}

theorem stored_partner {position : Vector3 ℚ} {a : StoredActor}
    (member : a ∈ s.partnerZoneActorsAround atlas checked position) :
    Stored s.whereabouts.zones a := by
  obtain ⟨partnerId, _, near⟩ := List.mem_flatMap.mp member
  cases hosted : s.whereabouts.zones partnerId with
  | none =>
      rw [hosted] at near
      cases near
  | some partner =>
      rw [hosted] at near
      exact ⟨partnerId, partner, none, partner.core, hosted, rfl,
        lookup_of_collected (List.mem_filter.mp near).1⟩

theorem stored_neighbour {actorId zoneId : UInt32} {zone : Zone} {position : Vector3 ℚ}
    {a : StoredActor} (hosted : s.whereabouts.zones zoneId = some zone)
    (member : a ∈ s.neighbours atlas checked actorId zone position) :
    Stored s.whereabouts.zones a := by
  simp only [neighbours, List.mem_append] at member
  obtain own | partner := member
  · split at own
    · rename_i core private_
      obtain ⟨name, place, found⟩ := Option.bind_eq_some_iff.mp private_
      obtain ⟨e, entry, rfl⟩ := List.mem_map.mp (List.mem_filter.mp own).1
      have row := AList.mem_lookup_iff.mpr entry
      refine ⟨zoneId, zone, some name, core, hosted, found, ?_⟩
      rwa [(core.property.rows _ _ row).1]
    · exact ⟨zoneId, zone, none, zone.core, hosted, rfl,
        lookup_of_around (List.mem_filter.mp own).1⟩
  · split at partner
    · exact stored_partner partner
    · cases partner

variable {viewer : UInt32}

theorem hosted_of_viewer {handle : Map.ActorHandle} {zone : Zone}
    (views : s.viewer viewer = some (handle, zone)) :
    s.whereabouts.zones s.whereabouts.session.currentZoneId = some zone := by
  unfold Stream.viewer at views
  split at views
  · obtain ⟨handle', _, rest⟩ := Option.bind_eq_some_iff.mp views
    obtain ⟨zone', hosted, same⟩ := Option.bind_eq_some_iff.mp rest
    cases same
    exact hosted
  · cases views

theorem sendZoneInBundle_unseen {actorId : UInt32} (absent : Absent s.whereabouts.zones actorId)
    (unseen : actorId ∉ s.shown) (recipe : ZoneIn) (position : Vector3 ℚ) :
    actorId ∉ (s.sendZoneInBundle atlas checked viewer recipe position).shown := by
  have wiped : actorId ∉
      (if recipe = .reload ∧ s.clients viewer = true then { s with shown := ∅ } else s).shown := by
    split
    · exact Finset.notMem_empty _
    · exact unseen
  unfold sendZoneInBundle
  cases views : s.viewer viewer with
  | none => exact wiped
  | some view =>
      obtain ⟨handle, zone⟩ := view
      have hosted := hosted_of_viewer views
      have added : actorId ∉ ((s.spawnedNpcIds atlas checked handle.actorId zone position).foldl
          addActor (if recipe = .reload ∧ s.clients viewer = true then { s with shown := ∅ }
            else s)).shown := by
        rw [shown_foldl, Finset.mem_union, not_or]
        refine ⟨wiped, fun spawned => ?_⟩
        have listed := (List.mem_filter.mp (List.mem_toFinset.mp spawned)).1
        obtain ⟨a, near, same⟩ := List.mem_map.mp listed
        exact absent.of_stored (stored_neighbour hosted (List.mem_filter.mp near).1) same
      simp only
      split
      · exact fun kept => added (Finset.mem_filter.mp kept).1
      · exact added

theorem sendInstanceUpdate_unseen {actorId : UInt32} (absent : Absent s.whereabouts.zones actorId)
    (unseen : actorId ∉ s.shown) : actorId ∉ (s.sendInstanceUpdate atlas checked viewer).shown := by
  unfold sendInstanceUpdate
  cases views : s.viewer viewer with
  | none => exact unseen
  | some view =>
      obtain ⟨handle, zone⟩ := view
      have hosted := hosted_of_viewer views
      simp only
      split
      · change actorId ∉ (List.foldl addActor s _).shown
        rw [shown_foldl, Finset.mem_union, not_or]
        refine ⟨unseen, fun streamed => ?_⟩
        have listed := (List.mem_filter.mp (List.mem_toFinset.mp streamed)).1
        obtain ⟨a, near, same⟩ := List.mem_map.mp (List.mem_filter.mp listed).1
        refine absent.of_stored ?_ same
        obtain own | partner := List.mem_append.mp near
        · exact ⟨_, zone, none, zone.core, hosted, rfl,
            lookup_of_around (List.mem_filter.mp own).1⟩
        · split at partner
          · cases partner
          · split at partner
            · cases partner
            · exact stored_partner partner
      · exact unseen

end Stream

namespace Whereabouts

variable {atlas : Atlas} {w : Whereabouts}

theorem outside_iff : ¬ w.Inside atlas ↔ Absent w.zones atlas.actorId := by
  constructor
  · intro outside zoneId zone place core hosted found
    rw [← Option.not_isSome_iff_eq_none]
    intro present
    refine outside ⟨zoneId, place, ?_⟩
    rw [projection, hosted, Option.bind_some, found, Option.map_some, present]
  · rintro absent ⟨zoneId, place, present⟩
    obtain ⟨core, found, here⟩ := Option.map_eq_some_iff.mp present
    obtain ⟨zone, hosted, stands⟩ := Option.bind_eq_some_iff.mp found
    rw [absent zoneId zone place core hosted stands] at here
    cases here

theorem inside_congr {w' : Whereabouts}
    (same : ∀ zoneId place, w'.projection atlas zoneId place = w.projection atlas zoneId place) :
    w'.Inside atlas ↔ w.Inside atlas :=
  exists_congr fun zoneId => exists_congr fun place => by rw [same]

theorem inside_attach {zoneId : UInt32} {place : Place}
    (stands : (w.projection atlas zoneId place).isSome = true) (position : Vector3 ℚ) :
    (w.attach atlas zoneId place position).Inside atlas :=
  ⟨zoneId, place, (present_attach stands).mpr (.inl ⟨rfl, rfl⟩)⟩

theorem zoneChange_inside {zoneId : UInt32} (hosted : (w.zones zoneId).isSome = true)
    (name : Option Text) (level : UInt32) (spawn : Vector3 ℚ) :
    (w.doZoneChangeWithPrivateArea atlas zoneId name level spawn).Inside atlas := by
  obtain ⟨zone, found⟩ := Option.isSome_iff_exists.mp hosted
  have stands := routed_stands atlas hosted (name.map (·, level))
  unfold doZoneChangeWithPrivateArea
  simp only [found]
  split
  · exact inside_attach ((isSome_detach ..).trans stands) spawn
  · split
    · exact inside_attach ((isSome_detach ..).trans stands) spawn
    · exact inside_attach stands spawn

theorem handleUpdatePosition_cross (atlas : Atlas) {w : Whereabouts} (position : Vector3 ℚ)
    (pending : w.session.pendingZoneIn = false) (reload : w.session.reloadInFlight = false)
    (outside : w.session.activeContentZoneId ≠ some w.session.currentZoneId)
    (here : (w.zones w.session.currentZoneId).isSome = true) :
    w.handleUpdatePosition atlas position =
      (w.updateActorPosition atlas position).cross atlas position
        (w.crossingAt atlas position) := by
  obtain ⟨same, hosted⟩ := updateActorPosition_same atlas w position
  cases found : (w.updateActorPosition atlas position).zones w.session.currentZoneId with
  | none =>
      rw [(hosted _).mp found] at here
      cases here
  | some zone =>
      simp only [handleUpdatePosition, pending, reload, outside, seamlessCheck, same.zone, found]
      rw [crossingAt, ← same.zone]
      exact followed_seamlessLoop position _

theorem handleUpdatePosition_stays (atlas : Atlas) {w : Whereabouts} (position : Vector3 ℚ)
    (other : ¬ (w.session.pendingZoneIn = false ∧ w.session.reloadInFlight = false ∧
      w.session.activeContentZoneId ≠ some w.session.currentZoneId ∧
      (w.zones w.session.currentZoneId).isSome = true)) :
    w.handleUpdatePosition atlas position = w ∨
      w.handleUpdatePosition atlas position = w.updateActorPosition atlas position := by
  obtain ⟨same, hosted⟩ := updateActorPosition_same atlas w position
  unfold handleUpdatePosition
  split
  · exact .inl rfl
  · rename_i loaded
    obtain ⟨pending, reload⟩ := not_or.mp (mt Bool.or_eq_true_iff.mpr loaded)
    right
    split
    · rfl
    · rename_i outside
      cases found : w.zones w.session.currentZoneId with
      | none =>
          simp only [seamlessCheck, same.zone, (hosted _).mpr found]
          rfl
      | some zone =>
          refine absurd ⟨Bool.eq_false_iff.mpr pending, Bool.eq_false_iff.mpr reload, outside, ?_⟩
            other
          rw [found]
          rfl

theorem cross_outside (outside : ¬ w.Inside atlas) (position : Vector3 ℚ) {crossing : Crossing}
    (stays : match crossing with
      | .into zoneId => w.zones zoneId = none
      | .strip zoneId => w.session.mergedZoneId = some zoneId ∨ w.zones zoneId = none
      | .stay => True
      | .home => True) : ¬ (w.cross atlas position crossing).Inside atlas := by
  cases crossing with
  | stay => exact outside
  | home => exact outside
  | into zoneId =>
      simp only [cross, doSeamlessZoneChange, stays]
      exact outside
  | strip zoneId =>
      simp only [cross]
      split
      · exact outside
      · rename_i unmerged
        simp only [mergeZones, stays.resolve_left unmerged]
        exact outside

theorem step_outside (outside : ¬ w.Inside atlas) {op : LocationOp}
    (stays : ¬ w.Places atlas op) : ¬ (w.step atlas op).Inside atlas := by
  cases op with
  | applyDoZoneChange zoneId name level position client =>
      cases parked : w.session.deferWarpsUntilZoneInAck with
      | true =>
          have same : w.step atlas (.applyDoZoneChange zoneId name level position client) = w := by
            simp only [step, applyDoZoneChange, parked]
            rfl
          rwa [same]
      | false =>
          have absent : w.zones zoneId = none := by
            rw [← Option.not_isSome_iff_eq_none]
            exact fun hosted => stays ⟨parked, hosted⟩
          obtain ⟨areas, _⟩ := warp_records atlas parked zoneId name level position client
          rw [zoneChange_unhosted absent] at areas
          exact mt (inside_congr areas).mp outside
  | doZoneChange zoneId name level spawn =>
      have absent : w.zones zoneId = none := Option.not_isSome_iff_eq_none.mp stays
      have same : w.step atlas (.doZoneChange zoneId name level spawn) = w :=
        zoneChange_unhosted absent name level spawn
      rwa [same]
  | updatePosition position =>
      obtain ⟨same, hosted⟩ := updateActorPosition_same atlas w position
      have moved := mt (inside_congr same.projection).mp outside
      change ¬ (w.handleUpdatePosition atlas position).Inside atlas
      by_cases looked : w.session.pendingZoneIn = false ∧ w.session.reloadInFlight = false ∧
          w.session.activeContentZoneId ≠ some w.session.currentZoneId ∧
          (w.zones w.session.currentZoneId).isSome = true
      · obtain ⟨pending, reload, content, here⟩ := looked
        rw [handleUpdatePosition_cross atlas position pending reload content here]
        apply cross_outside moved
        have away : ∀ zoneId, ¬ (w.zones zoneId).isSome = true →
            (w.updateActorPosition atlas position).zones zoneId = none := by
          intro zoneId unhosted
          exact (hosted zoneId).mpr (Option.not_isSome_iff_eq_none.mp unhosted)
        cases towards : w.crossingAt atlas position with
        | stay => trivial
        | home => trivial
        | into zoneId =>
            refine away zoneId fun into => stays ⟨pending, reload, content, here, ?_⟩
            rw [towards]
            exact into
        | strip zoneId =>
            by_cases latched : w.session.mergedZoneId = some zoneId
            · exact .inl (same.merged.trans latched)
            · refine .inr (away zoneId fun strip => stays ⟨pending, reload, content, here, ?_⟩)
              rw [towards]
              exact ⟨latched, strip⟩
      · obtain held | updated := handleUpdatePosition_stays atlas position looked
        · rwa [held]
        · rwa [updated]
  | latches defer reload pending content => exact outside

theorem cross_inside (position : Vector3 ℚ) {crossing : Crossing}
    (enters : match crossing with
      | .into zoneId => (w.zones zoneId).isSome = true
      | .strip zoneId =>
          w.session.mergedZoneId ≠ some zoneId ∧ (w.zones zoneId).isSome = true
      | .stay => False
      | .home => False) : (w.cross atlas position crossing).Inside atlas := by
  cases crossing with
  | stay => exact enters.elim
  | home => exact enters.elim
  | into zoneId =>
      obtain ⟨zone, found⟩ := Option.isSome_iff_exists.mp enters
      simp only [cross, doSeamlessZoneChange, found]
      apply inside_attach
      rw [isSome_detach, isSome_projection_none]
      exact enters
  | strip zoneId =>
      obtain ⟨unmerged, hosted⟩ := enters
      obtain ⟨zone, found⟩ := Option.isSome_iff_exists.mp hosted
      simp only [cross, if_neg unmerged, mergeZones, found]
      exact inside_attach (isSome_projection_none.trans hosted) position

theorem step_inside {op : LocationOp} (places : w.Places atlas op) :
    (w.step atlas op).Inside atlas := by
  cases op with
  | applyDoZoneChange zoneId name level position client =>
      obtain ⟨ready, hosted⟩ := places
      obtain ⟨areas, _⟩ := warp_records atlas ready zoneId name level position client
      exact (inside_congr areas).mpr (zoneChange_inside hosted name level position)
  | doZoneChange zoneId name level spawn => exact zoneChange_inside places name level spawn
  | updatePosition position =>
      obtain ⟨pending, reload, content, here, enters⟩ := places
      obtain ⟨same, hosted⟩ := updateActorPosition_same atlas w position
      have stands : ∀ zoneId, (w.zones zoneId).isSome = true →
          ((w.updateActorPosition atlas position).zones zoneId).isSome = true := by
        intro zoneId there
        rw [Option.isSome_iff_ne_none] at there ⊢
        exact fun absent => there ((hosted zoneId).mp absent)
      change (w.handleUpdatePosition atlas position).Inside atlas
      rw [handleUpdatePosition_cross atlas position pending reload content here]
      apply cross_inside
      cases towards : w.crossingAt atlas position with
      | stay => rwa [towards] at enters
      | home => rwa [towards] at enters
      | into zoneId =>
          rw [towards] at enters
          exact stands zoneId enters
      | strip zoneId =>
          rw [towards] at enters
          exact ⟨fun latched => enters.1 (same.merged.symm.trans latched), stands zoneId enters.2⟩
  | latches defer reload pending content => exact places.elim

end Whereabouts

end Garlemald.Zone
