import Garlemald.Map.Logout

/-!
The end of a session leaves no trace of a player that no area has held and no NPC has turned on.
The areas are where it fails: nothing takes a player out of them but a move, so a session that was
put into one leaves its player there.
-/

namespace Garlemald

open Library Common

namespace Battle.BattleNpc

theorem without_eq {φ : Type} {npc : BattleNpc φ} {actorId : UInt32}
    (spared : npc.against actorId = false) : npc.without actorId = npc := by
  obtain ⟨unhated, untargeted⟩ := Bool.or_eq_false_iff.mp spared
  have hate : npc.hate.clearHate (some actorId) = npc.hate := by
    apply List.filter_eq_self.mpr
    intro e member
    have other := List.any_eq_false.mp unhated e member
    simpa using other
  rw [without, hate, untargeted]
  rfl

end Battle.BattleNpc

namespace Map

open Function (update)

structure ActorRegistry.Apart (r : ActorRegistry) (player : UInt32) : Prop where
  index : ∀ sessionId, sessionId ≠ player → r.sessionIndex sessionId ≠ some player
  actors : ∀ actorId handle, r.actors actorId = some handle → actorId ≠ player →
    handle.actorId ≠ player ∧ handle.sessionId ≠ player

structure ActorRegistry.Has (r : ActorRegistry) (player : UInt32) : Prop where
  session : r.sessionIndex player = some player
  actor : ∃ handle, r.actors player = some handle ∧ handle.actorId = player ∧
    handle.sessionId = player

/-- The player is not registered. -/
structure ActorRegistry.Lacks (r : ActorRegistry) (player : UInt32) : Prop where
  session : r.sessionIndex player = none
  actor : r.actors player = none

namespace ActorRegistry

variable {r : ActorRegistry} {player : UInt32}

theorem Has.bySession (has : r.Has player) :
    ∃ handle, r.bySession player = some handle ∧ handle.actorId = player := by
  obtain ⟨handle, found, named, _⟩ := has.actor
  refine ⟨handle, ?_, named⟩
  rw [ActorRegistry.bySession, has.session]
  exact found

theorem Lacks.bySession (lacks : r.Lacks player) : r.bySession player = none := by
  rw [ActorRegistry.bySession, lacks.session]
  rfl

variable {handle : ActorHandle}

theorem Apart.insert (apart : r.Apart player)
    (other : handle.actorId ≠ player ∧ handle.sessionId ≠ player ∨
      handle.actorId = player ∧ handle.sessionId = player) : (r.insert handle).Apart player where
  index sessionId away := by
    simp only [ActorRegistry.insert]
    split
    · by_cases same : sessionId = handle.sessionId
      · subst same
        rw [Function.update_self]
        obtain ⟨elsewhere, _⟩ | ⟨_, own⟩ := other
        · exact fun equal => elsewhere (Option.some.inj equal)
        · exact absurd own away
      · rw [Function.update_of_ne same]
        exact apart.index sessionId away
    · exact apart.index sessionId away
  actors actorId handle' found away := by
    simp only [ActorRegistry.insert] at found
    by_cases same : actorId = handle.actorId
    · subst same
      rw [Function.update_self] at found
      cases found
      obtain elsewhere | ⟨own, _⟩ := other
      · exact elsewhere
      · exact absurd own away
    · rw [Function.update_of_ne same] at found
      exact apart.actors actorId handle' found away

def SameAt (r r' : ActorRegistry) (player : UInt32) : Prop :=
  r'.sessionIndex player = r.sessionIndex player ∧ r'.actors player = r.actors player

theorem SameAt.has {r' : ActorRegistry} (same : r.SameAt r' player) (has : r.Has player) :
    r'.Has player := by
  obtain ⟨handle, found, named⟩ := has.actor
  exact ⟨same.1.trans has.session, handle, same.2.trans found, named⟩

theorem SameAt.lacks {r' : ActorRegistry} (same : r.SameAt r' player) (lacks : r.Lacks player) :
    r'.Lacks player :=
  ⟨same.1.trans lacks.session, same.2.trans lacks.actor⟩

theorem SameAt.insert (other : handle.actorId ≠ player ∧ handle.sessionId ≠ player) :
    r.SameAt (r.insert handle) player := by
  refine ⟨?_, Function.update_of_ne other.1.symm ..⟩
  simp only [ActorRegistry.insert]
  split
  · exact Function.update_of_ne other.2.symm ..
  · rfl

theorem has_insert (known : player ≠ 0) (zoneId : UInt32) :
    (r.insert ⟨player, zoneId, player⟩).Has player where
  session := by
    simp only [ActorRegistry.insert, known, ne_eq, not_false_eq_true, if_true]
    exact Function.update_self ..
  actor := by
    exact ⟨_, Function.update_self .., rfl, rfl⟩

theorem Apart.removeSession (apart : r.Apart player) (sessionId : UInt32) :
    (r.removeSession sessionId).Apart player := by
  unfold ActorRegistry.removeSession
  split
  · rename_i actorId found
    constructor
    · intro other away indexed
      dsimp only at indexed
      by_cases same : other = sessionId
      · rw [same, Function.update_self] at indexed
        cases indexed
      · rw [Function.update_of_ne same] at indexed
        exact apart.index other away indexed
    · intro other handle stored away
      dsimp only at stored
      by_cases same : other = actorId
      · rw [same, Function.update_self] at stored
        cases stored
      · rw [Function.update_of_ne same] at stored
        exact apart.actors other handle stored away
  · exact apart

theorem Has.removeSession (has : r.Has player) (apart : r.Apart player) {sessionId : UInt32}
    (other : sessionId ≠ player) : (r.removeSession sessionId).Has player := by
  unfold ActorRegistry.removeSession
  split
  · rename_i actorId found
    have elsewhere : player ≠ actorId := by
      rintro rfl
      exact apart.index sessionId other found
    constructor
    · exact (Function.update_of_ne other.symm ..).trans has.session
    · simpa only [Function.update_of_ne elsewhere] using has.actor
  · exact has

theorem Lacks.removeSession (lacks : r.Lacks player) (sessionId : UInt32) :
    (r.removeSession sessionId).Lacks player := by
  have cleared : ∀ {α : Type} (f : UInt32 → Option α) (key : UInt32), f player = none →
      update f key none player = none := by
    intro α f key absent
    by_cases same : player = key
    · rw [same, Function.update_self]
    · rwa [Function.update_of_ne same]
  unfold ActorRegistry.removeSession
  split
  · exact ⟨cleared _ _ lacks.session, cleared _ _ lacks.actor⟩
  · exact lacks

theorem Apart.handleRemoved (apart : r.Apart player) (handle : ActorHandle) :
    (Zone.handleRemoved r handle).Apart player where
  index sessionId away := by
    simp only [Zone.handleRemoved]
    split
    · by_cases same : sessionId = handle.sessionId
      · subst same
        rw [Function.update_self]
        intro indexed
        cases indexed
      · rw [Function.update_of_ne same]
        exact apart.index sessionId away
    · exact apart.index sessionId away
  actors actorId handle' found away := by
    simp only [Zone.handleRemoved] at found
    by_cases same : actorId = handle.actorId
    · subst same
      rw [Function.update_self] at found
      cases found
    · rw [Function.update_of_ne same] at found
      exact apart.actors actorId handle' found away

theorem SameAt.handleRemoved (other : handle.actorId ≠ player ∧ handle.sessionId ≠ player) :
    r.SameAt (Zone.handleRemoved r handle) player := by
  refine ⟨?_, Function.update_of_ne other.1.symm ..⟩
  simp only [Zone.handleRemoved]
  split
  · exact Function.update_of_ne other.2.symm ..
  · rfl

theorem lacks_handleRemoved (known : player ≠ 0)
    (own : handle.actorId = player ∧ handle.sessionId = player) :
    (Zone.handleRemoved r handle).Lacks player where
  session := by
    obtain ⟨actor, session⟩ := own
    subst session
    simp only [Zone.handleRemoved, if_pos known]
    exact Function.update_self ..
  actor := by
    obtain ⟨actor, session⟩ := own
    subst actor
    exact Function.update_self ..

theorem Has.moved (has : r.Has player) (registered : r.bySession player = some handle)
    (zoneId : UInt32) :
    let r' := { r with
      actors := update r.actors handle.actorId (some { handle with zoneId := zoneId }) }
    (r.Apart player → r'.Apart player) ∧ r'.Has player := by
  obtain ⟨handle', found, named, session⟩ := has.actor
  rw [ActorRegistry.bySession, has.session, Option.bind_some, found] at registered
  cases registered
  subst named
  refine ⟨fun apart => ⟨apart.index, fun actorId other stored away => ?_⟩,
    has.session, ⟨_, Function.update_self .., rfl, session⟩⟩
  dsimp only at stored
  rw [Function.update_of_ne away] at stored
  exact apart.actors actorId other stored away

theorem Has.unregistered (has : r.Has player) (apart : r.Apart player) :
    Server.Unregistered (r.removeSession player) player := by
  rw [ActorRegistry.removeSession, has.session]
  refine ⟨Function.update_self .., fun sessionId indexed => ?_, fun other handle stored => ?_⟩
  · dsimp only at indexed
    by_cases same : sessionId = player
    · rw [same, Function.update_self] at indexed
      cases indexed
    · rw [Function.update_of_ne same] at indexed
      exact apart.index sessionId same indexed
  · dsimp only at stored
    by_cases same : other = player
    · rw [same, Function.update_self] at stored
      cases stored
    · rw [Function.update_of_ne same] at stored
      exact ⟨same, apart.actors other handle stored same⟩

theorem Lacks.unregistered (lacks : r.Lacks player) (apart : r.Apart player) :
    Server.Unregistered (r.removeSession player) player := by
  have kept : r.removeSession player = r := by rw [ActorRegistry.removeSession, lacks.session]
  rw [kept]
  refine ⟨lacks.session, fun sessionId indexed => ?_, fun other handle stored => ?_⟩
  · by_cases same : sessionId = player
    · rw [same, lacks.session] at indexed
      cases indexed
    · exact apart.index sessionId same indexed
  · by_cases same : other = player
    · rw [same, lacks.actor] at stored
      cases stored
    · exact ⟨same, apart.actors other handle stored same⟩

end ActorRegistry

namespace Server

variable {θ φ : Type} {atlas : Zone.Atlas} {checked : Bool} {own : θ → Bool} {w : Server θ φ}

/-- The player is in no area, no NPC has turned on it and no client has seen it. -/
structure Spared (atlas : Zone.Atlas) (w : Server θ φ) : Prop where
  areas : Zone.Absent w.zones atlas.actorId
  npcs : ∀ actorId npc, w.npcs actorId = some npc → npc.against atlas.actorId = false
  apart : w.registry.Apart atlas.actorId
  unseen : ∀ viewer, w.seenBy viewer = false

/-- The player is registered, and all that its session has parked can be purged. -/
structure Playing (atlas : Zone.Atlas) (own : θ → Bool) (w : Server θ φ) : Prop where
  has : w.registry.Has atlas.actorId
  parked : ∀ s, w.scheduler = some s → s.Parked (Named own atlas.actorId)

/-- The player is not registered, and nothing of it is parked. -/
structure Away (atlas : Zone.Atlas) (own : θ → Bool) (w : Server θ φ) : Prop where
  lacks : w.registry.Lacks atlas.actorId
  parked : ∀ s, w.scheduler = some s → s.Free (mine own atlas.actorId) atlas.actorId

/-- A server from which a player can go without a trace. -/
structure Clean (atlas : Zone.Atlas) (own : θ → Bool) (w : Server θ φ) : Prop where
  spared : w.Spared atlas
  mode : w.Playing atlas own ∨ w.Away atlas own

theorem absent_editArea (absent : Zone.Absent w.zones atlas.actorId) (zoneId : UInt32)
    (place : Zone.Place) {f : Zone.SortedCore → Zone.SortedCore}
    (keeps : ∀ core, core.val.actors.lookup atlas.actorId = none →
      (f core).val.actors.lookup atlas.actorId = none) :
    Zone.Absent (w.editArea zoneId place f).zones atlas.actorId := by
  intro zoneId' zone' place' core hosted found
  by_cases here : zoneId' = zoneId
  · subst here
    simp only [editArea, Function.update_self, Option.map_eq_some_iff] at hosted
    obtain ⟨zone, before, rfl⟩ := hosted
    rw [Zone.find_edit] at found
    split at found
    · obtain ⟨old, stood, rfl⟩ := Option.map_eq_some_iff.mp found
      exact keeps old (absent _ zone _ old before stood)
    · exact absent _ zone _ core before found
  · simp only [editArea, Function.update_of_ne here] at hosted
    exact absent _ _ _ core hosted found

variable {there : Zone.Whereabouts}

theorem whereabouts_eq {handle : ActorHandle} {s : PlayerRecord}
    (found : w.whereabouts atlas = some (handle, s, there)) :
    w.registry.bySession atlas.actorId = some handle ∧ there.zones = w.zones ∧
      there.session = s.location := by
  obtain ⟨handle', registered, rest⟩ := Option.bind_eq_some_iff.mp found
  obtain ⟨s', _, same⟩ := Option.bind_eq_some_iff.mp rest
  cases same
  exact ⟨registered, rfl, rfl⟩

theorem move_eq {handle : ActorHandle} {s : PlayerRecord}
    (found : w.whereabouts atlas = some (handle, s, there))
    (f : Zone.Whereabouts → Zone.Whereabouts) : (w.move atlas f).zones = (f there).zones := by
  rw [Server.move, found]

theorem Away.move (away : w.Away atlas own) (f : Zone.Whereabouts → Zone.Whereabouts) :
    w.move atlas f = w := by
  have nowhere : w.whereabouts atlas = none := by
    rw [whereabouts, away.lacks.bySession]
    rfl
  rw [Server.move, nowhere]

theorem Clean.move (held : w.Clean atlas own) {f : Zone.Whereabouts → Zone.Whereabouts}
    (outside : ∀ handle s there, w.whereabouts atlas = some (handle, s, there) →
      ¬ there.Inside atlas → ¬ (f there).Inside atlas) : (w.move atlas f).Clean atlas own := by
  obtain ⟨spared, playing | away⟩ := held
  · unfold Server.move
    cases found : w.whereabouts atlas with
    | none => exact ⟨spared, .inl playing⟩
    | some view =>
        obtain ⟨handle, s, there⟩ := view
        obtain ⟨registered, zones, _⟩ := whereabouts_eq found
        have before : ¬ there.Inside atlas := by
          rw [Zone.Whereabouts.outside_iff, zones]
          exact spared.areas
        have after := outside handle s there found before
        obtain ⟨apart, has⟩ := playing.has.moved registered (f there).handleZoneId
        exact ⟨⟨Zone.Whereabouts.outside_iff.mp after, spared.npcs, apart spared.apart,
          spared.unseen⟩, .inl ⟨has, playing.parked⟩⟩
  · rw [away.move]
    exact ⟨spared, .inr away⟩

theorem Clean.enterZone (held : w.Clean atlas own) (spawn : Vector3 ℚ)
    (unhosted : ∀ handle s there, w.whereabouts atlas = some (handle, s, there) →
      w.zones s.location.currentZoneId = none) : (w.enterZone atlas spawn).Clean atlas own := by
  apply held.move
  intro handle s there found outside
  obtain ⟨_, zones, session⟩ := whereabouts_eq found
  have absent : there.zones there.session.currentZoneId = none := by
    rw [zones, session]
    exact unhosted handle s there found
  rwa [Zone.Whereabouts.zoneChange_unhosted absent]

variable {s : Lua.CoroutineScheduler θ}

theorem named_of_free {player : UInt32} (free : s.Free (mine own player) player) :
    s.Parked (Named own player) := by
  intro wait c filed session
  have other := (free.parked wait c filed).1
  rw [mine, session] at other
  cases other

theorem Clean.begun (held : w.Clean atlas own) (known : atlas.actorId ≠ 0) :
    (w.begun atlas).Clean atlas own := by
  obtain ⟨spared, mode⟩ := held
  refine ⟨⟨spared.areas, spared.npcs, spared.apart.insert (.inr ⟨rfl, rfl⟩), spared.unseen⟩,
    .inl ⟨ActorRegistry.has_insert known _, fun s found => ?_⟩⟩
  obtain playing | away := mode
  · exact playing.parked s found
  · exact named_of_free (away.parked s found)

theorem Clean.of_same (held : w.Clean atlas own) {w' : Server θ φ} (spared : w'.Spared atlas)
    (has : w.registry.Has atlas.actorId → w'.registry.Has atlas.actorId)
    (lacks : w.registry.Lacks atlas.actorId → w'.registry.Lacks atlas.actorId)
    (scheduler : w'.scheduler = w.scheduler) : w'.Clean atlas own := by
  refine ⟨spared, ?_⟩
  obtain playing | away := held.mode
  · exact .inl ⟨has playing.has, scheduler ▸ playing.parked⟩
  · exact .inr ⟨lacks away.lacks, scheduler ▸ away.parked⟩

theorem Clean.of_sameAt (held : w.Clean atlas own) {w' : Server θ φ} (spared : w'.Spared atlas)
    (same : w.registry.SameAt w'.registry atlas.actorId)
    (scheduler : w'.scheduler = w.scheduler) : w'.Clean atlas own :=
  held.of_same spared same.has same.lacks scheduler

theorem Clean.shown (held : w.Clean atlas own) (viewer : UInt32) (stream : Zone.Stream)
    {send : Zone.Stream → Zone.Stream}
    (unseen : ∀ s : Zone.Stream, Zone.Absent s.whereabouts.zones atlas.actorId →
      atlas.actorId ∉ s.shown → atlas.actorId ∉ (send s).shown) :
    (w.shown atlas viewer stream send).Clean atlas own := by
  obtain ⟨areas, npcs, apart, before⟩ := held.spared
  refine held.of_same ⟨areas, npcs, apart, fun viewer' => ?_⟩ id id rfl
  simp only [Server.shown]
  by_cases same : viewer' = viewer
  · subst same
    rw [Function.update_self]
    apply decide_eq_false
    apply unseen
    · exact areas
    · simp [before viewer']
  · rw [Function.update_of_ne same]
    exact before viewer'

theorem spared_npcs {player npcId : UInt32} {npcs : UInt32 → Option (Battle.BattleNpc φ)}
    {changed : Option (Battle.BattleNpc φ)}
    (held : ∀ actorId npc, npcs actorId = some npc → npc.against player = false)
    (after : ∀ npc, changed = some npc → npc.against player = false) :
    ∀ actorId npc, update npcs npcId changed actorId = some npc →
      npc.against player = false := by
  intro actorId npc found
  by_cases same : actorId = npcId
  · rw [same, Function.update_self] at found
    exact after npc found
  · rw [Function.update_of_ne same] at found
    exact held actorId npc found

theorem Clean.otherSession (held : w.Clean atlas own) (sessionId zoneId : UInt32)
    (session : Option Zone.Session) :
    (w.otherSession atlas sessionId zoneId session).Clean atlas own := by
  unfold Server.otherSession
  split
  · exact held
  · rename_i other
    obtain ⟨areas, npcs, apart, unseen⟩ := held.spared
    cases session with
    | none =>
        exact held.of_same ⟨areas, npcs, apart.removeSession sessionId, unseen⟩
          (·.removeSession apart other) (·.removeSession sessionId) rfl
    | some there =>
        exact held.of_sameAt ⟨areas, npcs, apart.insert (.inl ⟨other, other⟩), unseen⟩
          (.insert ⟨other, other⟩) rfl

theorem Clean.spawnNpc (held : w.Clean atlas own) (known : atlas.actorId ≠ 0)
    {actorId zoneId : UInt32} {npc : Battle.BattleNpc φ}
    (fits : actorId = atlas.actorId ∨ npc.against atlas.actorId = false) :
    (w.spawnNpc atlas actorId zoneId npc).Clean atlas own := by
  unfold Server.spawnNpc
  split
  · exact held
  · rename_i other
    obtain ⟨areas, npcs, apart, unseen⟩ := held.spared
    have after : ∀ npc', some npc = some npc' → npc'.against atlas.actorId = false := by
      intro npc' same
      cases same
      exact fits.resolve_left other
    exact held.of_sameAt ⟨areas, spared_npcs npcs after,
      apart.insert (.inl ⟨other, known.symm⟩), unseen⟩ (.insert ⟨other, known.symm⟩) rfl

theorem Clean.area (held : w.Clean atlas own) (zoneId : UInt32) (place : Zone.Place)
    (op : Zone.AreaOperation) : (w.area atlas zoneId place op).Clean atlas own := by
  unfold Server.area
  split
  · exact held
  · rename_i other
    obtain ⟨areas, npcs, apart, unseen⟩ := held.spared
    refine held.of_same ⟨?_, npcs, apart, unseen⟩ id id rfl
    apply absent_editArea areas
    intro core absent
    apply Zone.SortedCore.operate_absent absent
    rintro actor rfl same
    exact other (congrArg some same)

theorem Clean.applyDespawnActor (held : w.Clean atlas own) (known : atlas.actorId ≠ 0)
    {actorId : UInt32} (fits : actorId = atlas.actorId →
      ∀ handle, w.registry.actors actorId = some handle →
        (w.zones handle.zoneId).isSome = true →
        ∀ s, w.scheduler = some s → s.Free (mine own atlas.actorId) atlas.actorId) :
    (w.applyDespawnActor atlas checked actorId).Clean atlas own := by
  unfold Server.applyDespawnActor
  cases found : w.registry.actors actorId with
  | none => exact held
  | some handle =>
      simp only
      cases hosted : w.zones handle.zoneId with
      | none => exact held
      | some zone =>
          obtain ⟨areas, npcs, apart, unseen⟩ := held.spared
          have spared : Spared atlas
              { w.editArea handle.zoneId none fun core => (core.removeActor actorId).1 with
                registry := Zone.handleRemoved w.registry handle
                npcs := update w.npcs actorId none
                seenBy := fun viewer => w.seenBy viewer && !(actorId == atlas.actorId &&
                  ((Zone.recipients (w.world atlas) w.registry checked zone
                    actorId).getD []).contains viewer) } :=
            ⟨absent_editArea areas handle.zoneId none fun core absent =>
                Zone.SortedCore.absent_removeActor absent actorId,
              spared_npcs npcs (by simp), apart.handleRemoved handle,
              fun viewer => by simp [unseen viewer]⟩
          by_cases own_ : actorId = atlas.actorId
          · subst own_
            obtain playing | away := held.mode
            · obtain ⟨handle', stored, named⟩ := playing.has.actor
              rw [found] at stored
              cases stored
              refine ⟨spared, .inr ⟨ActorRegistry.lacks_handleRemoved known named, ?_⟩⟩
              exact fits rfl handle found (by rw [hosted]; rfl)
            · rw [away.lacks.actor] at found
              cases found
          · have elsewhere := apart.actors actorId handle found own_
            exact held.of_sameAt spared (.handleRemoved elsewhere) rfl

theorem Clean.contentFinished (held : w.Clean atlas own) (directorId : UInt32) :
    (w.contentFinished atlas directorId).Clean atlas own := by
  obtain ⟨areas, npcs, apart, unseen⟩ := held.spared
  refine ⟨⟨areas, npcs, apart, unseen⟩, ?_⟩
  obtain playing | away := held.mode
  · obtain ⟨handle, registered, _⟩ := playing.has.bySession
    refine .inl ⟨playing.has, fun s found => ?_⟩
    simp only [Server.contentFinished, registered] at found
    split at found
    · exact playing.parked s found
    · obtain ⟨before, parked, rfl⟩ := Option.map_eq_some_iff.mp found
      refine (playing.parked before parked).apply (e := .purgeOwner handle.actorId) ?_
      intro wait c parks
      cases parks
  · refine .inr ⟨away.lacks, fun s found => ?_⟩
    simp only [Server.contentFinished, away.lacks.bySession] at found
    exact away.parked s found

theorem Clean.script (held : w.Clean atlas own) {event : Lua.Event θ}
    (fits : ∀ s, w.scheduler = some s → w.ParksWell atlas own event) :
    Clean atlas own { w with scheduler := w.scheduler.map (·.apply event) } := by
  obtain ⟨areas, npcs, apart, unseen⟩ := held.spared
  refine ⟨⟨areas, npcs, apart, unseen⟩, ?_⟩
  obtain playing | away := held.mode
  · obtain ⟨handle, registered, _⟩ := playing.has.bySession
    refine .inl ⟨playing.has, fun s found => ?_⟩
    obtain ⟨before, parked, rfl⟩ := Option.map_eq_some_iff.mp found
    have named := fits before parked
    simp only [ParksWell, registered] at named
    exact (playing.parked before parked).apply named
  · refine .inr ⟨away.lacks, fun s found => ?_⟩
    obtain ⟨before, parked, rfl⟩ := Option.map_eq_some_iff.mp found
    have well := fits before parked
    simp only [ParksWell, away.lacks.bySession] at well
    have free := away.parked before parked
    exact ⟨free.parked.apply well.1, Lua.CoroutineScheduler.context_apply free.context well.2⟩

theorem Clean.step [F32 φ] (held : w.Clean atlas own) (known : atlas.actorId ≠ 0)
    {e : Occurrence θ φ} (fits : w.Fits atlas own e) :
    (w.step atlas checked e).Clean atlas own := by
  cases e with
  | sessionBegin isLogin spawn =>
      change (w.handleSessionBegin atlas isLogin spawn).Clean atlas own
      cases isLogin with
      | true => exact held.begun known
      | false =>
          apply (held.begun known).enterZone spawn
          intro handle s there found
          obtain ⟨handle', _, rest⟩ := Option.bind_eq_some_iff.mp found
          cases rest
          exact fits.resolve_left (by simp)
  | languageCode spawn => exact held.enterZone spawn fits
  | location op =>
      apply held.move
      intro handle s there found outside
      exact Zone.Whereabouts.step_outside outside (fits handle s there found)
  | fill content retainer =>
      obtain ⟨areas, npcs, apart, unseen⟩ := held.spared
      exact held.of_same ⟨areas, npcs, apart, unseen⟩ id id rfl
  | contentFinished directorId => exact held.contentFinished directorId
  | area zoneId place op => exact held.area zoneId place op
  | spawnNpc actorId zoneId npc => exact held.spawnNpc known fits
  | despawnActor actorId => exact held.applyDespawnActor known fits
  | npc actorId happening =>
      obtain ⟨areas, npcs, apart, unseen⟩ := held.spared
      refine held.of_same ⟨areas, spared_npcs npcs fun after found => ?_, apart, unseen⟩ id id rfl
      obtain ⟨npc, before, happened⟩ := Option.bind_eq_some_iff.mp found
      exact fits npc after before happened
  | script event => exact held.script fits
  | otherSession sessionId zoneId session => exact held.otherSession sessionId zoneId session
  | sendZoneInBundle viewer stream recipe position =>
      exact held.shown viewer stream fun s absent unseen =>
        Zone.Stream.sendZoneInBundle_unseen absent unseen recipe position
  | sendInstanceUpdate viewer stream =>
      exact held.shown viewer stream fun s absent unseen =>
        Zone.Stream.sendInstanceUpdate_unseen absent unseen

theorem forgotten_eq (areas : Zone.Absent w.zones atlas.actorId)
    (npcs : ∀ actorId npc, w.npcs actorId = some npc → npc.against atlas.actorId = false)
    (parked : ∀ s, w.scheduler = some s → s.Free (mine own atlas.actorId) atlas.actorId)
    (unseen : ∀ viewer, w.seenBy viewer = false) : w.forgotten atlas own = w := by
  have zones : (fun zoneId => (w.zones zoneId).map fun zone => zone.without atlas.actorId) =
      w.zones := by
    funext zoneId
    cases hosted : w.zones zoneId with
    | none => rfl
    | some zone =>
        exact congrArg some (Zone.without_eq fun place core => areas zoneId zone place core hosted)
  have fighters : (fun actorId => (w.npcs actorId).map fun npc => npc.without atlas.actorId) =
      w.npcs := by
    funext actorId
    cases found : w.npcs actorId with
    | none => rfl
    | some npc => exact congrArg some (Battle.BattleNpc.without_eq (npcs actorId npc found))
  have scheduler : (w.scheduler.map fun s =>
      s.without (mine own atlas.actorId) atlas.actorId) = w.scheduler := by
    cases found : w.scheduler with
    | none => rfl
    | some s => exact congrArg some (parked s found).without_eq
  have screens : (fun _ => false) = w.seenBy := (funext unseen).symm
  rw [forgotten, zones, fighters, scheduler, screens]

theorem Clean.parked_end (held : w.Clean atlas own) (known : atlas.actorId ≠ 0)
    (found : (w.handleSessionEnd atlas).scheduler = some s) :
    s.Free (mine own atlas.actorId) atlas.actorId := by
  obtain playing | away := held.mode
  · obtain ⟨handle, registered, named⟩ := playing.has.bySession
    simp only [Server.handleSessionEnd, registered, named] at found
    obtain ⟨before, parked, rfl⟩ := Option.map_eq_some_iff.mp found
    refine ⟨fun wait c filed => ?_, Lua.CoroutineScheduler.purgeOwner_context known before⟩
    obtain ⟨old, owner, key⟩ := (Lua.CoroutineScheduler.filed_purgeOwner known).mp filed
    refine ⟨Bool.or_eq_false_iff.mpr ⟨Bool.eq_false_iff.mpr fun session => ?_,
      beq_eq_false_iff_ne.mpr owner⟩, key⟩
    obtain same | same := playing.parked before parked wait c old session
    · exact owner same
    · exact key same
  · simp only [Server.handleSessionEnd, away.lacks.bySession] at found
    exact away.parked s found

theorem Clean.handleSessionEnd [F32 φ] (held : w.Clean atlas own) (known : atlas.actorId ≠ 0) :
    (w.handleSessionEnd atlas).NoTrace atlas checked own := by
  have registry : Unregistered (w.registry.removeSession atlas.actorId) atlas.actorId := by
    obtain playing | away := held.mode
    · exact playing.has.unregistered held.spared.apart
    · exact away.lacks.unregistered held.spared.apart
  obtain ⟨areas, npcs, _, unseen⟩ := held.spared
  refine ⟨areas, npcs, rfl, Function.update_self .., registry,
    fun s found => held.parked_end known found, unseen, fun es => ?_⟩
  have same := forgotten_eq (w := w.handleSessionEnd atlas) areas npcs
    (fun s found => held.parked_end known found) unseen
  rw [same]

theorem NoTrace.clean [F32 φ] (held : w.NoTrace atlas checked own) : w.Clean atlas own where
  spared := by
    refine ⟨held.areas, held.npcs, ⟨fun sessionId _ => held.registry.index sessionId,
      fun actorId handle found _ => (held.registry.actors actorId handle found).2⟩, held.removed⟩
  mode := by
    refine .inr ⟨⟨held.registry.session, ?_⟩, held.parked⟩
    cases found : w.registry.actors atlas.actorId with
    | none => rfl
    | some handle => exact absurd rfl (held.registry.actors _ handle found).1

section Traced

variable [F32 φ]

variable {handle : ActorHandle}

theorem traced_move {s : PlayerRecord} (found : w.whereabouts atlas = some (handle, s, there))
    {f : Zone.Whereabouts → Zone.Whereabouts} (inside : (f there).Inside atlas) :
    ¬ ((w.move atlas f).handleSessionEnd atlas).NoTrace atlas checked own := by
  intro clean
  have absent : Zone.Absent (w.move atlas f).zones atlas.actorId := clean.areas
  rw [move_eq found] at absent
  exact Zone.Whereabouts.outside_iff.mpr absent inside

theorem traced_enterZone {s : PlayerRecord} (found : w.whereabouts atlas = some (handle, s, there))
    (hosted : w.zones s.location.currentZoneId ≠ none) (spawn : Vector3 ℚ) :
    ¬ ((w.enterZone atlas spawn).handleSessionEnd atlas).NoTrace atlas checked own := by
  apply traced_move found
  obtain ⟨_, zones, session⟩ := whereabouts_eq found
  apply Zone.Whereabouts.zoneChange_inside
  rw [zones, session]
  exact Option.isSome_iff_ne_none.mpr hosted

theorem traced_npc {actorId : UInt32} {npc : Battle.BattleNpc φ}
    (found : w.npcs actorId = some npc) (against : npc.against atlas.actorId ≠ false) :
    ¬ (w.handleSessionEnd atlas).NoTrace atlas checked own := fun clean =>
  against (clean.npcs actorId npc found)

theorem Clean.traced_script (held : w.Clean atlas own) (known : atlas.actorId ≠ 0)
    {event : Lua.Event θ} (found : w.scheduler = some s) (misfit : ¬ w.ParksWell atlas own event) :
    ¬ (Server.handleSessionEnd atlas
      { w with scheduler := w.scheduler.map (·.apply event) }).NoTrace atlas checked own := by
  intro clean
  obtain playing | away := held.mode
  · obtain ⟨handle, registered, named⟩ := playing.has.bySession
    simp only [ParksWell, registered, not_forall] at misfit
    obtain ⟨wait, c, parks, unnamed⟩ := misfit
    obtain ⟨session, other⟩ := Classical.not_imp.mp unnamed
    obtain ⟨owner, key⟩ := not_or.mp other
    have left := clean.parked ((s.apply event).purgeOwner atlas.actorId).2 (by
      simp only [Server.handleSessionEnd, registered, named, found, Option.map_some])
    have filed := (Lua.CoroutineScheduler.filed_purgeOwner known).mpr
      ⟨Lua.CoroutineScheduler.filed_parked (s := s) parks, owner, key⟩
    have strange := (left.parked wait c filed).1
    rw [mine, session] at strange
    cases strange
  · have left := clean.parked (s.apply event) (by
      simp only [Server.handleSessionEnd, away.lacks.bySession, found, Option.map_some])
    simp only [ParksWell, away.lacks.bySession] at misfit
    refine misfit ⟨fun wait c parks => ?_, fun owner same => ?_⟩
    · exact left.parked wait c (Lua.CoroutineScheduler.filed_parked parks)
    · subst same
      have context : (s.eventOwnerContext.insert atlas.actorId owner).lookup atlas.actorId =
          none := left.context
      rw [AList.lookup_insert] at context
      cases context

theorem Clean.traced_despawn (held : w.Clean atlas own) (known : atlas.actorId ≠ 0)
    (found : w.registry.actors atlas.actorId = some handle)
    (hosted : (w.zones handle.zoneId).isSome = true) (parked : w.scheduler = some s)
    (left : ¬ s.Free (mine own atlas.actorId) atlas.actorId) :
    ¬ ((w.applyDespawnActor atlas checked atlas.actorId).handleSessionEnd atlas).NoTrace
      atlas checked own := by
  intro clean
  obtain ⟨zone, there⟩ := Option.isSome_iff_exists.mp hosted
  obtain playing | away := held.mode
  · obtain ⟨handle', stored, named⟩ := playing.has.actor
    rw [found] at stored
    cases stored
    have gone := (ActorRegistry.lacks_handleRemoved (r := w.registry) known named).bySession
    refine left (clean.parked s ?_)
    simp only [Server.applyDespawnActor, found, there, Server.handleSessionEnd, gone]
    exact parked
  · rw [away.lacks.actor] at found
    cases found

theorem Clean.spoilt (held : w.Clean atlas own) (known : atlas.actorId ≠ 0)
    {e : Occurrence θ φ} (misfit : ¬ w.Fits atlas own e) :
    ¬ ((w.step atlas checked e).handleSessionEnd atlas).NoTrace atlas checked own := by
  cases e with
  | sessionBegin isLogin spawn =>
      obtain ⟨transfer, hosted⟩ := not_or.mp misfit
      change ¬ ((w.handleSessionBegin atlas isLogin spawn).handleSessionEnd atlas).NoTrace _ _ _
      rw [handleSessionBegin, if_neg transfer]
      obtain ⟨handle, registered, _⟩ := (ActorRegistry.has_insert (r := w.registry) known
        w.row.currentZoneId).bySession
      have found : (w.begun atlas).whereabouts atlas = some (handle,
          ⟨w.row.session, w.row.currentZoneId, {}, none⟩,
          ⟨w.zones, w.row.session, handle.zoneId, w.row.currentZoneId, w.row⟩) := by
        rw [whereabouts, Server.begun, registered]
        rfl
      exact traced_enterZone found hosted spawn
  | languageCode spawn =>
      simp only [Fits, not_forall] at misfit
      obtain ⟨handle, s, there, found, hosted⟩ := misfit
      exact traced_enterZone found hosted spawn
  | location op =>
      simp only [Fits, not_forall, not_not] at misfit
      obtain ⟨handle, s, there, found, places⟩ := misfit
      exact traced_move found (Zone.Whereabouts.step_inside places)
  | spawnNpc actorId zoneId npc =>
      obtain ⟨other, against⟩ := not_or.mp misfit
      change ¬ ((w.spawnNpc atlas actorId zoneId npc).handleSessionEnd atlas).NoTrace _ _ _
      rw [Server.spawnNpc, if_neg other]
      exact traced_npc (Function.update_self ..) against
  | despawnActor actorId =>
      simp only [Fits, not_forall] at misfit
      obtain ⟨same, handle, found, hosted, s, parked, left⟩ := misfit
      subst same
      exact held.traced_despawn known found hosted parked left
  | npc actorId happening =>
      simp only [Fits, not_forall] at misfit
      obtain ⟨npc, after, found, happened, against⟩ := misfit
      have turned : (w.step atlas checked (.npc actorId happening)).npcs actorId = some after := by
        refine (Function.update_self ..).trans ?_
        rw [found]
        exact happened
      exact traced_npc turned against
  | script event =>
      simp only [Fits, not_forall] at misfit
      obtain ⟨s, found, unfit⟩ := misfit
      exact held.traced_script known found unfit
  | fill content retainer => exact absurd trivial misfit
  | contentFinished directorId => exact absurd trivial misfit
  | area zoneId place op => exact absurd trivial misfit
  | otherSession sessionId zoneId session => exact absurd trivial misfit
  | sendZoneInBundle viewer stream recipe position => exact absurd trivial misfit
  | sendInstanceUpdate viewer stream => exact absurd trivial misfit

end Traced

/-- In every state that a server reaches after it had no trace of a player, the end of the session
leaves none exactly if each step of the run meets the condition. -/
theorem logout_traceless_iff [F32 φ] (atlas : Zone.Atlas) (checked : Bool) (own : θ → Bool)
    (known : atlas.actorId ≠ 0) {w : Server θ φ} (start : w.NoTrace atlas checked own)
    (es : List (Occurrence θ φ)) :
    Always (fun w e => some (w.step atlas checked e))
        (fun w => (w.handleSessionEnd atlas).NoTrace atlas checked own) w es ↔
      EachStep (fun w e => some (w.step atlas checked e)) (fun w e => w.Fits atlas own e) w es := by
  have clean := start.clean
  refine always_iff_eachStep (I := fun w => w.Clean atlas own) ?_ ?_ clean
    (clean.handleSessionEnd known)
  · intro w e w' inside _ taken
    cases Option.some.inj taken
    constructor
    · intro traceless
      by_contra misfit
      exact inside.spoilt known misfit traceless
    · intro fits
      exact (inside.step known fits).handleSessionEnd known
  · intro w e w' inside _ fits taken
    cases Option.some.inj taken
    exact inside.step known fits

theorem deserted_sorted : (Zone.AreaCore.new 128 false).Sorted :=
  Zone.AreaCore.empty_sorted _ rfl rfl

/-- A server with one empty zone, in which the character was last, and an empty scheduler. -/
def quiet : Server Unit ℚ where
  zones id :=
    if id = 128 then
      some ⟨⟨.new 128 false, deserted_sorted⟩, fun _ => none⟩
    else none
  registry := {}
  session := none
  others _ := none
  clients _ := false
  row := ⟨128, [], 0⟩
  npcs _ := none
  scheduler := some {}
  seenBy _ := false

theorem quiet_traceless (own : Unit → Bool) : quiet.NoTrace Zone.Stream.plain false own := by
  have areas : Zone.Absent quiet.zones 1 := by
    intro zoneId zone place core hosted found
    simp only [quiet] at hosted
    split at hosted
    · cases hosted
      cases place with
      | none =>
          cases found
          rfl
      | some name => cases found
    · cases hosted
  have parked : ∀ s, quiet.scheduler = some s → s.Free (mine own 1) 1 := by
    rintro s ⟨⟩
    refine ⟨fun wait c filed => ?_, rfl⟩
    cases wait with
    | time wakeAt => cases filed
    | signal name => cases filed
    | event key => cases filed
  refine ⟨areas, fun _ _ found => ?_, rfl, rfl, ⟨rfl, fun _ indexed => ?_, fun _ _ found => ?_⟩,
    parked, fun _ => rfl, fun es => ?_⟩
  · cases found
  · cases indexed
  · cases found
  · rw [forgotten_eq areas (fun _ _ found => by cases found) parked
      fun _ => rfl]

theorem logout_traceless_talk :
    Always (fun w e => some (step Zone.Stream.plain false w e))
      (fun w =>
        (w.handleSessionEnd Zone.Stream.plain).NoTrace Zone.Stream.plain false fun _ => true)
      quiet [.sessionBegin true ⟨0, 0, 0⟩, .script (.parkEvent 1 ⟨(), 1⟩)] := by
  refine (logout_traceless_iff Zone.Stream.plain false (fun _ => true) (by decide)
    (quiet_traceless _) _).mpr ?_
  rintro _ ⟨⟩
  refine ⟨.inl rfl, ?_⟩
  rintro _ ⟨⟩
  refine ⟨fun _ _ => ?_, trivial⟩
  intro wait c parks _
  cases parks
  exact .inl rfl

theorem logout_leaves_player : quiet.NoTrace Zone.Stream.plain false (fun _ => true) ∧
    ¬ Always (fun w e => some (step Zone.Stream.plain false w e))
      (fun w =>
        (w.handleSessionEnd Zone.Stream.plain).NoTrace Zone.Stream.plain false fun _ => true)
      quiet [.sessionBegin true ⟨0, 0, 0⟩, .languageCode ⟨0, 0, 0⟩] := by
  refine ⟨quiet_traceless _, fun held => ?_⟩
  have ended := always_iff_reached.mp held _ List.prefix_rfl _ rfl
  have absent := fun zone hosted => ended.areas 128 zone none zone.core hosted rfl
  have left : (((((quiet.step Zone.Stream.plain false (.sessionBegin true ⟨0, 0, 0⟩)).step
      Zone.Stream.plain false (.languageCode ⟨0, 0, 0⟩)).zones 128).map fun zone =>
        (zone.core.val.actors.lookup 1).isSome) = some true) := by
    decide
  obtain ⟨zone, hosted, present⟩ := Option.map_eq_some_iff.mp left
  have gone : zone.core.val.actors.lookup 1 = none := absent zone hosted
  rw [gone] at present
  cases present

end Server

end Map

end Garlemald
