import Garlemald.Library.Runs
import Garlemald.Npc.Spawner

/-!
Spawns of every kind in any order: which actors share an id, when a spawn finds the id it was given
free, and whose list the actor lands on.
-/

namespace Garlemald.Npc

open Library Common Content

def Origin.number : Origin → ℕ
  | .player => 0
  | .seed actorNumber _ => actorNumber.toNat % 2 ^ 19
  | .battleNpc bnpcId => 2 ^ 18 + bnpcId.toNat % 2 ^ 18
  | .named uniqueId => 2 ^ 18 + 2 ^ 17 + (murmurHash2 uniqueId 0).toNat % 2 ^ 12 + 5

theorem Origin.number_lt (origin : Origin) : origin.number < 2 ^ 19 := by
  cases origin with
  | player => decide
  | seed actorNumber uniqueId => exact Nat.mod_lt _ (by decide)
  | battleNpc bnpcId =>
      have := Nat.mod_lt bnpcId.toNat (show 0 < 2 ^ 18 by decide)
      rw [number]
      omega
  | named uniqueId =>
      have := Nat.mod_lt (murmurHash2 uniqueId 0).toNat (show 0 < 2 ^ 12 by decide)
      rw [number]
      omega

def idOf (zoneId : UInt32) (number : ℕ) : UInt32 := compositeId zoneId (UInt32.ofNat number)

theorem toNat_ofNat {number : ℕ} (small : number < 2 ^ 19) :
    (UInt32.ofNat number).toNat = number :=
  UInt32.toNat_ofNat_of_lt' (Nat.lt_trans small (by decide))

theorem idOf_eq_iff (zone zone' : UInt32) {number number' : ℕ} (small : number < 2 ^ 19)
    (small' : number' < 2 ^ 19) :
    idOf zone number = idOf zone' number' ↔ zoneBits zone = zoneBits zone' ∧ number = number' := by
  rw [idOf, idOf, compositeId_eq_iff, toNat_ofNat small, toNat_ofNat small',
    Nat.mod_eq_of_lt small, Nat.mod_eq_of_lt small']

theorem compositeId_eq_idOf (zoneId actorNumber : UInt32) :
    compositeId zoneId actorNumber = idOf zoneId (actorNumber.toNat % 2 ^ 19) := by
  rw [idOf, compositeId_eq_iff, toNat_ofNat (Nat.mod_lt _ (by decide)), Nat.mod_mod]
  exact ⟨rfl, rfl⟩

/-- An actor has the id of a number in a zone: one that is no player if its zone has the same bits
and its own number is that one. -/
def ActorHandle.Has (handle : ActorHandle) (zoneId : UInt32) (number : ℕ) : Prop :=
  match handle.origin with
  | .player => handle.actorId = idOf zoneId number
  | origin => zoneBits handle.zoneId = zoneBits zoneId ∧ origin.number = number

variable {handle : ActorHandle} {w' : World}

namespace World

/-- No actor that lives has the number in the zone. -/
def Free (w : World) (zoneId : UInt32) (number : ℕ) : Prop :=
  ∀ id handle, w.registry.lookup id = some handle → ¬ handle.Has zoneId number

/-- Every actor stands under its id, which is that of its number if it is no player. -/
def Named (w : World) : Prop :=
  ∀ id handle, w.registry.lookup id = some handle → handle.actorId = id ∧
    (handle.origin ≠ .player → id = idOf handle.zoneId handle.origin.number)

variable {w : World}

theorem lookup_eq_none_iff (named : w.Named) (zoneId : UInt32) {number : ℕ}
    (small : number < 2 ^ 19) :
    w.registry.lookup (idOf zoneId number) = none ↔ w.Free zoneId number := by
  have same {id : UInt32} {handle : ActorHandle} (found : w.registry.lookup id = some handle) :
      handle.Has zoneId number ↔ id = idOf zoneId number := by
    obtain ⟨key, packed⟩ := named id handle found
    rw [ActorHandle.Has]
    cases made : handle.origin with
    | player => rw [key]
    | _ =>
        rw [packed (by simp [made]), idOf_eq_iff _ _ (Origin.number_lt _) small, made]
  constructor
  · intro nobody id handle found has
    rw [(same found).mp has, nobody] at found
    cases found
  · intro free
    rw [Option.eq_none_iff_forall_ne_some]
    intro handle found
    exact free _ handle found ((same found).mpr rfl)

theorem free_insert_iff {zoneId : UInt32} {number : ℕ} {id : UInt32}
    (fresh : w.registry.lookup id = none) (registry : w'.registry = w.registry.insert id handle) :
    w'.Free zoneId number ↔ ¬ handle.Has zoneId number ∧ w.Free zoneId number := by
  constructor
  · intro free
    refine ⟨free id handle (by rw [registry, AList.lookup_insert]), ?_⟩
    intro other handle' found
    apply free other handle'
    rw [registry, AList.lookup_insert_ne]
    · exact found
    · rintro rfl
      rw [fresh] at found
      cases found
  · intro both other handle' found
    rw [registry] at found
    by_cases same : other = id
    · rw [same, AList.lookup_insert] at found
      cases found
      exact both.1
    · rw [AList.lookup_insert_ne same] at found
      exact both.2 other handle' found

theorem Named.insert (named : w.Named) {id : UInt32}
    (registry : w'.registry = w.registry.insert id handle) (key : handle.actorId = id)
    (packed : handle.origin ≠ .player → id = idOf handle.zoneId handle.origin.number) :
    w'.Named := by
  intro other handle' found
  rw [registry] at found
  by_cases same : other = id
  · rw [same, AList.lookup_insert] at found
    cases found
    exact ⟨key.trans same.symm, fun npc => same.trans (packed npc)⟩
  · rw [AList.lookup_insert_ne same] at found
    exact named other handle' found

theorem takenOver_claim (actorId : UInt32) : (w.claim actorId).takenOver = [] ↔
    w.takenOver = [] ∧ w.registry.lookup actorId = none := by
  rw [claim]
  split
  · next lives =>
      refine iff_of_false (by simp) fun both => ?_
      rw [both.2] at lives
      cases lives
  · next nobody =>
      rw [Bool.not_eq_true, Option.isSome_eq_false_iff, Option.isNone_iff_eq_none] at nobody
      simp [nobody]

theorem registry_claim (actorId : UInt32) : (w.claim actorId).registry = w.registry := by
  rw [claim]
  split <;> rfl

theorem sessions_claim (actorId : UInt32) : (w.claim actorId).sessions = w.sessions := by
  rw [claim]
  split <;> rfl

theorem takenOver_insert {placed : World} (registry : placed.registry = w.registry)
    (grid : placed.takenOver = (w.claim handle.actorId).takenOver) :
    (placed.insert handle).takenOver = [] ↔
      w.takenOver = [] ∧ w.registry.lookup handle.actorId = none := by
  have taken : (placed.insert handle).takenOver = (placed.claim handle.actorId).takenOver := rfl
  rw [taken, takenOver_claim, grid, takenOver_claim, registry]
  exact and_iff_left_of_imp fun both => both.2

theorem registry_insert (handle : ActorHandle) :
    (w.insert handle).registry = w.registry.insert handle.actorId handle := rfl

theorem sessions_insert (handle : ActorHandle) : (w.insert handle).sessions = w.sessions :=
  sessions_claim handle.actorId

theorem sessions_addActor (zoneId : UInt32) (place : Zone.Place) (actor : Zone.StoredActor) :
    (w.addActor zoneId place actor).sessions = w.sessions :=
  sessions_claim actor.actorId

theorem sessions_updateActorPosition (zoneId actorId : UInt32) (position : Vector3 ℚ) :
    (w.updateActorPosition zoneId actorId position).sessions = w.sessions := rfl

end World

section Boot

variable (catalog : Catalog) {w : World} (zoneId : UInt32) (zone : Zone)

theorem spawnOne_spec (actorNumber : UInt32) (seed : SpawnLocation) (w : World) :
    ∃ handle : ActorHandle, handle.actorId = idOf zoneId (actorNumber.toNat % 2 ^ 19) ∧
      handle.zoneId = zoneId ∧ handle.origin = .seed actorNumber seed.uniqueId ∧
      (spawnOne catalog zoneId actorNumber seed zone w).registry =
        w.registry.insert handle.actorId handle ∧
      ((spawnOne catalog zoneId actorNumber seed zone w).takenOver = [] ↔
        w.takenOver = [] ∧ w.registry.lookup handle.actorId = none) := by
  rw [← compositeId_eq_idOf]
  refine ⟨_, rfl, rfl, rfl, congrArg (AList.insert _ _) (World.registry_claim _), ?_⟩
  exact World.takenOver_insert (World.registry_claim _) rfl

theorem named_spawnOne (named : w.Named) (actorNumber : UInt32) (seed : SpawnLocation) :
    (spawnOne catalog zoneId actorNumber seed zone w).Named := by
  obtain ⟨handle, key, inZone, made, registry, _⟩ :=
    spawnOne_spec catalog zoneId zone actorNumber seed w
  apply named.insert registry rfl
  intro _
  rw [key, inZone, made]
  rfl

theorem named_spawnSeeds (seeds : List SpawnLocation) (number : UInt32) (named : w.Named) :
    (spawnSeeds catalog zoneId zone number seeds w).Named := by
  induction seeds generalizing w number with
  | nil => exact named
  | cons seed seeds ih =>
      rw [spawnSeeds]
      split
      · exact ih _ (named_spawnOne catalog zoneId zone named number seed)
      · exact ih _ named

theorem takenOver_spawnSeeds (seeds : List SpawnLocation) (number : UInt32)
    (clean : (spawnSeeds catalog zoneId zone number seeds w).takenOver = []) :
    w.takenOver = [] := by
  induction seeds generalizing w number with
  | nil => exact clean
  | cons seed seeds ih =>
      rw [spawnSeeds] at clean
      split at clean
      · obtain ⟨_, _, _, _, _, taken⟩ := spawnOne_spec catalog zoneId zone number seed w
        exact (taken.mp (ih _ clean)).1
      · exact ih _ clean

/-- The numbers behind one another are free and not so many that they come round. -/
def RunFree (w : World) (zoneId : UInt32) (number : UInt32) (count : ℕ) : Prop :=
  count ≤ 2 ^ 19 ∧ ∀ i < count, w.Free zoneId ((number.toNat + i) % 2 ^ 19)

theorem runFree_succ_iff {number : UInt32} {uniqueId : Text}
    (fresh : w.registry.lookup handle.actorId = none) (inZone : handle.zoneId = zoneId)
    (made : handle.origin = .seed number uniqueId)
    (registry : w'.registry = w.registry.insert handle.actorId handle) (count : ℕ) :
    w.Free zoneId (number.toNat % 2 ^ 19) ∧ RunFree w' zoneId (number + 1) count ↔
      RunFree w zoneId number (count + 1) := by
  have next (i : ℕ) : ((number + 1).toNat + i) % 2 ^ 19 = (number.toNat + (i + 1)) % 2 ^ 19 := by
    rw [UInt32.toNat_add]
    have one : (1 : UInt32).toNat = 1 := rfl
    rw [one]
    omega
  have taken (m : ℕ) : handle.Has zoneId m ↔ number.toNat % 2 ^ 19 = m := by
    rw [ActorHandle.Has, made, inZone]
    exact and_iff_right rfl
  rw [RunFree, RunFree]
  simp only [next, World.free_insert_iff fresh registry, taken]
  constructor
  · intro held
    obtain ⟨first, small, later⟩ := held
    have room : count < 2 ^ 19 := by
      by_contra full
      have round := (later (2 ^ 19 - 1) (by omega)).1
      omega
    refine ⟨room, fun i inside => ?_⟩
    cases i with
    | zero => exact first
    | succ i => exact (later i (by omega)).2
  · intro held
    obtain ⟨small, free⟩ := held
    refine ⟨free 0 (by omega), by omega, fun i inside => ⟨?_, free (i + 1) (by omega)⟩⟩
    omega

theorem takenOver_spawnSeeds_iff (seeds : List SpawnLocation) (number : UInt32) (named : w.Named)
    (clean : w.takenOver = []) :
    (spawnSeeds catalog zoneId zone number seeds w).takenOver = [] ↔
      RunFree w zoneId number (seeds.filter catalog.spawnable).length := by
  induction seeds generalizing w number with
  | nil =>
      exact iff_of_true clean ⟨Nat.zero_le _, fun i inside => absurd inside (Nat.not_lt_zero i)⟩
  | cons seed seeds ih =>
      rw [spawnSeeds]
      split
      · next comes =>
          obtain ⟨handle, key, inZone, made, registry, taken⟩ :=
            spawnOne_spec catalog zoneId zone number seed w
          rw [List.filter_cons_of_pos comes, List.length_cons]
          have named' := named_spawnOne catalog zoneId zone named number seed
          have free := w.lookup_eq_none_iff named zoneId
            (Nat.mod_lt number.toNat (show 0 < 2 ^ 19 by decide))
          rw [← key] at free
          by_cases fresh : w.registry.lookup handle.actorId = none
          · rw [ih _ named' (taken.mpr ⟨clean, fresh⟩),
              ← runFree_succ_iff zoneId fresh inZone made registry]
            exact (and_iff_right (free.mp fresh)).symm
          · refine iff_of_false (fun after => ?_) fun run => ?_
            · exact fresh (taken.mp (takenOver_spawnSeeds catalog zoneId zone seeds _ after)).2
            · exact fresh (free.mpr (run.2 0 (by omega)))
      · next skipped =>
          rw [List.filter_cons_of_neg skipped]
          exact ih _ named clean

end Boot

namespace World

def spawned (w : World) (sessionId : UInt32) : List UInt32 :=
  (((w.sessions.lookup sessionId).bind (·.activeContentScript)).map (·.spawnedActorIds)).getD []

theorem mem_pushNew {ids : List UInt32} {actorId : UInt32} : actorId ∈ pushNew ids actorId := by
  rw [pushNew]
  split
  · assumption
  · exact List.mem_append_right _ List.mem_cons_self

variable {w : World} {order : List UInt32} {zoneId actorId : UInt32}

theorem registry_recordSpawn : (w.recordSpawn order zoneId actorId).1.registry = w.registry := by
  rw [recordSpawn]
  split
  · rfl
  · split <;> rfl

theorem takenOver_recordSpawn :
    (w.recordSpawn order zoneId actorId).1.takenOver = w.takenOver := by
  rw [recordSpawn]
  split
  · rfl
  · split <;> rfl

theorem spawned_recordSpawn (sessionId : UInt32) :
    (w.recordSpawn order zoneId actorId).1.spawned sessionId =
      if order.find? (w.runsContentIn zoneId) = some sessionId then
        pushNew (w.spawned sessionId) actorId
      else w.spawned sessionId := by
  rw [recordSpawn]
  cases found : order.find? (w.runsContentIn zoneId) with
  | none => simp
  | some owner =>
      have runs := List.find?_some found
      rw [runsContentIn] at runs
      dsimp only
      cases present : w.sessions.lookup owner with
      | none =>
          rw [present] at runs
          cases runs
      | some snap =>
          rw [present, Option.any_some] at runs
          cases content : snap.activeContentScript with
          | none =>
              rw [content] at runs
              cases runs
          | some active =>
              by_cases same : sessionId = owner
              · subst same
                simp [spawned, present, content]
              · have other : owner ≠ sessionId := fun equal => same equal.symm
                simp [spawned, AList.lookup_insert_ne same, other]

/-- A session runs content in the zone and is found before any other, and no other has the id on
its list from before. Where none is found, the id may be on its list already. -/
def OwnedBy (w : World) (issuer : UInt32) (order : List UInt32) (zoneId actorId : UInt32) : Prop :=
  (order.find? (w.runsContentIn zoneId) = some issuer ∨
      order.find? (w.runsContentIn zoneId) = none ∧ actorId ∈ w.spawned issuer) ∧
    ∀ other, other ≠ issuer → actorId ∉ w.spawned other

def RecordedFor (w : World) (issuer actorId : UInt32) : Prop :=
  actorId ∈ w.spawned issuer ∧ ∀ other, other ≠ issuer → actorId ∉ w.spawned other

theorem recordedFor_iff {w' : World} (issuer : UInt32)
    (lists : ∀ sessionId, w'.spawned sessionId =
      (w.recordSpawn order zoneId actorId).1.spawned sessionId) :
    w'.RecordedFor issuer actorId ↔ w.OwnedBy issuer order zoneId actorId := by
  rw [RecordedFor, OwnedBy]
  simp only [lists, spawned_recordSpawn]
  cases found : order.find? (w.runsContentIn zoneId) with
  | none => simp
  | some owner =>
      by_cases mine : owner = issuer
      · subst mine
        have others : ∀ other, other ≠ owner → ¬ some owner = some other := by
          intro other different same
          exact different (Option.some.inj same).symm
        constructor
        · intro held
          refine ⟨.inl rfl, fun other different => ?_⟩
          have kept := held.2 other different
          rw [if_neg (others other different)] at kept
          exact kept
        · intro held
          rw [if_pos rfl]
          refine ⟨mem_pushNew, fun other different => ?_⟩
          rw [if_neg (others other different)]
          exact held.2 other different
      · refine iff_of_false (fun held => ?_) fun held => ?_
        · have taken := held.2 owner mine
          rw [if_pos rfl] at taken
          exact taken mem_pushNew
        · obtain first | none_found := held.1
          · exact mine (Option.some.inj first)
          · cases none_found.1

end World

section Spawns

variable (catalog : Catalog) (order : List UInt32) (reads : Bool) {w : World}

def Spawn.zoneId : Spawn → UInt32
  | .battleNpcById parentZoneId _ => parentZoneId
  | .actor zoneId _ _ _ => zoneId

def Spawn.origin : Spawn → Origin
  | .battleNpcById _ id => .battleNpc id
  | .actor _ _ uniqueId _ => .named uniqueId

/-- Whether an actor comes of a spawn: its rows can be read and are there, and its zone is. -/
def Spawn.comesIn (w : World) : Spawn → Bool
  | .battleNpcById parentZoneId id =>
      reads && (catalog.battleNpcs id).any (fun spawn =>
        (catalog.actorClasses spawn.actorClassId).isSome) && (w.zones parentZoneId).isSome
  | .actor zoneId classId _ _ =>
      reads && (catalog.actorClasses classId).isSome && (w.zones zoneId).isSome

theorem Spawn.handed (spawn : Spawn) : spawn.bind.2 = idOf spawn.zoneId spawn.origin.number := by
  cases spawn with
  | battleNpcById parentZoneId id =>
      have small := Origin.number_lt (.battleNpc id)
      rw [bind, bindSpawnBattleNpcById, zoneId, origin]
      dsimp only
      rw [compositeId_eq_idOf, toNat_battleNpcNumber]
      exact congrArg (idOf parentZoneId) (Nat.mod_eq_of_lt small)
  | actor zoneId classId uniqueId position =>
      have small := Origin.number_lt (.named uniqueId)
      rw [bind, bindSpawnActor, Spawn.zoneId, origin]
      dsimp only
      rw [compositeId_eq_idOf, toNat_namedNumber]
      exact congrArg (idOf zoneId) (Nat.mod_eq_of_lt small)

theorem compositeId_expected (zone number : UInt32) :
    compositeId zone (compositeId zone number &&& 0x7FFFF) = compositeId zone number := by
  rw [low_compositeId, compositeId_eq_iff, toNat_low, Nat.mod_mod]
  exact ⟨rfl, rfl⟩

structure CameIn (w w' : World) (order : List UInt32) (spawn : Spawn) : Prop where
  registry : ∃ handle : ActorHandle, handle.actorId = spawn.bind.2 ∧
    handle.zoneId = spawn.zoneId ∧ handle.origin = spawn.origin ∧
    w'.registry = w.registry.insert handle.actorId handle
  takenOver : w'.takenOver = [] ↔ w.takenOver = [] ∧ w.registry.lookup spawn.bind.2 = none
  lists : ∀ sessionId, w'.spawned sessionId =
    (w.recordSpawn order spawn.zoneId spawn.bind.2).1.spawned sessionId

theorem spawned_congr {w w' : World} (same : w'.sessions = w.sessions) (sessionId : UInt32) :
    w'.spawned sessionId = w.spawned sessionId := by
  rw [World.spawned, World.spawned, same]

theorem spawned_insert (handle : ActorHandle) (sessionId : UInt32) :
    (w.insert handle).spawned sessionId = w.spawned sessionId :=
  spawned_congr (World.sessions_insert handle) sessionId

theorem runsContentIn_congr {w w' : World} (same : w'.sessions = w.sessions) (zoneId : UInt32) :
    w'.runsContentIn zoneId = w.runsContentIn zoneId := by
  funext sessionId
  rw [World.runsContentIn, World.runsContentIn, same]

theorem spawned_recordSpawn_congr {w w' : World} (same : w'.sessions = w.sessions)
    (zoneId actorId sessionId : UInt32) :
    (w'.recordSpawn order zoneId actorId).1.spawned sessionId =
      (w.recordSpawn order zoneId actorId).1.spawned sessionId := by
  rw [World.spawned_recordSpawn, World.spawned_recordSpawn, runsContentIn_congr same,
    spawned_congr same]

theorem CameIn.put {w' placed : World} {handle : ActorHandle} {spawn : Spawn}
    (registry' : w'.registry = (placed.insert handle).registry)
    (takenOver' : w'.takenOver = (placed.insert handle).takenOver)
    (registry : placed.registry = w.registry)
    (takenOver : placed.takenOver = (w.claim handle.actorId).takenOver)
    (key : handle.actorId = spawn.bind.2) (inZone : handle.zoneId = spawn.zoneId)
    (made : handle.origin = spawn.origin)
    (lists : ∀ sessionId, w'.spawned sessionId =
      (w.recordSpawn order spawn.zoneId spawn.bind.2).1.spawned sessionId) :
    CameIn w w' order spawn where
  registry := by
    refine ⟨handle, key, inZone, made, ?_⟩
    rw [registry', World.registry_insert, registry]
  takenOver := by
    rw [takenOver', World.takenOver_insert registry takenOver, key]
  lists := lists

theorem applyCommand_comesIn (spawn : Spawn) (comes : spawn.comesIn catalog reads w = true) :
    (applyCommand catalog order reads w spawn.bind.1).2 = some spawn.bind.2 ∧
      CameIn w (applyCommand catalog order reads w spawn.bind.1).1 order spawn := by
  cases spawn with
  | battleNpcById parentZoneId id =>
      simp only [Spawn.comesIn, Bool.and_eq_true, Option.any_eq_true, Option.isSome_iff_exists]
        at comes
      obtain ⟨⟨read, row, found, classPath, named⟩, zone, hosted⟩ := comes
      simp only [applyCommand, Spawn.bind, bindSpawnBattleNpcById, applySpawnBattleNpcById,
        read, if_true, found, named, hosted, compositeId_expected, ne_eq, not_true_eq_false,
        if_false]
      refine ⟨trivial, CameIn.put order rfl rfl ?_ ?_ rfl rfl rfl ?_⟩
      · rw [World.registry_recordSpawn]
        exact World.registry_claim _
      · exact World.takenOver_recordSpawn
      · intro sessionId
        rw [spawned_insert]
        apply spawned_recordSpawn_congr order
        rw [World.sessions_updateActorPosition, World.sessions_addActor]
  | actor zoneId classId uniqueId position =>
      simp only [Spawn.comesIn, Bool.and_eq_true, Option.isSome_iff_exists] at comes
      obtain ⟨⟨read, classPath, named⟩, zone, hosted⟩ := comes
      simp only [applyCommand, Spawn.bind, bindSpawnActor, applySpawnActor, read, if_true, named,
        hosted, compositeId_expected, ne_eq, not_true_eq_false, if_false]
      refine ⟨trivial, CameIn.put order World.registry_recordSpawn World.takenOver_recordSpawn
        (World.registry_claim _) rfl rfl rfl rfl ?_⟩
      apply spawned_recordSpawn_congr order
      rw [World.sessions_insert, World.sessions_addActor]

theorem applyCommand_stays (spawn : Spawn) (stays : spawn.comesIn catalog reads w = false) :
    applyCommand catalog order reads w spawn.bind.1 = (w, none) := by
  cases spawn with
  | battleNpcById parentZoneId id =>
      rw [Spawn.bind, bindSpawnBattleNpcById, applyCommand, applySpawnBattleNpcById]
      cases reads with
      | false => rfl
      | true =>
          rw [if_pos rfl]
          cases found : catalog.battleNpcs id with
          | none => rfl
          | some row =>
              cases named : catalog.actorClasses row.actorClassId with
              | none => simp [named]
              | some classPath =>
                  have hidden : w.zones parentZoneId = none := by
                    simpa [Spawn.comesIn, found, named] using stays
                  simp [named, hidden]
  | actor zoneId classId uniqueId position =>
      rw [Spawn.bind, bindSpawnActor, applyCommand, applySpawnActor]
      cases reads with
      | false => rfl
      | true =>
          rw [if_pos rfl]
          cases named : catalog.actorClasses classId with
          | none => rfl
          | some classPath =>
              have hidden : w.zones zoneId = none := by
                simpa [Spawn.comesIn, named] using stays
              simp [hidden]

/-- The script got the id of the actor, and the actor is on the list of its session alone. -/
def Handed (w : World) : Op → Prop
  | .spawn issuer order reads spawn =>
      ∀ actorId, (applyCommand catalog order reads w spawn.bind.1).2 = some actorId →
        actorId = spawn.bind.2 ∧
          (applyCommand catalog order reads w spawn.bind.1).1.RecordedFor issuer actorId
  | _ => True

/-- What comes in finds its numbers free, and a script that spawns is that of the session which the
search finds. -/
def Meets (w : World) : Op → Prop
  | .boot zoneId => ∀ zone, w.zones zoneId = some zone →
      RunFree w zoneId (nextNumber zone) ((catalog.seeds zoneId).filter catalog.spawnable).length
  | .spawn issuer order reads spawn => spawn.comesIn catalog reads w = true →
      w.Free spawn.zoneId spawn.origin.number ∧ w.OwnedBy issuer order spawn.zoneId spawn.bind.2
  | _ => True

theorem World.Named.alter (named : w.Named) (actorId : UInt32) {f : ActorHandle → ActorHandle}
    (keeps : ∀ handle, (f handle).actorId = handle.actorId ∧ (f handle).zoneId = handle.zoneId ∧
      (f handle).origin = handle.origin) : (w.alter actorId f).Named := by
  rw [World.alter]
  split
  · exact named
  · next handle found =>
      obtain ⟨key, packed⟩ := named actorId handle found
      obtain ⟨sameId, sameZone, sameOrigin⟩ := keeps handle
      apply named.insert rfl
      · rw [sameId, key]
      · rw [sameZone, sameOrigin]
        exact packed

theorem World.Named.applyDespawnActor (named : w.Named) (actorId : UInt32) :
    (w.applyDespawnActor actorId).Named := by
  rw [World.applyDespawnActor]
  split
  · exact named
  · split
    · exact named
    · intro id handle found
      by_cases same : id = actorId
      · rw [same, AList.lookup_erase] at found
        cases found
      · rw [AList.lookup_erase_ne same] at found
        exact named id handle found

theorem takenOver_alter (actorId : UInt32) (f : ActorHandle → ActorHandle) :
    (w.alter actorId f).takenOver = w.takenOver := by
  rw [World.alter]
  split <;> rfl

theorem takenOver_applyDespawnActor (actorId : UInt32) :
    (w.applyDespawnActor actorId).takenOver = w.takenOver := by
  rw [World.applyDespawnActor]
  split
  · rfl
  · split <;> rfl

theorem registry_setContent (sessionId : UInt32) (content : Option ActiveContentScript) :
    (w.setContent sessionId content).registry = w.registry := by
  rw [World.setContent]
  split <;> rfl

theorem takenOver_setContent (sessionId : UInt32) (content : Option ActiveContentScript) :
    (w.setContent sessionId content).takenOver = w.takenOver := by
  rw [World.setContent]
  split <;> rfl

theorem spawned_setContent_ne {sessionId other : UInt32} (different : other ≠ sessionId)
    (content : Option ActiveContentScript) :
    (w.setContent sessionId content).spawned other = w.spawned other := by
  rw [World.setContent]
  split
  · rfl
  · rw [World.spawned, World.spawned, AList.lookup_insert_ne different]

theorem World.Named.congr (named : w.Named) (same : w'.registry = w.registry) :
    w'.Named := by
  rw [World.Named, same]
  exact named

theorem World.Named.step {op : Op} (named : w.Named) (taken : w.step catalog op = some w') :
    w'.Named := by
  cases op with
  | boot zoneId =>
      cases taken
      rw [spawnZone]
      split
      · exact named
      · exact named_spawnSeeds catalog zoneId _ _ _ named
  | spawn issuer order reads spawn =>
      obtain ⟨_, given⟩ := Option.ite_none_right_eq_some.mp taken
      cases given
      cases comes : spawn.comesIn catalog reads w with
      | true =>
          obtain ⟨_, came⟩ := applyCommand_comesIn catalog order reads spawn comes
          obtain ⟨handle, key, inZone, made, registry⟩ := came.registry
          apply named.insert registry rfl
          intro _
          rw [key, inZone, made, spawn.handed]
      | false =>
          rw [applyCommand_stays catalog order reads spawn comes]
          exact named
  | despawn actorId =>
      cases taken
      exact named.applyDespawnActor actorId
  | die actorId =>
      cases taken
      exact named.alter actorId fun handle => ⟨rfl, rfl, rfl⟩
  | respawn actorId =>
      cases taken
      apply named.alter actorId
      intro handle
      split <;> exact ⟨rfl, rfl, rfl⟩
  | startContent sessionId parentZoneId areaName directorActorId =>
      cases taken
      exact named.congr (registry_setContent sessionId _)
  | endContent sessionId =>
      cases taken
      exact named.congr (registry_setContent sessionId _)

theorem meets_iff {op : Op} (named : w.Named) (clean : w.takenOver = [])
    (taken : w.step catalog op = some w') :
    w'.takenOver = [] ∧ Handed catalog w op ↔ Meets catalog w op := by
  cases op with
  | boot zoneId =>
      cases taken
      rw [spawnZone]
      refine (and_iff_left trivial).trans ?_
      rw [Meets]
      cases hosted : w.zones zoneId with
      | none => exact iff_of_true clean (by simp)
      | some zone =>
          simp only [Option.some.injEq, forall_eq']
          exact takenOver_spawnSeeds_iff catalog zoneId zone _ _ named clean
  | spawn issuer order reads spawn =>
      obtain ⟨_, given⟩ := Option.ite_none_right_eq_some.mp taken
      cases given
      rw [Handed, Meets]
      cases comes : spawn.comesIn catalog reads w with
      | true =>
          obtain ⟨handed, came⟩ := applyCommand_comesIn catalog order reads spawn comes
          have free := w.lookup_eq_none_iff named spawn.zoneId spawn.origin.number_lt
          rw [← spawn.handed] at free
          rw [came.takenOver, handed, free, and_iff_right clean]
          simp only [Option.some.injEq, forall_eq', true_and, forall_const]
          rw [World.recordedFor_iff issuer came.lists]
      | false =>
          rw [applyCommand_stays catalog order reads spawn comes]
          refine iff_of_true ⟨clean, fun actorId handed => ?_⟩ fun impossible => ?_
          · cases handed
          · cases impossible
  | despawn actorId =>
      cases taken
      exact iff_of_true ⟨(takenOver_applyDespawnActor actorId).trans clean, trivial⟩ trivial
  | die actorId =>
      cases taken
      exact iff_of_true ⟨(takenOver_alter actorId _).trans clean, trivial⟩ trivial
  | respawn actorId =>
      cases taken
      exact iff_of_true ⟨(takenOver_alter actorId _).trans clean, trivial⟩ trivial
  | startContent sessionId parentZoneId areaName directorActorId =>
      cases taken
      exact iff_of_true ⟨(takenOver_setContent sessionId _).trans clean, trivial⟩ trivial
  | endContent sessionId =>
      cases taken
      exact iff_of_true ⟨(takenOver_setContent sessionId _).trans clean, trivial⟩ trivial

/-- In a run of spawns of every kind nobody who lives is replaced, and every script gets its actor
on the list of its session alone, exactly if each step finds its numbers free and the search for
the session finds the one whose script it is. -/
theorem spawns_take_nobody_over_iff (named : w.Named) (clean : w.takenOver = [])
    (ops : List Op) :
    Always (World.step catalog) (fun w => w.takenOver = []) w ops ∧
        EachStep (World.step catalog) (Handed catalog) w ops ↔
      EachStep (World.step catalog) (Meets catalog) w ops :=
  always_and_eachStep_iff (I := World.Named)
    (fun _ _ _ named clean taken => meets_iff catalog named clean taken)
    (fun _ _ _ named _ _ taken => named.step catalog taken) named clean

/-- Every class is there, and every battle npc stands in one place. -/
def meadowCatalog : Catalog where
  actorClasses _ := some ['/', 'C', 'h', 'a', 'r', 'a']
  battleClassIds _ := true
  seeds _ := []
  battleNpcs _ := some ⟨2201, ⟨10, 0, 10⟩, 0⟩

def meadow : World where
  registry := ∅
  zones zoneId := if zoneId = 166 then
      some { core := ⟨⟨166, false, ∅, fun _ => []⟩, Zone.AreaCore.empty_sorted _ rfl rfl⟩,
             privateAreas := fun _ => none }
    else none
  sessions := ((∅ : Table UInt32 Session).insert 1 {}).insert 2 {}
  takenOver := []

theorem meadow_named : meadow.Named := by
  intro id handle found
  cases found

/-- Both run their content in the zone, and the scripts of both spawn the same battle npc. -/
def twoContents : List Op :=
  [.startContent 1 166 ['a'] 9, .startContent 2 166 ['b'] 10,
    .spawn 1 [1, 2] true (.battleNpcById 166 3), .spawn 2 [1, 2] true (.battleNpcById 166 3)]

/-- The second battle npc replaces the first, and it is on the list of the first session alone. -/
theorem second_spawn_replaces :
    ∃ w, run (World.step meadowCatalog) meadow twoContents = some w ∧
      w.takenOver = [1161035779, 1161035779] ∧ w.spawned 1 = [1161035779] ∧ w.spawned 2 = [] ∧
      ¬ Always (World.step meadowCatalog) (fun w => w.takenOver = []) meadow twoContents := by
  have ends : (run (World.step meadowCatalog) meadow twoContents).map
      (fun w => (w.takenOver, w.spawned 1, w.spawned 2)) =
        some ([1161035779, 1161035779], [1161035779], []) := by
    decide
  obtain ⟨w, reached, seen⟩ := Option.map_eq_some_iff.mp ends
  simp only [Prod.mk.injEq] at seen
  obtain ⟨taken, first, second⟩ := seen
  refine ⟨w, reached, taken, first, second, fun always => ?_⟩
  have clean := always_iff_reached.mp always twoContents List.prefix_rfl w reached
  rw [taken] at clean
  cases clean

theorem spawns_take_nobody_over_first :
    Always (World.step meadowCatalog) (fun w => w.takenOver = []) meadow (twoContents.take 3) ∧
      EachStep (World.step meadowCatalog) (Handed meadowCatalog) meadow (twoContents.take 3) := by
  apply (spawns_take_nobody_over_iff meadowCatalog meadow_named rfl _).mpr
  rw [twoContents, List.take_succ_cons, List.take_succ_cons, List.take_succ_cons, List.take_zero]
  intro w started
  refine ⟨trivial, fun w' started' => ⟨trivial, fun w'' _ => ⟨fun _ => ⟨?_, ?_⟩, trivial⟩⟩⟩
  · cases started
    cases started'
    intro id handle found
    cases found
  · cases started
    cases started'
    refine ⟨.inl (by decide), fun other different => ?_⟩
    by_cases last : other = 2
    · rw [last]
      decide
    · rw [spawned_setContent_ne last, spawned_setContent_ne different, World.spawned, meadow,
        AList.lookup_insert_ne last, AList.lookup_insert_ne different]
      exact List.not_mem_nil

end Spawns

end Garlemald.Npc
