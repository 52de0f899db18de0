import Garlemald.Battle.State
import Garlemald.Common.Math

/-!
The controller of a fighter: each tick it looks at its owner and at the arena and returns
what the container is to do.
-/

namespace Garlemald.Battle

open Common

variable {φ : Type} [F32 φ]

inductive ControllerKind where
  | player
  | battleNpc
  | ally
  | pet
deriving DecidableEq

structure DetectionType where
  bits : UInt32
deriving DecidableEq

namespace DetectionType

def NONE : DetectionType := ⟨0x00⟩
def SIGHT : DetectionType := ⟨0x01⟩
def SCENT : DetectionType := ⟨0x02⟩
def SOUND : DetectionType := ⟨0x04⟩
def IGNORE_LEVEL_DIFFERENCE : DetectionType := ⟨0x10⟩

def contains (a b : DetectionType) : Bool := a.bits &&& b.bits == b.bits

end DetectionType

structure BattleNpcControllerState (φ : Type) where
  detectionType : DetectionType
  sightRange : φ
  soundRange : φ
  level : Int16
  neutral : Bool
  isMovingToSpawn : Bool
  roamDelaySeconds : UInt32
  neutralTimeMs : UInt64
  waitTimeMs : UInt64
  contentGroupIds : List UInt32
  isCaster : Bool
  standbackRange : φ
  nextCastMs : UInt64
  spell : Option (BattleCommand φ)
deriving DecidableEq

structure Controller (φ : Type) where
  ownerActorId : UInt32
  kind : ControllerKind
  lastUpdateMs : UInt64
  lastCombatTickMs : UInt64
  canUpdate : Bool
  autoAttackEnabled : Bool
  castingEnabled : Bool
  battle : BattleNpcControllerState φ
deriving DecidableEq

def Controller.new (kind : ControllerKind) (ownerActorId : UInt32) : Controller φ where
  ownerActorId := ownerActorId
  kind := kind
  lastUpdateMs := 0
  lastCombatTickMs := 0
  canUpdate := true
  autoAttackEnabled := true
  castingEnabled := true
  battle :=
    { detectionType := .NONE
      sightRange := F32.lit 20
      soundRange := F32.lit 10
      level := 0
      neutral := false
      isMovingToSpawn := false
      roamDelaySeconds := 5
      neutralTimeMs := 0
      waitTimeMs := 0
      contentGroupIds := []
      isCaster := false
      standbackRange := F32.lit 15
      nextCastMs := 0
      spell := none }

structure ActorView (φ : Type) where
  actorId : UInt32
  position : Vector3 φ
  rotation : φ
  isAlive : Bool
  allegiance : UInt32

structure ActorArena (φ : Type) where
  get : UInt32 → Option (ActorView φ)
  actorsAround : UInt32 → φ → List (ActorView φ)

structure ControllerOwnerView (φ : Type) where
  actor : ActorView φ
  isEngaged : Bool
  isSpawned : Bool
  mostHatedActorId : Option UInt32
  currentTargetActorId : Option UInt32
  hasPreventMovement : Bool
  isCloseToSpawn : Bool
  attackDelayMs : UInt32
  attackRange : φ

inductive ControllerDecision (φ : Type) where
  | idle
  | engage (targetActorId : UInt32)
  | disengage
  | moveTo (position : Vector3 φ)
  | faceTarget (position : Vector3 φ)
  | roam
  | cast (targetActorId : UInt32)
  | changeTarget (targetActorId : Option UInt32)
  | luaCombatTick (targetActorId : Option UInt32)
deriving DecidableEq

def ControllerDecision.moves {φ : Type} : ControllerDecision φ → Bool
  | .moveTo _ | .faceTarget _ | .luaCombatTick _ => true
  | _ => false

def COMBAT_TICK_INTERVAL_MS : UInt64 := 3000
def DEFAULT_ROAM_DELAY_MS : UInt64 := 5000
def AGGRO_SCAN_RADIUS : φ := F32.lit 50
def AGGRO_LEVEL_CAP : Int16 := 10
def MAX_DETECT_DISTANCE : φ := F32.lit 20
def MAX_DETECT_Y_DIFF : φ := F32.lit 8
/-- The number of 32 bits nearest to π, and its double. -/
def PI : φ := F32.lit (13176795 / 4194304)
def TAU : φ := F32.lit (13176795 / 2097152)

/-- The level is not on the view. -/
def ownerTargetLevel (_target : ActorView φ) : Int16 := 1

/-- A difference of times that ends at 0. -/
def saturatingSub (a b : UInt64) : UInt64 := if b ≤ a then a - b else 0

def flatDistance (a b : Vector3 φ) : φ :=
  let dx := b.x - a.x
  let dz := b.z - a.z
  F32.sqrt (dx * dx + dz * dz)

namespace Controller

def canAggro (c : Controller φ) (owner : ControllerOwnerView φ) (target : ActorView φ) : Bool :=
  if c.battle.neutral || c.battle.detectionType == .NONE then false
  else if !target.isAlive then false
  else if !c.battle.detectionType.contains .IGNORE_LEVEL_DIFFERENCE &&
      decide (AGGRO_LEVEL_CAP < (c.battle.level - ownerTargetLevel target).abs) then false
  else owner.isSpawned && !owner.isEngaged

/-- No view carries the modifier that this asks for. -/
def targetViewHasStealth (_c : Controller φ) (_target : ActorView φ) : Bool := false

def isFacing (origin : Vector3 φ) (rotation : φ) (target : Vector3 φ) : Bool :=
  let dx := target.x - origin.x
  let dz := target.z - origin.z
  let angleTo := F32.atan2 dx dz
  let diff := F32.remEuclid (angleTo - rotation) TAU
  let gap := F32.min diff (TAU - diff)
  F32.le gap (PI / F32.lit 2)

/-- The branch for wounded targets answers no either way, as their health is not on the view. -/
def canDetect (c : Controller φ) (owner : ControllerOwnerView φ) (target : ActorView φ) : Bool :=
  let dist := flatDistance owner.actor.position target.position
  let yDiff := F32.abs (target.position.y - owner.actor.position.y)
  let detectType := c.battle.detectionType
  let hasStealth := c.targetViewHasStealth target
  let facing := isFacing owner.actor.position owner.actor.rotation target.position
  if F32.lt MAX_DETECT_Y_DIFF yDiff then false
  else if F32.lt MAX_DETECT_DISTANCE dist then false
  else if detectType.contains .SIGHT && !hasStealth && facing &&
      F32.le dist c.battle.sightRange then true
  else if detectType.contains .SOUND && !hasStealth && F32.le dist c.battle.soundRange then true
  else detectType.contains .SCENT && !hasStealth && F32.le dist c.battle.soundRange

/-- A candidate that the scan for enemies does not pass over. -/
def aggroCandidate (c : Controller φ) (owner : ControllerOwnerView φ)
    (candidate : ActorView φ) : Bool :=
  candidate.actorId != owner.actor.actorId
    && candidate.allegiance != owner.actor.allegiance
    && candidate.isAlive
    && !(c.kind == .ally && !c.battle.contentGroupIds.contains candidate.actorId)
    && c.canAggro owner candidate
    && c.canDetect owner candidate

def tryAggro (c : Controller φ) (nowMs : UInt64) (owner : ControllerOwnerView φ)
    (arena : ActorArena φ) : Option UInt32 :=
  if nowMs < c.battle.neutralTimeMs || c.battle.isMovingToSpawn then none
  else if c.battle.neutral then none
  else ((arena.actorsAround owner.actor.actorId AGGRO_SCAN_RADIUS).find?
    (c.aggroCandidate owner)).map (·.actorId)

def shouldDeaggro (_c : Controller φ) (owner : ControllerOwnerView φ) : Bool :=
  if owner.mostHatedActorId.isNone then true
  else !owner.isCloseToSpawn

def stopRing (c : Controller φ) (owner : ControllerOwnerView φ) : φ :=
  if c.battle.isCaster then c.battle.standbackRange else owner.attackRange - F32.lit (1 / 5)

def mayCast (c : Controller φ) (nowMs : UInt64) (dist : φ) : Bool :=
  c.battle.isCaster && c.castingEnabled && c.battle.nextCastMs ≤ nowMs &&
    c.battle.spell.any fun s => F32.le dist s.range

def approach (c : Controller φ) (nowMs : UInt64) (owner : ControllerOwnerView φ)
    (targetId : UInt32) (target : ActorView φ) : Controller φ × ControllerDecision φ :=
  let here := owner.actor.position
  let dx := target.position.x - here.x
  let dz := target.position.z - here.z
  let dist := flatDistance here target.position
  let stop := c.stopRing owner
  if F32.lt stop dist && !owner.hasPreventMovement then
    let t := (dist - stop) / dist
    (c, .moveTo ⟨here.x + dx * t, here.y + (target.position.y - here.y) * t, here.z + dz * t⟩)
  else if COMBAT_TICK_INTERVAL_MS ≤ saturatingSub nowMs c.lastCombatTickMs then
    ({ c with lastCombatTickMs := nowMs }, .luaCombatTick (some targetId))
  else (c, .faceTarget target.position)

def pursue (c : Controller φ) (nowMs : UInt64) (owner : ControllerOwnerView φ)
    (targetId : UInt32) (target : ActorView φ) : Controller φ × ControllerDecision φ :=
  if c.mayCast nowMs (flatDistance owner.actor.position target.position) then (c, .cast targetId)
  else c.approach nowMs owner targetId target

def doCombatTick (c : Controller φ) (nowMs : UInt64) (owner : ControllerOwnerView φ)
    (arena : ActorArena φ) : Controller φ × ControllerDecision φ :=
  if c.shouldDeaggro owner then (c, .disengage)
  else if owner.mostHatedActorId ≠ owner.currentTargetActorId then
    (c, .changeTarget owner.mostHatedActorId)
  else
    match owner.currentTargetActorId with
    | none => (c, .idle)
    | some targetId =>
        match arena.get targetId with
        | some target => c.pursue nowMs owner targetId target
        | none =>
            if COMBAT_TICK_INTERVAL_MS ≤ saturatingSub nowMs c.lastCombatTickMs then
              ({ c with lastCombatTickMs := nowMs }, .luaCombatTick (some targetId))
            else (c, .idle)

def doRoamTick (c : Controller φ) (nowMs : UInt64) : Controller φ × ControllerDecision φ :=
  if nowMs < c.battle.waitTimeMs then (c, .idle)
  else
    let delayMs := max (c.battle.roamDelaySeconds.toUInt64 * 1000) DEFAULT_ROAM_DELAY_MS
    ({ c with battle := { c.battle with
        neutralTimeMs := nowMs + 5000
        waitTimeMs := nowMs + delayMs } }, .roam)

def tickBattleNpc (c : Controller φ) (nowMs : UInt64) (owner : ControllerOwnerView φ)
    (arena : ActorArena φ) : Controller φ × ControllerDecision φ :=
  if !owner.actor.isAlive then (c, .idle)
  else if owner.isEngaged then c.doCombatTick nowMs owner arena
  else
    match owner.mostHatedActorId with
    | some hated => (c, .engage hated)
    | none =>
        match c.tryAggro nowMs owner arena with
        | some targetId => (c, .engage targetId)
        | none =>
            if c.battle.isMovingToSpawn || c.battle.roamDelaySeconds > 0 then c.doRoamTick nowMs
            else (c, .idle)

def tick (c : Controller φ) (nowMs : UInt64) (owner : ControllerOwnerView φ)
    (arena : ActorArena φ) : Controller φ × ControllerDecision φ :=
  if !c.canUpdate then (c, .idle)
  else
    let c := { c with lastUpdateMs := nowMs }
    match c.kind with
    | .player | .pet => (c, .idle)
    | .battleNpc | .ally => c.tickBattleNpc nowMs owner arena

variable {owner : ControllerOwnerView φ} {c : Controller φ} {nowMs : UInt64}
  {arena : ActorArena φ} {target : UInt32}

theorem mayCast_spell {dist : φ} (h : c.mayCast nowMs dist = true) : c.battle.spell.isSome := by
  simp only [mayCast, Bool.and_eq_true, Option.any_eq_true] at h
  obtain ⟨_, spell, known, _⟩ := h
  rw [known]
  rfl

theorem approach_moves (c : Controller φ) (nowMs : UInt64) (owner : ControllerOwnerView φ)
    (targetId : UInt32) (view : ActorView φ) :
    (c.approach nowMs owner targetId view).2.moves = true := by
  unfold approach
  dsimp only
  split
  · rfl
  · split <;> rfl

theorem pursue_cast {targetId target : UInt32} {view : ActorView φ}
    (h : (c.pursue nowMs owner targetId view).2 = .cast target) :
    c.battle.spell.isSome ∧ (c.pursue nowMs owner targetId view).1 = c := by
  unfold pursue at h ⊢
  split at h
  · next gate =>
      rw [if_pos gate]
      exact ⟨mayCast_spell gate, rfl⟩
  · have moves := approach_moves c nowMs owner targetId view
    rw [h] at moves
    cases moves

theorem doCombatTick_cast (h : (c.doCombatTick nowMs owner arena).2 = .cast target) :
    c.battle.spell.isSome ∧ (c.doCombatTick nowMs owner arena).1 = c := by
  unfold doCombatTick at h ⊢
  split at h
  · cases h
  · next keeps =>
      rw [if_neg keeps]
      split at h
      · cases h
      · next same =>
          rw [if_neg same]
          cases known : owner.currentTargetActorId with
          | none => simp [known] at h
          | some targetId =>
              simp only [known] at h ⊢
              cases seen : arena.get targetId with
              | some view =>
                  simp only [seen] at h ⊢
                  exact pursue_cast h
              | none =>
                  simp only [seen] at h
                  split at h <;> cases h

omit [F32 φ] in
theorem doRoamTick_decision (c : Controller φ) (nowMs : UInt64) :
    (c.doRoamTick nowMs).2 = .idle ∨ (c.doRoamTick nowMs).2 = .roam := by
  unfold doRoamTick
  split
  · exact .inl rfl
  · exact .inr rfl

theorem tickBattleNpc_cast (h : (c.tickBattleNpc nowMs owner arena).2 = .cast target) :
    c.battle.spell.isSome ∧ (c.tickBattleNpc nowMs owner arena).1 = c := by
  unfold tickBattleNpc at h ⊢
  split at h
  · cases h
  · next alive =>
      rw [if_neg alive]
      split at h
      · next engaged =>
          rw [if_pos engaged]
          exact doCombatTick_cast h
      · split at h
        · cases h
        · split at h
          · cases h
          · split at h
            · rcases c.doRoamTick_decision nowMs with rests | rests <;> rw [rests] at h <;> cases h
            · cases h

theorem tick_cast (h : (c.tick nowMs owner arena).2 = .cast target) :
    (c.tick nowMs owner arena).1.battle.spell.isSome := by
  unfold tick at h ⊢
  split at h
  · cases h
  · next runs =>
      rw [if_neg runs]
      dsimp only at h ⊢
      cases kind : c.kind with
      | player | pet => simp [kind] at h
      | battleNpc | ally =>
          simp only [kind] at h ⊢
          obtain ⟨known, same⟩ := tickBattleNpc_cast h
          rw [same]
          exact known

end Controller

end Garlemald.Battle
