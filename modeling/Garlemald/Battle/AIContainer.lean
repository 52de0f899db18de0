import Garlemald.Battle.Controller

/-!
The container of a fighter's controller and its stack of states. An operation that
emits events returns them behind the new container, in the order they are pushed.
-/

namespace Garlemald.Battle

open Common

variable {φ : Type}

inductive MovementStep (φ : Type) where
  | moveTo (destination : Vector3 φ)
  | face (position : Vector3 φ)
deriving DecidableEq

structure AIContainer (φ : Type) where
  ownerActorId : UInt32
  controller : Option (Controller φ)
  actionQueue : ActionQueue
  pendingMovement : Option (MovementStep φ)
  /-- The top comes first. -/
  states : List (BattleState φ)
  latestUpdateMs : UInt64
  prevUpdateMs : UInt64
deriving DecidableEq

namespace AIContainer

def new (ownerActorId : UInt32) (controller : Option (Controller φ)) : AIContainer φ where
  ownerActorId := ownerActorId
  controller := controller
  actionQueue := []
  pendingMovement := none
  states := []
  latestUpdateMs := 0
  prevUpdateMs := 0

def currentState (ai : AIContainer φ) : Option (BattleState φ) := ai.states.head?

def isCurrent (ai : AIContainer φ) (kind : BattleStateKind) : Bool :=
  ai.currentState.map (·.kind) == some kind

def canChangeState (ai : AIContainer φ) : Bool :=
  (ai.currentState.map (·.canChangeState)).getD true

/-- Any state of the stack counts, since a fighter that casts is still engaged. -/
def isEngaged (ai : AIContainer φ) : Bool := ai.states.any (·.kind == .attack)

def isDead (ai : AIContainer φ) : Bool := (ai.currentState.map (·.kind == .death)).getD false

def checkCompletedStates (ai : AIContainer φ) : AIContainer φ :=
  { ai with states := ai.states.dropWhile (·.isCompleted) }

def forceChangeState (ai : AIContainer φ) (state : BattleState φ) : AIContainer φ × Bool :=
  if MAX_STATE_STACK ≤ ai.states.length then (ai, false)
  else
    let ai := ai.checkCompletedStates
    ({ ai with states := state :: ai.states }, true)

def changeState (ai : AIContainer φ) (state : BattleState φ) : AIContainer φ × Bool :=
  if ai.canChangeState then ai.forceChangeState state else (ai, false)

def interruptStates (ai : AIContainer φ) : AIContainer φ :=
  { ai with states := ai.states.dropWhile (·.canInterrupt) }

def clearStates (ai : AIContainer φ) : AIContainer φ := { ai with states := [] }

def reset (ai : AIContainer φ) : AIContainer φ := ai.clearStates

def internalEngage (ai : AIContainer φ) (targetActorId : UInt32) (nowMs : UInt64)
    (attackDelayMs : UInt32) : AIContainer φ × Bool :=
  if ai.isEngaged then (ai, false)
  else ai.forceChangeState (.attack ai.ownerActorId targetActorId nowMs attackDelayMs)

def internalDisengage (ai : AIContainer φ) : AIContainer φ × List (BattleEvent φ) :=
  (ai.clearStates, [.disengage ai.ownerActorId])

def internalCast (ai : AIContainer φ) (targetActorId : UInt32) (cmd : BattleCommand φ)
    (nowMs : UInt64) : AIContainer φ × Bool :=
  ai.changeState (.magic ai.ownerActorId targetActorId cmd nowMs)

def internalAbility (ai : AIContainer φ) (targetActorId : UInt32) (cmd : BattleCommand φ)
    (nowMs : UInt64) : AIContainer φ × Bool :=
  ai.changeState (.ability ai.ownerActorId targetActorId cmd nowMs)

def internalWeaponSkill (ai : AIContainer φ) (targetActorId : UInt32) (cmd : BattleCommand φ)
    (nowMs : UInt64) : AIContainer φ × Bool :=
  ai.changeState (.weaponSkill ai.ownerActorId targetActorId cmd nowMs)

def internalUseItem (ai : AIContainer φ) (targetActorId itemId castTimeMs : UInt32)
    (nowMs : UInt64) : AIContainer φ × Bool :=
  ai.changeState (.item ai.ownerActorId targetActorId itemId castTimeMs nowMs)

def internalDie (ai : AIContainer φ) (nowMs fadeoutMs : UInt64) :
    AIContainer φ × List (BattleEvent φ) :=
  ((ai.clearStates.forceChangeState (.death ai.ownerActorId nowMs fadeoutMs)).1,
    [.die ai.ownerActorId])

def internalDespawn (ai : AIContainer φ) (nowMs respawnMs : UInt64) :
    AIContainer φ × List (BattleEvent φ) :=
  ((ai.clearStates.forceChangeState (.despawn ai.ownerActorId nowMs respawnMs)).1,
    [.despawn ai.ownerActorId])

/-- A decision to cast is passed over while a cast is on top or without a spell; the
controller may cast again when the cast and its recast time are over. -/
def beginCast (ai : AIContainer φ) (targetActorId : UInt32) (nowMs : UInt64) :
    AIContainer φ × List (BattleEvent φ) :=
  if ai.isCurrent .magic then (ai, [])
  else
    match ai.controller.bind (·.battle.spell) with
    | none => (ai, [])
    | some cmd =>
        let pushed := ai.internalCast targetActorId cmd nowMs
        if pushed.2 then
          let nextCastMs := nowMs + cmd.castTimeMs.toUInt64 + cmd.recastTimeMs.toUInt64
          let rearmed := pushed.1.controller.map fun c =>
            { c with battle := { c.battle with nextCastMs := nextCastMs } }
          ({ pushed.1 with controller := rearmed },
            [.castStart ai.ownerActorId targetActorId cmd.id cmd.castTimeMs cmd.castType])
        else (pushed.1, [])

def retarget (newTarget : UInt32) (s : BattleState φ) : BattleState φ :=
  if s.kind = .attack then { s with targetActorId := newTarget } else s

def applyDecision (ai : AIContainer φ) (decision : ControllerDecision φ) (nowMs : UInt64)
    (attackDelayMs : UInt32) : AIContainer φ × List (BattleEvent φ) :=
  match decision with
  | .idle => (ai, [])
  | .engage targetActorId =>
      ((ai.internalEngage targetActorId nowMs attackDelayMs).1,
        [.engage ai.ownerActorId targetActorId])
  | .disengage => (ai, [.disengage ai.ownerActorId])
  | .moveTo position => ({ ai with pendingMovement := some (.moveTo position) }, [])
  | .faceTarget position => ({ ai with pendingMovement := some (.face position) }, [])
  | .roam => (ai, [])
  | .cast targetActorId => ai.beginCast targetActorId nowMs
  | .changeTarget none => (ai, [.targetChange ai.ownerActorId none])
  | .changeTarget (some newTarget) =>
      ({ ai with states := ai.states.map (retarget newTarget) },
        [.targetChange ai.ownerActorId (some newTarget)])
  | .luaCombatTick targetActorId =>
      (ai, [.luaCall ai.ownerActorId "onCombatTick" 0 targetActorId])

variable {ai : AIContainer φ} {owner : ControllerOwnerView φ} {arena : ActorArena φ}
  {rest : List (BattleState φ)} {top : BattleState φ} {nowMs : UInt64}

theorem isEngaged_iff : ai.isEngaged = true ↔ ∃ s ∈ ai.states, s.kind = .attack := by
  simp [isEngaged]

theorem isDead_cons (h : ai.states = top :: rest) : ai.isDead = (top.kind == .death) := by
  simp [isDead, currentState, h]

theorem isCurrent_cons (h : ai.states = top :: rest) (kind : BattleStateKind) :
    ai.isCurrent kind = (top.kind == kind) := by
  simp [isCurrent, currentState, h]

theorem canChangeState_cons (h : ai.states = top :: rest) :
    ai.canChangeState = top.canChangeState := by
  simp [canChangeState, currentState, h]

theorem forceChangeState_eq (running : ∀ s ∈ ai.states, s.isCompleted = false)
    (state : BattleState φ) :
    ai.forceChangeState state =
      if MAX_STATE_STACK ≤ ai.states.length then (ai, false)
      else ({ ai with states := state :: ai.states }, true) := by
  have kept : ai.states.dropWhile (·.isCompleted) = ai.states := by
    cases h : ai.states with
    | nil => rfl
    | cons top rest =>
        have calm := running top (by rw [h]; exact List.mem_cons_self)
        simp [calm]
  rw [forceChangeState, checkCompletedStates, kept]

theorem internalDie_states (ai : AIContainer φ) (nowMs fadeoutMs : UInt64) :
    (ai.internalDie nowMs fadeoutMs).1.states =
      [.death ai.ownerActorId nowMs fadeoutMs] := by
  simp [internalDie, forceChangeState, clearStates, checkCompletedStates, MAX_STATE_STACK]

theorem internalDespawn_states (ai : AIContainer φ) (nowMs respawnMs : UInt64) :
    (ai.internalDespawn nowMs respawnMs).1.states =
      [.despawn ai.ownerActorId nowMs respawnMs] := by
  simp [internalDespawn, forceChangeState, clearStates, checkCompletedStates, MAX_STATE_STACK]

variable [F32 φ]

def runController (ai : AIContainer φ) (nowMs : UInt64) (owner : ControllerOwnerView φ)
    (arena : ActorArena φ) : Option (Controller φ × ControllerDecision φ) :=
  match ai.controller with
  | some ctrl => if ctrl.canUpdate then some (ctrl.tick nowMs owner arena) else none
  | none => none

def afterController (ai : AIContainer φ) (nowMs : UInt64) (owner : ControllerOwnerView φ)
    (arena : ActorArena φ) : AIContainer φ × List (BattleEvent φ) :=
  match ai.runController nowMs owner arena with
  | none => (ai, [])
  | some ticked =>
      { ai with controller := some ticked.1 }.applyDecision ticked.2 nowMs owner.attackDelayMs

structure StackContext (φ : Type) where
  ownerId : UInt32
  nowMs : UInt64
  swingDelayMs : UInt32
  autoAttackEnabled : Bool
  attackRange : φ
  ownerPos : Vector3 φ
  get : UInt32 → Option (ActorView φ)

def stackContext (ai : AIContainer φ) (nowMs : UInt64) (owner : ControllerOwnerView φ)
    (arena : ActorArena φ) : StackContext φ where
  ownerId := ai.ownerActorId
  nowMs := nowMs
  swingDelayMs := max owner.attackDelayMs 500
  autoAttackEnabled := (ai.controller.map (·.autoAttackEnabled)).getD true
  attackRange := owner.attackRange
  ownerPos := owner.actor.position
  get := arena.get

def swing (ctx : StackContext φ) (target : UInt32) : List (BattleEvent φ) :=
  let targetView := ctx.get target
  let inRange := targetView.any fun t =>
    let dx := t.position.x - ctx.ownerPos.x
    let dz := t.position.z - ctx.ownerPos.z
    F32.le (dx * dx + dz * dz) (ctx.attackRange * ctx.attackRange)
  if target ≠ 0 ∧ ctx.autoAttackEnabled ∧ inRange then
    [.resolveAutoAttack ctx.ownerId target]
  else if target ≠ 0 ∧ ctx.autoAttackEnabled ∧ targetView.isSome then
    [.autoAttackOutOfRange ctx.ownerId]
  else []

def resolves : BattleStateKind → Bool
  | .magic | .ability | .weaponSkill => true
  | _ => false

def resolve (ctx : StackContext φ) (s : BattleState φ) : List (BattleEvent φ) :=
  if resolves s.kind ∧ s.targetActorId ≠ 0 then
    match s.command with
    | some cmd =>
        (if s.kind = .magic then [.castComplete ctx.ownerId cmd.id] else []) ++
          [.resolveAction ctx.ownerId s.targetActorId cmd]
    | none => []
  else []

/-- The loop over the stack: states that complete or are interrupted leave it until one
goes on, which is swung if it is an attack that is due. -/
def processStates (ctx : StackContext φ) :
    List (BattleState φ) → List (BattleState φ) × List (BattleEvent φ)
  | [] => ([], [])
  | top :: rest =>
      let ticked := top.update ctx.nowMs
      match ticked.1 with
      | .goOn =>
          if ticked.2.kind = .attack ∧ ticked.2.isAttackReady ctx.nowMs then
            (ticked.2.scheduleNextSwing ctx.nowMs ctx.swingDelayMs :: rest,
              swing ctx ticked.2.targetActorId)
          else (ticked.2 :: rest, [])
      | .complete =>
          let after := processStates ctx rest
          (after.1, resolve ctx ticked.2 ++ after.2)
      | .interrupted =>
          let after := processStates ctx rest
          (after.1, (if ticked.2.kind = .magic then
            [.castInterrupted ctx.ownerId ((ticked.2.command.map (·.id)).getD 0)] else []) ++
              after.2)

theorem processStates_attack (ctx : StackContext φ) (rest : List (BattleState φ))
    (attacks : top.kind = .attack) (calm : top.interrupt = false) :
    ∃ s events, s.kind = .attack ∧ processStates ctx (top :: rest) = (s :: rest, events) := by
  rw [processStates, BattleState.update_attack attacks calm]
  dsimp only
  split
  · exact ⟨_, _, by rw [BattleState.scheduleNextSwing_kind, attacks], rfl⟩
  · exact ⟨_, _, attacks, rfl⟩

theorem processStates_all {P : BattleState φ → Prop}
    (swung : ∀ s nowMs delay, P s → P (s.scheduleNextSwing nowMs delay)) (ctx : StackContext φ)
    {states : List (BattleState φ)} (all : ∀ s ∈ states, P s) :
    ∀ s ∈ (processStates ctx states).1, P s := by
  induction states with
  | nil => exact all
  | cons top rest ih =>
      obtain ⟨now, below⟩ := List.forall_mem_cons.mp all
      have same := (top.update_snd ctx.nowMs).2.2
      unfold processStates
      dsimp only
      cases ticked : (top.update ctx.nowMs).1 with
      | interrupted | complete => exact ih below
      | goOn =>
          rw [same ticked]
          dsimp only
          split
          · exact List.forall_mem_cons.mpr ⟨swung top ctx.nowMs ctx.swingDelayMs now, below⟩
          · exact all

/-- The container at the beginning of an update: the movement intent is of one tick. -/
def started (ai : AIContainer φ) (nowMs : UInt64) : AIContainer φ :=
  { ai with
    prevUpdateMs := ai.latestUpdateMs
    latestUpdateMs := nowMs
    pendingMovement := none }

def decided (ai : AIContainer φ) (nowMs : UInt64) (owner : ControllerOwnerView φ)
    (arena : ActorArena φ) : AIContainer φ × List (BattleEvent φ) :=
  (ai.started nowMs).afterController nowMs owner arena

def update (ai : AIContainer φ) (nowMs : UInt64) (owner : ControllerOwnerView φ)
    (arena : ActorArena φ) : AIContainer φ × List (BattleEvent φ) :=
  let decided := ai.decided nowMs owner arena
  let stacked := processStates (decided.1.stackContext nowMs owner arena) decided.1.states
  let drained := decided.1.actionQueue.drainDue nowMs
  ({ decided.1 with states := stacked.1, actionQueue := drained.2 },
    decided.2 ++ stacked.2 ++ drained.1.map fun a =>
      .luaCall decided.1.ownerActorId "onActionQueueFire" a.tag.toUInt16 none)

theorem decided_none (h : ai.runController nowMs owner arena = none) :
    ai.decided nowMs owner arena = (ai.started nowMs, []) := by
  have same : (ai.started nowMs).runController nowMs owner arena = none := h
  rw [decided, afterController, same]

theorem decided_some {c : Controller φ} {d : ControllerDecision φ}
    (h : ai.runController nowMs owner arena = some (c, d)) :
    ai.decided nowMs owner arena =
      { ai.started nowMs with controller := some c }.applyDecision d nowMs owner.attackDelayMs := by
  have same : (ai.started nowMs).runController nowMs owner arena = some (c, d) := h
  rw [decided, afterController, same]

theorem decided_rule {P : AIContainer φ × List (BattleEvent φ) → Prop}
    (rests : P (ai.started nowMs, []))
    (decides : ∀ c d, ai.runController nowMs owner arena = some (c, d) →
      P ({ ai.started nowMs with controller := some c }.applyDecision d nowMs
        owner.attackDelayMs)) : P (ai.decided nowMs owner arena) := by
  cases ticked : ai.runController nowMs owner arena with
  | none =>
      rw [decided_none ticked]
      exact rests
  | some pair =>
      rw [decided_some ticked]
      exact decides pair.1 pair.2 ticked

theorem runController_some {ticked : Controller φ × ControllerDecision φ}
    (h : ai.runController nowMs owner arena = some ticked) :
    ∃ ctrl, ai.controller = some ctrl ∧ ctrl.canUpdate = true ∧
      ctrl.tick nowMs owner arena = ticked := by
  unfold runController at h
  split at h
  · next ctrl known =>
      split at h
      · next updates => exact ⟨ctrl, known, updates, Option.some.inj h⟩
      · cases h
  · cases h

theorem runController_cast {c : Controller φ} {target : UInt32}
    (h : ai.runController nowMs owner arena = some (c, .cast target)) :
    ∃ cmd, c.battle.spell = some cmd := by
  obtain ⟨ctrl, _, _, ticks⟩ := runController_some h
  have known := Controller.tick_cast (congrArg Prod.snd ticks)
  rw [ticks] at known
  exact Option.isSome_iff_exists.mp known

end AIContainer

/-- What is done to a container over its life. Its controller and its action queue are
public fields, which others may replace and add to. -/
inductive Operation (φ : Type) where
  | engage (targetActorId : UInt32) (nowMs : UInt64) (attackDelayMs : UInt32)
  | cast (targetActorId : UInt32) (cmd : BattleCommand φ) (nowMs : UInt64)
  | ability (targetActorId : UInt32) (cmd : BattleCommand φ) (nowMs : UInt64)
  | weaponSkill (targetActorId : UInt32) (cmd : BattleCommand φ) (nowMs : UInt64)
  | useItem (targetActorId itemId castTimeMs : UInt32) (nowMs : UInt64)
  | disengage
  | die (nowMs fadeoutMs : UInt64)
  | despawn (nowMs respawnMs : UInt64)
  | interruptStates
  | reset
  | setController (controller : Option (Controller φ))
  | queueAction (action : Action)
  | update (nowMs : UInt64) (owner : ControllerOwnerView φ) (arena : ActorArena φ)

namespace AIContainer

variable [F32 φ]

def operate (ai : AIContainer φ) : Operation φ → AIContainer φ × List (BattleEvent φ)
  | .engage target nowMs delay => ((ai.internalEngage target nowMs delay).1, [])
  | .cast target cmd nowMs => ((ai.internalCast target cmd nowMs).1, [])
  | .ability target cmd nowMs => ((ai.internalAbility target cmd nowMs).1, [])
  | .weaponSkill target cmd nowMs => ((ai.internalWeaponSkill target cmd nowMs).1, [])
  | .useItem target itemId castTimeMs nowMs =>
      ((ai.internalUseItem target itemId castTimeMs nowMs).1, [])
  | .disengage => ai.internalDisengage
  | .die nowMs fadeoutMs => ai.internalDie nowMs fadeoutMs
  | .despawn nowMs respawnMs => ai.internalDespawn nowMs respawnMs
  | .interruptStates => (ai.interruptStates, [])
  | .reset => (ai.reset, [])
  | .setController controller => ({ ai with controller := controller }, [])
  | .queueAction action => ({ ai with actionQueue := ai.actionQueue.push action }, [])
  | .update nowMs owner arena => ai.update nowMs owner arena

end AIContainer

end Garlemald.Battle
