import Mathlib.Tactic.TypeStar

/-!
The states a fighter stacks: one for each thing it can be doing, with a timer of its own.
Times are milliseconds of 64 bits, whose sums wrap as in a release build.
-/

namespace Garlemald.Battle

variable {φ : Type}

structure BattleCommand (φ : Type) where
  id : UInt16
  range : φ
  castType : UInt8
  castTimeMs : UInt32
  recastTimeMs : UInt32
deriving DecidableEq

def MAX_STATE_STACK : Nat := 10

inductive BattleStateKind where
  | attack
  | magic
  | ability
  | weaponSkill
  | item
  | death
  | despawn
  | inactive
deriving DecidableEq

inductive BattleStateBody (φ : Type) where
  | attack (nextSwingMs : UInt64)
  | magic (command : BattleCommand φ) (castFinishMs : UInt64) (castStarted : Bool)
  | ability (command : BattleCommand φ) (castFinishMs : UInt64)
  | weaponSkill (command : BattleCommand φ) (castFinishMs : UInt64)
  | item (itemId : UInt32) (castFinishMs : UInt64)
  | death (despawnAtMs : UInt64)
  | despawn (respawnAtMs : UInt64)
  /-- The end 0 is none. -/
  | inactive (endMs : UInt64)
deriving DecidableEq

def BattleStateBody.kind : BattleStateBody φ → BattleStateKind
  | .attack .. => .attack
  | .magic .. => .magic
  | .ability .. => .ability
  | .weaponSkill .. => .weaponSkill
  | .item .. => .item
  | .death .. => .death
  | .despawn .. => .despawn
  | .inactive .. => .inactive

structure BattleState (φ : Type) where
  body : BattleStateBody φ
  ownerActorId : UInt32
  /-- 0 is no target. -/
  targetActorId : UInt32
  startTimeMs : UInt64
  canInterrupt : Bool
  interrupt : Bool
  isCompleted : Bool
  errorTextId : UInt16
deriving DecidableEq

inductive StateTickResult where
  | goOn
  | complete
  | interrupted
deriving DecidableEq

namespace BattleState

/-- The field `kind` of the source, which its constructors set to that of the body. -/
def kind (s : BattleState φ) : BattleStateKind := s.body.kind

def attack (owner target : UInt32) (nowMs : UInt64) (attackDelayMs : UInt32) :
    BattleState φ where
  body := .attack (nowMs + attackDelayMs.toUInt64)
  ownerActorId := owner
  targetActorId := target
  startTimeMs := nowMs
  canInterrupt := false
  interrupt := false
  isCompleted := false
  errorTextId := 0

def magic (owner target : UInt32) (cmd : BattleCommand φ) (nowMs : UInt64) :
    BattleState φ where
  body := .magic cmd (nowMs + cmd.castTimeMs.toUInt64) false
  ownerActorId := owner
  targetActorId := target
  startTimeMs := nowMs
  canInterrupt := true
  interrupt := false
  isCompleted := false
  errorTextId := 0

def ability (owner target : UInt32) (cmd : BattleCommand φ) (nowMs : UInt64) :
    BattleState φ where
  body := .ability cmd (nowMs + cmd.castTimeMs.toUInt64)
  ownerActorId := owner
  targetActorId := target
  startTimeMs := nowMs
  canInterrupt := true
  interrupt := false
  isCompleted := false
  errorTextId := 0

def weaponSkill (owner target : UInt32) (cmd : BattleCommand φ) (nowMs : UInt64) :
    BattleState φ where
  body := .weaponSkill cmd (nowMs + cmd.castTimeMs.toUInt64)
  ownerActorId := owner
  targetActorId := target
  startTimeMs := nowMs
  canInterrupt := true
  interrupt := false
  isCompleted := false
  errorTextId := 0

def item (owner target itemId castTimeMs : UInt32) (nowMs : UInt64) : BattleState φ where
  body := .item itemId (nowMs + castTimeMs.toUInt64)
  ownerActorId := owner
  targetActorId := target
  startTimeMs := nowMs
  canInterrupt := true
  interrupt := false
  isCompleted := false
  errorTextId := 0

def death (owner : UInt32) (nowMs fadeoutMs : UInt64) : BattleState φ where
  body := .death (nowMs + fadeoutMs)
  ownerActorId := owner
  targetActorId := 0
  startTimeMs := nowMs
  canInterrupt := false
  interrupt := false
  isCompleted := false
  errorTextId := 0

def despawn (owner : UInt32) (nowMs respawnMs : UInt64) : BattleState φ where
  body := .despawn (nowMs + respawnMs)
  ownerActorId := owner
  targetActorId := 0
  startTimeMs := nowMs
  canInterrupt := false
  interrupt := false
  isCompleted := false
  errorTextId := 0

def canChangeState (s : BattleState φ) : Bool :=
  match s.kind with
  | .attack | .death | .despawn => true
  | _ => false

def elapsed (s : BattleState φ) (due : Bool) : StateTickResult × BattleState φ :=
  if due then (.complete, { s with isCompleted := true }) else (.goOn, s)

def update (s : BattleState φ) (nowMs : UInt64) : StateTickResult × BattleState φ :=
  if s.interrupt && s.canInterrupt then (.interrupted, s)
  else
    match s.body with
    | .attack _ => (.goOn, s)
    | .magic _ castFinishMs _ | .ability _ castFinishMs | .weaponSkill _ castFinishMs
    | .item _ castFinishMs => s.elapsed (castFinishMs ≤ nowMs)
    | .death despawnAtMs => s.elapsed (despawnAtMs ≤ nowMs)
    | .despawn respawnAtMs => s.elapsed (respawnAtMs ≤ nowMs)
    | .inactive endMs => s.elapsed (endMs ≠ 0 && endMs ≤ nowMs)

def isAttackReady (s : BattleState φ) (nowMs : UInt64) : Bool :=
  match s.body with
  | .attack nextSwingMs => nextSwingMs ≤ nowMs
  | _ => false

def scheduleNextSwing (s : BattleState φ) (nowMs : UInt64) (delayMs : UInt32) :
    BattleState φ :=
  match s.body with
  | .attack _ => { s with body := .attack (nowMs + delayMs.toUInt64) }
  | _ => s

def command (s : BattleState φ) : Option (BattleCommand φ) :=
  match s.body with
  | .magic command _ _ | .ability command _ | .weaponSkill command _ => some command
  | _ => none

@[simp] theorem death_kind (owner : UInt32) (nowMs fadeoutMs : UInt64) :
    (death owner nowMs fadeoutMs : BattleState φ).kind = .death := rfl

@[simp] theorem scheduleNextSwing_kind (s : BattleState φ) (nowMs : UInt64) (delay : UInt32) :
    (s.scheduleNextSwing nowMs delay).kind = s.kind := by
  unfold scheduleNextSwing
  split
  · next h => rw [kind, kind, h]; rfl
  · rfl

theorem scheduleNextSwing_interrupt (s : BattleState φ) (nowMs : UInt64) (delay : UInt32) :
    (s.scheduleNextSwing nowMs delay).interrupt = s.interrupt := by
  unfold scheduleNextSwing
  split <;> rfl

theorem update_snd (s : BattleState φ) (nowMs : UInt64) :
    (s.update nowMs).2.body = s.body ∧ (s.update nowMs).2.targetActorId = s.targetActorId ∧
      ((s.update nowMs).1 = .goOn → (s.update nowMs).2 = s) := by
  have timer : ∀ due, (s.elapsed due).2.body = s.body ∧
      (s.elapsed due).2.targetActorId = s.targetActorId ∧
      ((s.elapsed due).1 = .goOn → (s.elapsed due).2 = s) := by
    intro due
    cases due <;> simp [elapsed]
  unfold update
  split
  · simp
  · split <;> first | exact timer _ | simp

theorem update_attack {s : BattleState φ} (h : s.kind = .attack) (calm : s.interrupt = false)
    (nowMs : UInt64) : s.update nowMs = (.goOn, s) := by
  unfold update
  rw [calm]
  rw [kind] at h
  cases hb : s.body <;> simp_all [BattleStateBody.kind]

end BattleState

structure Action where
  fireAtMs : UInt64
  checkState : Bool
  tag : UInt32
deriving DecidableEq

abbrev ActionQueue := List Action

namespace ActionQueue

def push (q : ActionQueue) (action : Action) : ActionQueue :=
  (q ++ [action]).mergeSort fun a b => a.fireAtMs ≤ b.fireAtMs

/-- The actions that are due, and the queue without them. -/
def drainDue (q : ActionQueue) (nowMs : UInt64) : List Action × ActionQueue :=
  (q.takeWhile (·.fireAtMs ≤ nowMs), q.dropWhile (·.fireAtMs ≤ nowMs))

end ActionQueue

inductive BattleEvent (φ : Type) where
  | engage (ownerActorId targetActorId : UInt32)
  | disengage (ownerActorId : UInt32)
  | targetChange (ownerActorId : UInt32) (newTargetActorId : Option UInt32)
  | resolveAutoAttack (attackerActorId defenderActorId : UInt32)
  | autoAttackOutOfRange (ownerActorId : UInt32)
  | resolveAction (attackerActorId defenderActorId : UInt32) (command : BattleCommand φ)
  | castStart (ownerActorId targetActorId : UInt32) (commandId : UInt16)
      (castTimeMs : UInt32) (castType : UInt8)
  | castComplete (ownerActorId : UInt32) (commandId : UInt16)
  | castInterrupted (ownerActorId : UInt32) (commandId : UInt16)
  | die (ownerActorId : UInt32)
  | despawn (ownerActorId : UInt32)
  | luaCall (ownerActorId : UInt32) (functionName : String) (commandId : UInt16)
      (targetActorId : Option UInt32)
deriving DecidableEq

end Garlemald.Battle
