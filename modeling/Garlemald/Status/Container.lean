import Garlemald.Library.Table

/-!
The status effects of an actor: the active effects by id, and beside them the twenty
icon slots the client shows, each a short id with its end time. Every change of a slot
is sent to the client. The magnitudes of effects are only compared.
-/

namespace Garlemald.Status
open Library

def maxEffects : Nat := 20

def defaultGainTextId : UInt16 := 30328

def defaultLossTextId : UInt16 := 30331

def replaceTextId : UInt16 := 30330

def stanceEndTime : UInt32 := 0xFFFFFFFF

/-- The short id the client knows an effect by; it keeps the low 16 bits only. -/
def statusIdOf (effectId : UInt32) : UInt16 :=
  UInt16.ofNat (effectId.toNat - 200000)

def flagStance : UInt32 := 0x20000000

def saturatingAdd (a b : UInt32) : UInt32 := UInt32.ofNat (min (a.toNat + b.toNat) 0xFFFFFFFF)

/-- How an effect meets a second one with its id. -/
inductive StatusEffectOverwrite where
  | none
  | always
  | greaterOrEqualTo
  | greaterOnly
deriving DecidableEq, Repr

structure StatusEffect (μ : Type) where
  ownerActorId : UInt32
  sourceActorId : UInt32
  id : UInt32
  startTime : UInt32
  endTime : UInt32
  lastTickMs : UInt64
  duration : UInt32
  tickMs : UInt32
  magnitude : μ
  flags : UInt32
  overwrite : StatusEffectOverwrite
  silentOnGain : Bool
  silentOnLoss : Bool
  hidden : Bool
  statusLossTextId : UInt16
deriving DecidableEq, Repr

inductive StatusEvent where
  | dbSave (ownerActorId : UInt32)
  | packetSetStatus (ownerActorId : UInt32) (slotIndex : Nat) (statusId : UInt16)
  | packetSetStatusTime (ownerActorId : UInt32) (slotIndex : Nat) (expiresAt : UInt32)
  | recalcStats (ownerActorId : UInt32)
  | hpTick (ownerActorId : UInt32) (delta : Int32)
  | mpTick (ownerActorId : UInt32) (delta : Int32)
  | tpTick (ownerActorId : UInt32) (delta : Int32)
  | luaCall (ownerActorId statusEffectId : UInt32) (functionName : String)
  | worldMasterText (ownerActorId : UInt32) (textId : UInt16) (statusEffectId : UInt32)
      (playGainAnimation : Bool)
deriving DecidableEq, Repr

namespace StatusEffect

variable {μ : Type}

def statusId (e : StatusEffect μ) : UInt16 := statusIdOf e.id

def isStance (e : StatusEffect μ) : Bool := e.flags &&& flagStance == flagStance

def intersects (e : StatusEffect μ) (flag : UInt32) : Bool := e.flags &&& flag != 0

def nowSeconds (nowMs : UInt64) : UInt32 := (nowMs / 1000).toUInt32

def setStartTime (nowMs : UInt64) (e : StatusEffect μ) : StatusEffect μ :=
  { e with startTime := nowSeconds nowMs, lastTickMs := nowMs }

def setEndTime (endTime : UInt32) (e : StatusEffect μ) : StatusEffect μ :=
  { e with endTime := if e.isStance then stanceEndTime else endTime }

def wireEndTime (e : StatusEffect μ) : UInt32 := if e.isStance then stanceEndTime else e.endTime

def begin (nowMs : UInt64) (e : StatusEffect μ) : StatusEffect μ :=
  (e.setStartTime nowMs).setEndTime (saturatingAdd (nowSeconds nowMs) e.duration)

/-- Whether the effect has expired, the effect with its last tick, and the tick's event. -/
def update (nowMs : UInt64) (e : StatusEffect μ) : Bool × StatusEffect μ × List StatusEvent :=
  let due := e.tickMs ≠ 0 ∧ e.tickMs.toNat ≤ nowMs.toNat - e.lastTickMs.toNat
  let ticked := if due then { e with lastTickMs := nowMs } else e
  let events := if due then [.luaCall e.ownerActorId e.id "onTick"] else []
  (!e.isStance && e.endTime != 0 && decide (e.endTime ≤ nowSeconds nowMs), ticked, events)

def clonedFor (newOwner : UInt32) (e : StatusEffect μ) : StatusEffect μ :=
  { e with ownerActorId := newOwner, sourceActorId := newOwner }

/-- Whether `e` lets an effect with the same id take its place. -/
def admits [LT μ] [LE μ] [DecidableLT μ] [DecidableLE μ] (e new : StatusEffect μ) : Bool :=
  match e.overwrite with
  | .none => false
  | .always => true
  | .greaterOnly => e.duration < new.duration || e.magnitude < new.magnitude
  | .greaterOrEqualTo => e.duration ≤ new.duration || e.magnitude ≤ new.magnitude

end StatusEffect

def regenTickMs : UInt64 := 3000

structure RegenModifiers where
  regenDown : Int32 := 0
  regen : Int32 := 0
  refresh : Int32 := 0
  regain : Int32 := 0
deriving DecidableEq, Repr

structure PassiveRegen where
  hp : Int32 := 0
  mp : Int32 := 0
  tp : Int32 := 0
deriving DecidableEq, Repr

structure StatusEffectContainer (μ : Type) where
  ownerActorId : UInt32
  effects : Table UInt32 (StatusEffect μ) := ∅
  status : List UInt16 := List.replicate maxEffects 0
  statusShownTime : List UInt32 := List.replicate maxEffects 0
  lastRegenMs : UInt64 := 0

namespace StatusEffectContainer

variable {μ : Type}

/-- The first slot that holds the short id; the short id 0 stands for an empty slot. -/
def slotOf (c : StatusEffectContainer μ) (statusId : UInt16) : Option Nat :=
  c.status.findIdx? (· == statusId)

def setStatusAtIndex (index : Nat) (statusId : UInt16) (c : StatusEffectContainer μ) :
    StatusEffectContainer μ × List StatusEvent :=
  if index < c.status.length then
    ({ c with status := c.status.set index statusId },
      [.packetSetStatus c.ownerActorId index statusId])
  else (c, [])

def setTimeAtIndex (index : Nat) (expiresAt : UInt32) (c : StatusEffectContainer μ) :
    StatusEffectContainer μ × List StatusEvent :=
  if index < c.statusShownTime.length then
    ({ c with statusShownTime := c.statusShownTime.set index expiresAt },
      [.packetSetStatusTime c.ownerActorId index expiresAt])
  else (c, [])

def setSlot (index : Nat) (statusId : UInt16) (expiresAt : UInt32)
    (c : StatusEffectContainer μ) : StatusEffectContainer μ × List StatusEvent :=
  let (c, first) := c.setStatusAtIndex index statusId
  let (c, second) := c.setTimeAtIndex index expiresAt
  (c, first ++ second)

/-- Put a new visible effect into a slot: the one of the effect it overwrites, one that
shows its short id already, or an empty one. -/
def showEffect (priorSlot : Option Nat) (effect : StatusEffect μ) (c : StatusEffectContainer μ) :
    StatusEffectContainer μ × List StatusEvent :=
  if effect.hidden then (c, [])
  else match (priorSlot.or (c.slotOf effect.statusId)).or (c.slotOf 0) with
    | some index => c.setSlot index effect.statusId effect.wireEndTime
    | none => (c, [])

/-- Start and enter an effect while there is room. -/
def enterEffect (priorSlot : Option Nat) (effect : StatusEffect μ) (sourceActorId : UInt32)
    (nowMs : UInt64) (c : StatusEffectContainer μ) :
    Bool × StatusEffectContainer μ × List StatusEvent :=
  let effect :=
    { effect with ownerActorId := c.ownerActorId, sourceActorId := sourceActorId }.begin nowMs
  if maxEffects ≤ c.effects.entries.length then (false, c, [])
  else
    let shown := c.showEffect priorSlot effect
    (true, { shown.1 with effects := shown.1.effects.insert effect.id effect },
      [.luaCall c.ownerActorId effect.id "onGain"] ++ shown.2 ++ [.recalcStats c.ownerActorId])

section Add

variable [LT μ] [LE μ] [DecidableLT μ] [DecidableLE μ]

def addStatusEffect (effect : StatusEffect μ) (sourceActorId : UInt32) (nowMs : UInt64)
    (worldmasterTextId : UInt16) (c : StatusEffectContainer μ) :
    Bool × StatusEffectContainer μ × List StatusEvent :=
  let existing := c.effects.lookup effect.id
  let canOverwrite := existing.any fun old => old.admits effect
  if existing.isSome && !canOverwrite then (false, c, [])
  else
    let gain : List StatusEvent := if effect.silentOnGain then []
      else [.worldMasterText c.ownerActorId worldmasterTextId effect.id true]
    let priorSlot := if canOverwrite then c.slotOf effect.statusId else none
    let cleared := if canOverwrite then { c with effects := c.effects.erase effect.id } else c
    let added := cleared.enterEffect priorSlot effect sourceActorId nowMs
    (added.1, added.2.1, gain ++ added.2.2)

def copyEffect (template : StatusEffect μ) (nowMs : UInt64) (c : StatusEffectContainer μ) :
    Bool × StatusEffectContainer μ × List StatusEvent :=
  c.addStatusEffect (template.clonedFor c.ownerActorId) template.sourceActorId nowMs
    defaultGainTextId

end Add

def clearIcon (effect : StatusEffect μ) (c : StatusEffectContainer μ) :
    StatusEffectContainer μ × List StatusEvent :=
  if effect.hidden then (c, [])
  else match c.slotOf effect.statusId with
    | some index => c.setSlot index 0 0
    | none => (c, [])

def removeStatusEffect (effectId : UInt32) (worldmasterTextId : UInt16) (playEffect : Bool)
    (c : StatusEffectContainer μ) : Bool × StatusEffectContainer μ × List StatusEvent :=
  match c.effects.lookup effectId with
  | none => (false, c, [])
  | some effect =>
      let loss : List StatusEvent := if effect.silentOnLoss then []
        else [.worldMasterText c.ownerActorId worldmasterTextId effectId playEffect]
      let cleared := c.clearIcon effect
      (true, { cleared.1 with effects := cleared.1.effects.erase effectId },
        loss ++ cleared.2 ++
          [.luaCall c.ownerActorId effectId "onLose", .recalcStats c.ownerActorId])

def removeEach (playEffect : Bool) :
    List (UInt32 × UInt16) → StatusEffectContainer μ → StatusEffectContainer μ × List StatusEvent
  | [], c => (c, [])
  | (id, lossText) :: rest, c =>
      let (_, c, events) := c.removeStatusEffect id lossText playEffect
      let (c, later) := removeEach playEffect rest c
      (c, events ++ later)

/-- The active effects in the order in which the map yields its keys. -/
def listed (order : List UInt32) (c : StatusEffectContainer μ) : List (StatusEffect μ) :=
  order.filterMap c.effects.lookup

def removeByFlag (order : List UInt32) (flag : UInt32) (c : StatusEffectContainer μ) :
    Bool × StatusEffectContainer μ × List StatusEvent :=
  let ids := ((c.listed order).filter (·.intersects flag)).map fun e => (e.id, e.statusLossTextId)
  let (c, events) := removeEach true ids c
  (!ids.isEmpty, c, events)

def clearAll (order : List UInt32) (c : StatusEffectContainer μ) :
    StatusEffectContainer μ × List StatusEvent :=
  removeEach false ((c.listed order).map fun e => (e.id, e.statusLossTextId)) c

/-- Write the new effect over the slot of the old one, by way of an empty slot. -/
def moveIcon (old new : StatusEffect μ) (c : StatusEffectContainer μ) :
    StatusEffectContainer μ × List StatusEvent :=
  match c.slotOf old.statusId with
  | some index =>
      let emptied := c.setStatusAtIndex index 0
      let shown := emptied.1.setSlot index new.statusId new.wireEndTime
      (shown.1, emptied.2 ++ shown.2)
  | none => (c, [])

def replaceEffect (oldEffectId : UInt32) (new : StatusEffect μ) (nowMs : UInt64)
    (c : StatusEffectContainer μ) : Bool × StatusEffectContainer μ × List StatusEvent :=
  match c.effects.lookup oldEffectId with
  | none => (false, c, [])
  | some old =>
      let hooks : List StatusEvent :=
        [.luaCall c.ownerActorId oldEffectId "onLose", .luaCall c.ownerActorId new.id "onGain"]
      let new := { new with ownerActorId := c.ownerActorId }.begin nowMs
      let moved := { c with effects := c.effects.erase oldEffectId }.moveIcon old new
      (true, { moved.1 with effects := moved.1.effects.insert new.id new },
        hooks ++ moved.2 ++ [.worldMasterText c.ownerActorId replaceTextId new.id true])

def regenTick (mods : RegenModifiers) (passive : PassiveRegen) (c : StatusEffectContainer μ) :
    List StatusEvent :=
  let regen := mods.regen + passive.hp
  let refresh := mods.refresh + passive.mp
  let regain := mods.regain + passive.tp
  (if 0 < mods.regenDown then [.hpTick c.ownerActorId (-mods.regenDown)] else []) ++
    (if regen ≠ 0 then [.hpTick c.ownerActorId regen] else []) ++
    (if refresh ≠ 0 then [.mpTick c.ownerActorId refresh] else []) ++
    (if regain ≠ 0 then [.tpTick c.ownerActorId regain] else [])

/-- Tick the effects in the given order and collect the expired ones. -/
def tickEach (nowMs : UInt64) :
    List UInt32 → StatusEffectContainer μ → List UInt32 × StatusEffectContainer μ × List StatusEvent
  | [], c => ([], c, [])
  | id :: rest, c =>
      match c.effects.lookup id with
      | none => tickEach nowMs rest c
      | some effect =>
          let (ended, ticked, events) := effect.update nowMs
          let (expired, c, later) :=
            tickEach nowMs rest { c with effects := c.effects.insert id ticked }
          (if ended then id :: expired else expired, c, events ++ later)

def removeExpired :
    List UInt32 → StatusEffectContainer μ → StatusEffectContainer μ × List StatusEvent
  | [], c => (c, [])
  | id :: rest, c =>
      let lossText := ((c.effects.lookup id).map (·.statusLossTextId)).getD defaultLossTextId
      let (_, c, events) := c.removeStatusEffect id lossText true
      let (c, later) := removeExpired rest c
      (c, events ++ later)

/-- One tick of the game loop; `order` is the order in which the map yields its keys. -/
def update (order : List UInt32) (nowMs : UInt64) (mods : RegenModifiers)
    (passive : PassiveRegen) (c : StatusEffectContainer μ) :
    StatusEffectContainer μ × List StatusEvent :=
  let due := regenTickMs.toNat ≤ nowMs.toNat - c.lastRegenMs.toNat
  let regen := if due then c.regenTick mods passive else []
  let c := if due then { c with lastRegenMs := nowMs } else c
  let (expired, c, ticks) := tickEach nowMs order c
  let (c, losses) := removeExpired expired c
  (c, regen ++ ticks ++ losses)

end StatusEffectContainer
end Garlemald.Status
