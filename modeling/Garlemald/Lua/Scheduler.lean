import Garlemald.Library.Table
import Garlemald.Library.Utf8

/-!
The coroutine scheduler: coroutines parked on a deadline, on a named signal or on a
player's event channel, and the context that stamps event parks with the event they
belong to. A coroutine is an opaque handle with the player it acts for. The channel
with the key 0 is shared: a park whose yield lost its player lands there, and the
lookups of every player fall back to it.
-/

namespace Garlemald.Lua
open Library

structure ParkedCoroutine (θ : Type) where
  thread : θ
  /-- 0 when unknown. -/
  ownerPlayerId : UInt32
deriving DecidableEq, Repr

def eventOwnerUnknown : UInt32 := 0

structure ParkedEventCoroutine (θ : Type) where
  eventOwnerActorId : UInt32
  coroutine : ParkedCoroutine θ
deriving DecidableEq, Repr

structure CoroutineScheduler (θ : Type) where
  sleepingOnTime : List (UInt64 × ParkedCoroutine θ) := []
  sleepingOnSignal : Table Text (List (ParkedCoroutine θ)) := ∅
  sleepingOnPlayerEvent : Table UInt32 (ParkedEventCoroutine θ) := ∅
  eventOwnerContext : Table UInt32 UInt32 := ∅

inductive YieldDirective where
  | finished
  | waitTime (delay : UInt64)
  | waitSignal (name : Text)
  | waitEvent (player : UInt32)
  | other
deriving DecidableEq, Repr

namespace CoroutineScheduler

variable {θ : Type}

/-- `delay` is the wait in milliseconds, as the conversion from seconds saturates it. -/
def parkTime (now delay : UInt64) (c : ParkedCoroutine θ) (s : CoroutineScheduler θ) :
    CoroutineScheduler θ :=
  { s with sleepingOnTime := s.sleepingOnTime ++ [(now + delay, c)] }

def parkSignal (signal : Text) (c : ParkedCoroutine θ) (s : CoroutineScheduler θ) :
    CoroutineScheduler θ :=
  { s with sleepingOnSignal :=
      s.sleepingOnSignal.insert signal ((s.sleepingOnSignal.lookup signal).getD [] ++ [c]) }

/-- The event a park belongs to, by the owner of the coroutine or else by the park key. -/
def eventOwner (player : UInt32) (c : ParkedCoroutine θ) (s : CoroutineScheduler θ) : UInt32 :=
  let known := [c.ownerPlayerId, player].filter (· ≠ 0)
  (known.findSome? s.eventOwnerContext.lookup).getD eventOwnerUnknown

def parkEvent (player : UInt32) (c : ParkedCoroutine θ) (s : CoroutineScheduler θ) :
    CoroutineScheduler θ :=
  { s with sleepingOnPlayerEvent :=
      s.sleepingOnPlayerEvent.insert player ⟨eventOwner player c s, c⟩ }

def drainDueTime (now : UInt64) (s : CoroutineScheduler θ) :
    List (ParkedCoroutine θ) × CoroutineScheduler θ :=
  let (due, pending) := s.sleepingOnTime.partition fun e => decide (e.1 ≤ now)
  (due.map Prod.snd, { s with sleepingOnTime := pending })

def drainSignal (signal : Text) (s : CoroutineScheduler θ) :
    List (ParkedCoroutine θ) × CoroutineScheduler θ :=
  ((s.sleepingOnSignal.lookup signal).getD [],
    { s with sleepingOnSignal := s.sleepingOnSignal.erase signal })

def takeEvent (player : UInt32) (s : CoroutineScheduler θ) :
    Option (ParkedCoroutine θ) × CoroutineScheduler θ :=
  ((s.sleepingOnPlayerEvent.lookup player).map (·.coroutine),
    { s with sleepingOnPlayerEvent := s.sleepingOnPlayerEvent.erase player })

def parkedEventOwner (player : UInt32) (s : CoroutineScheduler θ) : Option UInt32 :=
  let found := (s.sleepingOnPlayerEvent.lookup player).or
    (if player ≠ 0 then s.sleepingOnPlayerEvent.lookup 0 else none)
  found.map (·.eventOwnerActorId)

def discardParkedEvent (player : UInt32) (s : CoroutineScheduler θ) :
    Bool × CoroutineScheduler θ :=
  if (s.sleepingOnPlayerEvent.lookup player).isSome then
    (true, { s with sleepingOnPlayerEvent := s.sleepingOnPlayerEvent.erase player })
  else if player ≠ 0 then
    ((s.sleepingOnPlayerEvent.lookup 0).isSome,
      { s with sleepingOnPlayerEvent := s.sleepingOnPlayerEvent.erase 0 })
  else (false, s)

def setEventOwnerContext (player ownerActorId : UInt32) (s : CoroutineScheduler θ) :
    CoroutineScheduler θ :=
  { s with eventOwnerContext := s.eventOwnerContext.insert player ownerActorId }

def clearEventOwnerContext (player : UInt32) (s : CoroutineScheduler θ) : CoroutineScheduler θ :=
  { s with eventOwnerContext := s.eventOwnerContext.erase player }

def pendingTimeCount (s : CoroutineScheduler θ) : Nat := s.sleepingOnTime.length

def pendingSignalCount (s : CoroutineScheduler θ) : Nat :=
  ((Table.values s.sleepingOnSignal).map List.length).sum

def pendingEventCount (s : CoroutineScheduler θ) : Nat := s.sleepingOnPlayerEvent.entries.length

def pendingCount (s : CoroutineScheduler θ) : Nat :=
  s.pendingTimeCount + s.pendingSignalCount + s.pendingEventCount

/-- Drop what is parked by a leaving player and return how much that was. Parks without
an owner are kept; an event park goes by its key as well as by its owner. -/
def purgeOwner (player : UInt32) (s : CoroutineScheduler θ) : Nat × CoroutineScheduler θ :=
  if player = 0 then (0, s)
  else
    let others := fun c : ParkedCoroutine θ => decide (c.ownerPlayerId ≠ player)
    let purged := { s with
      sleepingOnTime := s.sleepingOnTime.filter fun e => others e.2
      sleepingOnSignal := Table.retain (fun _ parked => !parked.isEmpty)
        (Table.mapValues (List.filter others) s.sleepingOnSignal)
      sleepingOnPlayerEvent := Table.retain
        (fun key parked => decide (key ≠ player) && others parked.coroutine)
        s.sleepingOnPlayerEvent
      eventOwnerContext := s.eventOwnerContext.erase player }
    (s.pendingCount - purged.pendingCount, purged)

def firePlayerEvent (player : UInt32) (s : CoroutineScheduler θ) :
    Option (ParkedCoroutine θ) × CoroutineScheduler θ :=
  match takeEvent player s with
  | (some c, s') => (some c, s')
  | (none, s') => if player ≠ 0 then takeEvent 0 s' else (none, s')

/-- A coroutine that finished, or yielded anything else, is not parked again. -/
def repark (now : UInt64) (c : ParkedCoroutine θ) (directive : YieldDirective)
    (s : CoroutineScheduler θ) : CoroutineScheduler θ :=
  match directive with
  | .waitTime delay => parkTime now delay c s
  | .waitSignal name => parkSignal name c s
  | .waitEvent player => parkEvent player c s
  | .finished => s
  | .other => s

end CoroutineScheduler

inductive Event (θ : Type) where
  | parkTime (now delay : UInt64) (c : ParkedCoroutine θ)
  | parkSignal (signal : Text) (c : ParkedCoroutine θ)
  | parkEvent (player : UInt32) (c : ParkedCoroutine θ)
  | drainDueTime (now : UInt64)
  | drainSignal (signal : Text)
  | takeEvent (player : UInt32)
  | firePlayerEvent (player : UInt32)
  | discardParkedEvent (player : UInt32)
  | setEventOwnerContext (player ownerActorId : UInt32)
  | clearEventOwnerContext (player : UInt32)
  | purgeOwner (player : UInt32)
deriving DecidableEq, Repr

namespace CoroutineScheduler

variable {θ : Type}

def apply (s : CoroutineScheduler θ) : Event θ → CoroutineScheduler θ
  | .parkTime now delay c => parkTime now delay c s
  | .parkSignal signal c => parkSignal signal c s
  | .parkEvent player c => parkEvent player c s
  | .drainDueTime now => (drainDueTime now s).2
  | .drainSignal signal => (drainSignal signal s).2
  | .takeEvent player => (takeEvent player s).2
  | .firePlayerEvent player => (firePlayerEvent player s).2
  | .discardParkedEvent player => (discardParkedEvent player s).2
  | .setEventOwnerContext player ownerActorId => setEventOwnerContext player ownerActorId s
  | .clearEventOwnerContext player => clearEventOwnerContext player s
  | .purgeOwner player => (purgeOwner player s).2

def after (es : List (Event θ)) : CoroutineScheduler θ := es.foldl apply {}

end CoroutineScheduler
end Garlemald.Lua
