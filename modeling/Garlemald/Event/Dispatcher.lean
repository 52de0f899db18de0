import Garlemald.Lua.WakeUps
import Mathlib.Logic.Function.Basic

/-!
The dispatch of an event that a client has started. The script of the owner of the event runs in a
coroutine, the commands it has queued are drained, and these may run hooks of quests in turn. The
client is locked until it is told that the event is over.
-/

namespace Garlemald.Events

open Library Lua

structure EventSession where
  currentEventOwner : UInt32
  currentEventName : Text
  currentEventType : UInt8

/-- A quest of a journal, with the actor classes that its current sequence has registered. -/
structure HeldQuest where
  questId : UInt32
  current : List UInt32

abbrev QuestJournal := List HeldQuest

structure ActorHandle where
  isPlayer : Bool
  zoneId : UInt32
  sessionId : UInt32
  actorName : Text
  className : Text
  classPath : Text
  uniqueId : Text
  actorClassId : UInt32
  questJournal : QuestJournal
  eventSession : EventSession

structure Zone where
  zoneName : Text
  directors : UInt32 → Option Text

inductive ScriptPath where
  | npc (zoneName className uniqueId : Text)
  | baseClass (classPath : Text)
  | director (className : Text)
  | quest (questId : UInt32)
deriving DecidableEq

/-- How far the commands that a hook has queued are followed: not at all, only in what they do on
the server, or also in the packets that the event bridge makes of them. -/
inductive Drain where
  | dropped
  | applied
  | bridged
deriving DecidableEq

/-- The hook of a quest command is drained past the event bridge; those of a start or an abandon
are not drained at all. -/
def hookDrain (drained : Bool) : Drain := if drained then .applied else .dropped

mutual

/-- A command that a script queues; one that runs a hook comes with what the hook does. The quest
commands and the end of a content instance are given by the changes of a journal, the hooks, the
despawns and the purges that they consist of. -/
inductive Command (θ : Type) where
  | runEventFunction (player : UInt32) (eventName functionName : Text)
  | endEvent (player eventOwner : UInt32) (eventName : Text)
  | questOnNotice (player questId : UInt32) (onNotice : Pass θ)
  | questHook (player questId : UInt32) (drained : Bool) (hook : Pass θ)
  | questMutation (player : UInt32) (mutate : QuestJournal → QuestJournal)
  | despawnActor (actorId : UInt32)
  | purgeOwner (player : UInt32)
  | other

inductive Queue (θ : Type) where
  | done
  | next (command : Command θ) (rest : Queue θ)

/-- What comes of running a hook in a coroutine: the commands it has queued when it first stops,
and what it then waits for. A hook that returned or failed waits for nothing. -/
inductive Pass (θ : Type) where
  | panicked
  | ran (commands : Queue θ) (thread : θ) (now : UInt64) (directive : YieldDirective)

end

structure LuaEngine (θ : Type) where
  scripts : ScriptPath → Bool
  onEventStarted : ScriptPath → Pass θ

structure MapServer (θ : Type) where
  registry : UInt32 → Option ActorHandle
  clients : UInt32 → Bool
  zones : UInt32 → Option Zone
  lua : Option (LuaEngine θ)

structure EventStarted where
  playerActorId : UInt32
  ownerActorId : UInt32
  eventName : Text
  eventType : UInt8

inductive EventEvent where
  | runEventFunction (player owner : UInt32) (eventName : Text) (eventType : UInt8)
      (functionName : Text)
  | endEvent (player owner : UInt32) (eventName : Text) (eventType : UInt8)
deriving DecidableEq

/-- What the dispatch does that others see: a call of the scheduler or a packet to a client. -/
inductive Deed (θ : Type) where
  | call (c : Event θ)
  | sent (event : EventEvent)

def EventEvent.playerActorId : EventEvent → UInt32
  | .runEventFunction player _ _ _ _ => player
  | .endEvent player _ _ _ => player

variable {θ : Type}

def reparkCall (now : UInt64) (c : ParkedCoroutine θ) : YieldDirective → Option (Event θ)
  | .waitTime delay => some (.parkTime now delay c)
  | .waitSignal name => some (.parkSignal name c)
  | .waitEvent player => some (.parkEvent player c)
  | .finished => none
  | .other => none

def Queue.toList : Queue θ → List (Command θ)
  | .done => []
  | .next command rest => command :: rest.toList

/-- The packet of a command; what a command leaves open is read off the session. -/
def Command.translate (session : EventSession) : Command θ → Option EventEvent
  | .runEventFunction player eventName functionName =>
      some (.runEventFunction player session.currentEventOwner
        (if eventName.isEmpty then session.currentEventName else eventName)
        session.currentEventType functionName)
  | .endEvent player eventOwner eventName =>
      some (.endEvent player
        (if eventOwner ≠ 0 then eventOwner else session.currentEventOwner)
        (if eventName.isEmpty then session.currentEventName else eventName)
        session.currentEventType)
  | _ => none

def ActorHandle.claims (h : ActorHandle) (classId : UInt32) : Bool :=
  h.questJournal.any fun q => q.current.contains classId

namespace MapServer

variable (m : MapServer θ)

def reaches (player : UInt32) : Bool := (m.registry player).any fun h => m.clients h.sessionId

def sendToPlayer (event : EventEvent) : List (Deed θ) :=
  if m.reaches event.playerActorId then [.sent event] else []

def bridge (player : UInt32) (commands : Queue θ) : List (Deed θ) :=
  match m.registry player with
  | none => []
  | some handle =>
      (commands.toList.filterMap (·.translate handle.eventSession)).flatMap m.sendToPlayer

def hasScript (path : ScriptPath) : Bool := m.lua.any fun lua => lua.scripts path

def isPlayer (actorId : UInt32) : Bool := (m.registry actorId).any (·.isPlayer)

def holdsQuest (player questId : UInt32) : Bool :=
  (m.registry player).any fun h => h.questJournal.any fun q => q.questId == questId

def noticeRuns (player questId : UInt32) : Bool :=
  m.isPlayer player && m.hasScript (.quest questId) && m.holdsQuest player questId

def hookRuns (player questId : UInt32) : Bool :=
  m.isPlayer player && m.hasScript (.quest questId)

def applyQuestMutation (player : UInt32) (mutate : QuestJournal → QuestJournal) : MapServer θ :=
  { m with
    registry := Function.update m.registry player
      ((m.registry player).map fun h => { h with questJournal := mutate h.questJournal }) }

def applyDespawnActor (actorId : UInt32) : MapServer θ :=
  match m.registry actorId with
  | none => m
  | some handle =>
      if (m.zones handle.zoneId).isSome then
        { m with registry := Function.update m.registry actorId none }
      else m

end MapServer

mutual

def Command.after : Command θ → MapServer θ → MapServer θ
  | .questOnNotice player questId onNotice, m =>
      if m.noticeRuns player questId then onNotice.after .bridged m else m
  | .questHook player questId drained hook, m =>
      if m.hookRuns player questId then hook.after (hookDrain drained) m else m
  | .questMutation player mutate, m => m.applyQuestMutation player mutate
  | .despawnActor actorId, m => m.applyDespawnActor actorId
  | .runEventFunction _ _ _, m => m
  | .endEvent _ _ _, m => m
  | .purgeOwner _, m => m
  | .other, m => m

def Queue.after : Queue θ → MapServer θ → MapServer θ
  | .done, m => m
  | .next command rest, m => rest.after (command.after m)

def Pass.after : Pass θ → Drain → MapServer θ → MapServer θ
  | .panicked, _, m => m
  | .ran commands _ _ _, drain, m => if drain = .dropped then m else commands.after m

end

mutual

def Command.applyRuntime : Command θ → MapServer θ → List (Deed θ)
  | .questOnNotice player questId onNotice, m =>
      if m.noticeRuns player questId then onNotice.drain .bridged player m else []
  | .questHook player questId drained hook, m =>
      if m.hookRuns player questId then hook.drain (hookDrain drained) player m else []
  | .purgeOwner player, _ => [.call (.purgeOwner player)]
  | .questMutation _ _, _ => []
  | .despawnActor _, _ => []
  | .runEventFunction _ _ _, _ => []
  | .endEvent _ _ _, _ => []
  | .other, _ => []

def Queue.applyRuntime : Queue θ → MapServer θ → List (Deed θ)
  | .done, _ => []
  | .next command rest, m => command.applyRuntime m ++ rest.applyRuntime (command.after m)

/-- The coroutine is parked before the first of its commands is drained. -/
def Pass.drain : Pass θ → Drain → UInt32 → MapServer θ → List (Deed θ)
  | .panicked, _, _, _ => []
  | .ran commands thread now directive, drain, player, m =>
      ((reparkCall now ⟨thread, player⟩ directive).map .call).toList ++
        (if drain = .bridged then m.bridge player commands else []) ++
          (if drain = .dropped then [] else commands.applyRuntime m)

end

namespace MapServer

variable (m : MapServer θ) (e : EventStarted)

def releasable (player : UInt32) : Bool :=
  (m.registry player).any fun h => h.sessionId != 0 && m.clients h.sessionId

def release : List (Deed θ) :=
  if m.releasable e.playerActorId then
    [.sent (.endEvent e.playerActorId e.ownerActorId e.eventName e.eventType)]
  else []

def releaseUnclaimedOwnerWithEndEvent (ownerClassId : UInt32) : List (Deed θ) :=
  match m.registry e.playerActorId with
  | none => []
  | some player => if player.claims ownerClassId then [] else m.release e

def zoneNameFor (zoneId : UInt32) : Text := (m.zones zoneId).elim [] (·.zoneName)

/-- An owner that a quest claims does not run its own script, only that of its class. -/
def npcScript (lua : LuaEngine θ) (owner player : ActorHandle) : Option ScriptPath :=
  let uniqueId := if owner.uniqueId.isEmpty then owner.actorName else owner.uniqueId
  let uniquePath := .npc (m.zoneNameFor owner.zoneId) owner.className uniqueId
  let basePath := .baseClass owner.classPath
  if !player.claims owner.actorClassId && lua.scripts uniquePath then some uniquePath
  else if lua.scripts basePath then some basePath
  else none

def dispatchNpcEventStarted (lua : LuaEngine θ) : MapServer θ × List (Deed θ) :=
  match m.registry e.ownerActorId with
  | none =>
      if e.ownerActorId >>> 28 = 0xA ∨ e.ownerActorId = 0 ∨ e.eventType = 127 then (m, [])
      else (m, m.release e)
  | some owner =>
      match m.registry e.playerActorId with
      | none => (m, [])
      | some player =>
          match m.npcScript lua owner player with
          | none => (m, m.releaseUnclaimedOwnerWithEndEvent e owner.actorClassId)
          | some path =>
              match lua.onEventStarted path with
              -- a queue that is empty stands for a script that does nothing
              | .ran .done thread now directive =>
                  (m, ((reparkCall now ⟨thread, e.playerActorId⟩ directive).map .call).toList ++
                    m.releaseUnclaimedOwnerWithEndEvent e owner.actorClassId)
              | pass => (pass.after .bridged m, pass.drain .bridged e.playerActorId m)

/-- The script of a director, when its zone is loaded and still has the director. -/
def directorScript (lua : LuaEngine θ) : Option ScriptPath := do
  let zone ← m.zones (e.ownerActorId >>> 19 &&& 0x1FF)
  let className ← zone.directors e.ownerActorId
  if lua.scripts (.director className) then some (.director className) else none

def dispatchDirectorEventStarted (lua : LuaEngine θ) : MapServer θ × List (Deed θ) :=
  match m.directorScript e lua with
  | none => (m, [])
  | some path =>
      match m.registry e.playerActorId with
      | none => (m, [])
      | some _ =>
          let pass := lua.onEventStarted path
          (pass.after .bridged m, pass.drain .bridged e.playerActorId m)

def dispatchEventEvent : MapServer θ × List (Deed θ) :=
  match m.lua with
  | none => (m, [])
  | some lua =>
      if e.ownerActorId >>> 28 = 6 then m.dispatchDirectorEventStarted e lua
      else m.dispatchNpcEventStarted e lua

end MapServer

end Garlemald.Events
