import Garlemald.Event.Dispatcher
import Mathlib.Logic.Basic

/-!
How the client of an event is answered. It is told that the event is over, or something is left
that can still tell it: a coroutine that the dispatch has parked for the player, or the hooks of
the player's quests, which are fired behind the dispatch.
-/

namespace Garlemald.Events

open Library Lua

variable {θ : Type}

def Deed.call? : Deed θ → Option (Event θ)
  | .call c => some c
  | .sent _ => none

def EventStarted.isEnd (e : EventStarted) : EventEvent → Bool
  | .endEvent player owner eventName _ =>
      player == e.playerActorId && owner == e.ownerActorId && eventName == e.eventName
  | .runEventFunction _ _ _ _ _ => false

/-- A coroutine of the player that the calls have parked is still parked behind them. -/
def Waits (player : UInt32) (es : List (Event θ)) : Prop :=
  ∃ parked ∈ outstanding es, parked.2.ownerPlayerId = player

/-- A quest that claims the owner has a hook for the event. Hooks are fired for events of the
types up to 3 alone, and for an owner that is still there. -/
def MapServer.hookPending (m : MapServer θ) (e : EventStarted) : Bool :=
  e.eventType ≤ 3 && (m.registry e.playerActorId).any fun player =>
    (m.registry e.ownerActorId).any fun owner =>
      player.questJournal.any fun q =>
        q.current.contains owner.actorClassId && m.hasScript (.quest q.questId)

def Ended (e : EventStarted) (log : List (Deed θ)) : Prop :=
  ∃ event, .sent event ∈ log ∧ e.isEnd event = true

/-- While a coroutine of the player is parked, the client is not told that the event is over. -/
def Unparked (e : EventStarted) : List (Event θ) → List (Deed θ) → Prop
  | _, [] => True
  | before, .call c :: log => Unparked e (before ++ [c]) log
  | before, .sent event :: log =>
      (e.isEnd event = true → ¬ Waits e.playerActorId before) ∧ Unparked e before log

structure Answered (e : EventStarted) (m : MapServer θ) (log : List (Deed θ)) : Prop where
  once : Xor (Ended e log)
    (Waits e.playerActorId (log.filterMap Deed.call?) ∨ m.hookPending e = true)
  unparked : Unparked e [] log

/-- A part of what draining a script comes to: a hook that has run, with the server it has run on,
or a purge of the coroutines of a player. -/
inductive Stage (θ : Type) where
  | pass (m : MapServer θ) (player : UInt32) (bridged : Bool) (commands : Queue θ) (thread : θ)
      (now : UInt64) (directive : YieldDirective)
  | purge (player : UInt32)

namespace Stage

def calls : Stage θ → List (Event θ)
  | .pass _ player _ _ thread now directive => (reparkCall now ⟨thread, player⟩ directive).toList
  | .purge player => [.purgeOwner player]

/-- A command of a hook whose commands are bridged ends the event, and its player has a client. -/
def Ends (e : EventStarted) : Stage θ → Prop
  | .pass m player bridged commands _ _ _ =>
      bridged = true ∧ m.reaches e.playerActorId = true ∧
        ∃ handle, m.registry player = some handle ∧
          ∃ command ∈ commands.toList, (command.translate handle.eventSession).any e.isEnd = true
  | .purge _ => False

def deeds : Stage θ → List (Deed θ)
  | .pass m player bridged commands thread now directive =>
      ((reparkCall now ⟨thread, player⟩ directive).map Deed.call).toList ++
        if bridged then m.bridge player commands else []
  | .purge player => [.call (.purgeOwner player)]

end Stage

mutual

def Command.stages : Command θ → MapServer θ → List (Stage θ)
  | .questOnNotice player questId onNotice, m =>
      if m.noticeRuns player questId then onNotice.stages .bridged player m else []
  | .questHook player questId drained hook, m =>
      if m.hookRuns player questId then hook.stages (hookDrain drained) player m else []
  | .purgeOwner player, _ => [.purge player]
  | .questMutation _ _, _ => []
  | .despawnActor _, _ => []
  | .runEventFunction _ _ _, _ => []
  | .endEvent _ _ _, _ => []
  | .other, _ => []

def Queue.stages : Queue θ → MapServer θ → List (Stage θ)
  | .done, _ => []
  | .next command rest, m => command.stages m ++ rest.stages (command.after m)

def Pass.stages : Pass θ → Drain → UInt32 → MapServer θ → List (Stage θ)
  | .panicked, _, _, _ => []
  | .ran commands thread now directive, drain, player, m =>
      .pass m player (drain = .bridged) commands thread now directive ::
        if drain = .dropped then [] else commands.stages m

end

/-- No stage ends the event while a coroutine of the player is parked. -/
def Orderly (e : EventStarted) : List (Event θ) → List (Stage θ) → Prop
  | _, [] => True
  | before, stage :: stages =>
      (stage.Ends e → ¬ Waits e.playerActorId (before ++ stage.calls)) ∧
        Orderly e (before ++ stage.calls) stages

def waiting : YieldDirective → Bool
  | .finished => false
  | .waitTime _ => true
  | .waitSignal _ => true
  | .waitEvent _ => true
  | .other => false

namespace MapServer

variable (m : MapServer θ) (e : EventStarted)

/-- A script, with the hooks that it sets off, ends the event itself or leaves something that can,
and not both. -/
structure ScriptAnswers (pass : Pass θ) : Prop where
  once : Xor (∃ stage ∈ pass.stages .bridged e.playerActorId m, stage.Ends e)
    (Waits e.playerActorId ((pass.stages .bridged e.playerActorId m).flatMap Stage.calls) ∨
      (pass.after .bridged m).hookPending e = true)
  orderly : Orderly e [] (pass.stages .bridged e.playerActorId m)

/-- Of an owner that does nothing the client is released, unless a quest claims it. -/
def InertAnswers (player owner : ActorHandle) (directive : YieldDirective) : Prop :=
  if player.claims owner.actorClassId then
    waiting directive = true ∨ m.hookPending e = true
  else Xor (m.releasable e.playerActorId = true) (waiting directive = true)

def NpcAnswers (lua : LuaEngine θ) : Prop :=
  match m.registry e.ownerActorId with
  | none =>
      ¬ (e.ownerActorId >>> 28 = 0xA ∨ e.ownerActorId = 0 ∨ e.eventType = 127) ∧
        m.releasable e.playerActorId = true
  | some owner =>
      match m.registry e.playerActorId with
      | none => False
      | some player =>
          match m.npcScript lua owner player with
          | none => m.InertAnswers e player owner .finished
          | some path =>
              match lua.onEventStarted path with
              | .ran .done _ _ directive => m.InertAnswers e player owner directive
              | pass => m.ScriptAnswers e pass

def DirectorAnswers (lua : LuaEngine θ) : Prop :=
  match m.directorScript e lua with
  | none => m.hookPending e = true
  | some path =>
      (m.registry e.playerActorId).isSome = true ∧ m.ScriptAnswers e (lua.onEventStarted path)

def Answers : Prop :=
  match m.lua with
  | none => False
  | some lua =>
      if e.ownerActorId >>> 28 = 6 then m.DirectorAnswers e lua else m.NpcAnswers e lua

end MapServer

theorem ended_append (e : EventStarted) (front back : List (Deed θ)) :
    Ended e (front ++ back) ↔ Ended e front ∨ Ended e back := by
  simp only [Ended, List.mem_append, or_and_right, exists_or]

theorem unparked_append (e : EventStarted) (before : List (Event θ)) (front back : List (Deed θ)) :
    Unparked e before (front ++ back) ↔
      Unparked e before front ∧ Unparked e (before ++ front.filterMap Deed.call?) back := by
  induction front generalizing before with
  | nil => simp [Unparked]
  | cons deed front ih =>
      cases deed with
      | call c =>
          have first : (Deed.call c :: front).filterMap Deed.call? =
              c :: front.filterMap Deed.call? := rfl
          rw [List.cons_append, Unparked, Unparked, ih, first, List.append_assoc,
            List.singleton_append]
      | sent event =>
          have first : (Deed.sent event :: front : List (Deed θ)).filterMap Deed.call? =
              front.filterMap Deed.call? := rfl
          rw [List.cons_append, Unparked, Unparked, ih, first, and_assoc]

theorem unparked_of_packets {e : EventStarted} {before : List (Event θ)} {log : List (Deed θ)}
    (packets : log.filterMap Deed.call? = []) :
    Unparked e before log ↔ (Ended e log → ¬ Waits e.playerActorId before) := by
  induction log with
  | nil => simp [Unparked, Ended]
  | cons deed log ih =>
      cases deed with
      | call c => simp [Deed.call?] at packets
      | sent event =>
          have rest : log.filterMap Deed.call? = [] := by simpa [Deed.call?] using packets
          rw [Unparked, ih rest, ← List.singleton_append, ended_append]
          have head : Ended e [(.sent event : Deed θ)] ↔ e.isEnd event = true := by simp [Ended]
          rw [head]
          tauto

section

variable (park : Option (Event θ))

theorem calls_park :
    (park.map Deed.call).toList.filterMap Deed.call? = park.toList := by
  cases park <;> rfl

theorem not_ended_park (e : EventStarted) :
    ¬ Ended e (park.map Deed.call).toList := by
  cases park <;> simp [Ended]

theorem unparked_park (e : EventStarted) (before : List (Event θ)) :
    Unparked e before (park.map Deed.call).toList := by
  cases park <;> simp [Unparked]

variable {packets : List (Deed θ)} (silent : packets.filterMap Deed.call? = [])
include silent

/-- Packets that follow a park at once: the event must not be ended when it is one of the
player's. -/
theorem unparked_park_append (e : EventStarted) (before : List (Event θ)) :
    Unparked e before ((park.map Deed.call).toList ++ packets) ↔
      (Ended e packets → ¬ Waits e.playerActorId (before ++ park.toList)) := by
  rw [unparked_append, and_iff_right (unparked_park park e before), calls_park,
    unparked_of_packets silent]

theorem answered_park_append (e : EventStarted) (m : MapServer θ) :
    Answered e m ((park.map Deed.call).toList ++ packets) ↔
      Xor (Ended e packets) (Waits e.playerActorId park.toList ∨ m.hookPending e = true) := by
  have ended : Ended e ((park.map Deed.call).toList ++ packets) ↔ Ended e packets := by
    rw [ended_append, or_iff_right (not_ended_park park e)]
  have calls : ((park.map Deed.call).toList ++ packets).filterMap Deed.call? = park.toList := by
    rw [List.filterMap_append, calls_park, silent, List.append_nil]
  constructor
  · rintro ⟨once, _⟩
    rwa [ended, calls] at once
  · intro once
    refine ⟨by rwa [ended, calls], (unparked_park_append park silent e []).mpr ?_⟩
    -- where the event is ended nothing is left that could end it, a parked coroutine neither
    intro told waits
    cases once with
    | inl only => exact only.2 (Or.inl waits)
    | inr only => exact only.2 told

end

namespace MapServer

variable (m : MapServer θ)

theorem packets_sendToPlayer (event : EventEvent) :
    (m.sendToPlayer event).filterMap Deed.call? = [] := by
  unfold sendToPlayer
  split <;> rfl

theorem packets_bridge (player : UInt32) (commands : Queue θ) :
    (m.bridge player commands).filterMap Deed.call? = [] := by
  unfold bridge
  split
  · rfl
  · simp only [List.filterMap_flatMap, packets_sendToPlayer, List.flatMap_eq_nil_iff, implies_true]

theorem sent_mem_sendToPlayer (event sent : EventEvent) :
    (.sent sent : Deed θ) ∈ m.sendToPlayer event ↔
      sent = event ∧ m.reaches event.playerActorId = true := by
  unfold sendToPlayer
  split
  case isTrue there => simp [there]
  case isFalse gone => simp [gone]

theorem player_of_isEnd {e : EventStarted} {event : EventEvent} (ends : e.isEnd event = true) :
    event.playerActorId = e.playerActorId := by
  cases event with
  | runEventFunction _ _ _ _ _ => cases ends
  | endEvent player _ _ _ =>
      simp only [EventStarted.isEnd, Bool.and_eq_true, beq_iff_eq] at ends
      exact ends.1.1

theorem ended_bridge (e : EventStarted) (player : UInt32) (commands : Queue θ) :
    Ended e (m.bridge player commands) ↔
      m.reaches e.playerActorId = true ∧ ∃ handle, m.registry player = some handle ∧
        ∃ command ∈ commands.toList,
          (command.translate handle.eventSession).any e.isEnd = true := by
  unfold bridge
  cases registered : m.registry player with
  | none => simp [Ended]
  | some handle =>
      simp only [Ended, List.mem_flatMap, List.mem_filterMap, sent_mem_sendToPlayer,
        Option.some.injEq, exists_eq_left', Option.any_eq_true]
      constructor
      · rintro ⟨event, ⟨_, ⟨command, queued, made⟩, rfl, there⟩, ends⟩
        rw [player_of_isEnd ends] at there
        exact ⟨there, command, queued, event, made, ends⟩
      · rintro ⟨there, command, queued, event, made, ends⟩
        rw [← player_of_isEnd ends] at there
        exact ⟨event, ⟨event, ⟨command, queued, made⟩, rfl, there⟩, ends⟩

end MapServer

namespace Stage

theorem calls_deeds (stage : Stage θ) : stage.deeds.filterMap Deed.call? = stage.calls := by
  cases stage with
  | purge player => rfl
  | pass m player bridged commands thread now directive =>
      cases bridged <;> simp [deeds, calls, calls_park, m.packets_bridge]

theorem ended_deeds (e : EventStarted) (stage : Stage θ) : Ended e stage.deeds ↔ stage.Ends e := by
  cases stage with
  | purge player => simp [deeds, Ended, Ends]
  | pass m player bridged commands thread now directive =>
      rw [deeds, ended_append, or_iff_right (not_ended_park _ e)]
      cases bridged with
      | false => simp [Ended, Ends]
      | true => simp [m.ended_bridge, Ends]

theorem unparked_deeds (e : EventStarted) (before : List (Event θ)) (stage : Stage θ) :
    Unparked e before stage.deeds ↔
      (stage.Ends e → ¬ Waits e.playerActorId (before ++ stage.calls)) := by
  cases stage with
  | purge player => simp [deeds, Unparked, Ends]
  | pass m player bridged commands thread now directive =>
      have packets : (if bridged then m.bridge player commands else []).filterMap Deed.call? =
          [] := by
        cases bridged with
        | false => rfl
        | true => exact m.packets_bridge player commands
      have ends := ended_deeds e (.pass m player bridged commands thread now directive)
      rw [deeds, ended_append, or_iff_right (not_ended_park _ e)] at ends
      rw [deeds, unparked_park_append _ packets, ends]
      rfl

end Stage

theorem calls_stages (stages : List (Stage θ)) :
    (stages.flatMap Stage.deeds).filterMap Deed.call? = stages.flatMap Stage.calls := by
  induction stages with
  | nil => rfl
  | cons stage stages ih => simp [Stage.calls_deeds, ih]

theorem ended_stages (e : EventStarted) (stages : List (Stage θ)) :
    Ended e (stages.flatMap Stage.deeds) ↔ ∃ stage ∈ stages, stage.Ends e := by
  induction stages with
  | nil => simp [Ended]
  | cons stage stages ih => simp [ended_append, Stage.ended_deeds, ih]

theorem unparked_stages (e : EventStarted) (before : List (Event θ)) (stages : List (Stage θ)) :
    Unparked e before (stages.flatMap Stage.deeds) ↔ Orderly e before stages := by
  induction stages generalizing before with
  | nil => simp [Unparked, Orderly]
  | cons stage stages ih =>
      rw [List.flatMap_cons, unparked_append, Stage.unparked_deeds, Stage.calls_deeds, ih, Orderly]

mutual

theorem Command.applyRuntime_eq (command : Command θ) (m : MapServer θ) :
    command.applyRuntime m = (command.stages m).flatMap Stage.deeds := by
  cases command with
  | questOnNotice player questId onNotice =>
      rw [Command.applyRuntime, Command.stages]
      split
      · exact onNotice.drain_eq _ _ _
      · rfl
  | questHook player questId drained hook =>
      rw [Command.applyRuntime, Command.stages]
      split
      · exact hook.drain_eq _ _ _
      · rfl
  | purgeOwner player => rfl
  | questMutation _ _ => rfl
  | despawnActor _ => rfl
  | runEventFunction _ _ _ => rfl
  | endEvent _ _ _ => rfl
  | other => rfl

theorem Queue.applyRuntime_eq (commands : Queue θ) (m : MapServer θ) :
    commands.applyRuntime m = (commands.stages m).flatMap Stage.deeds := by
  cases commands with
  | done => rfl
  | next command rest =>
      rw [Queue.applyRuntime, Queue.stages, List.flatMap_append, command.applyRuntime_eq,
        rest.applyRuntime_eq]

theorem Pass.drain_eq (pass : Pass θ) (drain : Drain) (player : UInt32) (m : MapServer θ) :
    pass.drain drain player m = (pass.stages drain player m).flatMap Stage.deeds := by
  cases pass with
  | panicked => rfl
  | ran commands thread now directive =>
      rw [Pass.drain, Pass.stages, List.flatMap_cons, Stage.deeds]
      cases drain with
      | dropped => rfl
      | applied => simp [commands.applyRuntime_eq]
      | bridged => simp [commands.applyRuntime_eq]

end

theorem waits_repark (now : UInt64) (thread : θ) (player : UInt32) (directive : YieldDirective) :
    Waits player (reparkCall now ⟨thread, player⟩ directive).toList ↔ waiting directive = true := by
  cases directive <;> simp [Waits, reparkCall, waiting, outstanding, Event.parks]

namespace MapServer

variable (m : MapServer θ) (e : EventStarted)

theorem answered_script (pass : Pass θ) :
    Answered e (pass.after .bridged m) (pass.drain .bridged e.playerActorId m) ↔
      m.ScriptAnswers e pass := by
  rw [pass.drain_eq]
  constructor
  · rintro ⟨once, unparked⟩
    rw [ended_stages, calls_stages] at once
    exact ⟨once, (unparked_stages e [] _).mp unparked⟩
  · rintro ⟨once, orderly⟩
    refine ⟨?_, (unparked_stages e [] _).mpr orderly⟩
    rw [ended_stages, calls_stages]
    exact once

theorem answered_release (park : Option (Event θ)) (released : Bool) :
    Answered e m ((park.map Deed.call).toList ++ if released then
        [.sent (.endEvent e.playerActorId e.ownerActorId e.eventName e.eventType)]
      else []) ↔
      Xor (released = true) (Waits e.playerActorId park.toList ∨ m.hookPending e = true) := by
  cases released with
  | false =>
      rw [answered_park_append park rfl]
      simp [Ended]
  | true =>
      rw [answered_park_append park rfl]
      simp [Ended, EventStarted.isEnd]

theorem not_waits_nil (player : UInt32) : ¬ Waits player ([] : List (Event θ)) := by
  simp [Waits, outstanding]

theorem answered_nothing : Answered e m [] ↔ m.hookPending e = true := by
  have plain := m.answered_release e none false
  simpa [not_waits_nil] using plain

theorem claims_of_hookPending {player owner : ActorHandle}
    (here : m.registry e.playerActorId = some player)
    (there : m.registry e.ownerActorId = some owner) (pending : m.hookPending e = true) :
    player.claims owner.actorClassId = true := by
  simp only [hookPending, here, there, Option.any_some, Bool.and_eq_true, List.any_eq_true]
    at pending
  obtain ⟨_, q, held, claimed, _⟩ := pending
  exact List.any_eq_true.mpr ⟨q, held, claimed⟩

theorem answered_inert {player owner : ActorHandle}
    (here : m.registry e.playerActorId = some player)
    (there : m.registry e.ownerActorId = some owner) {park : Option (Event θ)}
    {directive : YieldDirective}
    (parked : Waits e.playerActorId park.toList ↔ waiting directive = true) :
    Answered e m ((park.map Deed.call).toList ++
        m.releaseUnclaimedOwnerWithEndEvent e owner.actorClassId) ↔
      m.InertAnswers e player owner directive := by
  simp only [releaseUnclaimedOwnerWithEndEvent, here]
  unfold InertAnswers
  by_cases claimed : player.claims owner.actorClassId = true
  · have kept := m.answered_release e park false
    rw [if_pos claimed, if_pos claimed, ← parked]
    simpa using kept
  · have unclaimed : ¬ m.hookPending e = true :=
      fun pending => claimed (m.claims_of_hookPending e here there pending)
    have released := m.answered_release e park (m.releasable e.playerActorId)
    rw [if_neg claimed, if_neg claimed, release, released, or_iff_left unclaimed, parked]

theorem answered_npc (lua : LuaEngine θ) :
    Answered e (m.dispatchNpcEventStarted e lua).1 (m.dispatchNpcEventStarted e lua).2 ↔
      m.NpcAnswers e lua := by
  unfold dispatchNpcEventStarted NpcAnswers
  cases there : m.registry e.ownerActorId with
  | none =>
      have unhooked : m.hookPending e = false := by simp [hookPending, there]
      by_cases static : e.ownerActorId >>> 28 = 0xA ∨ e.ownerActorId = 0 ∨ e.eventType = 127
      · simp [static, answered_nothing, unhooked]
      · have released := m.answered_release e none (m.releasable e.playerActorId)
        simp only [if_neg static]
        rw [and_iff_right static]
        simpa [not_waits_nil, unhooked, release, Xor] using released
  | some owner =>
      cases here : m.registry e.playerActorId with
      | none => simp [answered_nothing, hookPending, here]
      | some player =>
          dsimp only
          cases m.npcScript lua owner player with
          | none =>
              have parked : Waits e.playerActorId (none : Option (Event θ)).toList ↔
                  waiting .finished = true := by
                simp [not_waits_nil, waiting]
              exact m.answered_inert e here there parked
          | some path =>
              dsimp only
              cases lua.onEventStarted path with
              | panicked => exact m.answered_script e .panicked
              | ran commands thread now directive =>
                  cases commands with
                  | done =>
                      exact m.answered_inert e here there
                        (waits_repark now thread e.playerActorId directive)
                  | next command rest => exact m.answered_script e _

theorem answered_director (lua : LuaEngine θ) :
    Answered e (m.dispatchDirectorEventStarted e lua).1
        (m.dispatchDirectorEventStarted e lua).2 ↔ m.DirectorAnswers e lua := by
  unfold dispatchDirectorEventStarted DirectorAnswers
  cases m.directorScript e lua with
  | none => exact m.answered_nothing e
  | some path =>
      cases here : m.registry e.playerActorId with
      | none => simp [answered_nothing, hookPending, here]
      | some player =>
          simp only [Option.isSome_some, true_and]
          exact m.answered_script e _

/-- When the client of an event is answered. -/
theorem event_answered_iff :
    Answered e (m.dispatchEventEvent e).1 (m.dispatchEventEvent e).2 ↔ m.Answers e := by
  unfold dispatchEventEvent Answers
  cases engine : m.lua with
  | none =>
      simp only [answered_nothing, hookPending, hasScript, engine, Bool.and_eq_true,
        Option.any_eq_true, List.any_eq_true, iff_false]
      rintro ⟨_, _, _, _, _, _, _, _, lua, wired, _⟩
      cases wired
  | some lua =>
      dsimp only
      split
      · exact m.answered_director e lua
      · exact m.answered_npc e lua

end MapServer

/-- A player with a client talks to an NPC. No quest claims it, and its script first waits for a
second: the client is told that the event is over while the coroutine is parked. -/
def waitingTalk : MapServer Unit × EventStarted where
  fst :=
    { registry := fun actorId =>
        if actorId = 1 then some ⟨true, 0, 7, [], [], [], [], 0, [], ⟨0x46600001, ['t'], 1⟩⟩
        else if actorId = 0x46600001 then
          some ⟨false, 0, 0, ['n'], ['N'], ['c'], [], 1000438, [], ⟨0, [], 0⟩⟩
        else none
      clients := fun sessionId => sessionId == 7
      zones := fun _ => none
      lua := some
        { scripts := fun path => path == .baseClass ['c']
          onEventStarted := fun _ => .ran .done () 0 (.waitTime 1000) } }
  snd := ⟨1, 0x46600001, ['t'], 1⟩

theorem parked_talk_ended :
    ¬ Answered waitingTalk.2 (waitingTalk.1.dispatchEventEvent waitingTalk.2).1
      (waitingTalk.1.dispatchEventEvent waitingTalk.2).2 := by
  rintro ⟨_, unparked⟩
  have log : (waitingTalk.1.dispatchEventEvent waitingTalk.2).2 =
      [.call (.parkTime 0 1000 ⟨(), 1⟩), .sent (.endEvent 1 0x46600001 ['t'] 1)] := by
    rfl
  rw [log] at unparked
  exact unparked.1 rfl ⟨(.time 1000, ⟨(), 1⟩), by decide, rfl⟩

end Garlemald.Events
