import Garlemald.Battle.KillRewards

/-!
The gate at the end of the battle of a content. Behind the death of a battle npc a call of it looks
for the content with the fallen in its roster, counts who of the roster is alive, one after the
other, and sends a signal to the waiting scripts if that is nobody. Other tasks run in between.
-/

namespace Garlemald.Content

open Library Lua
open Battle (MAIN_STATE_PASSIVE MAIN_STATE_DEAD)

def battleComplete : Text := "battleComplete".toList

def Session.contentRoster (s : Session) : List UInt32 :=
  match s.activeContentScript with
  | none => []
  | some active => s.roster active.directorActorId

namespace Instances

variable {θ : Type} (w : Instances θ)

def rosterOf (sessionId : UInt32) : List UInt32 :=
  ((w.sessions.lookup sessionId).map Session.contentRoster).getD []

/-- The first session with an actor in the roster of its content. -/
def contentOf (actorId : UInt32) : Option (Sigma fun _ : UInt32 => Session) :=
  w.sessions.entries.find? fun e => decide (actorId ∈ e.2.contentRoster)

end Instances

/-- A call of the gate: before its look at the sessions; then with the members that it has still
to count, and the number of those alive so far. -/
inductive GateCall where
  | looking (deadActorId : UInt32)
  | counting (deadActorId sessionId : UInt32) (rest : List UInt32) (live : ℕ)
  | finished
deriving DecidableEq

def GateCall.deadActorId : GateCall → Option UInt32
  | .looking deadActorId => some deadActorId
  | .counting deadActorId _ _ _ => some deadActorId
  | .finished => none

/-- A signal that the gate sent, with the roster and who of it was alive at that moment. -/
structure GateSignal (θ : Type) where
  sessionId : UInt32
  deadActorId : UInt32
  roster : List UInt32
  living : List UInt32
  playerActorId : UInt32
  resumed : List (ParkedCoroutine θ)

/-- The contents with the main states of the actors and the calls of the gate. The sessions whose
last hostile died and the signals that were sent are kept beside. -/
structure Battlefield (θ : Type) where
  world : Instances θ
  mainState : UInt32 → UInt16
  calls : List GateCall
  cleared : List UInt32
  signals : List (GateSignal θ)

/-- What happens in the contents; a session may be stored by any task, and its actor may leave. -/
inductive FieldEvent (θ : Type) where
  | die (actorId : UInt32) (lua db : Bool)
  | revive (actorId : UInt32)
  | changeState (actorId : UInt32) (mainState : UInt16)
  | despawn (actorId : UInt32)
  | command (lua : Bool) (command : ContentCommand)
  | insert (handle : ActorHandle) (mainState : UInt16)
  | removeSession (sessionId : UInt32)
  | upsertSession (sessionId : UInt32) (session : Session)
  | dropSession (sessionId : UInt32)
  | scheduler (event : Lua.Event θ)
  | advance (call : ℕ)

def FieldEvent.isAdvance {θ : Type} : FieldEvent θ → Bool
  | .advance _ => true
  | _ => false

def ActorRegistry.insert (r : ActorRegistry) (handle : ActorHandle) : ActorRegistry where
  actors := Function.update r.actors handle.actorId (some handle)
  sessionIndex :=
    if handle.kind = .player ∧ handle.sessionId ≠ 0 then
      Function.update r.sessionIndex handle.sessionId (some handle.actorId)
    else r.sessionIndex

def ActorRegistry.removeSession (r : ActorRegistry) (sessionId : UInt32) : ActorRegistry :=
  match r.sessionIndex sessionId with
  | none => r
  | some actorId =>
      { actors := Function.update r.actors actorId none
        sessionIndex := Function.update r.sessionIndex sessionId none }

namespace Battlefield

variable {θ : Type} (b : Battlefield θ)

def isLive (actorId : UInt32) : Bool :=
  (b.world.registry.actors actorId).any fun member =>
    member.kind == .battleNpc && b.mainState actorId != MAIN_STATE_DEAD

def living (sessionId : UInt32) : List UInt32 := (b.world.rosterOf sessionId).filter b.isLive

def setMainState (actorId : UInt32) (mainState : UInt16) : Battlefield θ :=
  { b with mainState := Function.update b.mainState actorId mainState }

def applyDie (actorId : UInt32) (lua db : Bool) : Battlefield θ :=
  match b.world.registry.actors actorId with
  | none => b
  | some handle =>
      if b.mainState actorId = MAIN_STATE_DEAD then b
      else if handle.kind = .battleNpc ∧ lua = true ∧ db = true then
        { b.setMainState actorId MAIN_STATE_DEAD with calls := b.calls ++ [.looking actorId] }
      else b.setMainState actorId MAIN_STATE_DEAD

def applyRevive (actorId : UInt32) : Battlefield θ :=
  if (b.world.registry.actors actorId).isSome ∧ b.mainState actorId = MAIN_STATE_DEAD then
    b.setMainState actorId MAIN_STATE_PASSIVE
  else b

def emitChangeStateTrio (actorId : UInt32) (mainState : UInt16) : Battlefield θ :=
  if (b.world.registry.actors actorId).isNone then b
  else if b.mainState actorId = MAIN_STATE_DEAD ∧ mainState ≠ MAIN_STATE_DEAD then b
  else b.setMainState actorId mainState

def move (i : ℕ) (call : GateCall) : Battlefield θ := { b with calls := b.calls.set i call }

/-- All coroutines that wait for the signal are resumed; what they do are further events. -/
def sendSignal (deadActorId sessionId playerActorId : UInt32) : Battlefield θ :=
  { b with
    world := { b.world with scheduler := (b.world.scheduler.drainSignal battleComplete).2 }
    signals := b.signals ++ [{
      sessionId
      deadActorId
      roster := b.world.rosterOf sessionId
      living := b.living sessionId
      playerActorId
      resumed := (b.world.scheduler.drainSignal battleComplete).1 }] }

def checkContentBattleComplete (i : ℕ) : GateCall → Battlefield θ
  | .looking deadActorId =>
      match b.world.contentOf deadActorId with
      | none => b.move i .finished
      | some ⟨sessionId, session⟩ =>
          b.move i (.counting deadActorId sessionId session.contentRoster 0)
  | .counting deadActorId sessionId (memberId :: rest) live =>
      b.move i (.counting deadActorId sessionId rest (live + (b.isLive memberId).toNat))
  | .counting deadActorId sessionId [] live =>
      if 0 < live then b.move i .finished
      else
        match b.world.registry.bySession sessionId with
        | none => b.move i .finished
        | some player => (b.move i .finished).sendSignal deadActorId sessionId player.actorId
  | .finished => b

def apply : FieldEvent θ → Battlefield θ
  | .die actorId lua db => b.applyDie actorId lua db
  | .revive actorId => b.applyRevive actorId
  | .changeState actorId mainState => b.emitChangeStateTrio actorId mainState
  | .despawn actorId => { b with world := b.world.applyDespawnActor actorId }
  | .command lua command => { b with world := b.world.apply lua command }
  | .insert handle mainState =>
      { b.setMainState handle.actorId mainState with
        world := { b.world with registry := b.world.registry.insert handle } }
  | .removeSession sessionId =>
      { b with world := { b.world with registry := b.world.registry.removeSession sessionId } }
  | .upsertSession sessionId session =>
      { b with world := { b.world with sessions := b.world.sessions.insert sessionId session } }
  | .dropSession sessionId =>
      { b with world := { b.world with sessions := b.world.sessions.erase sessionId } }
  | .scheduler event =>
      { b with world := { b.world with scheduler := b.world.scheduler.apply event } }
  | .advance i =>
      match b.calls[i]? with
      | none => b
      | some call => b.checkContentBattleComplete i call

/-- The content whose last hostile a death kills: the first one with it in the roster, if the gate
is behind the death and the player is there. -/
def clears : FieldEvent θ → Option UInt32
  | .die actorId true true => do
      let e ← b.world.contentOf actorId
      if (b.world.registry.bySession e.1).isSome ∧ b.living e.1 ≠ [] ∧
          (b.applyDie actorId true true).living e.1 = [] then some e.1 else none
  | _ => none

def step (event : FieldEvent θ) : Option (Battlefield θ) :=
  some { b.apply event with cleared := b.cleared ++ (b.clears event).toList }

def fresh (world : Instances θ) (mainState : UInt32 → UInt16) : Battlefield θ :=
  ⟨world, mainState, [], [], []⟩

def signalCount (sessionId : UInt32) : ℕ := (b.signals.map (·.sessionId)).count sessionId

/-- Each death of a last hostile has had its one signal when no call is under way, and none came
before it; none was sent while a hostile lived, or for the death of one outside the roster. -/
structure Announced : Prop where
  once : (∀ call ∈ b.calls, call = .finished) →
    ∀ sessionId, b.signalCount sessionId = b.cleared.count sessionId
  afterwards : ∀ sessionId, b.signalCount sessionId ≤ b.cleared.count sessionId
  silent : ∀ signal ∈ b.signals, signal.living = []
  listed : ∀ signal ∈ b.signals, signal.deadActorId ∈ signal.roster

/-- The session that a call is about to signal: whom it has counted was dead, and whom it has still
to count is. -/
def finds : GateCall → Option UInt32
  | .looking deadActorId => do
      let e ← b.world.contentOf deadActorId
      if (b.world.registry.bySession e.1).isSome ∧ b.living e.1 = [] then some e.1 else none
  | .counting _ sessionId rest live =>
      if (b.world.registry.bySession sessionId).isSome ∧ live = 0 ∧ rest.filter b.isLive = [] then
        some sessionId
      else none
  | .finished => none

/-- What the calls under way find stays as it is, and nobody comes alive in a roster in which one
found nobody. -/
structure Undisturbed (b b' : Battlefield θ) : Prop where
  found : ∀ call ∈ b.calls, b'.finds call = b.finds call
  still : ∀ call ∈ b.calls, ∀ sessionId ∈ b.finds call,
    b'.living sessionId = [] ∧ ∀ dead ∈ call.deadActorId, dead ∈ b'.world.rosterOf sessionId

instance (b b' : Battlefield θ) : Decidable (Undisturbed b b') :=
  -- the session of one call is looked at, not every session id
  have (call : GateCall) : Decidable (∀ sessionId ∈ b.finds call,
      b'.living sessionId = [] ∧ ∀ dead ∈ call.deadActorId, dead ∈ b'.world.rosterOf sessionId) :=
    have (sessionId : UInt32) :
        Decidable (∀ dead ∈ call.deadActorId, dead ∈ b'.world.rosterOf sessionId) :=
      Option.decidableForallMem _
    Option.decidableForallMem _
  have : Decidable (∀ call ∈ b.calls, ∀ sessionId ∈ b.finds call,
      b'.living sessionId = [] ∧ ∀ dead ∈ call.deadActorId, dead ∈ b'.world.rosterOf sessionId) :=
    List.decidableBAll _ _
  decidable_of_iff
    ((∀ call ∈ b.calls, b'.finds call = b.finds call) ∧
      ∀ call ∈ b.calls, ∀ sessionId ∈ b.finds call,
        b'.living sessionId = [] ∧ ∀ dead ∈ call.deadActorId, dead ∈ b'.world.rosterOf sessionId)
    ⟨fun both => ⟨both.1, both.2⟩, fun both => ⟨both.1, both.2⟩⟩

/-- The condition on an event: no other one meddles with a call under way. -/
def Fits (event : FieldEvent θ) : Prop :=
  event.isAdvance = false → Undisturbed b (b.apply event)

instance (event : FieldEvent θ) : Decidable (b.Fits event) :=
  inferInstanceAs (Decidable (event.isAdvance = false → Undisturbed b (b.apply event)))

/-- What is signalled and what is still to be signalled is together what was cleared. -/
structure Inv : Prop where
  owed : ∀ sessionId, b.signalCount sessionId +
    b.calls.countP (fun call => b.finds call = some sessionId) = b.cleared.count sessionId
  quiet : ∀ call ∈ b.calls, ∀ sessionId ∈ b.finds call,
    b.living sessionId = [] ∧ ∀ dead ∈ call.deadActorId, dead ∈ b.world.rosterOf sessionId
  silent : ∀ signal ∈ b.signals, signal.living = []
  listed : ∀ signal ∈ b.signals, signal.deadActorId ∈ signal.roster

variable {b} {i : ℕ} {call : GateCall} {actorId sessionId : UInt32}

theorem rosterOf_contentOf {w : Instances θ} {session : Session}
    (first : w.contentOf actorId = some ⟨sessionId, session⟩) :
    w.rosterOf sessionId = session.contentRoster ∧ actorId ∈ session.contentRoster := by
  obtain ⟨known, listed⟩ :=
    lookup_of_find (fun s => decide (actorId ∈ s.contentRoster)) first
  refine ⟨?_, of_decide_eq_true listed⟩
  rw [Instances.rosterOf, known]
  rfl

theorem finds_move (c : GateCall) : (b.move i call).finds c = b.finds c := by
  cases c <;> rfl

theorem finds_sendSignal (deadActorId playerActorId : UInt32) (c : GateCall) :
    (b.sendSignal deadActorId sessionId playerActorId).finds c = b.finds c := by
  cases c <;> rfl

theorem finds_looking (session : Session)
    (first : b.world.contentOf actorId = some ⟨sessionId, session⟩) :
    b.finds (.looking actorId) =
      if (b.world.registry.bySession sessionId).isSome ∧ b.living sessionId = [] then
        some sessionId
      else none := by
  rw [finds, first]
  rfl

theorem finds_looking_quiet (found : b.finds (.looking actorId) = some sessionId) :
    b.living sessionId = [] ∧ ∀ dead ∈ (GateCall.looking actorId).deadActorId,
      dead ∈ b.world.rosterOf sessionId := by
  cases first : b.world.contentOf actorId with
  | none =>
      rw [finds, first] at found
      cases found
  | some e =>
      obtain ⟨id, session⟩ := e
      rw [finds_looking session first] at found
      obtain ⟨⟨_, nobody⟩, same⟩ := Option.ite_none_right_eq_some.mp found
      cases same
      refine ⟨nobody, fun dead known => ?_⟩
      cases known
      rw [(rosterOf_contentOf first).1]
      exact (rosterOf_contentOf first).2

theorem finds_first (session : Session)
    (first : b.world.contentOf actorId = some ⟨sessionId, session⟩) :
    b.finds (.counting actorId sessionId session.contentRoster 0) = b.finds (.looking actorId) := by
  rw [finds_looking session first, living, (rosterOf_contentOf first).1, finds]
  simp only [true_and]

theorem finds_count (dead memberId : UInt32) (rest : List UInt32) (live : ℕ) :
    b.finds (.counting dead sessionId rest (live + (b.isLive memberId).toNat)) =
      b.finds (.counting dead sessionId (memberId :: rest) live) := by
  rw [finds, finds]
  cases alive : b.isLive memberId with
  | false => rw [List.filter_cons_of_neg (by rw [alive]; exact Bool.false_ne_true)]; rfl
  | true =>
      rw [List.filter_cons_of_pos alive, if_neg (by simp), if_neg (by simp)]

theorem checkContentBattleComplete_cleared (i : ℕ) (call : GateCall) :
    (b.checkContentBattleComplete i call).cleared = b.cleared := by
  rw [checkContentBattleComplete.eq_def]
  repeat' split
  all_goals rfl

namespace Inv

theorem move (inv : b.Inv) (there : b.calls[i]? = some call) {next : GateCall}
    (same : b.finds next = b.finds call)
    (about : ∀ dead ∈ next.deadActorId, dead ∈ call.deadActorId) : (b.move i next).Inv where
  owed sessionId := by
    have replaced := Battle.countP_set_add (fun c => decide (b.finds c = some sessionId)) there next
    have owed := inv.owed sessionId
    rw [same] at replaced
    simp only [finds_move]
    change b.signalCount sessionId + (b.calls.set i next).countP _ = b.cleared.count sessionId
    omega
  quiet c inside sessionId found := by
    rw [finds_move] at found
    obtain old | rfl := List.mem_or_eq_of_mem_set inside
    · exact inv.quiet c old sessionId found
    · rw [same] at found
      obtain ⟨dead_all, listed⟩ :=
        inv.quiet call (List.mem_of_getElem? there) sessionId found
      exact ⟨dead_all, fun dead known => listed dead (about dead known)⟩
  silent := inv.silent
  listed := inv.listed

theorem send (inv : b.Inv) (there : b.calls[i]? = some call)
    (found : b.finds call = some sessionId) {dead : UInt32} (about : dead ∈ call.deadActorId)
    (playerActorId : UInt32) :
    ((b.move i .finished).sendSignal dead sessionId playerActorId).Inv := by
  obtain ⟨nobody, listed⟩ := inv.quiet call (List.mem_of_getElem? there) sessionId found
  refine ⟨?_, ?_, ?_, ?_⟩
  · intro other
    have replaced :=
      Battle.countP_set_add (fun c => decide (b.finds c = some other)) there .finished
    have owed := inv.owed other
    have sent : ((b.move i .finished).sendSignal dead sessionId playerActorId).signalCount other =
        b.signalCount other + (decide (some sessionId = some other)).toNat := by
      rw [signalCount, sendSignal, List.map_append, List.count_append]
      congr 1
      by_cases same : sessionId = other
      · simp [same]
      · simp [same]
    rw [found] at replaced
    simp only [finds_sendSignal, finds_move]
    rw [sent]
    change _ + (b.calls.set i .finished).countP _ = b.cleared.count other
    have ended : (decide (b.finds .finished = some other)).toNat = 0 := rfl
    omega
  · intro c inside id finds_id
    rw [finds_sendSignal, finds_move] at finds_id
    obtain old | rfl := List.mem_or_eq_of_mem_set inside
    · exact inv.quiet c old id finds_id
    · cases finds_id
  · intro signal inside
    obtain old | new := List.mem_append.mp inside
    · exact inv.silent signal old
    · rw [List.mem_singleton.mp new]
      exact nobody
  · intro signal inside
    obtain old | new := List.mem_append.mp inside
    · exact inv.listed signal old
    · rw [List.mem_singleton.mp new]
      exact listed dead about

theorem advance (inv : b.Inv) (there : b.calls[i]? = some call) :
    (b.checkContentBattleComplete i call).Inv := by
  cases call with
  | finished => exact inv
  | looking deadActorId =>
      rw [checkContentBattleComplete]
      cases first : b.world.contentOf deadActorId with
      | none =>
          refine inv.move there ?_ fun dead known => by cases known
          rw [finds, finds, first]
          rfl
      | some e =>
          obtain ⟨sessionId, session⟩ := e
          exact inv.move there (finds_first session first) fun dead known => known
  | counting deadActorId sessionId rest live =>
      match rest with
      | memberId :: rest =>
          exact inv.move there (finds_count deadActorId memberId rest live)
            fun dead known => known
      | [] =>
          rw [checkContentBattleComplete]
          split
          · rename_i some_live
            refine inv.move there ?_ fun dead known => by cases known
            rw [finds, finds, if_neg (by omega)]
          · rename_i none_live
            cases there_player : b.world.registry.bySession sessionId with
            | none =>
                refine inv.move there ?_ fun dead known => by cases known
                rw [finds, finds, there_player, if_neg (by simp)]
            | some player =>
                have found : b.finds (.counting deadActorId sessionId [] live) =
                    some sessionId := by
                  rw [finds, there_player, if_pos ⟨rfl, by omega, rfl⟩]
                exact inv.send there found rfl player.actorId

end Inv

theorem isLive_setMainState {handle : ActorHandle}
    (there : b.world.registry.actors actorId = some handle) (friend : handle.kind ≠ .battleNpc)
    (mainState : UInt16) : (b.setMainState actorId mainState).isLive = b.isLive := by
  funext member
  by_cases same : member = actorId
  · subst same
    have kind : (handle.kind == .battleNpc) = false := beq_eq_false_iff_ne.mpr friend
    simp [isLive, setMainState, there, kind]
  · simp [isLive, setMainState, same]

theorem clears_unchanged (same : (b.applyDie actorId true true).living = b.living) :
    b.clears (.die actorId true true) = none := by
  rw [clears, same]
  cases b.world.contentOf actorId with
  | none => rfl
  | some e => exact if_neg fun both => both.2.1 both.2.2

theorem applyDie_hostile {handle : ActorHandle}
    (there : b.world.registry.actors actorId = some handle) (hostile : handle.kind = .battleNpc)
    (alive : b.mainState actorId ≠ MAIN_STATE_DEAD) :
    b.applyDie actorId true true =
      { b.setMainState actorId MAIN_STATE_DEAD with calls := b.calls ++ [.looking actorId] } := by
  rw [applyDie, there]
  exact (if_neg alive).trans (if_pos ⟨hostile, rfl, rfl⟩)

theorem finds_die {handle : ActorHandle} (there : b.world.registry.actors actorId = some handle)
    (hostile : handle.kind = .battleNpc) (alive : b.mainState actorId ≠ MAIN_STATE_DEAD) :
    (b.applyDie actorId true true).finds (.looking actorId) =
      b.clears (.die actorId true true) := by
  have world : (b.applyDie actorId true true).world = b.world := by
    rw [applyDie_hostile there hostile alive]
    rfl
  cases first : b.world.contentOf actorId with
  | none =>
      rw [finds, clears, world, first]
      rfl
  | some e =>
      obtain ⟨sessionId, session⟩ := e
      have before : b.living sessionId ≠ [] := by
        obtain ⟨same, inside⟩ := rosterOf_contentOf first
        apply List.ne_nil_of_mem (a := actorId)
        rw [living, List.mem_filter, same]
        exact ⟨inside, by simp [isLive, there, hostile, alive]⟩
      have first' : (b.applyDie actorId true true).world.contentOf actorId =
          some ⟨sessionId, session⟩ := by rw [world, first]
      rw [finds_looking session first', clears, first, world]
      simp only [Option.bind_eq_bind, Option.bind_some, before, ne_eq, not_false_eq_true, true_and]

theorem apply_cases {event : FieldEvent θ} (other : event.isAdvance = false) :
    (b.apply event).signals = b.signals ∧ (b.apply event).cleared = b.cleared ∧
      (((b.apply event).calls = b.calls ∧ b.clears event = none) ∨
        ∃ actorId, (b.apply event).calls = b.calls ++ [.looking actorId] ∧
          (b.apply event).finds (.looking actorId) = b.clears event) := by
  cases event with
  | advance i => cases other
  | despawn actorId => exact ⟨rfl, rfl, .inl ⟨rfl, rfl⟩⟩
  | command lua command => exact ⟨rfl, rfl, .inl ⟨rfl, rfl⟩⟩
  | insert handle mainState => exact ⟨rfl, rfl, .inl ⟨rfl, rfl⟩⟩
  | removeSession sessionId => exact ⟨rfl, rfl, .inl ⟨rfl, rfl⟩⟩
  | upsertSession sessionId session => exact ⟨rfl, rfl, .inl ⟨rfl, rfl⟩⟩
  | dropSession sessionId => exact ⟨rfl, rfl, .inl ⟨rfl, rfl⟩⟩
  | scheduler event => exact ⟨rfl, rfl, .inl ⟨rfl, rfl⟩⟩
  | revive actorId =>
      rw [apply, applyRevive]
      split
      · exact ⟨rfl, rfl, .inl ⟨rfl, rfl⟩⟩
      · exact ⟨rfl, rfl, .inl ⟨rfl, rfl⟩⟩
  | changeState actorId mainState =>
      rw [apply, emitChangeStateTrio]
      split_ifs
      · exact ⟨rfl, rfl, .inl ⟨rfl, rfl⟩⟩
      · exact ⟨rfl, rfl, .inl ⟨rfl, rfl⟩⟩
      · exact ⟨rfl, rfl, .inl ⟨rfl, rfl⟩⟩
  | die actorId lua db =>
      have unready (same : (b.applyDie actorId true true).living = b.living) :
          b.clears (.die actorId lua db) = none := by
        cases lua with
        | false => rfl
        | true =>
            cases db with
            | false => rfl
            | true => exact clears_unchanged same
      rw [apply]
      cases there : b.world.registry.actors actorId with
      | none =>
          have kept (lua db : Bool) : b.applyDie actorId lua db = b := by rw [applyDie, there]
          rw [kept]
          exact ⟨rfl, rfl, .inl ⟨rfl, unready (by rw [kept])⟩⟩
      | some handle =>
          by_cases dead : b.mainState actorId = MAIN_STATE_DEAD
          · have kept (lua db : Bool) : b.applyDie actorId lua db = b := by
              rw [applyDie, there]
              exact if_pos dead
            rw [kept]
            exact ⟨rfl, rfl, .inl ⟨rfl, unready (by rw [kept])⟩⟩
          · by_cases gated : handle.kind = .battleNpc ∧ lua = true ∧ db = true
            · obtain ⟨hostile, rfl, rfl⟩ := gated
              refine ⟨?_, ?_, .inr ⟨actorId, ?_, finds_die there hostile dead⟩⟩
              · rw [applyDie_hostile there hostile dead]
                rfl
              · rw [applyDie_hostile there hostile dead]
                rfl
              · rw [applyDie_hostile there hostile dead]
            · have turned : b.applyDie actorId lua db = b.setMainState actorId MAIN_STATE_DEAD := by
                rw [applyDie, there]
                exact (if_neg dead).trans (if_neg gated)
              rw [turned]
              refine ⟨rfl, rfl, .inl ⟨rfl, ?_⟩⟩
              by_cases ready : lua = true ∧ db = true
              · have friend : handle.kind ≠ .battleNpc := fun hostile => gated ⟨hostile, ready⟩
                obtain ⟨rfl, rfl⟩ := ready
                apply clears_unchanged
                rw [turned]
                funext id
                rw [living, living, isLive_setMainState there friend]
                rfl
              · cases lua with
                | false => rfl
                | true =>
                    cases db with
                    | false => rfl
                    | true => exact absurd ⟨rfl, rfl⟩ ready

namespace Inv

theorem apply (inv : b.Inv) {event : FieldEvent θ} (other : event.isAdvance = false)
    (apart : Undisturbed b (b.apply event)) :
    Inv { b.apply event with cleared := b.cleared ++ (b.clears event).toList } := by
  obtain ⟨signals, _, outcome⟩ := apply_cases other
  have counted (sessionId : UInt32) :
      b.calls.countP (fun call => (b.apply event).finds call = some sessionId) =
        b.calls.countP (fun call => b.finds call = some sessionId) := by
    apply List.countP_congr
    intro call inside
    rw [apart.found call inside]
  have same (call : GateCall) :
      ({ b.apply event with cleared := b.cleared ++ (b.clears event).toList } :
        Battlefield θ).finds call = (b.apply event).finds call := by
    cases call <;> rfl
  have kept : ∀ call ∈ b.calls, ∀ sessionId ∈ (b.apply event).finds call,
      (b.apply event).living sessionId = [] ∧
        ∀ dead ∈ call.deadActorId, dead ∈ (b.apply event).world.rosterOf sessionId := by
    intro call inside sessionId found
    rw [apart.found call inside] at found
    exact apart.still call inside sessionId found
  refine ⟨fun sessionId => ?_, fun call inside sessionId found => ?_, ?_, ?_⟩
  · have owed := inv.owed sessionId
    simp only [same]
    rw [List.count_append, ← owed, ← counted sessionId, signalCount, signalCount, signals]
    obtain ⟨unchanged, none_cleared⟩ | ⟨actorId, behind, found⟩ := outcome
    · rw [unchanged, none_cleared]
      rfl
    · rw [behind, List.countP_append, List.countP_singleton, found, Nat.add_assoc]
      congr 2
      cases b.clears event with
      | none => rfl
      | some cleared => simp [List.count_singleton]
  · rw [same] at found
    obtain ⟨unchanged, _⟩ | ⟨actorId, behind, _⟩ := outcome
    · rw [unchanged] at inside
      exact kept call inside sessionId found
    · rw [behind] at inside
      obtain old | new := List.mem_append.mp inside
      · exact kept call old sessionId found
      · rw [List.mem_singleton.mp new] at found ⊢
        exact finds_looking_quiet found
  · intro signal inside
    exact inv.silent signal (signals ▸ inside)
  · intro signal inside
    exact inv.listed signal (signals ▸ inside)

theorem step (inv : b.Inv) {event : FieldEvent θ} {b' : Battlefield θ} (fits : b.Fits event)
    (taken : b.step event = some b') : b'.Inv := by
  cases taken
  by_cases other : event.isAdvance = false
  · exact inv.apply other (fits other)
  · obtain ⟨i, rfl⟩ : ∃ i, event = .advance i := by
      cases event with
      | advance i => exact ⟨i, rfl⟩
      | _ => exact absurd rfl other
    have unlisted : b.cleared ++ (b.clears (.advance i)).toList = b.cleared := List.append_nil _
    rw [unlisted]
    simp only [Battlefield.apply]
    cases there : b.calls[i]? with
    | none => exact inv
    | some call =>
        have onward := inv.advance there
        have cleared : (b.checkContentBattleComplete i call).cleared = b.cleared :=
          checkContentBattleComplete_cleared i call
        exact cleared ▸ onward

theorem announced (inv : b.Inv) : b.Announced where
  once idle sessionId := by
    have owed := inv.owed sessionId
    have none_due : b.calls.countP (fun call => b.finds call = some sessionId) = 0 := by
      rw [List.countP_eq_zero]
      intro call inside
      rw [idle call inside]
      simp [finds]
    omega
  afterwards sessionId := by
    have owed := inv.owed sessionId
    omega
  silent := inv.silent
  listed := inv.listed

theorem fresh (world : Instances θ) (mainState : UInt32 → UInt16) :
    (Battlefield.fresh world mainState).Inv where
  owed _ := rfl
  quiet _ inside := by cases inside
  silent _ inside := by cases inside
  listed _ inside := by cases inside

end Inv

/-- In a run in which no other event meddles with a call of the gate under way, each death of a last
hostile for which the gate is run has one signal. What is no step of a call sends none. The signal
resumes all that wait for it, of whatever player, and nobody else. -/
theorem kill_gate_exact (world : Instances θ) (mainState : UInt32 → UInt16)
    {events : List (FieldEvent θ)} (fits : EachStep step Fits (fresh world mainState) events) :
    Always step Announced (fresh world mainState) events ∧
    (∀ (b : Battlefield θ) (event : FieldEvent θ), event.isAdvance = false →
      (b.apply event).signals = b.signals) ∧
    ∀ (b : Battlefield θ) (deadActorId sessionId playerActorId : UInt32), ∃ signal,
      (b.sendSignal deadActorId sessionId playerActorId).signals = b.signals ++ [signal] ∧
      signal.resumed = b.world.scheduler.waitingOn battleComplete ∧
      ∀ name, (b.sendSignal deadActorId sessionId playerActorId).world.scheduler.waitingOn name =
        if name = battleComplete then [] else b.world.scheduler.waitingOn name := by
  refine ⟨?_, fun b event other => (apply_cases other).1, ?_⟩
  · have held := always_of_eachStep (I := Inv)
      (fun _ _ _ inv meets taken => inv.step meets taken) (Inv.fresh world mainState) fits
    exact held.mono fun _ inv => inv.announced
  · intro b deadActorId sessionId playerActorId
    refine ⟨_, rfl, rfl, fun name => ?_⟩
    have drained := CoroutineScheduler.waitingOn_apply (s := b.world.scheduler)
      (.drainSignal battleComplete) name
    refine Eq.trans drained ?_
    by_cases same : name = battleComplete
    · subst same
      simp [Event.ends, Event.parks, Event.wakes]
    · simp [Event.ends, Event.parks, Event.wakes, Event.drops, same, Ne.symm same]

section Runs

def cast (actorId : UInt32) : Option ActorHandle :=
  if actorId = 1 ∨ actorId = 2 then some ⟨actorId, .player, 166, actorId⟩
  else if actorId = 30 then some ⟨30, .ally, 166, 0⟩
  else if 20 ≤ actorId ∧ actorId ≤ 22 then some ⟨actorId, .battleNpc, 166, 0⟩
  else none

def duty (directorActorId : UInt32) (members : List UInt32) : Session where
  transientDirectorMembers := Function.update (fun _ => none) directorActorId (some members)
  activeContentScript := some ⟨166, "man0g01".toList, directorActorId, []⟩

/-- The first player on duty against two hostiles. -/
def onDuty : Battlefield Unit :=
  fresh
    { sessions := (∅ : Table UInt32 Session).insert 1 (duty 5 [1, 5, 30, 20, 21])
      registry := ⟨cast, fun sessionId => if sessionId ≤ 2 then some sessionId else none⟩
      zones := fun _ => some ⟨⟨.new 166 false, Zone.AreaCore.empty_sorted _ rfl rfl⟩, fun _ => none⟩
      characters := fun _ => ⟨0, 0⟩
      scheduler := {} }
    fun _ => MAIN_STATE_PASSIVE

def wholeCall (call : ℕ) : List (FieldEvent Unit) := List.replicate 7 (.advance call)

theorem kill_gate_exact_duty :
    Always step Announced onDuty
      ([.die 20 true true, .die 30 true true] ++ wholeCall 0 ++ .die 21 true true :: wholeCall 1) :=
  (kill_gate_exact _ _ (by decide)).1

/-- The hostiles alive in the content of the first player, the calls under way, and of the signals
the session and the players whose coroutines are resumed. -/
def report (b : Battlefield Unit) :
    List UInt32 × List GateCall × List (UInt32 × List UInt32) :=
  (b.living 1, b.calls.filter (· ≠ .finished),
    b.signals.map fun signal => (signal.sessionId, signal.resumed.map (·.ownerPlayerId)))

/-- The last hostile is despawned, dies without the gate or while the player is away, or is counted
for another content: there is no signal. Two deaths whose calls overlap send two. A signal resumes
a coroutine of another player. -/
theorem kill_gate_astray :
    report onDuty = ([20, 21], [], []) ∧
    (run step onDuty [.despawn 20, .despawn 21]).map report = some ([], [], []) ∧
    (run step onDuty [.die 20 false true, .die 21 true false]).map report = some ([], [], []) ∧
    (run step onDuty (.despawn 20 :: .removeSession 1 :: .die 21 true true :: wholeCall 0)).map
      report = some ([], [], []) ∧
    (run step onDuty (.despawn 20 :: .upsertSession 2 (duty 6 [2, 6, 21, 22]) ::
      .die 21 true true :: wholeCall 0)).map report = some ([], [], []) ∧
    (run step onDuty ([.die 20 true true, .die 21 true true] ++ wholeCall 0 ++ wholeCall 1)).map
      report = some ([], [], [(1, []), (1, [])]) ∧
    (run step onDuty (.scheduler (.parkSignal battleComplete ⟨(), 2⟩) :: .despawn 20 ::
      .die 21 true true :: wholeCall 0)).map report = some ([], [], [(1, [2])]) := by
  refine ⟨?_, ?_, ?_, ?_, ?_, ?_, ?_⟩
  all_goals decide

end Runs

end Battlefield
end Garlemald.Content
