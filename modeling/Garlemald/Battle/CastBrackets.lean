import Garlemald.Battle.AIContainer

/-!
Casts as brackets: a cast is opened by its start and closed by its completion or its
interruption, and while it is open its state is on top of the stack.
-/

namespace Garlemald.Battle

open Common

variable {φ : Type}

def BattleState.castId (s : BattleState φ) : Option UInt16 :=
  match s.body with
  | .magic command _ _ => some command.id
  | _ => none

def casts (states : List (BattleState φ)) : List UInt16 := states.filterMap (·.castId)

/-- The casts that are open behind an event; a cast that ends must have been open. -/
def bracket (opened : List UInt16) : BattleEvent φ → Option (List UInt16)
  | .castStart _ _ commandId _ _ => some (commandId :: opened)
  | .castComplete _ commandId | .castInterrupted _ commandId =>
      if commandId ∈ opened then some (opened.erase commandId) else none
  | _ => some opened

def brackets (opened : List UInt16) (events : List (BattleEvent φ)) : Option (List UInt16) :=
  events.foldlM bracket opened

def BattleEvent.isBracket : BattleEvent φ → Bool
  | .castStart .. | .castComplete .. | .castInterrupted .. => true
  | _ => false

theorem bracket_quiet {e : BattleEvent φ} (plain : e.isBracket = false) (opened : List UInt16) :
    bracket opened e = some opened := by
  cases e <;> first | rfl | cases plain

theorem brackets_quiet {events : List (BattleEvent φ)} (quiet : ∀ e ∈ events, e.isBracket = false)
    (opened : List UInt16) : brackets opened events = some opened := by
  induction events with
  | nil => rfl
  | cons e events ih =>
      rw [brackets, List.foldlM_cons, bracket_quiet (quiet e List.mem_cons_self)]
      exact ih fun d member => quiet d (List.mem_cons_of_mem e member)

theorem brackets_append (opened : List UInt16) (front back : List (BattleEvent φ)) :
    brackets opened (front ++ back) =
      (brackets opened front).bind fun behind => brackets behind back :=
  List.foldlM_append

namespace BattleState

theorem castId_isSome (s : BattleState φ) : s.castId.isSome = (s.kind == .magic) := by
  unfold castId kind
  cases s.body <;> rfl

variable {s : BattleState φ}

theorem body_magic (h : s.kind = .magic) :
    ∃ command finish started, s.body = .magic command finish started := by
  unfold kind at h
  cases body : s.body with
  | magic command finish started => exact ⟨command, finish, started, rfl⟩
  | _ =>
      rw [body] at h
      cases h

/-- A state as it stands on the stack between two operations. -/
structure Running (s : BattleState φ) : Prop where
  incomplete : s.isCompleted = false
  calm : s.interrupt = false
  magic : s.kind = .magic → s.canInterrupt = true

theorem Running.of_other (incomplete : s.isCompleted = false) (calm : s.interrupt = false)
    (other : s.kind ≠ .magic) : s.Running :=
  ⟨incomplete, calm, fun magic => absurd magic other⟩

theorem Running.scheduleNextSwing (h : s.Running) (nowMs : UInt64) (delay : UInt32) :
    (s.scheduleNextSwing nowMs delay).Running := by
  unfold BattleState.scheduleNextSwing
  split
  · exact ⟨h.incomplete, h.calm, nofun⟩
  · exact h

theorem Running.update_running (h : s.Running) (nowMs : UInt64) :
    (s.update nowMs).1 ≠ .interrupted := by
  have timer : ∀ due, (s.elapsed due).1 ≠ .interrupted := by
    intro due
    cases due <;> simp [elapsed]
  unfold update
  rw [h.calm]
  simp only [Bool.false_and, Bool.false_eq_true, if_false]
  split <;> first | exact timer _ | simp

end BattleState

theorem casts_cons_eq_nil {top : BattleState φ} {rest : List (BattleState φ)} :
    casts (top :: rest) = [] ↔ top.kind ≠ .magic ∧ casts rest = [] := by
  have plain := top.castId_isSome
  unfold casts
  cases h : top.castId with
  | none => simp_all
  | some id => simp_all

theorem casts_tail_eq_nil {states : List (BattleState φ)} (h : casts states = []) :
    casts states.tail = [] :=
  List.filterMap_eq_nil_iff.mpr fun s member =>
    List.filterMap_eq_nil_iff.mp h s (List.mem_of_mem_tail member)

namespace AIContainer

theorem resolve_quiet (ctx : StackContext φ) {s : BattleState φ} (other : s.kind ≠ .magic) :
    ∀ e ∈ resolve ctx s, e.isBracket = false := by
  intro e emitted
  unfold resolve at emitted
  split at emitted
  · split at emitted
    · rw [List.nil_append, List.mem_singleton] at emitted
      rw [emitted]
      rfl
    · cases emitted
  · cases emitted

/-- A cast on top that is due has a target, so that its end is told. -/
def Heard (nowMs : UInt64) (states : List (BattleState φ)) : Prop :=
  ∀ top rest command finish started, states = top :: rest →
    top.body = .magic command finish started → finish ≤ nowMs → top.targetActorId ≠ 0

/-- An attack would be pushed over a cast, whose timer the loop then does not reach. -/
def Buries (ai : AIContainer φ) : Prop :=
  ai.isCurrent .magic ∧ ai.isEngaged = false ∧ ai.states.length < MAX_STATE_STACK

def Starts (ai : AIContainer φ) : Prop :=
  ai.canChangeState ∧ ai.states.length < MAX_STATE_STACK

variable {states : List (BattleState φ)} {ai : AIContainer φ}

theorem casts_eq_nil_iff (free : casts ai.states.tail = []) :
    casts ai.states = [] ↔ ai.isCurrent .magic = false := by
  cases h : ai.states with
  | nil => simp [isCurrent, currentState, h, casts]
  | cons top rest =>
      rw [h] at free
      rw [casts_cons_eq_nil, isCurrent_cons h, beq_eq_false_iff_ne]
      exact and_iff_left free

theorem casts_of_canChangeState (free : casts ai.states.tail = [])
    (open_ : ai.canChangeState = true) : casts ai.states = [] := by
  rw [casts_eq_nil_iff free]
  cases h : ai.states with
  | nil => simp [isCurrent, currentState, h]
  | cons top rest =>
      rw [canChangeState_cons h] at open_
      rw [isCurrent_cons h, beq_eq_false_iff_ne]
      intro magic
      rw [BattleState.canChangeState, magic] at open_
      cases open_

theorem changeState_running (running : ∀ s ∈ ai.states, s.Running) (state : BattleState φ) :
    (Starts ai ∧ ai.changeState state = ({ ai with states := state :: ai.states }, true)) ∨
      (¬ Starts ai ∧ ai.changeState state = (ai, false)) := by
  have forced := forceChangeState_eq (fun s member => (running s member).incomplete) state
  unfold changeState Starts
  by_cases gate : ai.canChangeState = true
  · rw [if_pos gate, forced]
    by_cases full : MAX_STATE_STACK ≤ ai.states.length
    · rw [if_pos full]
      exact .inr ⟨fun both => absurd full (by omega), rfl⟩
    · rw [if_neg full]
      exact .inl ⟨⟨gate, by omega⟩, rfl⟩
  · rw [if_neg gate]
    exact .inr ⟨fun both => gate both.1, rfl⟩

theorem internalEngage_running (running : ∀ s ∈ ai.states, s.Running) (target : UInt32)
    (nowMs : UInt64) (delay : UInt32) :
    (ai.isEngaged = false ∧ ai.states.length < MAX_STATE_STACK ∧
        (ai.internalEngage target nowMs delay).1.states =
          .attack ai.ownerActorId target nowMs delay :: ai.states) ∨
      (¬ Buries ai ∧ (ai.internalEngage target nowMs delay).1.states = ai.states) := by
  have forced := forceChangeState_eq (fun s member => (running s member).incomplete)
    (.attack ai.ownerActorId target nowMs delay)
  unfold internalEngage Buries
  by_cases engaged : ai.isEngaged = true
  · rw [if_pos engaged]
    refine .inr ⟨fun buries => ?_, rfl⟩
    rw [engaged] at buries
    exact absurd buries.2.1 (by decide)
  · rw [if_neg engaged, forced]
    by_cases full : MAX_STATE_STACK ≤ ai.states.length
    · rw [if_pos full]
      exact .inr ⟨fun buries => absurd full (by omega), rfl⟩
    · rw [if_neg full]
      exact .inl ⟨by simpa using engaged, by omega, rfl⟩

variable [F32 φ]

theorem swing_quiet (ctx : StackContext φ) (target : UInt32) :
    ∀ e ∈ swing ctx target, e.isBracket = false := by
  intro e emitted
  unfold swing at emitted
  dsimp only at emitted
  split at emitted
  · rw [List.mem_singleton.mp emitted]
    rfl
  · split at emitted
    · rw [List.mem_singleton.mp emitted]
      rfl
    · cases emitted

theorem processStates_running (ctx : StackContext φ) (running : ∀ s ∈ states, s.Running) :
    ∀ s ∈ (processStates ctx states).1, s.Running :=
  processStates_all (fun _ nowMs delay h => h.scheduleNextSwing nowMs delay) ctx running

theorem processStates_free (ctx : StackContext φ) (running : ∀ s ∈ states, s.Running)
    (free : casts states = []) :
    casts (processStates ctx states).1 = [] ∧
      ∀ e ∈ (processStates ctx states).2, e.isBracket = false := by
  induction states with
  | nil => exact ⟨rfl, by simp [processStates]⟩
  | cons top rest ih =>
      obtain ⟨other, freeRest⟩ := casts_cons_eq_nil.mp free
      obtain ⟨left, quiet⟩ :=
        ih (fun s member => running s (List.mem_cons_of_mem top member)) freeRest
      obtain ⟨body, _, same⟩ := top.update_snd ctx.nowMs
      unfold processStates
      dsimp only
      cases ticked : (top.update ctx.nowMs).1 with
      | interrupted =>
          exact absurd ticked ((running top List.mem_cons_self).update_running ctx.nowMs)
      | complete =>
          have kind : (top.update ctx.nowMs).2.kind = top.kind := by
            rw [BattleState.kind, body, BattleState.kind]
          refine ⟨left, fun e emitted => ?_⟩
          rcases List.mem_append.mp emitted with done | later
          · exact resolve_quiet ctx (by rw [kind]; exact other) e done
          · exact quiet e later
      | goOn =>
          rw [same ticked]
          dsimp only
          split
          · refine ⟨casts_cons_eq_nil.mpr ⟨?_, freeRest⟩, swing_quiet ctx _⟩
            rw [BattleState.scheduleNextSwing_kind]
            exact other
          · exact ⟨free, by simp⟩

theorem processStates_waits (ctx : StackContext φ) {top : BattleState φ}
    (rest : List (BattleState φ)) (calm : top.interrupt = false) {command : BattleCommand φ}
    {finish : UInt64} {started : Bool} (body : top.body = .magic command finish started)
    (early : ¬ finish ≤ ctx.nowMs) : processStates ctx (top :: rest) = (top :: rest, []) := by
  have kind : top.kind = .magic := by rw [BattleState.kind, body]; rfl
  have ticked : top.update ctx.nowMs = (.goOn, top) := by
    simp [BattleState.update, calm, body, BattleState.elapsed, early]
  rw [processStates, ticked]
  simp [kind]

theorem processStates_due (ctx : StackContext φ) {top : BattleState φ}
    (rest : List (BattleState φ)) (calm : top.interrupt = false) {command : BattleCommand φ}
    {finish : UInt64} {started : Bool} (body : top.body = .magic command finish started)
    (due : finish ≤ ctx.nowMs) :
    processStates ctx (top :: rest) =
      ((processStates ctx rest).1,
        (if top.targetActorId ≠ 0 then
          [.castComplete ctx.ownerId command.id,
            .resolveAction ctx.ownerId top.targetActorId command] else []) ++
          (processStates ctx rest).2) := by
  have ticked : top.update ctx.nowMs = (.complete, { top with isCompleted := true }) := by
    simp [BattleState.update, calm, body, BattleState.elapsed, due]
  rw [processStates, ticked]
  simp [resolve, resolves, BattleState.kind, BattleState.command, body, BattleStateBody.kind]

theorem processStates_brackets (ctx : StackContext φ) (running : ∀ s ∈ states, s.Running)
    (free : casts states.tail = []) :
    brackets (casts states) (processStates ctx states).2 =
        some (casts (processStates ctx states).1) ∧
      casts (processStates ctx states).1.tail = [] ↔ Heard ctx.nowMs states := by
  cases states with
  | nil => exact iff_of_true ⟨rfl, rfl⟩ (fun _ _ _ _ _ h => by cases h)
  | cons top rest =>
      by_cases casting : top.kind = .magic
      · obtain ⟨command, finish, started, body⟩ := BattleState.body_magic casting
        have id : casts (top :: rest) = [command.id] := by
          rw [casts, List.filterMap_cons, BattleState.castId, body]
          exact congrArg (command.id :: ·) free
        have calm := (running top List.mem_cons_self).calm
        have heard : Heard ctx.nowMs (top :: rest) ↔
            (finish ≤ ctx.nowMs → top.targetActorId ≠ 0) := by
          constructor
          · exact fun h => h top rest command finish started rfl body
          · intro h top' rest' command' finish' started' same body'
            cases same
            rw [body] at body'
            cases body'
            exact h
        rw [heard, id]
        by_cases due : finish ≤ ctx.nowMs
        · obtain ⟨left, quiet⟩ := processStates_free ctx
            (fun s member => running s (List.mem_cons_of_mem top member)) free
          have leftTail : casts (processStates ctx rest).1.tail = [] :=
            casts_tail_eq_nil left
          rw [processStates_due ctx rest calm body due]
          by_cases aimed : top.targetActorId ≠ 0
          · simp [aimed, brackets, bracket, left, leftTail]
            exact brackets_quiet quiet []
          · have lost : brackets [command.id] (processStates ctx rest).2 = some [command.id] :=
              brackets_quiet quiet _
            simp [due, aimed, lost, left]
        · rw [processStates_waits ctx rest calm body due, id]
          exact iff_of_true ⟨rfl, free⟩ fun h => absurd h due
      · have none : casts (top :: rest) = [] := casts_cons_eq_nil.mpr ⟨casting, free⟩
        obtain ⟨left, quiet⟩ := processStates_free ctx running none
        refine iff_of_true ⟨?_, ?_⟩ ?_
        · rw [brackets_quiet quiet, none, left]
        · exact casts_tail_eq_nil left
        · intro top' rest' command finish started same body
          cases same
          exact absurd (congrArg BattleStateBody.kind body) casting

end AIContainer

end Garlemald.Battle
