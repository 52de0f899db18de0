import Garlemald.Battle.AIContainer
import Mathlib.Data.List.TakeWhile

/-!
The attack of a stack with its clock, what the operations make of it, and the auto attacks of
an update: those of the one swing that its loop over the stack may make.
-/

namespace Garlemald.Battle

open Common

variable {φ : Type}

namespace BattleState

/-- An attack that no check of the stack takes away, whose clock is not due before `due`. -/
structure Armed (due : Nat) (s : BattleState φ) : Prop where
  calm : s.interrupt = false
  holds : s.canInterrupt = false
  incomplete : s.isCompleted = false
  clock : ∃ nextSwingMs, s.body = .attack nextSwingMs ∧ due ≤ nextSwingMs.toNat

variable {s : BattleState φ} {nowMs : UInt64} {delay : UInt32} {due : Nat}

theorem Armed.kind (h : s.Armed due) : s.kind = .attack := by
  obtain ⟨nextSwingMs, body, _⟩ := h.clock
  rw [BattleState.kind, body]
  rfl

theorem clock_toNat (fits : nowMs.toNat + delay.toNat < 2 ^ 64) :
    (nowMs + delay.toUInt64).toNat = nowMs.toNat + delay.toNat := by
  rw [UInt64.toNat_add, UInt32.toNat_toUInt64, Nat.mod_eq_of_lt fits]

theorem armed_attack (owner target : UInt32) (fits : nowMs.toNat + delay.toNat < 2 ^ 64) :
    (attack owner target nowMs delay : BattleState φ).Armed (nowMs.toNat + delay.toNat) :=
  ⟨rfl, rfl, rfl, _, rfl, (clock_toNat fits).ge⟩

theorem Armed.scheduleNextSwing (h : s.Armed due) (fits : nowMs.toNat + delay.toNat < 2 ^ 64) :
    (s.scheduleNextSwing nowMs delay).Armed (nowMs.toNat + delay.toNat) := by
  obtain ⟨nextSwingMs, body, _⟩ := h.clock
  rw [BattleState.scheduleNextSwing, body]
  exact ⟨h.calm, h.holds, h.incomplete, _, rfl, (clock_toNat fits).ge⟩

theorem Armed.mono {due due' : Nat} (h : s.Armed due') (le : due ≤ due') : s.Armed due := by
  obtain ⟨nextSwingMs, body, later⟩ := h.clock
  exact ⟨h.calm, h.holds, h.incomplete, nextSwingMs, body, le.trans later⟩

theorem Armed.elapsed (h : s.Armed due) (ready : s.isAttackReady nowMs = true) :
    due ≤ nowMs.toNat := by
  obtain ⟨nextSwingMs, body, later⟩ := h.clock
  rw [isAttackReady, body] at ready
  exact later.trans (UInt64.le_iff_toNat_le.mp (of_decide_eq_true ready))

theorem Armed.retarget (h : s.Armed due) (target : UInt32) :
    (AIContainer.retarget target s).Armed due := by
  rw [AIContainer.retarget, if_pos h.kind]
  exact ⟨h.calm, h.holds, h.incomplete, h.clock⟩

theorem scheduleNextSwing_target (s : BattleState φ) (nowMs : UInt64) (delay : UInt32) :
    (s.scheduleNextSwing nowMs delay).targetActorId = s.targetActorId := by
  unfold BattleState.scheduleNextSwing
  split <;> rfl

end BattleState

namespace Controller

variable [F32 φ]

theorem doCombatTick_autoAttackEnabled (c : Controller φ) (nowMs : UInt64)
    (owner : ControllerOwnerView φ) (arena : ActorArena φ) :
    (c.doCombatTick nowMs owner arena).1.autoAttackEnabled = c.autoAttackEnabled := by
  have approaches : ∀ targetId view,
      (c.approach nowMs owner targetId view).1.autoAttackEnabled = c.autoAttackEnabled := by
    intro targetId view
    unfold approach
    dsimp only
    split
    · rfl
    · split <;> rfl
  unfold doCombatTick
  split
  · rfl
  · split
    · rfl
    · split
      · rfl
      · split
        · unfold pursue
          split
          · rfl
          · exact approaches _ _
        · split <;> rfl

theorem tickBattleNpc_autoAttackEnabled (c : Controller φ) (nowMs : UInt64)
    (owner : ControllerOwnerView φ) (arena : ActorArena φ) :
    (c.tickBattleNpc nowMs owner arena).1.autoAttackEnabled = c.autoAttackEnabled := by
  unfold tickBattleNpc
  split
  · rfl
  · split
    · exact c.doCombatTick_autoAttackEnabled nowMs owner arena
    · split
      · rfl
      · split
        · rfl
        · split
          · unfold doRoamTick
            split <;> rfl
          · rfl

theorem tick_autoAttackEnabled (c : Controller φ) (nowMs : UInt64)
    (owner : ControllerOwnerView φ) (arena : ActorArena φ) :
    (c.tick nowMs owner arena).1.autoAttackEnabled = c.autoAttackEnabled := by
  unfold tick
  split
  · rfl
  · cases kind : c.kind with
    | player | pet => rfl
    | battleNpc | ally => exact tickBattleNpc_autoAttackEnabled _ nowMs owner arena

end Controller

namespace AIContainer

def attacks (states : List (BattleState φ)) : List (BattleState φ) :=
  states.filter (·.kind == .attack)

variable {ai : AIContainer φ} {states : List (BattleState φ)} {attack : BattleState φ}
  {nowMs : UInt64} {due : Nat}

theorem isEngaged_eq_false_iff : ai.isEngaged = false ↔ attacks ai.states = [] := by
  rw [isEngaged, attacks, List.filter_eq_nil_iff, List.any_eq_false]

theorem attacks_cons (top : BattleState φ) (rest : List (BattleState φ)) :
    attacks (top :: rest) = if top.kind = .attack then top :: attacks rest else attacks rest := by
  simp [attacks, List.filter_cons]

theorem attacks_dropWhile {p : BattleState φ → Bool} (stays : ∀ s ∈ attacks states, p s = false) :
    attacks (states.dropWhile p) = attacks states := by
  have above : attacks (states.takeWhile p) = [] := by
    refine List.filter_eq_nil_iff.mpr fun s member attacking => ?_
    have dropped := List.mem_takeWhile_imp member
    have whole := (List.takeWhile_sublist p).mem member
    have kept := stays s (List.mem_filter.mpr ⟨whole, attacking⟩)
    rw [dropped] at kept
    cases kept
  calc attacks (states.dropWhile p)
      = attacks (states.takeWhile p) ++ attacks (states.dropWhile p) := by rw [above]; rfl
    _ = attacks states := by
        rw [attacks, attacks, ← List.filter_append, List.takeWhile_append_dropWhile, attacks]

theorem attacks_retarget (target : UInt32) (states : List (BattleState φ)) :
    attacks (states.map (retarget target)) = (attacks states).map (retarget target) := by
  induction states with
  | nil => rfl
  | cons top rest ih =>
      have same : (retarget target top).kind = top.kind := by
        unfold retarget
        split <;> rfl
      rw [List.map_cons, attacks_cons, attacks_cons, same, ih]
      split <;> rfl

theorem attacks_forceChangeState (stays : ∀ s ∈ attacks ai.states, s.isCompleted = false)
    (state : BattleState φ) :
    attacks (ai.forceChangeState state).1.states = attacks ai.states ∨
      state.kind = .attack ∧
        attacks (ai.forceChangeState state).1.states = state :: attacks ai.states := by
  unfold forceChangeState checkCompletedStates
  split
  · exact .inl rfl
  · dsimp only
    rw [attacks_cons, attacks_dropWhile stays]
    split
    · next attacking => exact .inr ⟨attacking, rfl⟩
    · exact .inl rfl

theorem attacks_changeState {state : BattleState φ}
    (stays : ∀ s ∈ attacks ai.states, s.isCompleted = false) (other : state.kind ≠ .attack) :
    attacks (ai.changeState state).1.states = attacks ai.states := by
  unfold changeState
  split
  · rcases attacks_forceChangeState stays state with same | ⟨attacking, _⟩
    · exact same
    · exact absurd attacking other
  · rfl

theorem attacks_beginCast (stays : ∀ s ∈ attacks ai.states, s.isCompleted = false)
    (target : UInt32) (nowMs : UInt64) :
    attacks (ai.beginCast target nowMs).1.states = attacks ai.states := by
  have pushed : ∀ cmd, attacks (ai.internalCast target cmd nowMs).1.states = attacks ai.states :=
    fun cmd => attacks_changeState stays nofun
  unfold beginCast
  split
  · rfl
  · split
    · rfl
    · next cmd _ =>
        dsimp only
        split <;> exact pushed cmd

/-- The container holds one attack, whose clock is not due before `due`. -/
def Armed (due : Nat) (ai : AIContainer φ) : Prop :=
  ∃ attack, attacks ai.states = [attack] ∧ attack.Armed due

theorem Armed.isEngaged (h : ai.Armed due) : ai.isEngaged = true := by
  obtain ⟨attack, only, _⟩ := h
  rw [← Bool.not_eq_false, isEngaged_eq_false_iff, only]
  exact List.cons_ne_nil _ _

theorem Armed.congr {ai ai' : AIContainer φ} (h : ai.Armed due)
    (same : attacks ai'.states = attacks ai.states) : ai'.Armed due := by
  obtain ⟨attack, only, armed⟩ := h
  exact ⟨attack, same.trans only, armed⟩

theorem Armed.attacks_all (h : ai.Armed due) : ∀ s ∈ attacks ai.states, s.Armed due := by
  obtain ⟨attack, only, armed⟩ := h
  rw [only]
  exact List.forall_mem_singleton.mpr armed

theorem armed_engage (idle : ai.isEngaged = false) {target : UInt32} {delay : UInt32}
    (fits : nowMs.toNat + delay.toNat < 2 ^ 64)
    (engaged : (ai.internalEngage target nowMs delay).1.isEngaged = true) :
    (ai.internalEngage target nowMs delay).1.Armed (nowMs.toNat + delay.toNat) := by
  have none := isEngaged_eq_false_iff.mp idle
  have stays : ∀ s ∈ attacks ai.states, s.isCompleted = false := by
    rw [none]
    exact List.forall_mem_nil _
  have pushed := attacks_forceChangeState stays (.attack ai.ownerActorId target nowMs delay)
  unfold internalEngage at engaged ⊢
  rw [idle] at engaged ⊢
  rw [none] at pushed
  rcases pushed with left | ⟨_, only⟩
  · have still := isEngaged_eq_false_iff.mpr left
    simp [still] at engaged
  · exact ⟨_, only, BattleState.armed_attack _ _ fits⟩

theorem Armed.applyDecision (h : ai.Armed due) (d : ControllerDecision φ) (nowMs : UInt64)
    (delay : UInt32) : (ai.applyDecision d nowMs delay).1.Armed due := by
  have stays : ∀ s ∈ attacks ai.states, s.isCompleted = false :=
    fun s member => (h.attacks_all s member).incomplete
  cases d with
  | idle | disengage | moveTo _ | faceTarget _ | roam | luaCombatTick _ => exact h
  | engage target =>
      rw [AIContainer.applyDecision, internalEngage, h.isEngaged, if_pos rfl]
      exact h
  | cast target => exact h.congr (attacks_beginCast stays target nowMs)
  | changeTarget target =>
      cases target with
      | none => exact h
      | some target =>
          obtain ⟨attack, only, armed⟩ := h
          refine ⟨retarget target attack, ?_, armed.retarget target⟩
          exact (attacks_retarget target ai.states).trans (congrArg (List.map _) only)

theorem applyDecision_begins (idle : ai.isEngaged = false) (d : ControllerDecision φ)
    {delay : UInt32} (fits : nowMs.toNat + delay.toNat < 2 ^ 64) :
    (ai.applyDecision d nowMs delay).1.isEngaged = false ∨
      (ai.applyDecision d nowMs delay).1.Armed (nowMs.toNat + delay.toNat) := by
  have none := isEngaged_eq_false_iff.mp idle
  cases d with
  | idle | disengage | moveTo _ | faceTarget _ | roam | luaCombatTick _ => exact .inl idle
  | engage target =>
      cases engaged : (ai.internalEngage target nowMs delay).1.isEngaged with
      | false => exact .inl engaged
      | true => exact .inr (armed_engage idle fits engaged)
  | cast target =>
      refine .inl (isEngaged_eq_false_iff.mpr ?_)
      exact (attacks_beginCast (by rw [none]; exact List.forall_mem_nil _) target nowMs).trans none
  | changeTarget target =>
      cases target with
      | none => exact .inl idle
      | some target =>
          refine .inl (isEngaged_eq_false_iff.mpr ?_)
          exact (attacks_retarget target ai.states).trans (congrArg (List.map _) none)

def autoAttacks (events : List (BattleEvent φ)) : List (UInt32 × UInt32) :=
  events.filterMap fun
    | .resolveAutoAttack attacker defender => some (attacker, defender)
    | _ => none

theorem autoAttacks_append (front back : List (BattleEvent φ)) :
    autoAttacks (front ++ back) = autoAttacks front ++ autoAttacks back :=
  List.filterMap_append

theorem autoAttacks_applyDecision (ai : AIContainer φ) (d : ControllerDecision φ) (nowMs : UInt64)
    (delay : UInt32) : autoAttacks (ai.applyDecision d nowMs delay).2 = [] := by
  cases d with
  | cast target =>
      change autoAttacks (ai.beginCast target nowMs).2 = []
      unfold beginCast
      split
      · rfl
      · split
        · rfl
        · dsimp only
          split <;> rfl
  | changeTarget target => cases target <;> rfl
  | _ => rfl

theorem beginCast_reads (ai : AIContainer φ) (target : UInt32) (nowMs : UInt64) :
    (ai.beginCast target nowMs).1.ownerActorId = ai.ownerActorId ∧
      (ai.beginCast target nowMs).1.controller.map (·.autoAttackEnabled) =
        ai.controller.map (·.autoAttackEnabled) := by
  have pushed : ∀ state, (ai.changeState state).1.ownerActorId = ai.ownerActorId ∧
      (ai.changeState state).1.controller = ai.controller := by
    intro state
    unfold changeState forceChangeState
    split
    · split <;> exact ⟨rfl, rfl⟩
    · exact ⟨rfl, rfl⟩
  unfold beginCast
  split
  · exact ⟨rfl, rfl⟩
  · split
    · exact ⟨rfl, rfl⟩
    · next cmd _ =>
        obtain ⟨owner, controller⟩ := pushed (.magic ai.ownerActorId target cmd nowMs)
        unfold internalCast
        dsimp only
        split
        · refine ⟨owner, ?_⟩
          rw [controller, Option.map_map]
          rfl
        · exact ⟨owner, by rw [controller]⟩

theorem applyDecision_reads (ai : AIContainer φ) (d : ControllerDecision φ) (nowMs : UInt64)
    (delay : UInt32) :
    (ai.applyDecision d nowMs delay).1.ownerActorId = ai.ownerActorId ∧
      (ai.applyDecision d nowMs delay).1.controller.map (·.autoAttackEnabled) =
        ai.controller.map (·.autoAttackEnabled) := by
  cases d with
  | idle | disengage | moveTo _ | faceTarget _ | roam | luaCombatTick _ => exact ⟨rfl, rfl⟩
  | engage target =>
      rw [applyDecision]
      unfold internalEngage forceChangeState
      split
      · exact ⟨rfl, rfl⟩
      · split <;> exact ⟨rfl, rfl⟩
  | cast target => exact ai.beginCast_reads target nowMs
  | changeTarget target => cases target <;> exact ⟨rfl, rfl⟩

/-- The attack that the loop over the stack swings: the first state that goes on, if it is
an attack that is due. -/
def readyAttack (nowMs : UInt64) : List (BattleState φ) → Option (BattleState φ)
  | [] => none
  | top :: rest =>
      match (top.update nowMs).1 with
      | .goOn => if top.kind = .attack ∧ top.isAttackReady nowMs then some top else none
      | .complete | .interrupted => readyAttack nowMs rest

theorem readyAttack_spec (ready : readyAttack nowMs states = some attack) :
    (attack.update nowMs).1 = .goOn ∧ attack.kind = .attack := by
  induction states with
  | nil => cases ready
  | cons top rest ih =>
      unfold readyAttack at ready
      cases ticked : (top.update nowMs).1 with
      | goOn =>
          rw [ticked] at ready
          dsimp only at ready
          split at ready
          · next due =>
              cases ready
              exact ⟨ticked, due.1⟩
          · cases ready
      | complete | interrupted =>
          rw [ticked] at ready
          exact ih ready

variable [F32 φ]

omit [F32 φ] in
theorem autoAttacks_resolve (ctx : StackContext φ) (s : BattleState φ) :
    autoAttacks (resolve ctx s) = [] := by
  unfold resolve
  split
  · split
    · split <;> rfl
    · rfl
  · rfl

theorem autoAttacks_processStates (ctx : StackContext φ) (states : List (BattleState φ)) :
    autoAttacks (processStates ctx states).2 =
      match readyAttack ctx.nowMs states with
      | none => []
      | some attack => autoAttacks (swing ctx attack.targetActorId) := by
  induction states with
  | nil => rfl
  | cons top rest ih =>
      have same := (top.update_snd ctx.nowMs).2.2
      unfold processStates readyAttack
      dsimp only
      cases ticked : (top.update ctx.nowMs).1 with
      | goOn =>
          rw [same ticked]
          dsimp only
          by_cases ready : top.kind = .attack ∧ top.isAttackReady ctx.nowMs = true
          · rw [if_pos ready, if_pos ready]
          · rw [if_neg ready, if_neg ready]
            rfl
      | complete =>
          dsimp only
          rw [autoAttacks_append, autoAttacks_resolve, List.nil_append, ih]
      | interrupted =>
          dsimp only
          rw [autoAttacks_append, ih]
          split <;> rfl

theorem processStates_ready (ctx : StackContext φ)
    (ready : readyAttack ctx.nowMs states = some attack) :
    (processStates ctx states).1.head? =
      some (attack.scheduleNextSwing ctx.nowMs ctx.swingDelayMs) := by
  induction states with
  | nil => cases ready
  | cons top rest ih =>
      have same := (top.update_snd ctx.nowMs).2.2
      unfold readyAttack at ready
      unfold processStates
      dsimp only
      cases ticked : (top.update ctx.nowMs).1 with
      | goOn =>
          rw [ticked] at ready
          dsimp only at ready
          split at ready
          · next due =>
              cases ready
              rw [same ticked]
              dsimp only
              rw [if_pos due]
              rfl
          · cases ready
      | complete | interrupted =>
          rw [ticked] at ready
          exact ih ready

theorem attacks_processStates (ctx : StackContext φ) (only : attacks states = [attack])
    (armed : attack.Armed due) :
    (readyAttack ctx.nowMs states = none ∧ attacks (processStates ctx states).1 = [attack]) ∨
      readyAttack ctx.nowMs states = some attack ∧ attack.isAttackReady ctx.nowMs = true ∧
        attacks (processStates ctx states).1 =
          [attack.scheduleNextSwing ctx.nowMs ctx.swingDelayMs] := by
  induction states with
  | nil => cases only
  | cons top rest ih =>
      have same := (top.update_snd ctx.nowMs).2.2
      rw [attacks_cons] at only
      unfold readyAttack processStates
      dsimp only
      by_cases attacking : top.kind = .attack
      · rw [if_pos attacking] at only
        obtain ⟨rfl, alone⟩ := List.cons.inj only
        rw [BattleState.update_attack attacking armed.calm]
        dsimp only
        by_cases ready : top.isAttackReady ctx.nowMs = true
        · rw [if_pos ⟨attacking, ready⟩, if_pos ⟨attacking, ready⟩]
          refine .inr ⟨rfl, ready, ?_⟩
          rw [attacks_cons, BattleState.scheduleNextSwing_kind, if_pos attacking, alone]
        · rw [if_neg fun both => ready both.2, if_neg fun both => ready both.2]
          refine .inl ⟨rfl, ?_⟩
          rw [attacks_cons, if_pos attacking, alone]
      · rw [if_neg attacking] at only
        cases ticked : (top.update ctx.nowMs).1 with
        | goOn =>
            rw [same ticked]
            dsimp only
            rw [if_neg fun both => attacking both.1, if_neg fun both => attacking both.1]
            refine .inl ⟨rfl, ?_⟩
            rw [attacks_cons, if_neg attacking, only]
        | complete | interrupted => exact ih only

/-- A swing lands on a target that is not 0 and that the arena knows in range, of an owner
that may attack. -/
theorem autoAttacks_swing {owner : ControllerOwnerView φ} {arena : ActorArena φ} {target : UInt32}
    {pair : UInt32 × UInt32}
    (lands : pair ∈ autoAttacks (swing (ai.stackContext nowMs owner arena) target)) :
    pair = (ai.ownerActorId, target) ∧
      (ai.controller.map (·.autoAttackEnabled)).getD true = true ∧
      target ≠ 0 ∧ ∃ view, arena.get target = some view ∧
        let dx := view.position.x - owner.actor.position.x
        let dz := view.position.z - owner.actor.position.z
        F32.le (dx * dx + dz * dz) (owner.attackRange * owner.attackRange) = true := by
  unfold swing at lands
  dsimp only at lands
  split at lands
  · next gates =>
      obtain ⟨aimed, enabled, reached⟩ := gates
      obtain ⟨view, known, near⟩ := (Option.any_eq_true _ _).mp reached
      exact ⟨List.mem_singleton.mp lands, enabled, aimed, view, known, near⟩
  · split at lands <;> cases lands

theorem autoAttacks_swing_at_most_one (ctx : StackContext φ) (target : UInt32) :
    autoAttacks (swing ctx target) = [] ∨ ∃ pair, autoAttacks (swing ctx target) = [pair] := by
  unfold swing
  dsimp only
  split
  · exact .inr ⟨_, rfl⟩
  · split <;> exact .inl rfl

theorem autoAttacks_update (ai : AIContainer φ) (nowMs : UInt64) (owner : ControllerOwnerView φ)
    (arena : ActorArena φ) :
    autoAttacks (ai.update nowMs owner arena).2 =
      match readyAttack nowMs (ai.decided nowMs owner arena).1.states with
      | none => []
      | some attack =>
          autoAttacks (swing ((ai.decided nowMs owner arena).1.stackContext nowMs owner arena)
            attack.targetActorId) := by
  have quiet : autoAttacks (ai.decided nowMs owner arena).2 = [] :=
    decided_rule (P := fun out => autoAttacks out.2 = []) rfl
      fun c d _ => autoAttacks_applyDecision _ d nowMs owner.attackDelayMs
  have calls : ∀ actions : List Action, autoAttacks (actions.map fun a =>
      (.luaCall (ai.decided nowMs owner arena).1.ownerActorId "onActionQueueFire" a.tag.toUInt16
        none : BattleEvent φ)) = [] := by
    intro actions
    exact List.filterMap_eq_nil_iff.mpr fun e member => by
      obtain ⟨_, _, rfl⟩ := List.mem_map.mp member
      rfl
  unfold update
  dsimp only
  rw [autoAttacks_append, autoAttacks_append, quiet, calls, List.nil_append, List.append_nil]
  exact autoAttacks_processStates _ _

theorem decided_reads (ai : AIContainer φ) (nowMs : UInt64) (owner : ControllerOwnerView φ)
    (arena : ActorArena φ) :
    (ai.decided nowMs owner arena).1.ownerActorId = ai.ownerActorId ∧
      (ai.decided nowMs owner arena).1.controller.map (·.autoAttackEnabled) =
        ai.controller.map (·.autoAttackEnabled) := by
  refine decided_rule (P := fun out => out.1.ownerActorId = ai.ownerActorId ∧
    out.1.controller.map (·.autoAttackEnabled) = ai.controller.map (·.autoAttackEnabled))
    ⟨rfl, rfl⟩ fun c d ticked => ?_
  obtain ⟨ctrl, known, _, ticks⟩ := runController_some ticked
  have same := ctrl.tick_autoAttackEnabled nowMs owner arena
  rw [ticks] at same
  obtain ⟨sameOwner, sameSwitch⟩ :=
    applyDecision_reads { ai.started nowMs with controller := some c } d nowMs owner.attackDelayMs
  refine ⟨sameOwner, sameSwitch.trans ?_⟩
  rw [known]
  exact congrArg some same

end AIContainer

end Garlemald.Battle
