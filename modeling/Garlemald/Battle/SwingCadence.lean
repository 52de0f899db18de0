import Garlemald.Battle.Swings
import Garlemald.Library.Cooldown

/-!
The swings of an engagement, from the step that pushes its attack on: how far they are
apart, when the first may come, and what each finds.
-/

namespace Garlemald.Battle

open Library Common

variable {φ : Type}

/-- An auto attack that an update resolves, with the container and what else the update is
given. -/
structure Swing (φ : Type) where
  ai : AIContainer φ
  nowMs : UInt64
  owner : ControllerOwnerView φ
  arena : ActorArena φ
  attackerActorId : UInt32
  defenderActorId : UInt32

namespace Swing

def timeMs (s : Swing φ) : Nat := s.nowMs.toNat

def gapMs (s : Swing φ) : Nat := max 500 s.owner.attackDelayMs.toNat

variable [F32 φ]

def after (s : Swing φ) : AIContainer φ := (s.ai.update s.nowMs s.owner s.arena).1

/-- The owner strikes the target of its attack, which is on top of the stack, with auto
attacks enabled and the target known to the arena and in range. -/
structure Fair (s : Swing φ) : Prop where
  attacker : s.attackerActorId = s.ai.ownerActorId
  onTop : ∃ attack, s.after.states.head? = some attack ∧ attack.kind = .attack ∧
    attack.targetActorId = s.defenderActorId
  enabled : ∀ controller, s.ai.controller = some controller → controller.autoAttackEnabled = true
  inRange : s.defenderActorId ≠ 0 ∧ ∃ target, s.arena.get s.defenderActorId = some target ∧
    let dx := target.position.x - s.owner.actor.position.x
    let dz := target.position.z - s.owner.actor.position.z
    F32.le (dx * dx + dz * dz) (s.owner.attackRange * s.owner.attackRange) = true

end Swing

/-- The operations that may push an attack or set the clock of one. -/
def Operation.drivesAttack : Operation φ → Bool
  | .engage .. | .update .. => true
  | _ => false

/-- The time before which an engagement does not swing, given the operation that begins it. -/
def Operation.firstSwingMs : Operation φ → Nat
  | .engage _ nowMs attackDelayMs => nowMs.toNat + attackDelayMs.toNat
  | .update nowMs owner _ => nowMs.toNat + owner.attackDelayMs.toNat
  | _ => 0

namespace AIContainer

variable [F32 φ]

def swings (ai : AIContainer φ) : Operation φ → List (Swing φ)
  | .update nowMs owner arena =>
      (autoAttacks (ai.update nowMs owner arena).2).map fun pair =>
        ⟨ai, nowMs, owner, arena, pair.1, pair.2⟩
  | _ => []

/-- A step of an engagement, which is over when the attack has left the stack. -/
def within (ai : AIContainer φ) (op : Operation φ) : Option (AIContainer φ) :=
  if (ai.operate op).1.isEngaged then some (ai.operate op).1 else none

/-- The sums to which an operation sets the clock of the attack have 64 bits: that of the
engagement it begins, and that of the attack it finds due on top of the stack. -/
def Unwrapped (ai : AIContainer φ) : Operation φ → Prop
  | .engage _ nowMs attackDelayMs =>
      ai.isEngaged = false → nowMs.toNat + attackDelayMs.toNat < 2 ^ 64
  | .update nowMs owner arena =>
      (ai.isEngaged = false → nowMs.toNat + owner.attackDelayMs.toNat < 2 ^ 64) ∧
        ((readyAttack nowMs (ai.decided nowMs owner arena).1.states).isSome →
          nowMs.toNat + max 500 owner.attackDelayMs.toNat < 2 ^ 64)
  | _ => True

instance (ai : AIContainer φ) : ∀ op, Decidable (Unwrapped ai op)
  | .engage .. => inferInstanceAs (Decidable (_ → _))
  | .update .. => inferInstanceAs (Decidable (_ ∧ _))
  | .cast .. | .ability .. | .weaponSkill .. | .useItem .. | .disengage | .die .. | .despawn ..
  | .interruptStates | .reset | .setController _ | .queueAction _ => isTrue trivial

/-- The swings from an operation that begins an engagement to the end of the engagement are
their delays apart, the first comes behind the delay of the engagement, and all are fair. -/
def InCadence (ai : AIContainer φ) (begins : Operation φ) (ops : List (Operation φ)) : Prop :=
  Paced Swing.timeMs Swing.gapMs begins.firstSwingMs (firings within swings ai (begins :: ops)) ∧
    ∀ s ∈ firings within swings ai (begins :: ops), s.Fair

variable {ai : AIContainer φ} {owner : ControllerOwnerView φ} {arena : ActorArena φ}
  {nowMs : UInt64} {op : Operation φ}

omit [F32 φ] in
theorem Armed.mono {due due' : Nat} (h : ai.Armed due') (le : due ≤ due') : ai.Armed due := by
  obtain ⟨attack, only, armed⟩ := h
  exact ⟨attack, only, armed.mono le⟩

theorem toNat_swingDelay (delay : UInt32) : (max delay 500).toNat = max 500 delay.toNat := by
  change (if delay ≤ 500 then 500 else delay).toNat = _
  have half : (500 : UInt32).toNat = 500 := rfl
  split
  · next short =>
      have short := UInt32.le_iff_toNat_le.mp short
      omega
  · next long =>
      have long := UInt32.le_iff_toNat_le.not.mp long
      omega

theorem update_rearms {due : Nat} (armed : (ai.decided nowMs owner arena).1.Armed due)
    (fits : (readyAttack nowMs (ai.decided nowMs owner arena).1.states).isSome →
      nowMs.toNat + max 500 owner.attackDelayMs.toNat < 2 ^ 64) :
    Rearms Swing.timeMs Swing.gapMs Armed due (swings ai (.update nowMs owner arena))
      (ai.update nowMs owner arena).1 := by
  obtain ⟨attack, only, clock⟩ := armed
  have emitted := ai.autoAttacks_update nowMs owner arena
  have looped := attacks_processStates
    ((ai.decided nowMs owner arena).1.stackContext nowMs owner arena) only clock
  have delay := toNat_swingDelay owner.attackDelayMs
  rcases looped with ⟨waits, kept⟩ | ⟨ready, elapsed, set⟩
  · replace waits : readyAttack nowMs (ai.decided nowMs owner arena).1.states = none := waits
    rw [waits] at emitted
    exact .inl ⟨congrArg (List.map _) emitted, attack, kept, clock⟩
  · replace ready : readyAttack nowMs (ai.decided nowMs owner arena).1.states = some attack := ready
    rw [ready] at emitted fits
    have room := fits rfl
    have anew : (ai.update nowMs owner arena).1.Armed
        (nowMs.toNat + max 500 owner.attackDelayMs.toNat) := by
      refine ⟨_, set, ?_⟩
      rw [← delay] at room ⊢
      exact clock.scheduleNextSwing room
    have late : due ≤ nowMs.toNat := clock.elapsed elapsed
    dsimp only at emitted
    rcases autoAttacks_swing_at_most_one
        ((ai.decided nowMs owner arena).1.stackContext nowMs owner arena)
        attack.targetActorId with skipped | ⟨pair, struck⟩
    · rw [skipped] at emitted
      exact .inl ⟨congrArg (List.map _) emitted, anew.mono (by omega)⟩
    · rw [struck] at emitted
      exact .inr ⟨_, congrArg (List.map _) emitted, late, anew⟩

theorem update_idle (idle : (ai.decided nowMs owner arena).1.isEngaged = false) :
    (ai.update nowMs owner arena).1.isEngaged = false := by
  have none : ∀ s ∈ (ai.decided nowMs owner arena).1.states, s.kind ≠ .attack := by
    intro s member attacking
    exact absurd (isEngaged_iff.mpr ⟨s, member, attacking⟩) (by rw [idle]; decide)
  have after := processStates_all
    (fun s nowMs delay (h : s.kind ≠ .attack) => by rwa [BattleState.scheduleNextSwing_kind])
    ((ai.decided nowMs owner arena).1.stackContext nowMs owner arena) none
  rw [Bool.eq_false_iff]
  intro engaged
  obtain ⟨s, member, attacking⟩ := isEngaged_iff.mp engaged
  exact after s member attacking

theorem decided_armed {due : Nat} (h : ai.Armed due) (nowMs : UInt64)
    (owner : ControllerOwnerView φ) (arena : ActorArena φ) :
    (ai.decided nowMs owner arena).1.Armed due := by
  refine decided_rule (P := fun out => out.1.Armed due) h fun c d _ => ?_
  have started : { ai.started nowMs with controller := some c }.Armed due := h
  exact started.applyDecision d nowMs owner.attackDelayMs

theorem decided_begins (idle : ai.isEngaged = false) (arena : ActorArena φ)
    (fits : nowMs.toNat + owner.attackDelayMs.toNat < 2 ^ 64) :
    (ai.decided nowMs owner arena).1.isEngaged = false ∨
      (ai.decided nowMs owner arena).1.Armed (nowMs.toNat + owner.attackDelayMs.toNat) := by
  refine decided_rule (P := fun out => out.1.isEngaged = false ∨
    out.1.Armed (nowMs.toNat + owner.attackDelayMs.toNat)) (.inl idle) fun c d _ => ?_
  have started : { ai.started nowMs with controller := some c }.isEngaged = false := idle
  exact applyDecision_begins started d fits

theorem attacks_operate
    (stays : ∀ s ∈ attacks ai.states, s.isCompleted = false ∧ s.canInterrupt = false)
    (other : op.drivesAttack = false) :
    attacks (ai.operate op).1.states = attacks ai.states ∨
      attacks (ai.operate op).1.states = [] := by
  cases op with
  | engage _ _ _ | update _ _ _ => cases other
  | cast _ _ _ | ability _ _ _ | weaponSkill _ _ _ | useItem _ _ _ _ =>
      exact .inl (attacks_changeState (fun s member => (stays s member).1) nofun)
  | disengage | reset => exact .inr rfl
  | die nowMs fadeoutMs =>
      rw [operate, internalDie_states]
      exact .inr rfl
  | despawn nowMs respawnMs =>
      rw [operate, internalDespawn_states]
      exact .inr rfl
  | interruptStates => exact .inl (attacks_dropWhile fun s member => (stays s member).2)
  | setController _ | queueAction _ => exact .inl rfl

theorem operate_begins (idle : ai.isEngaged = false) (unwrapped : Unwrapped ai op)
    (engaged : (ai.operate op).1.isEngaged = true) :
    Rearms Swing.timeMs Swing.gapMs Armed op.firstSwingMs (swings ai op) (ai.operate op).1 := by
  have none := isEngaged_eq_false_iff.mp idle
  have pushes : op.drivesAttack ≠ false := by
    intro other
    have kept := attacks_operate (by rw [none]; exact List.forall_mem_nil _) other
    rw [none, or_self, ← isEngaged_eq_false_iff, engaged] at kept
    cases kept
  cases op with
  | engage target nowMs delay => exact .inl ⟨rfl, armed_engage idle (unwrapped idle) engaged⟩
  | update nowMs owner arena =>
      rcases decided_begins idle arena (unwrapped.1 idle) with idles | armed
      · rw [operate, update_idle idles] at engaged
        cases engaged
      · exact update_rearms armed unwrapped.2
  | _ => exact absurd rfl pushes

theorem operate_rearms {due : Nat} (armed : ai.Armed due) (unwrapped : Unwrapped ai op)
    (engaged : (ai.operate op).1.isEngaged = true) :
    Rearms Swing.timeMs Swing.gapMs Armed due (swings ai op) (ai.operate op).1 := by
  have stays : ∀ s ∈ attacks ai.states, s.isCompleted = false ∧ s.canInterrupt = false :=
    fun s member => ⟨(armed.attacks_all s member).incomplete, (armed.attacks_all s member).holds⟩
  have kept : op.drivesAttack = false → (ai.operate op).1.Armed due := by
    intro other
    rcases attacks_operate stays other with kept | cleared
    · exact armed.congr kept
    · rw [isEngaged_eq_false_iff.mpr cleared] at engaged
      cases engaged
  cases op with
  | engage target nowMs delay =>
      refine .inl ⟨rfl, ?_⟩
      rw [operate, internalEngage, armed.isEngaged, if_pos rfl]
      exact armed
  | update nowMs owner arena =>
      exact update_rearms (decided_armed armed nowMs owner arena) unwrapped.2
  | _ => exact .inl ⟨rfl, kept rfl⟩

theorem update_onTop {attack : BattleState φ}
    (ready : readyAttack nowMs (ai.decided nowMs owner arena).1.states = some attack) :
    ∃ top, (ai.update nowMs owner arena).1.states.head? = some top ∧ top.kind = .attack ∧
      top.targetActorId = attack.targetActorId := by
  have ended := processStates_ready
    ((ai.decided nowMs owner arena).1.stackContext nowMs owner arena) ready
  refine ⟨_, ended, ?_, BattleState.scheduleNextSwing_target _ _ _⟩
  rw [BattleState.scheduleNextSwing_kind, (readyAttack_spec ready).2]

theorem swings_fair (ai : AIContainer φ) (op : Operation φ) : ∀ s ∈ swings ai op, s.Fair := by
  cases op with
  | update nowMs owner arena =>
      intro s member
      obtain ⟨pair, emitted, rfl⟩ := List.mem_map.mp member
      rw [autoAttacks_update] at emitted
      cases ready : readyAttack nowMs (ai.decided nowMs owner arena).1.states with
      | none =>
          rw [ready] at emitted
          cases emitted
      | some attack =>
          rw [ready] at emitted
          obtain ⟨rfl, enabled, reached⟩ := autoAttacks_swing emitted
          obtain ⟨sameOwner, sameSwitch⟩ := ai.decided_reads nowMs owner arena
          refine ⟨sameOwner, update_onTop ready, ?_, reached⟩
          intro controller known
          rw [sameSwitch, known] at enabled
          exact enabled
  | _ => exact fun _ member => absurd member List.not_mem_nil

/-- In an engagement whose sums fit 64 bits, the swings keep their cadence, whatever is
retargeted, cast or moved meanwhile. -/
theorem swings_in_cadence {ai : AIContainer φ} (idle : ai.isEngaged = false)
    {begins : Operation φ} {ops : List (Operation φ)}
    (unwrapped : EachStep within Unwrapped ai (begins :: ops)) : InCadence ai begins ops := by
  have taken : ∀ {ai ai' : AIContainer φ} {op}, within ai op = some ai' →
      (ai.operate op).1.isEngaged = true ∧ (ai.operate op).1 = ai' := by
    intro ai ai' op taken
    unfold within at taken
    split at taken
    · next engaged => exact ⟨engaged, Option.some.inj taken⟩
    · cases taken
  constructor
  · refine firings_paced_cons (I := Armed) ?_ ?_ unwrapped
    · intro ai' room step
      obtain ⟨engaged, rfl⟩ := taken step
      exact operate_begins idle room engaged
    · intro due ai' armed
      refine firings_paced (I := Armed) ?_ armed
      intro due ai op ai' armed room step
      obtain ⟨engaged, rfl⟩ := taken step
      exact operate_rearms armed room engaged
  · exact firings_all swings_fair ai (begins :: ops)

/-- A player that attacks actor 2, which stands two yalms off. -/
def besideTwo : ControllerOwnerView ℚ where
  actor := { actorId := 1, position := ⟨0, 0, 0⟩, rotation := 0, isAlive := true, allegiance := 1 }
  isEngaged := true
  isSpawned := true
  mostHatedActorId := none
  currentTargetActorId := some 2
  hasPreventMovement := false
  isCloseToSpawn := true
  attackDelayMs := 2500
  attackRange := 3

def twoBeside : ActorArena ℚ where
  get id := if id = 2 then some
    { actorId := 2, position := ⟨2, 0, 0⟩, rotation := 0, isAlive := true, allegiance := 2 }
    else none
  actorsAround _ _ := []

theorem swings_in_cadence_player :
    InCadence (.new 1 none : AIContainer ℚ) (.engage 2 100 2500)
      [.update 2600 besideTwo twoBeside, .update 2700 besideTwo twoBeside,
        .update 5100 besideTwo twoBeside] :=
  swings_in_cadence rfl (by decide)

/-- Three seconds before the times end, the second swing comes a tenth of a second behind the
first, whose sum has wrapped. -/
theorem swings_out_of_cadence :
    ¬ InCadence (.new 1 none : AIContainer ℚ) (.engage 2 0xFFFFFFFFFFFFF448 2500)
      [.update 0xFFFFFFFFFFFFFE0C besideTwo twoBeside,
        .update 0xFFFFFFFFFFFFFE70 besideTwo twoBeside] := by
  intro cadence
  have spaced := cadence.1.spaced
  revert spaced
  with_unfolding_all decide

end AIContainer

end Garlemald.Battle
