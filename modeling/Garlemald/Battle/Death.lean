import Garlemald.Battle.AIContainer
import Garlemald.Library.Runs

/-!
What becomes of a container after it died: the state of death looks after itself unless
another state is pushed over it or the stack is cleared, and then the dead may act.
-/

namespace Garlemald.Battle

open Library Common

variable {φ : Type}

namespace AIContainer
variable {now fadeout : UInt64} {ai : AIContainer φ} {owner : UInt32}

theorem forceChangeState_dead (h : ai.states = [.death owner now fadeout]) (state : BattleState φ) :
    ai.forceChangeState state = ({ ai with states := state :: ai.states }, true) := by
  rw [forceChangeState_eq (by simp [h, BattleState.death]), if_neg (by simp [h, MAX_STATE_STACK])]

theorem changeState_dead (h : ai.states = [.death owner now fadeout]) (state : BattleState φ) :
    ai.changeState state = ({ ai with states := state :: ai.states }, true) := by
  rw [changeState, if_pos (by rw [canChangeState_cons h]; rfl), forceChangeState_dead h]

theorem changeState_dead_states (h : ai.states = [.death owner now fadeout])
    (state : BattleState φ) : (ai.changeState state).1.states = state :: ai.states := by
  rw [changeState_dead h]

theorem internalEngage_dead (h : ai.states = [.death owner now fadeout]) (target : UInt32)
    (nowMs : UInt64) (delay : UInt32) :
    (ai.internalEngage target nowMs delay).1.states =
      .attack ai.ownerActorId target nowMs delay :: ai.states := by
  have free : ai.isEngaged = false := by simp [isEngaged, h]
  rw [internalEngage, free, forceChangeState_dead h]
  rfl

theorem beginCast_dead (h : ai.states = [.death owner now fadeout]) {cmd : BattleCommand φ}
    (ready : ai.controller.bind (·.battle.spell) = some cmd) (target : UInt32) (nowMs : UInt64) :
    (ai.beginCast target nowMs).2 =
      [.castStart ai.ownerActorId target cmd.id cmd.castTimeMs cmd.castType] := by
  have idle : ai.isCurrent .magic = false := by rw [isCurrent_cons h]; rfl
  simp [beginCast, idle, ready, internalCast, changeState_dead h]

end AIContainer

def examined (nowMs : UInt64) : List (BattleState φ) → List (BattleState φ)
  | [] => []
  | top :: rest =>
      top :: if (top.update nowMs).1 = .goOn then [] else examined nowMs rest

def BattleEvent.isAction : BattleEvent φ → Bool
  | .resolveAutoAttack .. | .resolveAction .. | .castStart .. => true
  | _ => false

/-- A container, and whether it died and neither its death completed nor it was reset. -/
structure Vigil (φ : Type) where
  ai : AIContainer φ
  dead : Bool

namespace Vigil

def deathCompletes (nowMs : UInt64) (states : List (BattleState φ)) : Bool :=
  (examined nowMs states).any fun s => s.kind == .death && (s.update nowMs).1 == .complete

theorem examined_dead (nowMs : UInt64) (owner : UInt32) (now fadeout : UInt64) :
    examined nowMs [(.death owner now fadeout : BattleState φ)] = [.death owner now fadeout] := by
  simp [examined]

theorem deathCompletes_dead (nowMs : UInt64) (owner : UInt32) (now fadeout : UInt64) :
    deathCompletes nowMs [(.death owner now fadeout : BattleState φ)] =
      decide (now + fadeout ≤ nowMs) := by
  by_cases due : now + fadeout ≤ nowMs
  · simp [deathCompletes, examined, BattleState.update, BattleState.death, BattleState.elapsed, due,
      BattleState.kind, BattleStateBody.kind]
  · simp [deathCompletes, examined, BattleState.update, BattleState.death, BattleState.elapsed, due]

def Still (v : Vigil φ) : Prop := v.dead → v.ai.isDead

def Lies (v : Vigil φ) : Prop :=
  v.dead → ∃ owner now fadeout, v.ai.states = [.death owner now fadeout]

variable {v : Vigil φ}

theorem living (alive : v.dead = false) : Lies v ∧ Still v := by
  have never : ¬ v.dead = true := by rw [alive]; exact Bool.false_ne_true
  exact ⟨fun dead => absurd dead never, fun dead => absurd dead never⟩

theorem lying {owner : UInt32} {now fadeout : UInt64}
    (h : v.ai.states = [.death owner now fadeout]) : Lies v ∧ Still v := by
  refine ⟨fun _ => ⟨owner, now, fadeout, h⟩, fun _ => ?_⟩
  rw [AIContainer.isDead_cons h]
  rfl

theorem not_still (dead : v.dead = true) {top : BattleState φ} {rest : List (BattleState φ)}
    (h : v.ai.states = top :: rest) (other : top.kind ≠ .death) : ¬ Still v := by
  intro held
  have lies := held dead
  rw [AIContainer.isDead_cons h, beq_iff_eq] at lies
  exact other lies

theorem not_still_nil (dead : v.dead = true) (h : v.ai.states = []) : ¬ Still v := by
  intro held
  have lies := held dead
  simp [AIContainer.isDead, AIContainer.currentState, h] at lies

end Vigil

variable [F32 φ]

namespace Vigil

def step (v : Vigil φ) (op : Operation φ) : Option (Vigil φ) :=
  some
    { ai := (v.ai.operate op).1
      dead :=
        match op with
        | .die .. => true
        | .reset => false
        | .update nowMs owner arena =>
            v.dead && !deathCompletes nowMs (v.ai.decided nowMs owner arena).1.states
        | _ => v.dead }

/-- The step of a dead one emits no action, and an update checks the timer of its death. -/
def Quiet (v : Vigil φ) (op : Operation φ) : Prop :=
  v.dead →
    (∀ e ∈ (v.ai.operate op).2, ¬ e.isAction) ∧
      match op with
      | .update nowMs owner arena =>
          ∃ s ∈ examined nowMs (v.ai.decided nowMs owner arena).1.states, s.kind = .death
      | _ => True

/-- The controller does not decide to engage or to cast. -/
def Idles (ai : AIContainer φ) (nowMs : UInt64) (owner : ControllerOwnerView φ)
    (arena : ActorArena φ) : Prop :=
  ∀ c d, ai.runController nowMs owner arena = some (c, d) →
    (∀ target, d ≠ .engage target) ∧ ∀ target, d ≠ .cast target

def Harmless (v : Vigil φ) (op : Operation φ) : Prop :=
  v.dead →
    match op with
    | .die .. | .interruptStates | .reset | .setController _ | .queueAction _ => True
    | .update nowMs owner arena => Idles v.ai nowMs owner arena
    | _ => False

end Vigil

namespace AIContainer

theorem processStates_dead (ctx : StackContext φ) (owner : UInt32) (now fadeout : UInt64) :
    processStates ctx [.death owner now fadeout] =
      (if now + fadeout ≤ ctx.nowMs then [] else [.death owner now fadeout], []) := by
  by_cases due : now + fadeout ≤ ctx.nowMs
  · simp [processStates, BattleState.update, BattleState.death, BattleState.elapsed, due,
      AIContainer.resolve, AIContainer.resolves, BattleState.kind, BattleStateBody.kind]
  · simp [processStates, BattleState.update, BattleState.death, BattleState.elapsed, due,
      BattleState.kind, BattleStateBody.kind]

theorem decided_idles {ai : AIContainer φ} {owner : UInt32} {now fadeout : UInt64}
    (h : ai.states = [.death owner now fadeout]) {nowMs : UInt64}
    {view : ControllerOwnerView φ} {arena : ActorArena φ}
    (idles : Vigil.Idles ai nowMs view arena) :
    (ai.decided nowMs view arena).1.states = ai.states ∧
      ∀ e ∈ (ai.decided nowMs view arena).2, ¬ e.isAction := by
  cases ticked : ai.runController nowMs view arena with
  | none =>
      rw [decided_none ticked]
      exact ⟨rfl, by simp⟩
  | some pair =>
      obtain ⟨c, d⟩ := pair
      obtain ⟨peaceful, silent⟩ := idles c d ticked
      rw [decided_some ticked]
      cases d with
      | engage target => exact absurd rfl (peaceful target)
      | cast target => exact absurd rfl (silent target)
      | changeTarget target =>
          cases target with
          | none => exact ⟨rfl, by simp [applyDecision, BattleEvent.isAction]⟩
          | some target =>
              refine ⟨?_, by simp [applyDecision, BattleEvent.isAction]⟩
              simp [applyDecision, started, h, retarget]
      | idle | roam | moveTo _ | faceTarget _ => exact ⟨rfl, by simp [applyDecision]⟩
      | disengage | luaCombatTick _ =>
          exact ⟨rfl, by simp [applyDecision, BattleEvent.isAction]⟩

theorem decided_acts {ai : AIContainer φ} {owner : UInt32} {now fadeout : UInt64}
    (h : ai.states = [.death owner now fadeout]) {nowMs : UInt64}
    {view : ControllerOwnerView φ} {arena : ActorArena φ}
    (acts : ¬ Vigil.Idles ai nowMs view arena) :
    (∃ target, (ai.decided nowMs view arena).1.states =
        .attack ai.ownerActorId target nowMs view.attackDelayMs :: ai.states) ∨
      ∃ e ∈ (ai.decided nowMs view arena).2, e.isAction := by
  unfold Vigil.Idles at acts
  push Not at acts
  obtain ⟨c, d, ticked, either⟩ := acts
  rw [decided_some ticked]
  have lies : ({ ai.started nowMs with controller := some c } : AIContainer φ).states =
      [.death owner now fadeout] := h
  by_cases engages : ∃ target, d = .engage target
  · obtain ⟨target, rfl⟩ := engages
    exact .inl ⟨target, internalEngage_dead lies target nowMs view.attackDelayMs⟩
  · obtain ⟨target, rfl⟩ := either (not_exists.mp engages)
    obtain ⟨cmd, known⟩ := runController_cast ticked
    have ready : (some c).bind (·.battle.spell) = some cmd := known
    refine .inr ?_
    rw [applyDecision, beginCast_dead lies ready target nowMs]
    exact ⟨_, List.mem_singleton_self _, rfl⟩

end AIContainer

namespace Vigil
variable {view : ControllerOwnerView φ} {now fadeout : UInt64} {arena : ActorArena φ}
  {v v' : Vigil φ} {op : Operation φ} {nowMs : UInt64} {owner : UInt32}

theorem update_idles {ai : AIContainer φ} (h : ai.states = [.death owner now fadeout])
    (idles : Idles ai nowMs view arena) :
    (ai.update nowMs view arena).1.states =
        (if now + fadeout ≤ nowMs then [] else [.death owner now fadeout]) ∧
      ∀ e ∈ (ai.update nowMs view arena).2, ¬ e.isAction := by
  obtain ⟨same, silent⟩ := AIContainer.decided_idles h idles
  rw [AIContainer.update]
  dsimp only
  rw [same, h, AIContainer.processStates_dead]
  refine ⟨rfl, ?_⟩
  intro e emitted
  simp only [List.append_nil, List.mem_append, List.mem_map] at emitted
  rcases emitted with decided | ⟨a, _, rfl⟩
  · exact silent e decided
  · simp [BattleEvent.isAction]

theorem step_alive (alive : v.dead = false) (taken : step v op = some v') : Lies v' ∧ Still v' := by
  cases Option.some.inj taken
  cases op with
  | die nowMs fadeoutMs => exact lying (AIContainer.internalDie_states v.ai nowMs fadeoutMs)
  | reset => exact living rfl
  | update nowMs view arena => exact living (by simp [alive])
  | _ => exact living alive

theorem update_harmless (dead : v.dead = true) (h : v.ai.states = [.death owner now fadeout])
    (idles : Idles v.ai nowMs view arena) (taken : step v (.update nowMs view arena) = some v') :
    Lies v' ∧ Still v' ∧ Quiet v (.update nowMs view arena) := by
  cases Option.some.inj taken
  obtain ⟨left, silent⟩ := update_idles h idles
  obtain ⟨same, _⟩ := AIContainer.decided_idles h idles
  have quiet : Quiet v (.update nowMs view arena) := by
    intro _
    refine ⟨silent, .death owner now fadeout, ?_, rfl⟩
    rw [same, h, examined_dead]
    exact List.mem_singleton_self _
  rw [← and_assoc]
  refine ⟨?_, quiet⟩
  by_cases due : now + fadeout ≤ nowMs
  · exact living (by simp [dead, same, h, deathCompletes_dead, due])
  · rw [if_neg due] at left
    exact lying left

theorem update_harmful {v : Vigil φ} (dead : v.dead = true)
    (h : v.ai.states = [.death owner now fadeout]) (acts : ¬ Idles v.ai nowMs view arena) :
    ¬ Quiet v (.update nowMs view arena) := by
  intro quiet
  obtain ⟨silent, s, checked, lies⟩ := quiet dead
  rcases AIContainer.decided_acts h acts with ⟨target, pushed⟩ | ⟨e, emitted, active⟩
  · rw [pushed, examined, BattleState.update_attack rfl rfl, if_pos rfl,
      List.mem_singleton] at checked
    rw [checked] at lies
    cases lies
  · apply silent e _ active
    exact List.mem_append_left _ (List.mem_append_left _ emitted)

theorem step_harmless (inside : Lies v) (harmless : Harmless v op) (taken : step v op = some v') :
    Lies v' ∧ Still v' ∧ Quiet v op := by
  rw [← and_assoc]
  cases dead : v.dead with
  | false => exact ⟨step_alive dead taken, fun h => by rw [dead] at h; cases h⟩
  | true =>
      obtain ⟨owner, now, fadeout, h⟩ := inside dead
      cases op with
      | update nowMs view arena =>
          rw [and_assoc]
          exact update_harmless dead h (harmless dead) taken
      | die nowMs fadeoutMs =>
          cases Option.some.inj taken
          refine ⟨lying (AIContainer.internalDie_states v.ai nowMs fadeoutMs),
            fun _ => ⟨?_, trivial⟩⟩
          simp [AIContainer.operate, AIContainer.internalDie, BattleEvent.isAction]
      | interruptStates =>
          cases Option.some.inj taken
          have kept : v.ai.interruptStates.states = [.death owner now fadeout] := by
            simp [AIContainer.interruptStates, h, BattleState.death]
          exact ⟨lying kept, fun _ => ⟨by simp [AIContainer.operate], trivial⟩⟩
      | reset =>
          cases Option.some.inj taken
          exact ⟨living rfl, fun _ => ⟨by simp [AIContainer.operate], trivial⟩⟩
      | setController _ | queueAction _ =>
          cases Option.some.inj taken
          exact ⟨lying h, fun _ => ⟨by simp [AIContainer.operate], trivial⟩⟩
      | _ => exact (harmless dead).elim

theorem step_harmful (inside : Lies v) (harmful : ¬ Harmless v op) (taken : step v op = some v') :
    ¬ (Still v' ∧ Quiet v op) := by
  have dead : v.dead = true := by
    by_contra alive
    exact harmful fun dead => absurd dead alive
  obtain ⟨owner, now, fadeout, h⟩ := inside dead
  rw [not_and]
  cases op with
  | update nowMs view arena =>
      have acts : ¬ Idles v.ai nowMs view arena := fun idles => harmful fun _ => idles
      exact fun _ => update_harmful dead h acts
  | engage target nowMs delay =>
      cases Option.some.inj taken
      intro still
      exact absurd still
        (not_still dead (AIContainer.internalEngage_dead h target nowMs delay) nofun)
  | cast _ _ _ | ability _ _ _ | weaponSkill _ _ _ | useItem _ _ _ _ =>
      cases Option.some.inj taken
      intro still
      exact absurd still (not_still dead (AIContainer.changeState_dead_states h _) nofun)
  | disengage =>
      cases Option.some.inj taken
      exact fun still => absurd still (not_still_nil dead rfl)
  | despawn nowMs respawnMs =>
      cases Option.some.inj taken
      have pushed := AIContainer.internalDespawn_states v.ai nowMs respawnMs
      exact fun still => absurd still (not_still dead pushed nofun)
  | die _ _ | interruptStates | reset | setController _ | queueAction _ =>
      exact absurd (fun _ => trivial) harmful

/-- The dead do not act exactly in the runs in which, between a death and its completion
or a reset, nothing is pushed onto the stack and the stack is not cleared: neither by an
operation nor by a decision of the controller to engage or to cast. -/
theorem dead_do_not_act (ai : AIContainer φ) (ops : List (Operation φ)) :
    Always step Still ⟨ai, false⟩ ops ∧ EachStep step Quiet ⟨ai, false⟩ ops ↔
      EachStep step Harmless ⟨ai, false⟩ ops := by
  have ⟨lies, still⟩ : Lies ⟨ai, false⟩ ∧ Still ⟨ai, false⟩ := living rfl
  refine always_and_eachStep_iff ?_ ?_ lies still
  · intro v op v' inside _ taken
    constructor
    · intro both
      by_contra harmful
      exact step_harmful inside harmful taken both
    · intro harmless
      exact (step_harmless inside harmless taken).2
  · intro v op v' inside _ harmless taken
    exact (step_harmless inside harmless taken).1

theorem buried_alive :
    ¬ (Always step Still (⟨.new 1 none, false⟩ : Vigil ℚ) [.die 0 5000, .engage 2 1000 2500] ∧
      EachStep step Quiet (⟨.new 1 none, false⟩ : Vigil ℚ)
        [.die 0 5000, .engage 2 1000 2500]) := by
  intro ⟨held, _⟩
  have engaged := (held.2 _ rfl).2 _ rfl
  exact absurd (engaged rfl) (by decide)

end Vigil

end Garlemald.Battle
