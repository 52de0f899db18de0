import Garlemald.Battle.CastBrackets
import Garlemald.Library.Runs

/-!
Runs of a container, with the casts that are open: when each cast that starts also ends
by the time its state leaves the stack.
-/

namespace Garlemald.Battle

open Library Common

variable {φ : Type}

variable {nowMs : UInt64} {owner : ControllerOwnerView φ} {arena : ActorArena φ}

namespace AIContainer

theorem retarget_body (target : UInt32) (s : BattleState φ) :
    (retarget target s).body = s.body := by
  unfold retarget
  split <;> rfl

theorem retarget_running {s : BattleState φ} (h : s.Running) (target : UInt32) :
    (retarget target s).Running := by
  unfold retarget
  split
  · exact ⟨h.incomplete, h.calm, h.magic⟩
  · exact h

theorem casts_retarget (target : UInt32) (states : List (BattleState φ)) :
    casts (states.map (retarget target)) = casts states := by
  rw [casts, List.filterMap_map]
  congr 1
  funext s
  rw [Function.comp_apply, BattleState.castId, retarget_body, BattleState.castId]

theorem heard_retarget (target : UInt32) (nowMs : UInt64) (states : List (BattleState φ)) :
    Heard nowMs (states.map (retarget target)) ↔ Heard nowMs states := by
  cases states with
  | nil => rfl
  | cons top rest =>
      have sameTarget : ∀ command finish started, top.body = .magic command finish started →
          (retarget target top).targetActorId = top.targetActorId := by
        intro command finish started body
        have other : top.kind ≠ .attack := by
          rw [BattleState.kind, body]
          rintro ⟨⟩
        rw [retarget, if_neg other]
      constructor
      · intro h top' rest' command finish started same body due
        cases same
        rw [← sameTarget command finish started body]
        exact h _ _ command finish started rfl (by rw [retarget_body, body]) due
      · intro h top' rest' command finish started same body due
        cases same
        rw [retarget_body] at body
        rw [sameTarget command finish started body]
        exact h top rest command finish started rfl body due

theorem heard_of_casts_nil {states : List (BattleState φ)} (none : casts states = [])
    (nowMs : UInt64) : Heard nowMs states := by
  intro top rest command finish started same body
  rw [same, casts_cons_eq_nil] at none
  exact absurd (congrArg BattleStateBody.kind body) none.1

theorem heard_magic (owner target : UInt32) (command : BattleCommand φ) (nowMs : UInt64)
    (rest : List (BattleState φ)) :
    Heard nowMs (.magic owner target command nowMs :: rest) ↔
      (nowMs + command.castTimeMs.toUInt64 ≤ nowMs → target ≠ 0) := by
  constructor
  · exact fun h => h _ _ _ _ _ rfl rfl
  · intro h top rest' command' finish started same body
    cases same
    cases body
    exact h

/-- Behind a decision, the open casts are those of the stack, whose only cast is on top. -/
structure Orderly (opened : List UInt16) (out : AIContainer φ × List (BattleEvent φ)) : Prop where
  running : ∀ s ∈ out.1.states, s.Running
  free : casts out.1.states.tail = []
  told : brackets opened out.2 = some (casts out.1.states)

variable {events : List (BattleEvent φ)}

theorem orderly_same {ai ai' : AIContainer φ} (running : ∀ s ∈ ai.states, s.Running)
    (free : casts ai.states.tail = []) (same : ai'.states = ai.states)
    (quiet : ∀ e ∈ events, e.isBracket = false) :
    Orderly (casts ai.states) (ai', events) :=
  ⟨by rw [same]; exact running, by rw [same]; exact free, by rw [brackets_quiet quiet, same]⟩

variable {ai : AIContainer φ}

theorem orderly_retarget (running : ∀ s ∈ ai.states, s.Running) (free : casts ai.states.tail = [])
    (target : UInt32) {ai' : AIContainer φ} (same : ai'.states = ai.states.map (retarget target))
    (quiet : ∀ e ∈ events, e.isBracket = false) : Orderly (casts ai.states) (ai', events) := by
  refine ⟨?_, ?_, ?_⟩
  · intro s member
    rw [same, List.mem_map] at member
    obtain ⟨s', below, rfl⟩ := member
    exact retarget_running (running s' below) target
  · rw [same, ← List.map_tail, casts_retarget, free]
  · rw [brackets_quiet quiet, same, casts_retarget]

theorem engage_orderly {ai ai' : AIContainer φ} (running : ∀ s ∈ ai.states, s.Running)
    (free : casts ai.states.tail = []) (buries : ¬ Buries ai) {target : UInt32} {delay : UInt32}
    (same : ai'.states = (ai.internalEngage target nowMs delay).1.states)
    (quiet : ∀ e ∈ events, e.isBracket = false) :
    Orderly (casts ai.states) (ai', events) ∧
      (Heard nowMs ai'.states ↔ Heard nowMs ai.states) := by
  rcases internalEngage_running running target nowMs delay with
    ⟨calm, room, pushed⟩ | ⟨_, left⟩
  · have idle : ai.isCurrent .magic = false := by
      by_contra casting
      exact buries ⟨by simpa using casting, calm, room⟩
    have none := (casts_eq_nil_iff free).mpr idle
    rw [← same] at pushed
    have noneAfter : casts ai'.states = [] := by
      rw [pushed, casts_cons_eq_nil]
      exact ⟨nofun, none⟩
    constructor
    · refine ⟨?_, casts_tail_eq_nil noneAfter, ?_⟩
      · rw [pushed]
        exact List.forall_mem_cons.mpr ⟨⟨rfl, rfl, nofun⟩, running⟩
      · rw [brackets_quiet quiet, none, noneAfter]
    · exact iff_of_true (heard_of_casts_nil noneAfter nowMs) (heard_of_casts_nil none nowMs)
  · rw [← same] at left
    exact ⟨orderly_same running free left quiet, by rw [left]⟩

theorem beginCast_orderly (running : ∀ s ∈ ai.states, s.Running) (free : casts ai.states.tail = [])
    {cmd : BattleCommand φ} (ready : ai.controller.bind (·.battle.spell) = some cmd)
    (target : UInt32) (nowMs : UInt64) :
    Orderly (casts ai.states) (ai.beginCast target nowMs) ∧
      (Heard nowMs (ai.beginCast target nowMs).1.states ↔ Heard nowMs ai.states ∧
        (Starts ai → nowMs + cmd.castTimeMs.toUInt64 ≤ nowMs → target ≠ 0)) := by
  unfold beginCast
  rw [ready]
  rcases changeState_running running (.magic ai.ownerActorId target cmd nowMs) with
    ⟨starts, pushed⟩ | ⟨refused, left⟩
  · have none := casts_of_canChangeState free starts.1
    have idle := (casts_eq_nil_iff free).mp none
    simp only [idle, Bool.false_eq_true, if_false, internalCast, pushed, if_true]
    refine ⟨⟨?_, none, ?_⟩, ?_⟩
    · exact List.forall_mem_cons.mpr ⟨⟨rfl, rfl, fun _ => rfl⟩, running⟩
    · rw [none]
      exact congrArg (fun below => some (cmd.id :: below)) none.symm
    · rw [heard_magic, and_iff_right (heard_of_casts_nil none nowMs)]
      exact ⟨fun h _ => h, fun h => h starts⟩
  · have noEvents : ∀ e ∈ ([] : List (BattleEvent φ)), e.isBracket = false := by simp
    have vacuous : Heard nowMs ai.states ↔ Heard nowMs ai.states ∧
        (Starts ai → nowMs + cmd.castTimeMs.toUInt64 ≤ nowMs → target ≠ 0) :=
      (and_iff_left fun starts => absurd starts refused).symm
    by_cases casting : ai.isCurrent .magic = true
    · rw [if_pos casting]
      exact ⟨orderly_same running free rfl noEvents, vacuous⟩
    · rw [if_neg casting]
      simp only [internalCast, left, Bool.false_eq_true, if_false]
      exact ⟨orderly_same running free rfl noEvents, vacuous⟩

variable [F32 φ]

def BuriesNone (ai : AIContainer φ) (nowMs : UInt64) (owner : ControllerOwnerView φ)
    (arena : ActorArena φ) : Prop :=
  ∀ c target, ai.runController nowMs owner arena = some (c, .engage target) → ¬ Buries ai

/-- The decision of the controller starts no cast that is over at once and has no target. -/
def StartsAimed (ai : AIContainer φ) (nowMs : UInt64) (owner : ControllerOwnerView φ)
    (arena : ActorArena φ) : Prop :=
  ∀ c target command, ai.runController nowMs owner arena = some (c, .cast target) →
    Starts ai → c.battle.spell = some command →
      nowMs + command.castTimeMs.toUInt64 ≤ nowMs → target ≠ 0

theorem decided_orderly (running : ∀ s ∈ ai.states, s.Running) (free : casts ai.states.tail = [])
    (buries : BuriesNone ai nowMs owner arena) :
    Orderly (casts ai.states) (ai.decided nowMs owner arena) ∧
      (Heard nowMs (ai.decided nowMs owner arena).1.states ↔
        Heard nowMs ai.states ∧ StartsAimed ai nowMs owner arena) := by
  cases ticked : ai.runController nowMs owner arena with
  | none =>
      rw [decided_none ticked]
      refine ⟨orderly_same running free rfl (by simp), (and_iff_left ?_).symm⟩
      intro c target command cast
      rw [ticked] at cast
      cases cast
  | some pair =>
      obtain ⟨c, d⟩ := pair
      rw [decided_some ticked]
      have silent : (∀ target, d ≠ .cast target) → StartsAimed ai nowMs owner arena := by
        intro other c' target command cast
        rw [ticked] at cast
        cases cast
        exact absurd rfl (other target)
      cases d with
      | idle | roam | moveTo _ | faceTarget _ =>
          exact ⟨orderly_same running free rfl (by simp), (and_iff_left (silent nofun)).symm⟩
      | disengage | luaCombatTick _ =>
          exact ⟨orderly_same running free rfl (by simp [BattleEvent.isBracket]),
            (and_iff_left (silent nofun)).symm⟩
      | changeTarget target =>
          cases target with
          | none =>
              exact ⟨orderly_same running free rfl (by simp [BattleEvent.isBracket]),
                (and_iff_left (silent nofun)).symm⟩
          | some target =>
              refine ⟨orderly_retarget running free target rfl ?_, ?_⟩
              · simp [BattleEvent.isBracket]
              · exact (heard_retarget target nowMs ai.states).trans
                  (and_iff_left (silent nofun)).symm
      | engage target =>
          let ticking : AIContainer φ := { ai.started nowMs with controller := some c }
          have quiet : ∀ e ∈ [(.engage ai.ownerActorId target : BattleEvent φ)],
              e.isBracket = false := by simp [BattleEvent.isBracket]
          obtain ⟨orderly, heard⟩ :=
            @engage_orderly φ nowMs _ ticking _ running free (buries c target ticked) target
              owner.attackDelayMs rfl quiet
          exact ⟨orderly, heard.trans (and_iff_left (silent nofun)).symm⟩
      | cast target =>
          obtain ⟨cmd, known⟩ := runController_cast ticked
          let ticking : AIContainer φ := { ai.started nowMs with controller := some c }
          obtain ⟨orderly, heard⟩ :=
            @beginCast_orderly φ ticking running free cmd known target nowMs
          refine ⟨orderly, heard.trans (and_congr_right fun _ => ?_)⟩
          constructor
          · intro aimed c' target' command' cast starts known'
            rw [ticked] at cast
            cases cast
            rw [known] at known'
            cases known'
            exact aimed starts
          · exact fun aimed starts => aimed c target cmd ticked starts known

theorem update_told (opened : List UInt16) :
    brackets opened (ai.update nowMs owner arena).2 =
      (brackets opened (ai.decided nowMs owner arena).2).bind fun behind =>
        brackets behind (processStates
          ((ai.decided nowMs owner arena).1.stackContext nowMs owner arena)
          (ai.decided nowMs owner arena).1.states).2 := by
  rw [update]
  dsimp only
  rw [brackets_append, brackets_append]
  have fires : ∀ behind, brackets behind
      (((ai.decided nowMs owner arena).1.actionQueue.drainDue nowMs).1.map fun a =>
        (.luaCall (ai.decided nowMs owner arena).1.ownerActorId "onActionQueueFire"
          a.tag.toUInt16 none : BattleEvent φ)) = some behind :=
    fun behind => brackets_quiet (by simp [BattleEvent.isBracket]) behind
  simp [fires]

end AIContainer

/-- A container, and the casts that are open; none once a cast ended that was not. A cast
that is begun from outside opens like one that the container announces. -/
structure Caster (φ : Type) where
  ai : AIContainer φ
  opened : Option (List UInt16)

namespace Caster

def announced (ai : AIContainer φ) : Operation φ → List UInt16
  | .cast target cmd nowMs => if (ai.internalCast target cmd nowMs).2 then [cmd.id] else []
  | _ => []

/-- The open casts are those on the stack, and no state lies over one of them. -/
def Balanced (v : Caster φ) : Prop :=
  v.opened = some (casts v.ai.states) ∧ casts v.ai.states.tail = []

def Runs (v : Caster φ) : Prop := ∀ s ∈ v.ai.states, s.Running

variable {v v' : Caster φ}

theorem balanced_iff (held : Balanced v) (same : v'.opened = v.opened) :
    Balanced v' ↔ casts v.ai.states = casts v'.ai.states ∧ casts v'.ai.states.tail = [] := by
  rw [Balanced, same, held.1, Option.some.injEq]

theorem balanced_of_states (held : Balanced v) (same : v'.opened = v.opened)
    (states : v'.ai.states = v.ai.states) : Balanced v' := by
  rw [balanced_iff held same, states]
  exact ⟨rfl, held.2⟩

theorem balanced_cleared (held : Balanced v) (same : v'.opened = v.opened)
    (cleared : casts v'.ai.states = []) :
    Balanced v' ↔ v.ai.isCurrent .magic = false := by
  rw [balanced_iff held same, cleared, ← AIContainer.casts_eq_nil_iff held.2]
  exact and_iff_left (casts_tail_eq_nil cleared)

theorem balanced_pushed (held : Balanced v) (same : v'.opened = v.opened) {state : BattleState φ}
    (other : state.kind ≠ .magic) (pushed : v'.ai.states = state :: v.ai.states) :
    Balanced v' ↔ casts v.ai.states = [] := by
  have unchanged : casts v'.ai.states = casts v.ai.states := by
    have none : state.castId = none := by
      rw [← Option.not_isSome_iff_eq_none, BattleState.castId_isSome, beq_iff_eq]
      exact other
    rw [pushed, casts, List.filterMap_cons, none]
    rfl
  rw [balanced_iff held same, unchanged, pushed]
  exact and_iff_right rfl

variable [F32 φ]

def step (v : Caster φ) (op : Operation φ) : Option (Caster φ) :=
  some
    { ai := (v.ai.operate op).1
      opened := v.opened.bind fun opened =>
        brackets (announced v.ai op ++ opened) (v.ai.operate op).2 }

def Keeps (v : Caster φ) : Operation φ → Prop
  | .engage .. => ¬ v.ai.Buries
  | .disengage | .die .. | .despawn .. | .interruptStates | .reset =>
      v.ai.isCurrent .magic = false
  | .update nowMs owner arena =>
      AIContainer.Heard nowMs v.ai.states ∧ v.ai.BuriesNone nowMs owner arena ∧
        v.ai.StartsAimed nowMs owner arena
  | _ => True

theorem step_opened {op : Operation φ} (taken : step v op = some v')
    (announces : announced v.ai op = []) (quiet : ∀ e ∈ (v.ai.operate op).2, e.isBracket = false) :
    v'.opened = v.opened := by
  cases Option.some.inj taken
  have same : ∀ opened,
      brackets (announced v.ai op ++ opened) (v.ai.operate op).2 = some opened := by
    intro opened
    rw [announces, List.nil_append, brackets_quiet quiet]
  simp [same]

theorem change_balanced {op : Operation φ} (running : Runs v) (held : Balanced v)
    (taken : step v op = some v') {state : BattleState φ}
    (changes : v.ai.operate op = ((v.ai.changeState state).1, [])) (other : state.kind ≠ .magic)
    (incomplete : state.isCompleted = false) (calm : state.interrupt = false)
    (announces : announced v.ai op = []) :
    Balanced v' ∧ Runs v' := by
  have same := step_opened taken announces (by rw [changes]; simp)
  cases Option.some.inj taken
  rw [changes] at same ⊢
  rcases AIContainer.changeState_running running state with ⟨starts, pushed⟩ | ⟨_, left⟩
  · rw [pushed] at same ⊢
    refine ⟨(balanced_pushed held same other rfl).mpr ?_,
      List.forall_mem_cons.mpr ⟨.of_other incomplete calm other, running⟩⟩
    exact AIContainer.casts_of_canChangeState held.2 starts.1
  · rw [left] at same ⊢
    exact ⟨balanced_of_states held same rfl, running⟩

theorem cast_balanced (running : Runs v) (held : Balanced v) {target : UInt32}
    {cmd : BattleCommand φ} (taken : step v (.cast target cmd nowMs) = some v') :
    Balanced v' ∧ Runs v' := by
  cases Option.some.inj taken
  rcases AIContainer.changeState_running running
    (.magic v.ai.ownerActorId target cmd nowMs) with ⟨starts, pushed⟩ | ⟨_, left⟩
  · have none := AIContainer.casts_of_canChangeState held.2 starts.1
    have announces : announced v.ai (.cast target cmd nowMs) = [cmd.id] :=
      if_pos (congrArg Prod.snd pushed)
    simp only [Balanced, Runs, AIContainer.operate, AIContainer.internalCast, pushed, announces,
      held.1]
    exact ⟨⟨rfl, none⟩, List.forall_mem_cons.mpr ⟨⟨rfl, rfl, fun _ => rfl⟩, running⟩⟩
  · have announces : announced v.ai (.cast target cmd nowMs) = [] :=
      if_neg (by rw [AIContainer.internalCast, left]; exact Bool.false_ne_true)
    simp only [Balanced, Runs, AIContainer.operate, AIContainer.internalCast, left, announces,
      held.1]
    exact ⟨⟨rfl, held.2⟩, running⟩

theorem engage_balanced (running : Runs v) (held : Balanced v) {target : UInt32} {delay : UInt32}
    (taken : step v (.engage target nowMs delay) = some v') :
    (Balanced v' ↔ ¬ v.ai.Buries) ∧ Runs v' := by
  have same := step_opened taken rfl (by simp [AIContainer.operate])
  cases Option.some.inj taken
  rcases AIContainer.internalEngage_running running target nowMs delay with
    ⟨calm, room, pushed⟩ | ⟨free, left⟩
  · have other : (.attack v.ai.ownerActorId target nowMs delay : BattleState φ).kind ≠ .magic :=
      nofun
    constructor
    · rw [balanced_pushed held same other pushed, AIContainer.casts_eq_nil_iff held.2,
        AIContainer.Buries]
      simp [calm, room]
    · rw [Runs, AIContainer.operate, pushed]
      exact List.forall_mem_cons.mpr ⟨⟨rfl, rfl, nofun⟩, running⟩
  · constructor
    · exact iff_of_true (balanced_of_states held same left) free
    · rw [Runs, AIContainer.operate, left]
      exact running

theorem interrupt_balanced (running : Runs v) (held : Balanced v)
    (taken : step v .interruptStates = some v') :
    (Balanced v' ↔ v.ai.isCurrent .magic = false) ∧ Runs v' := by
  have same := step_opened taken rfl (by simp [AIContainer.operate])
  cases Option.some.inj taken
  constructor
  · apply balanced_cleared held same
    cases h : v.ai.states with
    | nil => simp [AIContainer.operate, AIContainer.interruptStates, h, casts]
    | cons top rest =>
        have below : casts rest = [] := by simpa [h] using held.2
        have suffix : casts (rest.dropWhile (·.canInterrupt)) = [] :=
          List.filterMap_eq_nil_iff.mpr fun s member =>
            List.filterMap_eq_nil_iff.mp below s (List.dropWhile_sublist _ |>.mem member)
        simp only [AIContainer.operate, AIContainer.interruptStates, h]
        by_cases leaves : top.canInterrupt = true
        · rw [List.dropWhile_cons_of_pos leaves, suffix]
        · rw [List.dropWhile_cons_of_neg leaves, casts_cons_eq_nil]
          have runs := running top (by rw [h]; exact List.mem_cons_self)
          exact ⟨fun magic => leaves (runs.magic magic), below⟩
  · intro s member
    exact running s ((List.dropWhile_sublist _).mem member)

theorem update_buries (running : Runs v) (buries : ¬ v.ai.BuriesNone nowMs owner arena)
    (taken : step v (.update nowMs owner arena) = some v') : ¬ Balanced v' := by
  cases Option.some.inj taken
  unfold AIContainer.BuriesNone at buries
  push Not at buries
  obtain ⟨c, target, ticked, ⟨casting, calm, room⟩⟩ := buries
  let ticking : AIContainer φ := { v.ai.started nowMs with controller := some c }
  have pushed : (v.ai.decided nowMs owner arena).1.states =
      .attack v.ai.ownerActorId target nowMs owner.attackDelayMs :: v.ai.states := by
    rw [AIContainer.decided_some ticked]
    rcases @AIContainer.internalEngage_running φ ticking running target nowMs
      owner.attackDelayMs with ⟨_, _, pushed⟩ | ⟨free, _⟩
    · exact pushed
    · exact absurd ⟨casting, calm, room⟩ free
  have attacks : (.attack v.ai.ownerActorId target nowMs owner.attackDelayMs :
      BattleState φ).kind = .attack := rfl
  have calmTop : (.attack v.ai.ownerActorId target nowMs owner.attackDelayMs :
      BattleState φ).interrupt = false := rfl
  obtain ⟨s, events, _, stacked⟩ := AIContainer.processStates_attack
    ((v.ai.decided nowMs owner arena).1.stackContext nowMs owner arena)
    v.ai.states attacks calmTop
  rw [← pushed] at stacked
  intro balanced
  have none : casts v.ai.states = [] := by
    have tail := balanced.2
    rw [AIContainer.operate, AIContainer.update, stacked] at tail
    exact tail
  have idle := (AIContainer.casts_eq_nil_iff (casts_tail_eq_nil none)).mp none
  rw [casting] at idle
  cases idle

theorem update_balanced (running : Runs v) (held : Balanced v)
    (buries : v.ai.BuriesNone nowMs owner arena)
    (taken : step v (.update nowMs owner arena) = some v') :
    (Balanced v' ↔ AIContainer.Heard nowMs v.ai.states ∧
      v.ai.StartsAimed nowMs owner arena) ∧ Runs v' := by
  cases Option.some.inj taken
  obtain ⟨⟨runs, free, told⟩, heard⟩ := AIContainer.decided_orderly running held.2 buries
  have loop := AIContainer.processStates_brackets
    ((v.ai.decided nowMs owner arena).1.stackContext nowMs owner arena) runs free
  constructor
  · rw [← heard]
    refine Iff.trans ?_ loop
    simp only [Balanced, announced, List.nil_append, AIContainer.operate, held.1,
      Option.bind_some, AIContainer.update_told, told]
    rfl
  · exact AIContainer.processStates_running _ runs

theorem step_balanced {op : Operation φ} (running : Runs v) (held : Balanced v)
    (taken : step v op = some v') :
    (Balanced v' ↔ Keeps v op) ∧ (Keeps v op → Runs v') := by
  have always : ∀ {P : Prop}, P → Balanced v' ∧ Runs v' → (Balanced v' ↔ P) ∧ (P → Runs v') :=
    fun holds both => ⟨iff_of_true both.1 holds, fun _ => both.2⟩
  have exactly : ∀ {P : Prop}, (Balanced v' ↔ P) ∧ Runs v' → (Balanced v' ↔ P) ∧ (P → Runs v') :=
    fun both => ⟨both.1, fun _ => both.2⟩
  cases op with
  | engage target nowMs delay => exact exactly (engage_balanced running held taken)
  | cast target cmd nowMs => exact always trivial (cast_balanced running held taken)
  | ability _ _ _ | weaponSkill _ _ _ | useItem _ _ _ _ =>
      exact always trivial
        (change_balanced running held taken rfl (by rintro ⟨⟩) rfl rfl rfl)
  | interruptStates => exact exactly (interrupt_balanced running held taken)
  | disengage =>
      have same := step_opened taken rfl
        (by simp [AIContainer.operate, AIContainer.internalDisengage, BattleEvent.isBracket])
      cases Option.some.inj taken
      exact exactly ⟨balanced_cleared held same rfl, List.forall_mem_nil _⟩
  | reset =>
      have same := step_opened taken rfl (by simp [AIContainer.operate])
      cases Option.some.inj taken
      exact exactly ⟨balanced_cleared held same rfl, List.forall_mem_nil _⟩
  | die nowMs fadeoutMs =>
      have same := step_opened taken rfl
        (by simp [AIContainer.operate, AIContainer.internalDie, BattleEvent.isBracket])
      have pushed := AIContainer.internalDie_states v.ai nowMs fadeoutMs
      cases Option.some.inj taken
      refine exactly ⟨balanced_cleared held same (congrArg casts pushed), ?_⟩
      rw [Runs, AIContainer.operate, pushed]
      exact List.forall_mem_singleton.mpr (.of_other rfl rfl (by rintro ⟨⟩))
  | despawn nowMs respawnMs =>
      have same := step_opened taken rfl
        (by simp [AIContainer.operate, AIContainer.internalDespawn, BattleEvent.isBracket])
      have pushed := AIContainer.internalDespawn_states v.ai nowMs respawnMs
      cases Option.some.inj taken
      refine exactly ⟨balanced_cleared held same (congrArg casts pushed), ?_⟩
      rw [Runs, AIContainer.operate, pushed]
      exact List.forall_mem_singleton.mpr (.of_other rfl rfl (by rintro ⟨⟩))
  | setController _ | queueAction _ =>
      have same := step_opened taken rfl (by simp [AIContainer.operate])
      cases Option.some.inj taken
      exact always trivial ⟨balanced_of_states held same rfl, running⟩
  | update nowMs owner arena =>
      by_cases buries : v.ai.BuriesNone nowMs owner arena
      · obtain ⟨balanced, runs⟩ := update_balanced running held buries taken
        refine ⟨balanced.trans ?_, fun _ => runs⟩
        exact ⟨fun h => ⟨h.1, buries, h.2⟩, fun h => ⟨h.1, h.2.2⟩⟩
      · exact ⟨iff_of_false (update_buries running buries taken) fun h => buries h.2.1,
          fun h => absurd h.2.1 buries⟩

/-- The brackets of casts are balanced exactly in the runs that do not clear or interrupt
a stack with a cast on top, push no attack over a cast, and let no cast without a target
run to its end. -/
theorem casts_balanced (ownerActorId : UInt32) (controller : Option (Controller φ))
    (ops : List (Operation φ)) :
    Always step Balanced ⟨.new ownerActorId controller, some []⟩ ops ↔
      EachStep step Keeps ⟨.new ownerActorId controller, some []⟩ ops := by
  refine always_iff_eachStep (I := Runs) ?_ ?_ (List.forall_mem_nil _) ⟨rfl, rfl⟩
  · exact fun v op v' running held taken => (step_balanced running held taken).1
  · exact fun v op v' running held keeps taken => (step_balanced running held taken).2 keeps

def thunderCaster : Controller ℚ :=
  let fresh : Controller ℚ := .new .ally 1
  { fresh with battle := { fresh.battle with
      isCaster := true
      spell := some
        { id := 27313, range := 20, castType := 2, castTimeMs := 2000, recastTimeMs := 6000 } } }

def tenYalmsOff : ActorView ℚ where
  actorId := 2
  position := ⟨10, 0, 0⟩
  rotation := 0
  isAlive := true
  allegiance := 2

def engagedWithTwo : ControllerOwnerView ℚ where
  actor := { actorId := 1, position := ⟨0, 0, 0⟩, rotation := 0, isAlive := true, allegiance := 3 }
  isEngaged := true
  isSpawned := true
  mostHatedActorId := some 2
  currentTargetActorId := some 2
  hasPreventMovement := false
  isCloseToSpawn := true
  attackDelayMs := 2500
  attackRange := 3

theorem thunder_unheard :
    ¬ Always step Balanced (⟨.new 1 (some thunderCaster), some []⟩ : Caster ℚ)
      [.update 100 engagedWithTwo ⟨fun _ => some tenYalmsOff, fun _ _ => []⟩, .disengage] := by
  intro held
  have after := (held.2 _ rfl).2 _ rfl
  exact absurd after.1 (by with_unfolding_all decide)

end Caster

end Garlemald.Battle
