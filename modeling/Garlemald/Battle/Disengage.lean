import Garlemald.Battle.AIContainer
import Garlemald.Library.Runs

/-!
A fighter with its hate and its ticks: the view of it that its controller is given, the
update of its container and the dispatch of the events. A controller that disengages
clears the hate but not the stack, and the two do not agree any more.
-/

namespace Garlemald.Battle

open Library Common

variable {φ : Type}

structure HateEntry where
  actorId : UInt32
  cumulativeEnmity : UInt32
  volatileEnmity : UInt32
  isActive : Bool
deriving DecidableEq

def HateEntry.new (actorId : UInt32) : HateEntry where
  actorId := actorId
  cumulativeEnmity := 1
  volatileEnmity := 0
  isActive := true

abbrev HateContainer := List HateEntry

namespace HateContainer

def addBaseHate (hate : HateContainer) (target : UInt32) : HateContainer :=
  if hate.any (·.actorId == target) then hate else hate ++ [.new target]

/-- The sum ends at the greatest number of 32 bits. -/
def saturatingAdd (a b : UInt32) : UInt32 :=
  if a.toNat + b.toNat < 2 ^ 32 then a + b else UInt32.ofNat (2 ^ 32 - 1)

def updateHate (hate : HateContainer) (target : UInt32) (damage : Int32) : HateContainer :=
  (hate.addBaseHate target).map fun e =>
    if e.actorId = target then
      { e with
        cumulativeEnmity := saturatingAdd e.cumulativeEnmity (max damage 0).toUInt32 }
    else e

def clearHate (hate : HateContainer) : Option UInt32 → HateContainer
  | some target => hate.filter (·.actorId != target)
  | none => []

def setActive (hate : HateContainer) (target : UInt32) (active : Bool) : HateContainer :=
  hate.map fun e => if e.actorId = target then { e with isActive := active } else e

/-- More enmity comes first, and of two with as much the lower actor. -/
def hatedMore (a b : HateEntry) : Bool :=
  b.cumulativeEnmity < a.cumulativeEnmity ||
    (a.cumulativeEnmity == b.cumulativeEnmity && a.actorId < b.actorId)

def mostHated (hate : HateContainer) : Option UInt32 :=
  let worst := (hate.filter (·.isActive)).foldl (fun best e =>
    match best with
    | none => some e
    | some b => if hatedMore e b then some e else some b) none
  worst.map (·.actorId)

end HateContainer

structure BattleNpc (φ : Type) where
  ai : AIContainer φ
  hate : HateContainer
  hp : Int16
  allegiance : UInt32
  position : Vector3 φ
  rotation : φ
  attackDelayMs : UInt32
  attackRange : φ

namespace BattleNpc

def isAlive (npc : BattleNpc φ) : Bool := 0 < npc.hp

def buildOwnerView (npc : BattleNpc φ) : ControllerOwnerView φ where
  actor :=
    { actorId := npc.ai.ownerActorId
      position := npc.position
      rotation := npc.rotation
      isAlive := npc.isAlive
      allegiance := npc.allegiance }
  isEngaged := npc.ai.isEngaged
  isSpawned := true
  mostHatedActorId := npc.hate.mostHated
  currentTargetActorId := (npc.ai.currentState.map (·.targetActorId)).filter (· ≠ 0)
  hasPreventMovement := false
  isCloseToSpawn := true
  attackDelayMs := npc.attackDelayMs
  attackRange := npc.attackRange

def dispatchBattleEvent (npc : BattleNpc φ) : BattleEvent φ → BattleNpc φ
  | .disengage _ => { npc with hate := npc.hate.clearHate none }
  | _ => npc

variable [F32 φ]

def update (npc : BattleNpc φ) (nowMs : UInt64) (arena : ActorArena φ) :
    BattleNpc φ × List (BattleEvent φ) :=
  let updated := npc.ai.update nowMs npc.buildOwnerView arena
  ({ npc with ai := updated.1 }, updated.2)

def tick (npc : BattleNpc φ) (nowMs : UInt64) (arena : ActorArena φ) : BattleNpc φ :=
  let updated := npc.update nowMs arena
  updated.2.foldl dispatchBattleEvent updated.1

/-- What happens to a fighter: its ticks, the operations of others on its container, hits
on it and changes of its body. -/
inductive Happening (φ : Type) where
  | tick (nowMs : UInt64) (arena : ActorArena φ)
  | operate (op : Operation φ)
  | updateHate (target : UInt32) (damage : Int32)
  | clearHate (target : Option UInt32)
  | setActive (target : UInt32) (active : Bool)
  | body (hp : Int16) (allegiance : UInt32) (position : Vector3 φ) (rotation : φ)
      (attackDelayMs : UInt32) (attackRange : φ)

def step (npc : BattleNpc φ) : Happening φ → Option (BattleNpc φ)
  | .tick nowMs arena => some (npc.tick nowMs arena)
  | .operate op => some { npc with ai := (npc.ai.operate op).1 }
  | .updateHate target damage => some { npc with hate := npc.hate.updateHate target damage }
  | .clearHate target => some { npc with hate := npc.hate.clearHate target }
  | .setActive target active => some { npc with hate := npc.hate.setActive target active }
  | .body hp allegiance position rotation attackDelayMs attackRange =>
      some
        { npc with
          hp := hp
          allegiance := allegiance
          position := position
          rotation := rotation
          attackDelayMs := attackDelayMs
          attackRange := attackRange }

end BattleNpc

namespace Controller

variable [F32 φ]

variable {owner : ControllerOwnerView φ} {c : Controller φ}

theorem doCombatTick_keeps (keeps : c.shouldDeaggro owner = false) (nowMs : UInt64)
    (arena : ActorArena φ) :
    (c.doCombatTick nowMs owner arena).2 ≠ .disengage ∧
      ∀ target, (c.doCombatTick nowMs owner arena).2 ≠ .engage target := by
  unfold doCombatTick
  rw [keeps]
  simp only [Bool.false_eq_true, if_false]
  split
  · exact ⟨nofun, nofun⟩
  · cases owner.currentTargetActorId with
    | none => exact ⟨nofun, nofun⟩
    | some targetId =>
        dsimp only
        cases arena.get targetId with
        | none =>
            dsimp only
            split <;> exact ⟨nofun, nofun⟩
        | some view =>
            dsimp only
            unfold pursue
            split
            · exact ⟨nofun, nofun⟩
            · have moves := c.approach_moves nowMs owner targetId view
              constructor
              · intro h
                rw [h] at moves
                cases moves
              · intro target h
                rw [h] at moves
                cases moves

theorem tickBattleNpc_disengage {nowMs : UInt64} {arena : ActorArena φ}
    (h : (c.tickBattleNpc nowMs owner arena).2 = .disengage) :
    owner.actor.isAlive = true ∧ owner.isEngaged = true ∧
      (c.tickBattleNpc nowMs owner arena).1 = c := by
  unfold tickBattleNpc at h ⊢
  cases alive : owner.actor.isAlive with
  | false => simp [alive] at h
  | true =>
      cases engaged : owner.isEngaged with
      | true =>
          simp only [alive, engaged, Bool.not_true, Bool.false_eq_true, if_false, if_true] at h ⊢
          cases drops : c.shouldDeaggro owner with
          | true => simp [doCombatTick, drops]
          | false => exact absurd h (doCombatTick_keeps drops nowMs arena).1
      | false =>
          simp only [alive, engaged, Bool.not_true, Bool.false_eq_true, if_false] at h
          split at h
          · cases h
          · split at h
            · cases h
            · split at h
              · rcases c.doRoamTick_decision nowMs with rests | rests <;> rw [rests] at h <;>
                  cases h
              · cases h

theorem tick_disengage {nowMs : UInt64} {arena : ActorArena φ}
    (h : (c.tick nowMs owner arena).2 = .disengage) :
    (c.kind = .battleNpc ∨ c.kind = .ally) ∧ owner.actor.isAlive = true ∧
      owner.isEngaged = true ∧ (c.tick nowMs owner arena).1 = { c with lastUpdateMs := nowMs } := by
  unfold tick at h ⊢
  split at h
  · cases h
  · next runs =>
      rw [if_neg runs]
      dsimp only at h ⊢
      cases kind : c.kind with
      | player | pet => simp [kind] at h
      | battleNpc =>
          simp only [kind] at h ⊢
          obtain ⟨alive, engaged, same⟩ := tickBattleNpc_disengage h
          exact ⟨.inl trivial, alive, engaged, same⟩
      | ally =>
          simp only [kind] at h ⊢
          obtain ⟨alive, engaged, same⟩ := tickBattleNpc_disengage h
          exact ⟨.inr trivial, alive, engaged, same⟩

theorem tick_unhated (updates : c.canUpdate = true) (kind : c.kind = .battleNpc ∨ c.kind = .ally)
    (alive : owner.actor.isAlive = true) (engaged : owner.isEngaged = true)
    (unhated : owner.mostHatedActorId = none) (nowMs : UInt64) (arena : ActorArena φ) :
    (c.tick nowMs owner arena).2 = .disengage := by
  have deaggro : ∀ c : Controller φ, c.shouldDeaggro owner = true := by
    intro c
    simp [shouldDeaggro, unhated]
  rcases kind with kind | kind <;>
    simp [tick, updates, kind, tickBattleNpc, alive, engaged, doCombatTick, deaggro]

theorem tick_engaged (engaged : owner.isEngaged = true) (c : Controller φ) (nowMs : UInt64)
    (arena : ActorArena φ) (target : UInt32) : (c.tick nowMs owner arena).2 ≠ .engage target := by
  have fights : ∀ c : Controller φ, (c.tickBattleNpc nowMs owner arena).2 ≠ .engage target := by
    intro c
    unfold tickBattleNpc
    split
    · nofun
    · cases drops : c.shouldDeaggro owner with
      | true =>
          rw [doCombatTick, if_pos drops]
          nofun
      | false => exact (doCombatTick_keeps drops nowMs arena).2 target
  unfold tick
  split
  · nofun
  · cases kind : c.kind with
    | player | pet => nofun
    | battleNpc | ally => exact fights _

end Controller

namespace AIContainer

/-- No state of the stack is marked as interrupted. -/
def Calm (ai : AIContainer φ) : Prop := ∀ s ∈ ai.states, s.interrupt = false

variable {ai : AIContainer φ}

theorem Calm.forceChangeState (calm : ai.Calm) {state : BattleState φ}
    (fresh : state.interrupt = false) : (ai.forceChangeState state).1.Calm := by
  unfold AIContainer.forceChangeState
  split
  · exact calm
  · refine List.forall_mem_cons.mpr ⟨fresh, fun s member => calm s ?_⟩
    exact (List.dropWhile_sublist _).mem member

theorem Calm.changeState (calm : ai.Calm) {state : BattleState φ}
    (fresh : state.interrupt = false) : (ai.changeState state).1.Calm := by
  unfold AIContainer.changeState
  split
  · exact calm.forceChangeState fresh
  · exact calm

theorem Calm.internalEngage (calm : ai.Calm) (target : UInt32) (nowMs : UInt64) (delay : UInt32) :
    (ai.internalEngage target nowMs delay).1.Calm := by
  unfold AIContainer.internalEngage
  split
  · exact calm
  · exact calm.forceChangeState rfl

theorem Calm.beginCast (calm : ai.Calm) (target : UInt32) (nowMs : UInt64) :
    (ai.beginCast target nowMs).1.Calm := by
  have pushed : ∀ cmd, (ai.internalCast target cmd nowMs).1.Calm := fun cmd => calm.changeState rfl
  unfold AIContainer.beginCast
  split
  · exact calm
  · split
    · exact calm
    · next cmd _ =>
        dsimp only
        split <;> exact pushed cmd

theorem Calm.applyDecision (calm : ai.Calm) (d : ControllerDecision φ) (nowMs : UInt64)
    (delay : UInt32) : (ai.applyDecision d nowMs delay).1.Calm := by
  cases d with
  | idle | disengage | moveTo _ | faceTarget _ | roam | luaCombatTick _ => exact calm
  | engage target => exact calm.internalEngage target nowMs delay
  | cast target => exact calm.beginCast target nowMs
  | changeTarget target =>
      cases target with
      | none => exact calm
      | some target =>
          intro s member
          obtain ⟨s', below, rfl⟩ := List.mem_map.mp member
          unfold retarget
          split <;> exact calm s' below

variable [F32 φ]

theorem Calm.decided (calm : ai.Calm) (nowMs : UInt64) (owner : ControllerOwnerView φ)
    (arena : ActorArena φ) : (ai.decided nowMs owner arena).1.Calm := by
  refine decided_rule (P := fun out => out.1.Calm) calm fun c d _ => ?_
  have ticking : { ai.started nowMs with controller := some c : AIContainer φ }.Calm := calm
  exact ticking.applyDecision d nowMs owner.attackDelayMs

theorem Calm.update (calm : ai.Calm) (nowMs : UInt64) (owner : ControllerOwnerView φ)
    (arena : ActorArena φ) : (ai.update nowMs owner arena).1.Calm := by
  refine processStates_all ?_ _ (calm.decided nowMs owner arena)
  exact fun s nowMs delay h => (s.scheduleNextSwing_interrupt nowMs delay).trans h

theorem Calm.operate (calm : ai.Calm) (op : Operation φ) : (ai.operate op).1.Calm := by
  have cleared : ai.clearStates.Calm := List.forall_mem_nil _
  cases op with
  | engage target nowMs delay => exact calm.internalEngage target nowMs delay
  | cast _ _ _ | ability _ _ _ | weaponSkill _ _ _ | useItem _ _ _ _ => exact calm.changeState rfl
  | disengage | reset => exact cleared
  | die _ _ | despawn _ _ => exact cleared.forceChangeState rfl
  | interruptStates => exact fun s member => calm s ((List.dropWhile_sublist _).mem member)
  | setController _ | queueAction _ => exact calm
  | update nowMs owner arena => exact calm.update nowMs owner arena

theorem processStates_engaged (ctx : StackContext φ) {states : List (BattleState φ)}
    (calm : ∀ s ∈ states, s.interrupt = false) (engaged : ∃ s ∈ states, s.kind = .attack) :
    ∃ s ∈ (processStates ctx states).1, s.kind = .attack := by
  induction states with
  | nil => simp at engaged
  | cons top rest ih =>
      obtain ⟨topCalm, below⟩ := List.forall_mem_cons.mp calm
      by_cases attacks : top.kind = .attack
      · obtain ⟨s, events, kind, stops⟩ := processStates_attack ctx rest attacks topCalm
        rw [stops]
        exact ⟨s, List.mem_cons_self, kind⟩
      · have later : ∃ s ∈ rest, s.kind = .attack := by
          obtain ⟨s, member, kind⟩ := engaged
          rcases List.mem_cons.mp member with rfl | member
          · exact absurd kind attacks
          · exact ⟨s, member, kind⟩
        have covered : ∀ x, ∃ s ∈ x :: rest, s.kind = .attack := by
          obtain ⟨s, member, kind⟩ := later
          exact fun x => ⟨s, List.mem_cons_of_mem x member, kind⟩
        unfold processStates
        dsimp only
        split
        · split <;> exact covered _
        · exact ih below later
        · exact ih below later

end AIContainer

namespace BattleNpc

theorem dispatch_ai (npc : BattleNpc φ) (events : List (BattleEvent φ)) :
    (events.foldl dispatchBattleEvent npc).ai = npc.ai ∧
      (events.foldl dispatchBattleEvent npc).hp = npc.hp := by
  induction events generalizing npc with
  | nil => exact ⟨rfl, rfl⟩
  | cons e events ih =>
      have same : (npc.dispatchBattleEvent e).ai = npc.ai ∧
          (npc.dispatchBattleEvent e).hp = npc.hp := by
        cases e <;> exact ⟨rfl, rfl⟩
      obtain ⟨ai, hp⟩ := ih (npc.dispatchBattleEvent e)
      exact ⟨ai.trans same.1, hp.trans same.2⟩

theorem dispatch_hate {events : List (BattleEvent φ)} {owner : UInt32} (npc : BattleNpc φ)
    (h : npc.hate = [] ∨ .disengage owner ∈ events) :
    (events.foldl dispatchBattleEvent npc).hate = [] := by
  induction events generalizing npc with
  | nil => simpa using h
  | cons e events ih =>
      apply ih
      rcases h with cleared | member
      · left
        cases e <;> first | exact cleared | rfl
      · rcases List.mem_cons.mp member with rfl | later
        · exact .inl rfl
        · exact .inr later

variable [F32 φ]

theorem step_calm (npc : BattleNpc φ) (h : Happening φ) (npc' : BattleNpc φ)
    (calm : npc.ai.Calm) (taken : step npc h = some npc') : npc'.ai.Calm := by
  cases h with
  | tick nowMs arena =>
      cases Option.some.inj taken
      rw [tick, (dispatch_ai _ _).1]
      exact calm.update nowMs npc.buildOwnerView arena
  | operate op =>
      cases Option.some.inj taken
      exact calm.operate op
  | updateHate _ _ | clearHate _ | setActive _ _ | body _ _ _ _ _ _ =>
      cases Option.some.inj taken
      exact calm

/-- What a disengagement is to bring about: the fighter is not engaged, its next updates
neither disengage it again nor swing, and new hate engages it. -/
def Disengaged (npc : BattleNpc φ) : Prop :=
  npc.ai.isEngaged = false ∧
    (∀ nowMs arena, ∀ e ∈ (npc.update nowMs arena).2,
      (∀ owner, e ≠ .disengage owner) ∧ ∀ attacker target, e ≠ .resolveAutoAttack attacker target) ∧
    ∀ target damage nowMs arena c d,
      let hit := { npc with hate := npc.hate.updateHate target damage }
      hit.ai.runController nowMs hit.buildOwnerView arena = some (c, d) → d = .engage target

theorem tick_still_engaged {npc : BattleNpc φ} (calm : npc.ai.Calm) {nowMs : UInt64}
    {arena : ActorArena φ} {c : Controller φ}
    (decides : npc.ai.runController nowMs npc.buildOwnerView arena = some (c, .disengage)) :
    (npc.tick nowMs arena).ai.isEngaged = true ∧ (npc.tick nowMs arena).hate = [] ∧
      (npc.tick nowMs arena).isAlive = true ∧
      (npc.tick nowMs arena).ai.controller = some c ∧
      c.canUpdate = true ∧ (c.kind = .battleNpc ∨ c.kind = .ally) := by
  obtain ⟨ctrl, _, updates, ticks⟩ := AIContainer.runController_some decides
  obtain ⟨kind, alive, engaged, kept⟩ := Controller.tick_disengage (congrArg Prod.snd ticks)
  have same : c = { ctrl with lastUpdateMs := nowMs } := by rw [← kept, ticks]
  have applied := AIContainer.decided_some decides
  obtain ⟨ai, hp⟩ := dispatch_ai (npc.update nowMs arena).1 (npc.update nowMs arena).2
  refine ⟨?_, ?_, ?_, ?_, ?_, ?_⟩
  · rw [tick, ai, AIContainer.isEngaged_iff]
    apply AIContainer.processStates_engaged _ (calm.decided nowMs npc.buildOwnerView arena)
    rw [applied]
    exact AIContainer.isEngaged_iff.mp engaged
  · have emitted : .disengage npc.ai.ownerActorId ∈ (npc.update nowMs arena).2 := by
      refine List.mem_append_left _ (List.mem_append_left _ ?_)
      rw [applied]
      exact List.mem_singleton_self _
    exact dispatch_hate _ (.inr emitted)
  · rw [isAlive, tick, hp]
    exact alive
  · rw [tick, ai]
    exact congrArg (·.1.controller) applied
  · rw [same]
    exact updates
  · rw [same]
    exact kind

/-- A fighter whose controller disengages is engaged as before, whatever happened to it
until then. It disengages again in every update until it is hated again, and new hate
does not engage it, as it still counts as engaged. -/
theorem never_disengaged {start npc : BattleNpc φ} {owner : UInt32}
    {controller : Option (Controller φ)} (fresh : start.ai = .new owner controller)
    {happenings : List (Happening φ)} (reached : run step start happenings = some npc)
    {nowMs : UInt64} {arena : ActorArena φ} {c : Controller φ}
    (decides : npc.ai.runController nowMs npc.buildOwnerView arena = some (c, .disengage)) :
    ¬ (npc.tick nowMs arena).Disengaged ∧
      (∀ nowMs' arena', .disengage (npc.tick nowMs arena).ai.ownerActorId ∈
        ((npc.tick nowMs arena).update nowMs' arena').2) ∧
      ∀ hate nowMs' arena' c' target,
        let hit := { npc.tick nowMs arena with hate := hate }
        hit.ai.runController nowMs' hit.buildOwnerView arena' ≠ some (c', .engage target) := by
  have calm : npc.ai.Calm := by
    have started : start.ai.Calm := by rw [fresh]; exact List.forall_mem_nil _
    have always : Always step (fun npc => npc.ai.Calm) start happenings :=
      always_of_step step_calm started happenings
    exact always_iff_reached.mp always happenings (List.prefix_refl _) npc reached
  obtain ⟨engaged, unhated, alive, keeps, updates, kind⟩ := tick_still_engaged calm decides
  refine ⟨?_, ?_, ?_⟩
  · intro ⟨free, _⟩
    rw [engaged] at free
    cases free
  · intro nowMs' arena'
    have again : (npc.tick nowMs arena).ai.runController nowMs'
        (npc.tick nowMs arena).buildOwnerView arena' =
          some ((c.tick nowMs' (npc.tick nowMs arena).buildOwnerView arena').1, .disengage) := by
      have none : (npc.tick nowMs arena).buildOwnerView.mostHatedActorId = none := by
        rw [buildOwnerView, unhated]
        rfl
      have decides' := Controller.tick_unhated updates kind alive engaged none nowMs' arena'
      simp only [AIContainer.runController, keeps, updates, if_true]
      rw [← decides']
    refine List.mem_append_left _ (List.mem_append_left _ ?_)
    rw [AIContainer.decided_some again]
    exact List.mem_singleton_self _
  · intro hate nowMs' arena' c' target hit decides'
    obtain ⟨ctrl, _, _, ticks⟩ := AIContainer.runController_some decides'
    exact Controller.tick_engaged engaged ctrl nowMs' arena' target (congrArg Prod.snd ticks)

def wolf : BattleNpc ℚ where
  ai := .new 1 (some (.new .battleNpc 1))
  hate := []
  hp := 100
  allegiance := 2
  position := ⟨0, 0, 0⟩
  rotation := 0
  attackDelayMs := 2500
  attackRange := 3

/-- The wolf engaged by a script, without hate. -/
def engagedWolf : BattleNpc ℚ := { wolf with ai := (wolf.ai.internalEngage 2 0 2500).1 }

def emptyArena : ActorArena ℚ := ⟨fun _ => none, fun _ _ => []⟩

theorem never_disengaged_wolf : ¬ (engagedWolf.tick 100 emptyArena).Disengaged :=
  have reached : run step wolf [.operate (.engage 2 0 2500)] = some engagedWolf := rfl
  have decides : engagedWolf.ai.runController 100 engagedWolf.buildOwnerView emptyArena =
      some ({ Controller.new .battleNpc 1 with lastUpdateMs := 100 }, .disengage) := rfl
  (never_disengaged rfl reached decides).1

theorem wolf_stays :
    ¬ ∀ c, engagedWolf.ai.runController 100 engagedWolf.buildOwnerView emptyArena =
        some (c, .disengage) → (engagedWolf.tick 100 emptyArena).Disengaged := by
  intro claim
  have free := (claim { Controller.new .battleNpc 1 with lastUpdateMs := 100 } rfl).1
  exact absurd free (by decide)

end BattleNpc

end Garlemald.Battle
