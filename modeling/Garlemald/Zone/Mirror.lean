import Garlemald.Battle.AIContainer
import Garlemald.Battle.HitPoints
import Garlemald.Status.Container
import Garlemald.Zone.Location

/-!
The rows of the areas beside the characters they stand for. A move is written to both, but to the
row only in the open zone; deaths, revivals and the way back to the spawn reach the character alone.
-/

namespace Garlemald.Zone

open Library Common
open Battle (Combatant MovementStep)
open Status (saturatingAdd)

def BNPC_DEFAULT_RESPAWN_SECS : UInt32 := 30
def CORPSE_DESPAWN_SECS : UInt32 := 10

def RAISE : UInt32 := 113

structure Character where
  position : Vector3 ℚ
  spawn : Vector3 ℚ
  combatant : Combatant
  respawnDisabled : Bool
  timeOfDeathUtc : UInt32

inductive DeathTickAction where
  | none
  | autoRevive
  | respawn
  | despawn
deriving DecidableEq

namespace Character

variable (c : Character)

def shown : Vector3 ℚ × Bool := (c.position, c.combatant.isAlive)

def deathTickAction (now : UInt32) : DeathTickAction :=
  let due (secs : UInt32) : Bool :=
    c.timeOfDeathUtc != 0 && saturatingAdd c.timeOfDeathUtc secs ≤ now
  if !c.combatant.isMarkedDead then .none
  else if F64.lt 0 (c.combatant.chara.mods.getRaw RAISE) then .autoRevive
  else if !c.combatant.isPlayer && !c.respawnDisabled && due BNPC_DEFAULT_RESPAWN_SECS then
    .respawn
  else if !c.combatant.isPlayer && c.respawnDisabled && due CORPSE_DESPAWN_SECS then .despawn
  else .none

def applyDie (now : UInt32) : Character :=
  if c.combatant.isMarkedDead then c
  else { c with combatant := c.combatant.die, timeOfDeathUtc := now }

/-- `none` is a panic. -/
def applyRevive : Option Character :=
  if c.combatant.isMarkedDead then do
    let combatant ← c.combatant.applyRevive
    return { c with combatant := combatant, timeOfDeathUtc := 0 }
  else some c

def setHp (hp : Int16) : Character :=
  { c with combatant := { c.combatant with chara := { c.combatant.chara with hp := hp } } }

/-- A part of the way to a destination; a step covers as much as the speed allows. -/
def toward (destination : Vector3 ℚ) (part : ℚ) : Vector3 ℚ where
  x := c.position.x + (destination.x - c.position.x) * part
  y := c.position.y + (destination.y - c.position.y) * part
  z := c.position.z + (destination.z - c.position.z) * part

end Character

/-- A zone with its content areas, and the characters of the actors that are registered in it. -/
structure Grounds where
  zone : Zone
  contentAreas : Text → List SortedCore
  actors : UInt32 → Option Character

inductive GroundsOp where
  | movementStep (actorId : UInt32) (step : MovementStep ℚ) (part : ℚ)
  | moveActorToPosition (actorId : UInt32) (position : Vector3 ℚ)
  | deathTick (actorId now : UInt32)
  | die (actorId now : UInt32)
  | revive (actorId : UInt32)
  | homePointRevive (actorId : UInt32) (spawn : Option (Vector3 ℚ))
  | setHp (actorId : UInt32) (hp : Int16)

namespace Grounds

variable (s : Grounds)

def change (actorId : UInt32) (f : Character → Option Character) : Option Grounds :=
  match s.actors actorId with
  | none => some s
  | some c => (f c).map fun c' => { s with actors := Function.update s.actors actorId (some c') }

def relocate (actorId : UInt32) (position : Character → Vector3 ℚ) : Grounds :=
  match s.actors actorId with
  | none => s
  | some c =>
      { s with
        actors := Function.update s.actors actorId (some { c with position := position c })
        zone := { s.zone with core := s.zone.core.updateActorPosition actorId (position c) } }

def applyDespawnActor (actorId : UInt32) : Grounds :=
  match s.actors actorId with
  | none => s
  | some _ =>
      { s with
        actors := Function.update s.actors actorId none
        zone := { s.zone with core := (s.zone.core.removeActor actorId).1 } }

def step (s : Grounds) : GroundsOp → Option Grounds
  | .movementStep _ (.face _) _ => some s
  | .movementStep actorId (.moveTo destination) part =>
      some (s.relocate actorId fun c => c.toward destination part)
  | .moveActorToPosition actorId position => some (s.relocate actorId fun _ => position)
  | .deathTick actorId now =>
      match (s.actors actorId).elim .none fun c => c.deathTickAction now with
      | .none => some s
      | .autoRevive => s.change actorId fun c => c.applyRevive
      | .respawn => s.change actorId fun c => Character.applyRevive { c with position := c.spawn }
      | .despawn => some (s.applyDespawnActor actorId)
  | .die actorId now => s.change actorId fun c => some (c.applyDie now)
  | .revive actorId => s.change actorId fun c => c.applyRevive
  | .homePointRevive actorId spawn => s.change actorId fun c => do
      let c ← c.applyRevive
      return { c with position := spawn.getD c.position }
  | .setHp actorId hp => s.change actorId fun c => some (c.setHp hp)

end Grounds

def AreaCore.seen (core : AreaCore) (actorId : UInt32) : Option (Vector3 ℚ × Bool) :=
  (core.actors.lookup actorId).map fun row => (row.position, row.isAlive)

namespace Grounds

variable (s : Grounds)

def StoresApart (actorId : UInt32) (seen : Vector3 ℚ × Bool) : Prop :=
  (∃ name core, s.zone.privateAreas name = some core ∧ core.val.seen actorId = some seen) ∨
    ∃ name, ∃ core ∈ s.contentAreas name, core.val.seen actorId = some seen

def Stores (actorId : UInt32) (seen : Vector3 ℚ × Bool) : Prop :=
  s.zone.core.val.seen actorId = some seen ∨ s.StoresApart actorId seen

/-- Every row of an actor shows where its character is, and whether it lives. -/
def Mirrors : Prop :=
  ∀ actorId seen c, s.Stores actorId seen → s.actors actorId = some c → seen = c.shown

def Apart (actorId : UInt32) : Prop := ∃ seen, s.StoresApart actorId seen

def Stored (actorId : UInt32) : Prop := ∃ seen, s.Stores actorId seen

end Grounds

/-- A revival changes nothing that a row shows. -/
def Character.RevivesAsShown (c : Character) : Prop :=
  c.combatant.isMarkedDead = true →
    (c.combatant.isAlive = true ↔ 0 < c.combatant.chara.maxHp.toInt)

/-- The condition on an event: a row of the open zone bears moves, other rows bear none, and no
row bears a death, a revival or a way back to a spawn that makes a difference. -/
def Grounds.Fits (s : Grounds) : GroundsOp → Prop
  | .movementStep _ (.face _) _ => True
  | .movementStep actorId (.moveTo destination) part => ∀ c, s.actors actorId = some c →
      s.Apart actorId → c.toward destination part = c.position
  | .moveActorToPosition actorId position => ∀ c, s.actors actorId = some c →
      s.Apart actorId → position = c.position
  | .deathTick actorId now => ∀ c, s.actors actorId = some c → s.Stored actorId →
      (c.deathTickAction now = .autoRevive → c.RevivesAsShown) ∧
        (c.deathTickAction now = .respawn → c.spawn = c.position ∧ c.RevivesAsShown)
  | .die actorId _ => ∀ c, s.actors actorId = some c → s.Stored actorId →
      c.combatant.isMarkedDead = false → c.combatant.isAlive = false
  | .revive actorId => ∀ c, s.actors actorId = some c → s.Stored actorId → c.RevivesAsShown
  | .homePointRevive actorId spawn => ∀ c, s.actors actorId = some c → s.Stored actorId →
      c.RevivesAsShown ∧ ∀ p ∈ spawn, p = c.position
  | .setHp actorId hp => ∀ c, s.actors actorId = some c → s.Stored actorId →
      (c.combatant.isAlive = true ↔ 0 < hp.toInt)

theorem AreaCore.seen_updateActorPosition (core : AreaCore) (actorId other : UInt32)
    (position : Vector3 ℚ) :
    (core.updateActorPosition actorId position).1.seen other =
      if other = actorId then (core.seen actorId).map fun seen => (position, seen.2)
      else core.seen other := by
  unfold seen updateActorPosition
  by_cases same : other = actorId
  · subst same
    rw [if_pos rfl]
    cases found : core.actors.lookup other with
    | none => simp [found]
    | some row =>
        simp only
        split
        · simp
        · simp [setCell]
  · rw [if_neg same]
    cases found : core.actors.lookup actorId with
    | none => rfl
    | some row =>
        simp only
        split
        · simp [AList.lookup_insert_ne same]
        · simp [setCell, AList.lookup_insert_ne same]

theorem AreaCore.seen_removeActor (core : AreaCore) (actorId other : UInt32) :
    (core.removeActor actorId).1.seen other =
      if other = actorId then none else core.seen other := by
  unfold seen
  by_cases same : other = actorId
  · subst same
    rw [lookup_removeActor, if_pos rfl]
    rfl
  · rw [if_neg same]
    unfold removeActor
    cases found : core.actors.lookup actorId with
    | none => rfl
    | some row => simp [setCell, AList.lookup_erase_ne same]

theorem isAlive_applyRevive {c d : Combatant} (dead : c.isMarkedDead = true)
    (done : c.applyRevive = some d) : d.isAlive = true ↔ 0 < c.chara.maxHp.toInt := by
  unfold Combatant.applyRevive at done
  rw [if_pos dead] at done
  obtain ⟨chara, first, last⟩ := Option.bind_eq_some_iff.mp done
  cases last
  obtain ⟨value, same, hp⟩ := Actor.Chara.setHp_spec first
  have room : Actor.Chara.floorHp c.chara.mods ≤ c.chara.maxHp.toInt := by
    unfold Actor.Chara.setHp at first
    split at first
    · assumption
    · cases first
  rw [Combatant.isAlive, decide_eq_true_eq, same]
  simp only
  rw [hp, min_self, max_eq_right room]

theorem isAlive_die (c : Combatant) : c.die.isAlive = false := by
  have empty : ¬ 0 < c.die.chara.hp.toInt := by
    simp only [Combatant.die]
    split
    · decide
    · assumption
  exact decide_eq_false empty

namespace Character

variable {c c' : Character}

theorem applyRevive_shown (done : c.applyRevive = some c') :
    c'.position = c.position ∧ (c'.combatant.isAlive = c.combatant.isAlive ↔ c.RevivesAsShown) := by
  unfold applyRevive at done
  unfold RevivesAsShown
  split at done
  · rename_i dead
    obtain ⟨d, risen, last⟩ := Option.bind_eq_some_iff.mp done
    cases last
    have lives := isAlive_applyRevive dead risen
    refine ⟨rfl, ?_⟩
    simp only [dead, forall_const]
    rw [← lives, Bool.eq_iff_iff]
    exact Iff.comm
  · rename_i unmarked
    cases done
    exact ⟨rfl, iff_of_true rfl fun dead => absurd dead unmarked⟩

theorem shown_eq_iff {c c' : Character} :
    c'.shown = c.shown ↔
      c'.position = c.position ∧ c'.combatant.isAlive = c.combatant.isAlive :=
  Prod.ext_iff

end Character

namespace Grounds

variable {s s' : Grounds} {actorId : UInt32}

theorem mirrors_change (held : s.Mirrors) {f : Character → Option Character}
    (done : s.change actorId f = some s') :
    s'.Mirrors ↔ ∀ c, s.actors actorId = some c → s.Stored actorId →
      ∀ c', f c = some c' → c'.shown = c.shown := by
  unfold change at done
  cases found : s.actors actorId with
  | none =>
      rw [found] at done
      cases done
      refine iff_of_true held fun c there => ?_
      cases there
  | some c =>
      rw [found] at done
      obtain ⟨c', became, rfl⟩ := Option.map_eq_some_iff.mp done
      constructor
      · rintro after _ ⟨⟩ ⟨seen, stored⟩ _ other
        rw [became, Option.some.injEq] at other
        have now : seen = c'.shown := after actorId seen c' stored (Function.update_self _ _ _)
        rw [← other, ← now]
        exact held actorId seen c stored found
      · intro same id seen d stored there
        simp only at there
        by_cases own : id = actorId
        · subst own
          rw [Function.update_self, Option.some.injEq] at there
          rw [← there, same c rfl ⟨seen, stored⟩ c' became]
          exact held id seen c stored found
        · rw [Function.update_of_ne own] at there
          exact held id seen d stored there

theorem mirrors_relocate (held : s.Mirrors) (position : Character → Vector3 ℚ) :
    (s.relocate actorId position).Mirrors ↔ ∀ c, s.actors actorId = some c → s.Apart actorId →
      position c = c.position := by
  unfold relocate
  cases found : s.actors actorId with
  | none =>
      refine iff_of_true held fun c there => ?_
      cases there
  | some c =>
      constructor
      · rintro after _ ⟨⟩ ⟨seen, stored⟩
        have now := after actorId seen { c with position := position c } (.inr stored)
          (Function.update_self _ _ _)
        have before := held actorId seen c (.inr stored) found
        exact congrArg Prod.fst (now.symm.trans before)
      · intro same id seen d stored there
        simp only at there
        by_cases own : id = actorId
        · subst own
          rw [Function.update_self, Option.some.injEq] at there
          subst there
          rcases stored with open_ | apart
          · replace open_ := (AreaCore.seen_updateActorPosition _ _ _ _).symm.trans open_
            rw [if_pos rfl] at open_
            obtain ⟨before, row, rfl⟩ := Option.map_eq_some_iff.mp open_
            have alive := held id before c (.inl row) found
            rw [alive]
            rfl
          · have before := held id seen c (.inr apart) found
            rw [before, Character.shown, Character.shown, same c rfl ⟨seen, apart⟩]
        · rw [Function.update_of_ne own] at there
          refine held id seen d ?_ there
          rcases stored with open_ | apart
          · replace open_ := (AreaCore.seen_updateActorPosition _ _ _ _).symm.trans open_
            rw [if_neg own] at open_
            exact .inl open_
          · exact .inr apart

theorem mirrors_despawn (held : s.Mirrors) : (s.applyDespawnActor actorId).Mirrors := by
  unfold applyDespawnActor
  cases s.actors actorId with
  | none => exact held
  | some c =>
      intro id seen d stored there
      simp only at there
      by_cases own : id = actorId
      · subst own
        rw [Function.update_self] at there
        cases there
      · rw [Function.update_of_ne own] at there
        refine held id seen d ?_ there
        rcases stored with open_ | apart
        · replace open_ := (AreaCore.seen_removeActor _ _ _).symm.trans open_
          rw [if_neg own] at open_
          exact .inl open_
        · exact .inr apart

theorem mirrors_change_iff (held : s.Mirrors) {f : Character → Option Character}
    {P : Character → Prop} (done : s.change actorId f = some s')
    (shown : ∀ c c', f c = some c' → (c'.shown = c.shown ↔ P c)) :
    s'.Mirrors ↔ ∀ c, s.actors actorId = some c → s.Stored actorId → P c := by
  rw [mirrors_change held done]
  refine forall_congr' fun c => forall_congr' fun there => forall_congr' fun _ => ?_
  unfold change at done
  rw [there] at done
  obtain ⟨c', became, _⟩ := Option.map_eq_some_iff.mp done
  constructor
  · intro same
    exact (shown c c' became).mp (same c' became)
  · intro meets d other
    exact (shown c d other).mpr meets

theorem mirrors_revive (held : s.Mirrors)
    (done : s.change actorId (fun c => c.applyRevive) = some s') :
    s'.Mirrors ↔ ∀ c, s.actors actorId = some c → s.Stored actorId → c.RevivesAsShown := by
  refine mirrors_change_iff held done fun c c' risen => ?_
  obtain ⟨there, lives⟩ := Character.applyRevive_shown risen
  rw [Character.shown_eq_iff, ← lives]
  exact and_iff_right there

theorem mirrors_respawn (held : s.Mirrors)
    (done : (s.change actorId fun c => Character.applyRevive { c with position := c.spawn }) =
      some s') :
    s'.Mirrors ↔ ∀ c, s.actors actorId = some c → s.Stored actorId →
      c.spawn = c.position ∧ c.RevivesAsShown := by
  refine mirrors_change_iff held done fun c c' risen => ?_
  obtain ⟨there, lives⟩ := Character.applyRevive_shown risen
  rw [Character.shown_eq_iff, there]
  exact and_congr_right fun _ => lives

theorem mirrors_homePoint (held : s.Mirrors) {spawn : Option (Vector3 ℚ)}
    (done : (s.change actorId fun c => do
      let c ← c.applyRevive
      return { c with position := spawn.getD c.position }) = some s') :
    s'.Mirrors ↔ ∀ c, s.actors actorId = some c → s.Stored actorId →
      c.RevivesAsShown ∧ ∀ p ∈ spawn, p = c.position := by
  refine mirrors_change_iff held done fun c c' warped => ?_
  obtain ⟨d, risen, last⟩ := Option.bind_eq_some_iff.mp warped
  cases last
  obtain ⟨there, lives⟩ := Character.applyRevive_shown risen
  rw [Character.shown_eq_iff, and_comm]
  refine and_congr lives ?_
  rw [there]
  cases spawn with
  | none => simp
  | some p => simp

theorem mirrors_die (held : s.Mirrors) {now : UInt32}
    (done : (s.change actorId fun c => some (c.applyDie now)) = some s') :
    s'.Mirrors ↔ ∀ c, s.actors actorId = some c → s.Stored actorId →
      c.combatant.isMarkedDead = false → c.combatant.isAlive = false := by
  refine mirrors_change_iff held done fun c c' died => ?_
  cases died
  unfold Character.applyDie
  cases marked : c.combatant.isMarkedDead with
  | true => exact iff_of_true rfl fun unmarked => absurd unmarked (by decide)
  | false =>
      rw [if_neg Bool.false_ne_true, Character.shown_eq_iff, isAlive_die]
      exact ⟨fun same _ => same.2.symm, fun same => ⟨rfl, (same rfl).symm⟩⟩

theorem mirrors_setHp (held : s.Mirrors) {hp : Int16}
    (done : (s.change actorId fun c => some (c.setHp hp)) = some s') :
    s'.Mirrors ↔ ∀ c, s.actors actorId = some c → s.Stored actorId →
      (c.combatant.isAlive = true ↔ 0 < hp.toInt) := by
  refine mirrors_change_iff held done fun c c' written => ?_
  cases written
  rw [Character.shown_eq_iff, Bool.eq_iff_iff]
  refine (and_iff_right rfl).trans (Iff.comm.trans (iff_congr Iff.rfl ?_))
  exact decide_eq_true_iff

theorem mirrors_step (held : s.Mirrors) {op : GroundsOp} (done : s.step op = some s') :
    s'.Mirrors ↔ s.Fits op := by
  cases op with
  | movementStep actorId step part =>
      cases step with
      | face _ =>
          cases done
          exact iff_of_true held trivial
      | moveTo destination =>
          cases done
          exact mirrors_relocate held _
  | moveActorToPosition actorId position =>
      cases done
      exact mirrors_relocate held _
  | deathTick actorId now =>
      simp only [step] at done
      cases found : s.actors actorId with
      | none =>
          rw [found] at done
          cases done
          refine iff_of_true held fun c there => ?_
          rw [found] at there
          cases there
      | some c =>
          have fits : s.Fits (.deathTick actorId now) ↔ (s.Stored actorId →
              (c.deathTickAction now = .autoRevive → c.RevivesAsShown) ∧
                (c.deathTickAction now = .respawn →
                  c.spawn = c.position ∧ c.RevivesAsShown)) := by
            simp only [Fits, found, Option.some.injEq, forall_eq']
          rw [found, Option.elim_some] at done
          rw [fits]
          cases action : c.deathTickAction now with
          | none =>
              rw [action] at done
              cases done
              simp [held]
          | autoRevive =>
              rw [action] at done
              rw [mirrors_revive held done]
              simp [found]
          | respawn =>
              rw [action] at done
              rw [mirrors_respawn held done]
              simp [found]
          | despawn =>
              rw [action] at done
              cases done
              simp [mirrors_despawn held]
  | die actorId now => exact mirrors_die held done
  | revive actorId => exact mirrors_revive held done
  | homePointRevive actorId spawn => exact mirrors_homePoint held done
  | setHp actorId hp => exact mirrors_setHp held done

/-- Over a whole run the rows mirror the characters exactly if every event meets its condition. -/
theorem mirrors_iff (start : s.Mirrors) (ops : List GroundsOp) :
    Always step Mirrors s ops ↔ EachStep step Fits s ops :=
  always_iff_eachStep (I := fun _ => True) (fun _ _ _ _ held done => mirrors_step held done)
    (fun _ _ _ _ _ _ _ => trivial) trivial start

def bandit : StoredActor := ⟨3, .battleNpc, ⟨10, 0, 0⟩, (100, 100), true⟩

def den (row : StoredActor) : SortedCore :=
  SortedCore.addActor ⟨.new 100 false, AreaCore.empty_sorted _ rfl rfl⟩ row

def beast : Character where
  position := ⟨10, 0, 0⟩
  spawn := ⟨0, 0, 0⟩
  combatant := ⟨false, { classId := 2, level := 1, hp := 10, maxHp := 10 },
    Battle.MAIN_STATE_PASSIVE, 0⟩
  respawnDisabled := false
  timeOfDeathUtc := 0

def woods : Grounds where
  zone := ⟨den AreaCore.wolf, fun name => if name = (['a'], 1) then some (den bandit) else none⟩
  contentAreas := fun _ => []
  actors := fun actorId => if actorId = 2 ∨ actorId = 3 then some beast else none

theorem woods_private {name : Text × UInt32} {core : SortedCore}
    (found : woods.zone.privateAreas name = some core) : core = den bandit := by
  simp only [woods] at found
  split at found
  · exact (Option.some.inj found).symm
  · cases found

theorem woods_mirrors : woods.Mirrors := by
  have rows : [2, 3].all (fun actorId => [AreaCore.wolf, bandit].all fun row =>
      ((den row).val.seen actorId).all fun seen => decide (seen = beast.shown)) = true := by
    decide
  intro actorId seen c stored there
  simp only [woods] at there
  split at there
  · rename_i either
    cases there
    have known : actorId ∈ [2, 3] := by simpa using either
    have shown : ∀ row ∈ [AreaCore.wolf, bandit], (den row).val.seen actorId = some seen →
        seen = beast.shown := by
      intro row listed found
      have agrees := List.all_eq_true.mp (List.all_eq_true.mp rows actorId known) row listed
      rw [found] at agrees
      exact of_decide_eq_true agrees
    rcases stored with open_ | ⟨name, core, found, row⟩ | ⟨_, _, none_, _⟩
    · exact shown AreaCore.wolf (by simp) open_
    · cases woods_private found
      exact shown bandit (by simp) row
    · cases none_
  · cases there

theorem mirrors_iff_walk : Always step Mirrors woods
    [.movementStep 2 (.moveTo ⟨20, 0, 0⟩) (1 / 2), .deathTick 3 0,
      .movementStep 3 (.face ⟨20, 0, 0⟩) 0] := by
  refine (mirrors_iff woods_mirrors _).mpr fun s walked => ⟨?_, fun s' _ => ⟨?_, ?_⟩⟩
  · have none_ : (den bandit).val.seen 2 = none := by decide
    rintro c _ ⟨seen, ⟨name, core, found, row⟩ | ⟨_, _, nothing, _⟩⟩
    · cases woods_private found
      rw [none_] at row
      cases row
    · cases nothing
  · cases walked
    intro c there _
    have same : some beast = some c := there
    have action : beast.deathTickAction 0 = .none := by decide
    cases same
    rw [action]
    exact ⟨DeathTickAction.noConfusion, DeathTickAction.noConfusion⟩
  · exact fun _ _ => ⟨trivial, trivial⟩

/-- A wolf that died stays alive in its row; a bandit that moved stays where it was. -/
theorem mirrors_lost : woods.Mirrors ∧
    (∃ s, step woods (.die 2 7) = some s ∧ ¬ s.Mirrors) ∧
    ∃ s, step woods (.movementStep 3 (.moveTo ⟨20, 0, 0⟩) 1) = some s ∧ ¬ s.Mirrors := by
  have open_ : (den AreaCore.wolf).val.seen 2 = some (⟨10, 0, 0⟩, true) := by decide
  have inside : (den bandit).val.seen 3 = some (⟨10, 0, 0⟩, true) := by decide
  refine ⟨woods_mirrors, ⟨_, rfl, fun held => ?_⟩, ⟨_, rfl, fun held => ?_⟩⟩
  · exact absurd (held 2 _ _ (.inl open_) rfl) (by decide)
  · have apart : woods.StoresApart 3 (⟨10, 0, 0⟩, true) := .inl ⟨(['a'], 1), _, rfl, inside⟩
    exact absurd (held 3 _ _ (.inr apart) rfl) (by with_unfolding_all decide)

end Grounds
end Garlemald.Zone
