import Garlemald.Actor.Pools
import Garlemald.Actor.StatPipeline
import Garlemald.Library.Runs
import Garlemald.Zone.Area

/-!
Hit points and the state of death. Blows look for death, ticks do not; a heal, a tick or a
recalculation that reaches the dead gives them hit points and leaves them dead.
-/

namespace Garlemald.Battle

open Library Actor

def MAIN_STATE_PASSIVE : UInt16 := 0x00
def MAIN_STATE_DEAD : UInt16 := 0x01

/-- An actor of the registry. Of its status effects only the number of those is kept that are
lost on death: each of them asks for a recalculation when it goes. -/
structure Combatant where
  isPlayer : Bool
  chara : Chara
  mainState : UInt16
  lostOnDeath : ℕ

def Combatant.isAlive (c : Combatant) : Bool := 0 < c.chara.hp.toInt

def Combatant.isMarkedDead (c : Combatant) : Bool := c.mainState == MAIN_STATE_DEAD

/-- What an operation finds around it: whether 32-bit overflows are checked, whether scripts and a
database are at hand, and the equipment. -/
structure Surroundings where
  checked : Bool
  scripts : Bool
  items : Catalog
  equipped : UInt32 → Equipped

namespace Combatant

variable (env : Surroundings) (owner : UInt32) (c : Combatant)

/-- `none` is a panic, here and below. -/
def addHp (delta : ℤ) : Option Combatant := do
  let hp ← Zone.i32 env.checked (c.chara.hp.toInt + delta)
  let chara ← c.chara.setHp hp
  return { c with chara := chara }

def poolMods : ModifierMap :=
  if c.isPlayer then (Chara.runPlayerPipeline env.items (env.equipped owner) c.chara).mods
  else c.chara.mods

def applyRecalcStats : Option Combatant := do
  let chara ←
    if c.isPlayer then Chara.applyRecalcStats env.items (env.equipped owner) c.chara
    else c.chara.recalculateStats
  return { c with chara := chara }

def drain : ℕ → Combatant → Option Combatant
  | 0, c => some c
  | n + 1, c => do drain n (← c.applyRecalcStats env owner)

def die : Combatant :=
  { c with
    chara := { c.chara with hp := if 0 < c.chara.hp.toInt then 0 else c.chara.hp }
    mainState := MAIN_STATE_DEAD
    lostOnDeath := 0 }

def applyDie : Option Combatant :=
  if c.isMarkedDead then some c
  else if env.scripts then c.die.drain env owner c.lostOnDeath
  else some c.die

def applyRevive : Option Combatant :=
  if c.isMarkedDead then do
    let chara ← c.chara.setHp c.chara.maxHp.toInt
    return { c with chara := chara, mainState := MAIN_STATE_PASSIVE }
  else some c

def dieIfDefenderFell : Option Combatant :=
  if c.isAlive || c.isMarkedDead then some c else c.applyDie env owner

def hit (damage : Option UInt16) (mods : ModifierMap) : Option Combatant :=
  let struck := { c with chara := { c.chara with mods := mods } }
  match damage with
  | none => some struck
  | some amount => if 0 < amount then struck.addHp env (-(amount.toNat : ℤ)) else some struck

end Combatant

inductive ActionOutcome where
  | damage (amount : Option UInt16) (mods : ModifierMap)
  | heal (amount : UInt16)
  | status

def ActionOutcome.isHeal : ActionOutcome → Bool
  | .heal _ => true
  | _ => false

def Combatant.undergo (env : Surroundings) (c : Combatant) : ActionOutcome → Option Combatant
  | .damage amount mods => c.hit env amount mods
  | .heal amount => c.addHp env amount.toNat
  | .status => some c

abbrev Combatants := UInt32 → Option Combatant

/-- What moves hit points or the state of death; between two such events modifiers and status
effects change as they like. -/
inductive HitPointOp where
  | resolveAutoAttack (attacker defender : UInt32) (damage : Option UInt16) (mods : ModifierMap)
  | resolveAction (attacker defender : UInt32) (outcome : ActionOutcome)
  | hpTick (owner : UInt32) (delta : Int32)
  | recalcStats (owner : UInt32)
  | die (owner : UInt32)
  | revive (owner : UInt32)
  | affect (owner : UInt32) (mods : ModifierMap) (lostOnDeath : ℕ)

namespace Combatants

variable (s : Combatants)

def change (actorId : UInt32) (f : Combatant → Option Combatant) : Option Combatants :=
  match s actorId with
  | none => some s
  | some c => (f c).map fun c' => Function.update s actorId (some c')

def attackerAlive (attacker : UInt32) : Bool := (s attacker).any (·.isAlive)

def step (s : Combatants) : Surroundings × HitPointOp → Option Combatants
  | (env, .resolveAutoAttack attacker defender damage mods) =>
      if attacker = defender ∨ s.attackerAlive attacker = false then some s
      else s.change defender fun d =>
        if d.isAlive then do (← d.hit env damage mods).dieIfDefenderFell env defender else some d
  | (env, .resolveAction attacker defender outcome) =>
      if s.attackerAlive attacker = false then some s
      else s.change defender fun d =>
        if d.isAlive || outcome.isHeal then do
          (← d.undergo env outcome).dieIfDefenderFell env defender
        else some d
  | (env, .hpTick owner delta) => s.change owner fun c => c.addHp env delta.toInt
  | (env, .recalcStats owner) => s.change owner fun c => c.applyRecalcStats env owner
  | (env, .die owner) => s.change owner fun c => c.applyDie env owner
  | (_, .revive owner) => s.change owner fun c => c.applyRevive
  | (_, .affect owner mods lostOnDeath) => s.change owner fun c =>
      some { c with chara := { c.chara with mods := mods }, lostOnDeath := lostOnDeath }

end Combatants

/-- Of an actor with hit points to have: it is dead exactly if it has none. -/
structure Combatant.Agrees (c : Combatant) : Prop where
  nonneg : 0 ≤ c.chara.hp.toInt
  positive : 0 < c.chara.maxHp.toInt
  dead : c.isMarkedDead = true ↔ c.chara.hp.toInt = 0

def Combatants.Agree (s : Combatants) : Prop := ∀ actorId c, s actorId = some c → c.Agrees

namespace Combatant

def KeepsMaximum (mods : ModifierMap) : Prop :=
  let pool := F64.toI32 (mods.get .hp)
  0 < pool → 0 < (Int16.ofInt pool).toInt

def SetsNoHp (mods : ModifierMap) : Prop :=
  let pool := F64.toI32 (mods.get .hp)
  0 < pool → Chara.floorHp mods = 0 ∧ Chara.filled (mods.get .hpPercent) pool ≤ 0

/-- A recalculation does not take all hit points away. -/
def SetsHp (mods : ModifierMap) : Prop :=
  let pool := F64.toI32 (mods.get .hp)
  0 < pool → Chara.floorHp mods = 1 ∨ 0 < Chara.filled (mods.get .hpPercent) pool

variable (env : Surroundings) (owner : UInt32)

def RecalcFits (c : Combatant) : Prop :=
  KeepsMaximum (c.poolMods env owner) ∧
    if c.isMarkedDead then SetsNoHp (c.poolMods env owner) else SetsHp (c.poolMods env owner)

def DrainFits : ℕ → Combatant → Prop
  | 0, _ => True
  | n + 1, c => c.RecalcFits env owner ∧
      ∀ c', c.applyRecalcStats env owner = some c' → DrainFits n c'

/-- The recalculations after a death give the dead nothing. -/
def DeathFits (c : Combatant) : Prop :=
  env.scripts = true → c.die.DrainFits env owner c.lostOnDeath

def Lethal (c : Combatant) (damage : Option UInt16) (mods : ModifierMap) : Prop :=
  c.isAlive = true ∧ Chara.floorHp mods = 0 ∧
    ∃ amount, damage = some amount ∧ c.chara.hp.toInt ≤ amount.toNat

def HitFits (c : Combatant) (damage : Option UInt16) (mods : ModifierMap) : Prop :=
  c.Lethal damage mods →
    DeathFits env owner { c with chara := { c.chara with mods := mods } }

/-- The condition on a change of hit points by a heal or a tick. -/
def DeltaFits (c : Combatant) (delta : ℤ) : Prop :=
  ∀ hp, Zone.i32 env.checked (c.chara.hp.toInt + delta) = some hp →
    if c.isMarkedDead then Chara.floorHp c.chara.mods = 0 ∧ hp ≤ 0
    else Chara.floorHp c.chara.mods = 1 ∨ 0 < hp

end Combatant

/-- The condition on an event. -/
def Combatants.Fits (s : Combatants) : Surroundings × HitPointOp → Prop
  | (env, .resolveAutoAttack attacker defender damage mods) =>
      attacker ≠ defender → s.attackerAlive attacker = true →
        ∀ d, s defender = some d → d.HitFits env defender damage mods
  | (env, .resolveAction attacker defender outcome) => s.attackerAlive attacker = true →
      ∀ d, s defender = some d →
        match outcome with
        | .damage amount mods => d.HitFits env defender amount mods
        | .heal amount => d.DeltaFits env amount.toNat
        | .status => True
  | (env, .hpTick owner delta) => ∀ c, s owner = some c → c.DeltaFits env delta.toInt
  | (env, .recalcStats owner) => ∀ c, s owner = some c → c.RecalcFits env owner
  | (env, .die owner) => ∀ c, s owner = some c → c.isMarkedDead = false → c.DeathFits env owner
  | (_, .revive _) => True
  | (_, .affect ..) => True

namespace Combatant

variable {env : Surroundings} {owner : UInt32} {c c' : Combatant}

theorem applyRecalcStats_spec (done : c.applyRecalcStats env owner = some c') :
    c'.mainState = c.mainState ∧ ∃ before, before.mods = c.poolMods env owner ∧
      before.hp = c.chara.hp ∧ before.maxHp = c.chara.maxHp ∧
      Chara.Recalculated before c'.chara := by
  unfold applyRecalcStats at done
  unfold poolMods
  cases player : c.isPlayer with
  | true =>
      rw [player] at done
      obtain ⟨chara, first, last⟩ := Option.bind_eq_some_iff.mp done
      cases last
      obtain ⟨hp, maxHp, -, -⟩ := Chara.pools_pipeline env.items (env.equipped owner) c.chara
      exact ⟨rfl, _, rfl, hp, maxHp, Chara.recalculateStats_spec first⟩
  | false =>
      rw [player] at done
      obtain ⟨chara, first, last⟩ := Option.bind_eq_some_iff.mp done
      cases last
      exact ⟨rfl, _, rfl, rfl, rfl, Chara.recalculateStats_spec first⟩

theorem marked_congr (same : c'.mainState = c.mainState) : c'.isMarkedDead = c.isMarkedDead := by
  rw [isMarkedDead, isMarkedDead, same]

theorem agrees_of_hp (state : c'.mainState = c.mainState)
    (positive : 0 < c'.chara.maxHp.toInt) (nonneg : 0 ≤ c'.chara.hp.toInt)
    (dead : c.isMarkedDead = true → c'.chara.hp.toInt = 0)
    (alive : c.isMarkedDead = false → 0 < c'.chara.hp.toInt) : c'.Agrees := by
  refine ⟨nonneg, positive, ?_⟩
  rw [marked_congr state]
  cases marked : c.isMarkedDead with
  | true => exact iff_of_true rfl (dead marked)
  | false => exact iff_of_false Bool.false_ne_true (alive marked).ne'

theorem agrees_recalc (held : c.Agrees) (fits : c.RecalcFits env owner)
    (done : c.applyRecalcStats env owner = some c') : c'.Agrees := by
  obtain ⟨state, before, mods, hp, maxHp, spec⟩ := applyRecalcStats_spec done
  obtain ⟨maximum, pools⟩ := fits
  rw [← mods] at maximum pools
  by_cases above : 0 < F64.toI32 (before.mods.get .hp)
  · obtain ⟨maxHp', hp'⟩ := spec.set above
    have room : 0 < c'.chara.maxHp.toInt := by
      rw [maxHp']
      exact maximum above
    have low := Chara.floorHp_cases before.mods
    refine agrees_of_hp state room (by omega) (fun marked => ?_) (fun marked => ?_)
    · rw [if_pos marked] at pools
      obtain ⟨unlocked, none_⟩ := pools above
      omega
    · rw [if_neg (Bool.eq_false_iff.mp marked)] at pools
      have some_ := pools above
      omega
  · obtain ⟨hp', maxHp'⟩ := spec.kept (not_lt.mp above)
    rw [hp] at hp'
    rw [maxHp] at maxHp'
    refine agrees_of_hp state (maxHp' ▸ held.positive) (hp' ▸ held.nonneg) (fun marked => ?_)
      (fun marked => ?_)
    · rw [hp']
      exact held.dead.mp marked
    · rw [hp']
      have some_ : c.chara.hp.toInt ≠ 0 := fun empty => by
        rw [held.dead.mpr empty] at marked
        cases marked
      have nonneg := held.nonneg
      omega

theorem agrees_drain {n : ℕ} (held : c.Agrees) (fits : c.DrainFits env owner n)
    (done : drain env owner n c = some c') : c'.Agrees := by
  induction n generalizing c with
  | zero =>
      cases done
      exact held
  | succ n ih =>
      obtain ⟨d, first, rest⟩ := Option.bind_eq_some_iff.mp done
      obtain ⟨here, later⟩ := fits
      exact ih (agrees_recalc held here first) (later d first) rest

theorem agrees_die (nonneg : 0 ≤ c.chara.hp.toInt) (positive : 0 < c.chara.maxHp.toInt) :
    c.die.Agrees := by
  have empty : c.die.chara.hp.toInt = 0 := by
    simp only [die]
    split
    · rfl
    · omega
  exact ⟨empty.ge, positive, iff_of_true rfl empty⟩

theorem agrees_dying (marked : c.isMarkedDead = false) (dies : c.die.Agrees)
    (fits : c.DeathFits env owner) (done : c.applyDie env owner = some c') : c'.Agrees := by
  unfold applyDie at done
  rw [if_neg (Bool.eq_false_iff.mp marked)] at done
  cases scripts : env.scripts with
  | true =>
      rw [if_pos scripts] at done
      exact agrees_drain dies (fits scripts) done
  | false =>
      rw [if_neg (Bool.eq_false_iff.mp scripts)] at done
      cases done
      exact dies

theorem agrees_applyDie (held : c.Agrees) (fits : c.isMarkedDead = false → c.DeathFits env owner)
    (done : c.applyDie env owner = some c') : c'.Agrees := by
  cases marked : c.isMarkedDead with
  | true =>
      unfold applyDie at done
      rw [if_pos marked] at done
      cases done
      exact held
  | false =>
      exact agrees_dying marked (agrees_die held.nonneg held.positive) (fits marked) done

theorem agrees_applyRevive (held : c.Agrees) (done : c.applyRevive = some c') : c'.Agrees := by
  unfold applyRevive at done
  split at done
  · obtain ⟨chara, first, last⟩ := Option.bind_eq_some_iff.mp done
    cases last
    obtain ⟨value, rfl, hp⟩ := Chara.setHp_spec first
    have positive := held.positive
    rw [min_self] at hp
    have full : 0 < value.toInt := by omega
    refine ⟨full.le, positive, iff_of_false ?_ full.ne'⟩
    exact Bool.false_ne_true
  · cases done
    exact held

theorem addHp_spec {delta : ℤ} (done : c.addHp env delta = some c') :
    ∃ hp value, Zone.i32 env.checked (c.chara.hp.toInt + delta) = some hp ∧
      c' = { c with chara := { c.chara with hp := value } } ∧
      value.toInt = max (Chara.floorHp c.chara.mods) (min hp c.chara.maxHp.toInt) := by
  obtain ⟨hp, sum, rest⟩ := Option.bind_eq_some_iff.mp done
  obtain ⟨chara, first, last⟩ := Option.bind_eq_some_iff.mp rest
  cases last
  obtain ⟨value, rfl, clamped⟩ := Chara.setHp_spec first
  exact ⟨hp, value, sum, rfl, clamped⟩

theorem agrees_addHp {delta : ℤ} (held : c.Agrees) (fits : c.DeltaFits env delta)
    (done : c.addHp env delta = some c') : c'.Agrees := by
  obtain ⟨hp, value, sum, rfl, clamped⟩ := addHp_spec done
  have positive := held.positive
  have low := Chara.floorHp_cases c.chara.mods
  have meets := fits hp sum
  refine agrees_of_hp (c := c) rfl positive (by simp only; omega) (fun marked => ?_)
    (fun marked => ?_)
  · rw [if_pos marked] at meets
    simp only
    omega
  · rw [if_neg (Bool.eq_false_iff.mp marked)] at meets
    simp only
    omega

theorem Agrees.alive_iff (held : c.Agrees) : c.isAlive = true ↔ c.isMarkedDead = false := by
  have nonneg := held.nonneg
  rw [isAlive, decide_eq_true_eq, ← Bool.not_eq_true, held.dead]
  omega

theorem dieIfDefenderFell_settled (held : c.Agrees) : c.dieIfDefenderFell env owner = some c := by
  unfold dieIfDefenderFell
  have alive := held.alive_iff
  cases marked : c.isMarkedDead with
  | true => simp
  | false => simp [alive.mpr marked]

theorem difference {amount : UInt16} {hp : ℤ}
    (sum : Zone.i32 env.checked (c.chara.hp.toInt + -(amount.toNat : ℤ)) = some hp) :
    hp = c.chara.hp.toInt - amount.toNat := by
  have low := c.chara.hp.le_toInt
  have high := c.chara.hp.toInt_lt
  have small := amount.toNat_lt
  rw [Zone.i32, if_pos ⟨by omega, by omega⟩, Option.some.injEq] at sum
  omega

theorem agrees_struck (held : c.Agrees) (alive : c.isAlive = true) {amount : UInt16}
    {mods : ModifierMap} (fits : c.HitFits env owner (some amount) mods) {hp : ℤ} {value : Int16}
    (sum : Zone.i32 env.checked (c.chara.hp.toInt + -(amount.toNat : ℤ)) = some hp)
    (clamped : value.toInt = max (Chara.floorHp mods) (min hp c.chara.maxHp.toInt))
    {d : Combatant}
    (struck : d = { c with chara := { c.chara with mods := mods, hp := value } })
    (settled : d.dieIfDefenderFell env owner = some c') : c'.Agrees := by
  have unmarked : d.isMarkedDead = false :=
    (marked_congr (by rw [struck])).trans (held.alive_iff.mp alive)
  have positive : 0 < d.chara.maxHp.toInt := by
    rw [struck]
    exact held.positive
  have same : d.chara.hp = value := by rw [struck]
  have low := Chara.floorHp_cases mods
  have left := difference sum
  have room := held.positive
  unfold dieIfDefenderFell at settled
  by_cases lives : 0 < value.toInt
  · have counted : d.isAlive = true := by
      rw [isAlive, same]
      exact decide_eq_true lives
    rw [counted, Bool.true_or, if_pos rfl] at settled
    cases settled
    refine ⟨same ▸ lives.le, positive, iff_of_false (Bool.eq_false_iff.mp unmarked) ?_⟩
    rw [same]
    exact lives.ne'
  · have lethal : c.Lethal (some amount) mods := ⟨alive, by omega, amount, rfl, by omega⟩
    have fallen : d.isAlive = false := by
      rw [isAlive, same]
      exact decide_eq_false lives
    have body : d.die = die { c with chara := { c.chara with mods := mods } } := by
      have empty : value = 0 := by
        apply Int16.toInt_inj.mp
        change value.toInt = 0
        omega
      have before : 0 < c.chara.hp.toInt := of_decide_eq_true alive
      rw [struck, empty]
      simp only [die, if_pos before]
      rfl
    have lost : d.lostOnDeath = c.lostOnDeath := by rw [struck]
    rw [fallen, unmarked, Bool.or_self, if_neg Bool.false_ne_true] at settled
    refine agrees_dying unmarked ?_ (fun scripts => ?_) settled
    · rw [body]
      exact agrees_die held.nonneg held.positive
    · rw [body, lost]
      exact fits lethal scripts

theorem agrees_hit (held : c.Agrees) (alive : c.isAlive = true) {damage : Option UInt16}
    {mods : ModifierMap} (fits : c.HitFits env owner damage mods)
    (done : (c.hit env damage mods).bind (·.dieIfDefenderFell env owner) = some c') :
    c'.Agrees := by
  have unhurt : Agrees { c with chara := { c.chara with mods := mods } } :=
    ⟨held.nonneg, held.positive, held.dead⟩
  obtain ⟨d, struck, settled⟩ := Option.bind_eq_some_iff.mp done
  unfold hit at struck
  cases damage with
  | none =>
      cases struck
      rw [dieIfDefenderFell_settled unhurt] at settled
      cases settled
      exact unhurt
  | some amount =>
      simp only at struck
      split at struck
      · obtain ⟨hp, value, sum, rfl, clamped⟩ := addHp_spec struck
        exact agrees_struck held alive fits sum clamped rfl settled
      · cases struck
        rw [dieIfDefenderFell_settled unhurt] at settled
        cases settled
        exact unhurt

end Combatant

namespace Combatants

variable {s s' : Combatants}

theorem agree_change (held : s.Agree) {actorId : UInt32} {f : Combatant → Option Combatant}
    (keeps : ∀ c c', s actorId = some c → f c = some c' → c'.Agrees)
    (done : s.change actorId f = some s') : s'.Agree := by
  unfold change at done
  cases found : s actorId with
  | none =>
      rw [found] at done
      cases done
      exact held
  | some c =>
      rw [found] at done
      obtain ⟨c', became, rfl⟩ := Option.map_eq_some_iff.mp done
      intro other d there
      by_cases same : other = actorId
      · subst same
        rw [Function.update_self, Option.some.injEq] at there
        exact there ▸ keeps c c' found became
      · rw [Function.update_of_ne same] at there
        exact held other d there

theorem agree_step (held : s.Agree) {event : Surroundings × HitPointOp} (fits : s.Fits event)
    (done : s.step event = some s') : s'.Agree := by
  obtain ⟨env, op⟩ := event
  cases op with
  | resolveAutoAttack attacker defender damage mods =>
      simp only [step] at done
      split at done
      · cases done
        exact held
      · rename_i swings
        obtain ⟨other, ready⟩ := not_or.mp swings
        refine agree_change held (fun d d' found became => ?_) done
        split at became
        · rename_i alive
          exact Combatant.agrees_hit (held defender d found) alive
            (fits other (Bool.not_eq_false _ ▸ ready) d found) became
        · cases became
          exact held defender d found
  | resolveAction attacker defender outcome =>
      simp only [step] at done
      split at done
      · cases done
        exact held
      · rename_i ready
        refine agree_change held (fun d d' found became => ?_) done
        have meets := fits (Bool.not_eq_false _ ▸ ready) d found
        have agrees := held defender d found
        split at became
        · rename_i reached
          cases outcome with
          | damage amount mods =>
              have alive := (Bool.or_false d.isAlive).symm.trans reached
              exact Combatant.agrees_hit agrees alive meets became
          | heal amount =>
              obtain ⟨healed, first, settled⟩ := Option.bind_eq_some_iff.mp became
              have after := Combatant.agrees_addHp agrees meets first
              rw [Combatant.dieIfDefenderFell_settled after] at settled
              cases settled
              exact after
          | status =>
              obtain ⟨_, first, settled⟩ := Option.bind_eq_some_iff.mp became
              cases first
              rw [Combatant.dieIfDefenderFell_settled agrees] at settled
              cases settled
              exact agrees
        · cases became
          exact agrees
  | hpTick owner delta =>
      refine agree_change held (fun c _ found became => ?_) done
      exact Combatant.agrees_addHp (held owner c found) (fits c found) became
  | recalcStats owner =>
      refine agree_change held (fun c _ found became => ?_) done
      exact Combatant.agrees_recalc (held owner c found) (fits c found) became
  | die owner =>
      refine agree_change held (fun c _ found became => ?_) done
      exact Combatant.agrees_applyDie (held owner c found) (fits c found) became
  | revive owner =>
      refine agree_change held (fun c _ found became => ?_) done
      exact Combatant.agrees_applyRevive (held owner c found) became
  | affect owner mods lostOnDeath =>
      refine agree_change held (fun c c' found became => ?_) done
      cases became
      have agrees := held owner c found
      exact ⟨agrees.nonneg, agrees.positive, agrees.dead⟩

/-- In a run whose events all meet their condition, an actor is dead exactly while it has no hit
points. -/
theorem hp_agrees (start : s.Agree) {events : List (Surroundings × HitPointOp)}
    (fits : EachStep step Fits s events) : Always step Agree s events :=
  always_of_eachStep (fun _ _ _ held meets done => agree_step held meets done) start fits

/-- Two monsters of 10 hit points, out of 100. -/
def rivals : Combatants := fun actorId =>
  if actorId = 5 ∨ actorId = 7 then
    some ⟨false, { classId := 2, level := 1, hp := 10, maxHp := 100 }, MAIN_STATE_PASSIVE, 0⟩
  else none

def wilderness : Surroundings := ⟨true, false, fun _ => none, fun _ => ∅⟩

theorem rivals_agree : rivals.Agree := by
  intro actorId c there
  unfold rivals at there
  split at there
  · cases there
    exact ⟨by decide, by decide, by decide⟩
  · cases there

theorem hp_agrees_slain : Always step Agree rivals [(wilderness, .hpTick 7 (-5)),
    (wilderness, .resolveAutoAttack 5 7 (some 20) {}), (wilderness, .revive 7)] := by
  refine hp_agrees rivals_agree fun _ _ => ⟨?_, fun _ _ => ⟨?_, fun _ _ => ⟨trivial, trivial⟩⟩⟩
  · intro c there hp sum
    cases there
    cases sum
    exact .inr (by decide)
  · intro _ _ _ _ _ scripts
    cases scripts

def defender (s : Combatants) : Option (Bool × Int16) :=
  (s 7).map fun c => (c.isMarkedDead, c.chara.hp)

theorem not_agree {start : Combatants} {events : List (Surroundings × HitPointOp)} {marked : Bool}
    {hp : Int16} (last : (run step start events).map defender = some (some (marked, hp)))
    (apart : ¬ (marked = true ↔ hp.toInt = 0)) :
    ∃ s, run step start events = some s ∧ ¬ s.Agree := by
  obtain ⟨s, reached, shown⟩ := Option.map_eq_some_iff.mp last
  obtain ⟨c, there, both⟩ := Option.map_eq_some_iff.mp shown
  cases both
  exact ⟨s, reached, fun held => apart (held 7 c there).dead⟩

/-- Poison empties a pool and kills nobody; a regeneration gives hit points to the dead. -/
theorem poison_spares : rivals.Agree ∧
    (∃ s, run step rivals [(wilderness, .hpTick 7 (-10))] = some s ∧ ¬ s.Agree) ∧
    ∃ s, run step rivals [(wilderness, .die 7), (wilderness, .hpTick 7 5)] = some s ∧
      ¬ s.Agree := by
  have empty : (run step rivals [(wilderness, .hpTick 7 (-10))]).map defender =
      some (some (false, 0)) := by
    decide +kernel
  have filled : (run step rivals [(wilderness, .die 7), (wilderness, .hpTick 7 5)]).map defender =
      some (some (true, 5)) := by
    decide +kernel
  exact ⟨rivals_agree, not_agree empty (by decide), not_agree filled (by decide)⟩

end Combatants
end Garlemald.Battle
