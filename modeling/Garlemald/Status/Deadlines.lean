import Garlemald.Status.Persistence

/-!
When an effect ends. The appliers arm an effect by the wall clock, in whole seconds; the ticker
compares by the time that the server has been running.
-/

namespace Garlemald.Status
open Library

def statusExpChain : UInt32 := 300004

def unixTimestamp (wall : UInt64) : UInt32 := (wall / 1000).toUInt32

def appliedAtMs (wall : UInt64) : UInt64 := (unixTimestamp wall).toUInt64 * 1000

/-- The time that the ticker hands on: both clocks run at the same rate. -/
def serverNowMs (start wall : UInt64) : UInt64 := wall - start

def chainTimeLimits : List UInt32 := [100, 80, 60, 20, 10]

def chainTimeLimitS (tier : UInt8) : UInt32 :=
  chainTimeLimits.getD (min tier.toNat (chainTimeLimits.length - 1)) 0

/-- The plain constructor: no flags, and no second effect with its id is let in. -/
def StatusEffect.new (ownerActorId id : UInt32) (potency : Potency) (tickMs duration : UInt32)
    (nowMs : UInt64) : StatusEffect Potency where
  ownerActorId := ownerActorId
  sourceActorId := ownerActorId
  id := id
  startTime := nowSeconds nowMs
  endTime := 0
  lastTickMs := nowMs
  duration := duration
  tickMs := tickMs
  magnitude := potency
  flags := 0
  overwrite := .none
  silentOnGain := false
  silentOnLoss := false
  hidden := false
  statusLossTextId := defaultLossTextId

def expChain (c : StatusEffectContainer Potency) (nowMs : UInt64) : StatusEffect Potency :=
  let tier := ((c.effects.lookup statusExpChain).filter fun e =>
    StatusEffect.nowSeconds nowMs < e.endTime).elim 0 (·.magnitude.tier)
  { StatusEffect.new c.ownerActorId statusExpChain
      ⟨F64.ofInt 0, if tier = 255 then 255 else tier + 1, F64.ofInt 0⟩ 0 (chainTimeLimitS tier)
      nowMs with
    flags := 273
    overwrite := .always
    hidden := true
    silentOnGain := true
    silentOnLoss := true }

inductive Application where
  | tryStatus (sourceActorId statusId durationS : UInt32) (magnitude : F64) (tickMs : UInt32)
      (tier : UInt8)
  | awardBattleExp
  | login (entries : List StatusEffectEntry)

namespace Application

def run (c : StatusEffectContainer Potency) (wall : UInt64) :
    Application → Bool × StatusEffectContainer Potency
  | .tryStatus sourceActorId statusId durationS magnitude tickMs tier =>
      let added := c.addStatusEffect
        (.new c.ownerActorId statusId ⟨magnitude, tier, F64.ofInt 0⟩ tickMs durationS
          (appliedAtMs wall))
        sourceActorId (appliedAtMs wall) defaultGainTextId
      (added.1, added.2.1)
  | .awardBattleExp =>
      let added := c.addStatusEffect (expChain c (appliedAtMs wall)) c.ownerActorId
        (appliedAtMs wall) defaultGainTextId
      (added.1, added.2.1)
  | .login entries => (true, hydrate c.ownerActorId (appliedAtMs wall) entries)

/-- The effects that a call may give. -/
def Gives (id : UInt32) : Application → Prop
  | .tryStatus _ statusId _ _ _ _ => id = statusId
  | .awardBattleExp => id = statusExpChain
  | .login _ => True

end Application

/-! ### Passes of the ticker -/

/-- A pass with the wall clock, the order in which the map yields its keys, and what it reads. -/
structure TickerPass where
  wall : UInt64
  order : List UInt32
  mods : RegenModifiers
  passive : PassiveRegen

/-- A container and the wall clock, and when an effect that is watched last fired. -/
structure Watch where
  container : StatusEffectContainer Potency
  wall : UInt64
  fired : UInt64

def StatusEvent.isTick (id : UInt32) : StatusEvent → Bool
  | .luaCall _ statusEffectId functionName => statusEffectId == id && functionName == "onTick"
  | _ => false

namespace Watch

variable (start : UInt64) (id : UInt32) (w : Watch)

def tick (p : TickerPass) : StatusEffectContainer Potency × List StatusEvent :=
  w.container.update p.order (serverNowMs start p.wall) p.mods p.passive

/-- The clock does not go back, and the map yields each key once. -/
def step (p : TickerPass) : Option Watch :=
  if w.wall ≤ p.wall ∧ p.order.Perm (w.container.effects.entries.map (·.1)) then
    some
      { container := (w.tick start p).1
        wall := p.wall
        fired := if (w.tick start p).2.any (·.isTick id) then p.wall else w.fired }
  else none

variable (applied : UInt64) (e : StatusEffect Potency)

def deadline : ℕ := applied.toNat / 1000 + e.duration.toNat

/-- While it is there the effect goes with the first pass from its end on, and it fires when its
interval has passed since it last did. -/
def Behaves (p : TickerPass) : Prop :=
  (w.container.effects.lookup id).isSome →
    ((w.tick start p).1.effects.lookup id = none ↔ deadline applied e ≤ p.wall.toNat / 1000) ∧
      ((w.tick start p).2.any (·.isTick id) = true ↔
        e.tickMs ≠ 0 ∧ w.fired.toNat + e.tickMs.toNat ≤ p.wall.toNat)

/-- A pass that the clock of the ticker and the wall clock tell on the same side of the end,
and of the first firing if there has been none. -/
def Punctual (p : TickerPass) : Prop :=
  (w.container.effects.lookup id).isSome →
    (deadline applied e ≤ p.wall.toNat / 1000 ↔
      0 < deadline applied e ∧
        deadline applied e ≤ (StatusEffect.nowSeconds (serverNowMs start p.wall)).toNat) ∧
      (e.tickMs ≠ 0 → w.fired = appliedAtMs applied →
        ((appliedAtMs applied).toNat + e.tickMs.toNat ≤ p.wall.toNat ↔
          (appliedAtMs applied).toNat + e.tickMs.toNat ≤ (serverNowMs start p.wall).toNat))

end Watch

/-! ### What a pass does to one effect -/

namespace StatusEffectContainer

variable {μ : Type} {c : StatusEffectContainer μ} {nowMs : UInt64}

variable {order : List UInt32}

theorem lookup_tickEach (once : order.Nodup) (k : UInt32) :
    (tickEach nowMs order c).2.1.effects.lookup k =
      if k ∈ order then (c.effects.lookup k).map fun e => (e.update nowMs).2.1
      else c.effects.lookup k := by
  induction order generalizing c with
  | nil => rfl
  | cons id rest ih =>
      obtain ⟨fresh, later⟩ := List.nodup_cons.mp once
      rw [tickEach]
      cases found : c.effects.lookup id with
      | none =>
          dsimp only
          rw [ih later]
          by_cases own : k = id
          · subst own
            rw [if_neg fresh, if_pos List.mem_cons_self, found]
            rfl
          · simp only [List.mem_cons, own, false_or]
      | some e =>
          dsimp only
          rw [ih later]
          by_cases own : k = id
          · subst own
            rw [if_neg fresh, if_pos List.mem_cons_self, AList.lookup_insert, found]
            rfl
          · rw [AList.lookup_insert_ne own]
            simp only [List.mem_cons, own, false_or]

theorem mem_tickEach (once : order.Nodup) (k : UInt32) :
    k ∈ (tickEach nowMs order c).1 ↔
      k ∈ order ∧ ∃ e, c.effects.lookup k = some e ∧ (e.update nowMs).1 = true := by
  induction order generalizing c with
  | nil => simp [tickEach]
  | cons id rest ih =>
      obtain ⟨fresh, later⟩ := List.nodup_cons.mp once
      rw [tickEach]
      cases found : c.effects.lookup id with
      | none =>
          dsimp only
          rw [ih later]
          by_cases own : k = id
          · subst own
            exact iff_of_false (fun both => fresh both.1) fun both => by simp [found] at both
          · simp only [List.mem_cons, own, false_or]
      | some e =>
          dsimp only
          by_cases own : k = id
          · subst own
            split
            · next ended =>
                exact iff_of_true List.mem_cons_self ⟨List.mem_cons_self, e, found, ended⟩
            · next lasts =>
                rw [ih later]
                refine iff_of_false (fun both => fresh both.1) fun both => ?_
                obtain ⟨_, e', found', ended⟩ := both
                obtain rfl := Option.some.inj (found.symm.trans found')
                exact lasts ended
          · have other : k ∈ (tickEach nowMs rest { c with
                effects := c.effects.insert id (e.update nowMs).2.1 }).1 ↔
                  k ∈ rest ∧ ∃ e, c.effects.lookup k = some e ∧ (e.update nowMs).1 = true := by
              rw [ih later, AList.lookup_insert_ne own]
            split
            · rw [List.mem_cons, List.mem_cons, or_iff_right own, or_iff_right own, other]
            · rw [List.mem_cons, or_iff_right own, other]

def Due (nowMs : UInt64) (e : StatusEffect μ) : Prop :=
  e.tickMs ≠ 0 ∧ e.tickMs.toNat ≤ nowMs.toNat - e.lastTickMs.toNat

theorem isTick_update (e : StatusEffect μ) (id : UInt32) :
    (e.update nowMs).2.2.any (·.isTick id) = true ↔ e.id = id ∧ Due nowMs e := by
  simp only [StatusEffect.update, Due]
  split
  · next due => simp [StatusEvent.isTick, due]
  · next waits => simp [waits]

theorem isTick_tickEach (once : order.Nodup)
    (keyed : ∀ id e, c.effects.lookup id = some e → e.id = id) (id : UInt32) :
    (tickEach nowMs order c).2.2.any (·.isTick id) = true ↔
      id ∈ order ∧ ∃ e, c.effects.lookup id = some e ∧ Due nowMs e := by
  induction order generalizing c with
  | nil => simp [tickEach]
  | cons k rest ih =>
      obtain ⟨fresh, later⟩ := List.nodup_cons.mp once
      rw [tickEach]
      cases found : c.effects.lookup k with
      | none =>
          dsimp only
          rw [ih later keyed]
          by_cases own : id = k
          · subst own
            exact iff_of_false (fun both => fresh both.1) fun both => by simp [found] at both
          · simp only [List.mem_cons, own, false_or]
      | some e =>
          dsimp only
          have under : (e.update nowMs).2.1.id = k :=
            (update_ticked nowMs e).1.trans (keyed k e found)
          have keyed' := keyed_insert (n := (e.update nowMs).2.1) keyed
          rw [under] at keyed'
          rw [List.any_append, Bool.or_eq_true, isTick_update, ih later keyed', keyed k e found]
          by_cases own : id = k
          · subst own
            rw [AList.lookup_insert]
            constructor
            · rintro (⟨_, due⟩ | ⟨inside, _⟩)
              · exact ⟨List.mem_cons_self, e, found, due⟩
              · exact absurd inside fresh
            · rintro ⟨_, e', found', due⟩
              obtain rfl := Option.some.inj (found.symm.trans found')
              exact .inl ⟨rfl, due⟩
          · rw [AList.lookup_insert_ne own, or_iff_right fun both => own both.1.symm, List.mem_cons,
              or_iff_right own]

theorem lookup_removeStatusEffect (id k : UInt32) (textId : UInt16) (playEffect : Bool) :
    (c.removeStatusEffect id textId playEffect).2.1.effects.lookup k =
      if k = id then none else c.effects.lookup k := by
  cases found : c.effects.lookup id with
  | none =>
      rw [remove_absent found]
      split
      · next own => rw [own, found]
      · rfl
  | some e =>
      rw [(remove_present found textId playEffect).effects]
      split
      · next own => rw [own, AList.lookup_erase]
      · next other => rw [AList.lookup_erase_ne other]

theorem lookup_removeExpired (ids : List UInt32) (k : UInt32) :
    (removeExpired ids c).1.effects.lookup k = if k ∈ ids then none else c.effects.lookup k := by
  induction ids generalizing c with
  | nil => rfl
  | cons id rest ih =>
      rw [removeExpired]
      dsimp only
      rw [ih, lookup_removeStatusEffect]
      by_cases own : k = id
      · simp [own]
      · simp [own]

theorem isTick_setSlot (index : Nat) (statusId : UInt16) (expiresAt id : UInt32) :
    (c.setSlot index statusId expiresAt).2.any (·.isTick id) = false := by
  simp only [setSlot, setStatusAtIndex, setTimeAtIndex]
  split
  · split
    · rfl
    · rfl
  · split
    · rfl
    · rfl

theorem isTick_remove (id k : UInt32) (textId : UInt16) (playEffect : Bool) :
    (c.removeStatusEffect k textId playEffect).2.2.any (·.isTick id) = false := by
  cases found : c.effects.lookup k with
  | none =>
      rw [remove_absent found]
      rfl
  | some e =>
      have cleared : (c.clearIcon e).2.any (·.isTick id) = false := by
        rw [clearIcon]
        split
        · rfl
        · split
          · exact isTick_setSlot ..
          · rfl
      simp only [removeStatusEffect, found, List.any_append, cleared]
      split
      · simp [StatusEvent.isTick]
      · simp [StatusEvent.isTick]

theorem isTick_removeExpired (ids : List UInt32) (id : UInt32) :
    (removeExpired ids c).2.any (·.isTick id) = false := by
  induction ids generalizing c with
  | nil => rfl
  | cons k rest ih =>
      rw [removeExpired]
      dsimp only
      rw [List.any_append, isTick_remove, ih]
      rfl

theorem isTick_regenTick (mods : RegenModifiers) (passive : PassiveRegen) (id : UInt32) :
    (c.regenTick mods passive).any (·.isTick id) = false := by
  have single (P : Prop) [Decidable P] {event : StatusEvent} (other : event.isTick id = false) :
      (if P then [event] else []).any (·.isTick id) = false := by
    split
    · rw [List.any_cons, other]
      rfl
    · rfl
  simp only [regenTick, List.any_append]
  rw [single _ rfl, single _ rfl, single _ rfl, single _ rfl]
  rfl

section Update

variable {order : List UInt32} (listed : order.Perm (c.effects.entries.map (·.1)))
include listed

theorem once_of_listed : order.Nodup := listed.nodup_iff.mpr c.effects.nodupKeys

theorem mem_of_listed {k : UInt32} {e : StatusEffect μ} (found : c.effects.lookup k = some e) :
    k ∈ order := by
  rw [listed.mem_iff]
  exact AList.lookup_isSome.mp (Option.isSome_iff_exists.mpr ⟨e, found⟩)

theorem lookup_update (nowMs : UInt64) (mods : RegenModifiers) (passive : PassiveRegen)
    (k : UInt32) :
    (c.update order nowMs mods passive).1.effects.lookup k =
      (c.effects.lookup k).bind fun e =>
        if (e.update nowMs).1 then none else some (e.update nowMs).2.1 := by
  have once := once_of_listed listed
  have same : (if regenTickMs.toNat ≤ nowMs.toNat - c.lastRegenMs.toNat
      then { c with lastRegenMs := nowMs } else c).effects = c.effects := by
    split
    · rfl
    · rfl
  rw [update]
  dsimp only
  rw [lookup_removeExpired, lookup_tickEach once]
  simp only [mem_tickEach once, same]
  cases found : c.effects.lookup k with
  | none => simp
  | some e =>
      have inside := mem_of_listed listed found
      simp only [inside, true_and, Option.some.injEq, exists_eq_left', if_true, Option.map_some,
        Option.bind_some]

theorem isTick_update_iff (nowMs : UInt64) (mods : RegenModifiers) (passive : PassiveRegen)
    (keyed : ∀ id e, c.effects.lookup id = some e → e.id = id) (id : UInt32) :
    (c.update order nowMs mods passive).2.any (·.isTick id) = true ↔
      ∃ e, c.effects.lookup id = some e ∧ Due nowMs e := by
  have once := once_of_listed listed
  have same : (if regenTickMs.toNat ≤ nowMs.toNat - c.lastRegenMs.toNat
      then { c with lastRegenMs := nowMs } else c).effects = c.effects := by
    split
    · rfl
    · rfl
  have quiet : (if regenTickMs.toNat ≤ nowMs.toNat - c.lastRegenMs.toNat
      then c.regenTick mods passive else []).any (·.isTick id) = false := by
    split
    · exact isTick_regenTick ..
    · rfl
  rw [update]
  dsimp only
  rw [List.any_append, List.any_append, quiet, isTick_removeExpired, Bool.false_or, Bool.or_false,
    isTick_tickEach once (by rw [same]; exact keyed), same]
  constructor
  · intro both
    exact both.2
  · intro fires
    obtain ⟨e, found, due⟩ := fires
    exact ⟨mem_of_listed listed found, e, found, due⟩

end Update

end StatusEffectContainer

/-! ### Effects as they are applied -/

theorem toNat_unixTimestamp (wall : UInt64) :
    (unixTimestamp wall).toNat = wall.toNat / 1000 % 2 ^ 32 := by
  rw [unixTimestamp, UInt64.toNat_toUInt32, UInt64.toNat_div]
  rfl

theorem toNat_appliedAtMs (wall : UInt64) :
    (appliedAtMs wall).toNat = wall.toNat / 1000 % 2 ^ 32 * 1000 := by
  have small := (unixTimestamp wall).toNat_lt
  rw [toNat_unixTimestamp] at small
  rw [appliedAtMs, UInt64.toNat_mul, UInt32.toNat_toUInt64, toNat_unixTimestamp]
  have thousand : (1000 : UInt64).toNat = 1000 := rfl
  rw [thousand, Nat.mod_eq_of_lt]
  omega

theorem nowSeconds_appliedAtMs (wall : UInt64) :
    StatusEffect.nowSeconds (appliedAtMs wall) = unixTimestamp wall := by
  apply UInt32.toNat_inj.mp
  have thousand : (1000 : UInt64).toNat = 1000 := rfl
  rw [StatusEffect.nowSeconds, UInt64.toNat_toUInt32, UInt64.toNat_div, toNat_appliedAtMs,
    toNat_unixTimestamp, thousand, Nat.mul_div_cancel _ (by decide), Nat.mod_mod]

theorem isStance_of_flags {e : StatusEffect Potency} (plain : e.flags = 0 ∨ e.flags = 273) :
    e.isStance = false := by
  rw [StatusEffect.isStance]
  rcases plain with none | chain
  · rw [none]
    decide
  · rw [chain]
    decide

/-- The effect ends for good, and it was armed at the time of the wall clock. -/
structure Armed (applied : UInt64) (e : StatusEffect Potency) : Prop where
  finite : e.isStance = false
  endTime : e.endTime = saturatingAdd (unixTimestamp applied) e.duration
  lastTickMs : e.lastTickMs = appliedAtMs applied

theorem toNat_saturatingAdd (a b : UInt32) :
    (saturatingAdd a b).toNat = min (a.toNat + b.toNat) 0xFFFFFFFF := by
  have small : min (a.toNat + b.toNat) 0xFFFFFFFF < 2 ^ 32 := by omega
  exact UInt32.toNat_ofNat_of_lt' small

theorem Armed.toNat_endTime {applied : UInt64} {e : StatusEffect Potency} (armed : Armed applied e)
    (bounded : Watch.deadline applied e < 2 ^ 32) :
    e.endTime.toNat = Watch.deadline applied e := by
  rw [Watch.deadline] at bounded ⊢
  have whole : applied.toNat / 1000 % 2 ^ 32 = applied.toNat / 1000 :=
    Nat.mod_eq_of_lt (Nat.lt_of_le_of_lt (Nat.le_add_right _ _) bounded)
  rw [armed.endTime, toNat_saturatingAdd, toNat_unixTimestamp, whole]
  omega

section Applying

variable {c : StatusEffectContainer Potency} {applied : UInt64}

variable {effect : StatusEffect Potency} {e : StatusEffect Potency}

theorem armed_started (finite : effect.isStance = false) (sourceActorId : UInt32) :
    Armed applied (c.started effect sourceActorId (appliedAtMs applied)) where
  finite := finite
  endTime := by
    have plain : ({ effect with ownerActorId := c.ownerActorId, sourceActorId := sourceActorId } :
        StatusEffect Potency).isStance = false := finite
    rw [← nowSeconds_appliedAtMs]
    exact if_neg (by rw [Bool.not_eq_true]; exact plain)
  lastTickMs := rfl

theorem accepts_of_landed {sourceActorId : UInt32} {nowMs : UInt64} {textId : UInt16}
    (landed : (c.addStatusEffect effect sourceActorId nowMs textId).1 = true) :
    c.Accepts effect := by
  rw [StatusEffectContainer.Accepts]
  cases found : c.effects.lookup effect.id with
  | some old =>
      by_contra shut
      rw [Bool.not_eq_true] at shut
      simp [StatusEffectContainer.addStatusEffect, found, shut] at landed
  | none =>
      by_contra full
      simp [StatusEffectContainer.addStatusEffect, StatusEffectContainer.enterEffect, found,
        Nat.not_lt.mp full] at landed

theorem armed_added {sourceActorId : UInt32} {textId : UInt16}
    (kept : c.Kept) (finite : effect.isStance = false)
    (landed : (c.addStatusEffect effect sourceActorId (appliedAtMs applied) textId).1 = true)
    (found : (c.addStatusEffect effect sourceActorId (appliedAtMs applied) textId
      ).2.1.effects.lookup effect.id = some e) : Armed applied e := by
  have entered := StatusEffectContainer.add_accepted kept.few (accepts_of_landed landed)
    sourceActorId (appliedAtMs applied) textId
  have own : (c.started effect sourceActorId (appliedAtMs applied)).id = effect.id := rfl
  rw [entered.effects, own, AList.lookup_insert] at found
  obtain rfl := Option.some.inj found
  exact armed_started finite sourceActorId

theorem armed_restored {actorId : UInt32} (kept : c.Kept)
    (armed : ∀ id e, c.effects.lookup id = some e → Armed applied e) (entry : StatusEffectEntry)
    {id : UInt32}
    (found : (c.addStatusEffect (entry.hydrated actorId (appliedAtMs applied)) actorId
      (appliedAtMs applied) defaultGainTextId).2.1.effects.lookup id = some e) :
    Armed applied e := by
  by_cases accepted : c.Accepts (entry.hydrated actorId (appliedAtMs applied))
  · have entered := StatusEffectContainer.add_accepted kept.few accepted actorId
      (appliedAtMs applied) defaultGainTextId
    have fresh : Armed applied (c.started (entry.hydrated actorId (appliedAtMs applied)) actorId
      (appliedAtMs applied)) := armed_started (isStance_of_flags (.inl rfl)) actorId
    generalize c.started (entry.hydrated actorId (appliedAtMs applied)) actorId
      (appliedAtMs applied) = n at entered fresh
    rw [entered.effects] at found
    by_cases own : id = n.id
    · rw [own, AList.lookup_insert] at found
      obtain rfl := Option.some.inj found
      exact fresh
    · rw [AList.lookup_insert_ne own] at found
      exact armed id e found
  · rw [(StatusEffectContainer.add_refused accepted actorId (appliedAtMs applied)
      defaultGainTextId).1] at found
    exact armed id e found

theorem armed_hydrate (actorId : UInt32) (entries : List StatusEffectEntry) :
    ∀ id e, (hydrate actorId (appliedAtMs applied) entries).effects.lookup id = some e →
      Armed applied e := by
  have loop (c : StatusEffectContainer Potency) (kept : c.Kept)
      (armed : ∀ id e, c.effects.lookup id = some e → Armed applied e) :
      ∀ id e, (entries.foldl (fun c entry =>
        (c.addStatusEffect (entry.hydrated actorId (appliedAtMs applied)) actorId
          (appliedAtMs applied) defaultGainTextId).2.1) c).effects.lookup id = some e →
            Armed applied e := by
    induction entries generalizing c with
    | nil => exact armed
    | cons entry entries ih =>
        exact ih _ (StatusEffectContainer.add_carries kept
          (entry.hydrated actorId (appliedAtMs applied)) actorId (appliedAtMs applied)
            defaultGainTextId).kept fun id e found => armed_restored kept armed entry found
  refine loop _ (StatusEffectContainer.kept_new actorId) fun id e found => ?_
  rw [AList.lookup_empty] at found
  simp at found

theorem armed_run (kept : c.Kept) {application : Application}
    (landed : (application.run c applied).1 = true) {id : UInt32} (gives : application.Gives id)
    (found : (application.run c applied).2.effects.lookup id = some e) : Armed applied e := by
  cases application with
  | tryStatus sourceActorId statusId durationS magnitude tickMs tier =>
      cases gives
      exact armed_added kept (isStance_of_flags (.inl rfl)) landed found
  | awardBattleExp =>
      cases gives
      exact armed_added kept (isStance_of_flags (.inr rfl)) landed found
  | login entries => exact armed_hydrate c.ownerActorId entries id e found

theorem kept_run (kept : c.Kept) (application : Application) :
    (application.run c applied).2.Kept := by
  cases application with
  | tryStatus sourceActorId statusId durationS magnitude tickMs tier =>
      exact (StatusEffectContainer.add_carries kept _ _ _ _).kept
  | awardBattleExp => exact (StatusEffectContainer.add_carries kept _ _ _ _).kept
  | login entries => exact StatusWorld.kept_hydrate _ _ entries

end Applying

/-! ### Runs of passes -/

namespace Watch

variable {start applied : UInt64} {id : UInt32} {e : StatusEffect Potency} {w w' : Watch}
  {p : TickerPass}

/-- The effect as it was applied, but for its last firing, which is by the clock of the ticker
as soon as there has been one. -/
structure Follows (start applied : UInt64) (id : UInt32) (e : StatusEffect Potency) (w : Watch) :
    Prop where
  running : start ≤ applied
  later : applied ≤ w.wall
  keyed : ∀ k e', w.container.effects.lookup k = some e' → e'.id = k
  same : ∀ e', w.container.effects.lookup id = some e' →
    e'.isStance = false ∧ e'.endTime = e.endTime ∧ e'.tickMs = e.tickMs ∧
      (w.fired = appliedAtMs applied ∧ e'.lastTickMs = appliedAtMs applied ∨
        appliedAtMs applied < w.fired ∧ start ≤ w.fired ∧ w.fired ≤ w.wall ∧
          e'.lastTickMs = serverNowMs start w.fired)

theorem toNat_serverNowMs {wall : UInt64} (running : start ≤ wall) :
    (serverNowMs start wall).toNat = wall.toNat - start.toNat :=
  UInt64.toNat_sub_of_le _ _ running

theorem step_eq_some (taken : w.step start id p = some w') :
    (w.wall ≤ p.wall ∧ p.order.Perm (w.container.effects.entries.map (·.1))) ∧
      w' = { container := (w.tick start p).1, wall := p.wall,
             fired := if (w.tick start p).2.any (·.isTick id) then p.wall else w.fired } := by
  rw [step] at taken
  split at taken
  · next able => exact ⟨able, (Option.some.inj taken).symm⟩
  · simp at taken

theorem applied_le (applied : UInt64) : appliedAtMs applied ≤ applied := by
  rw [UInt64.le_iff_toNat_le, toNat_appliedAtMs]
  have small := Nat.mod_le (applied.toNat / 1000) (2 ^ 32)
  omega

variable {e' : StatusEffect Potency}

theorem due_late (follows : Follows start applied id e w)
    (found : w.container.effects.lookup id = some e') {nowMs : UInt64}
    (due : StatusEffectContainer.Due nowMs e') (passed : w.wall ≤ p.wall)
    (now : nowMs = serverNowMs start p.wall) : appliedAtMs applied < p.wall := by
  obtain ⟨interval, elapsed⟩ := due
  have positive : 0 < e'.tickMs.toNat :=
    Nat.pos_of_ne_zero fun none => interval (UInt32.toNat_inj.mp none)
  have late := applied_le applied
  have later := follows.later
  rw [UInt64.le_iff_toNat_le] at late later passed
  rw [UInt64.lt_iff_toNat_lt]
  obtain ⟨_, _, _, first | ⟨fired, _, fired_le, _⟩⟩ := follows.same e' found
  · have running : start ≤ p.wall := by
      have begun := follows.running
      rw [UInt64.le_iff_toNat_le] at begun ⊢
      omega
    rw [now, toNat_serverNowMs running, first.2] at elapsed
    omega
  · rw [UInt64.lt_iff_toNat_lt] at fired
    rw [UInt64.le_iff_toNat_le] at fired_le
    omega

theorem Follows.step (follows : Follows start applied id e w)
    (taken : w.step start id p = some w') : Follows start applied id e w' := by
  obtain ⟨⟨passed, listed⟩, rfl⟩ := step_eq_some taken
  have later : applied ≤ p.wall := UInt64.le_trans follows.later passed
  have lookup := StatusEffectContainer.lookup_update listed (serverNowMs start p.wall)
    p.mods p.passive
  have ticks := StatusEffectContainer.isTick_update_iff listed (serverNowMs start p.wall)
    p.mods p.passive follows.keyed id
  refine ⟨follows.running, later, fun k e' found => ?_, fun e' found => ?_⟩
  · rw [tick, lookup] at found
    obtain ⟨old, here, result⟩ := Option.bind_eq_some_iff.mp found
    split at result
    · simp at result
    · obtain rfl := Option.some.inj result
      exact (StatusEffectContainer.update_ticked _ old).1.trans (follows.keyed k old here)
  · rw [tick, lookup] at found
    obtain ⟨old, here, result⟩ := Option.bind_eq_some_iff.mp found
    obtain ⟨finite, ends, interval, fired⟩ := follows.same old here
    split at result
    · simp at result
    · obtain rfl := Option.some.inj result
      dsimp only
      by_cases due : StatusEffectContainer.Due (serverNowMs start p.wall) old
      · have fires : (w.tick start p).2.any (·.isTick id) = true := ticks.mpr ⟨old, here, due⟩
        have now : (old.update (serverNowMs start p.wall)).2.1 =
            { old with lastTickMs := serverNowMs start p.wall } := if_pos due
        rw [if_pos fires, now]
        exact ⟨finite, ends, interval, .inr ⟨due_late follows here due passed rfl,
          UInt64.le_trans follows.running later, UInt64.le_refl _, rfl⟩⟩
      · have silent : ¬ (w.tick start p).2.any (·.isTick id) = true := by
          intro fires
          obtain ⟨e', found', due'⟩ := ticks.mp fires
          obtain rfl := Option.some.inj (here.symm.trans found')
          exact due due'
        have now : (old.update (serverNowMs start p.wall)).2.1 = old := if_neg due
        rw [if_neg silent, now]
        refine ⟨finite, ends, interval, fired.imp_right fun late => ?_⟩
        exact ⟨late.1, late.2.1, UInt64.le_trans late.2.2.1 passed, late.2.2.2⟩

theorem fires_iff (follows : Follows start applied id e w)
    (found : w.container.effects.lookup id = some e') (passed : w.wall ≤ p.wall) :
    (StatusEffectContainer.Due (serverNowMs start p.wall) e' ↔
        e.tickMs ≠ 0 ∧ w.fired.toNat + e.tickMs.toNat ≤ p.wall.toNat) ↔
      (e.tickMs ≠ 0 → w.fired = appliedAtMs applied →
        ((appliedAtMs applied).toNat + e.tickMs.toNat ≤ p.wall.toNat ↔
          (appliedAtMs applied).toNat + e.tickMs.toNat ≤ (serverNowMs start p.wall).toNat)) := by
  obtain ⟨_, _, interval, fired⟩ := follows.same e' found
  rw [StatusEffectContainer.Due, interval]
  by_cases periodic : e.tickMs = 0
  · simp [periodic]
  · have positive : 0 < e.tickMs.toNat :=
      Nat.pos_of_ne_zero fun none => periodic (UInt32.toNat_inj.mp none)
    have running : start ≤ p.wall :=
      UInt64.le_trans follows.running (UInt64.le_trans follows.later passed)
    simp only [ne_eq, periodic, not_false_eq_true, true_and, true_implies]
    rcases fired with ⟨first, last⟩ | ⟨late, after, before, last⟩
    · rw [first, last, imp_iff_right rfl]
      omega
    · have other : w.fired ≠ appliedAtMs applied := fun same => by
        rw [same] at late
        exact absurd late (UInt64.lt_irrefl _)
      have between : w.fired.toNat ≤ p.wall.toNat :=
        UInt64.le_iff_toNat_le.mp (UInt64.le_trans before passed)
      rw [last, toNat_serverNowMs running, toNat_serverNowMs after]
      rw [UInt64.le_iff_toNat_le] at after running
      refine iff_of_true ?_ fun same => absurd same other
      omega

theorem goes_iff (armed : Armed applied e) (bounded : deadline applied e < 2 ^ 32)
    (follows : Follows start applied id e w) (found : w.container.effects.lookup id = some e')
    (listed : p.order.Perm (w.container.effects.entries.map (·.1))) :
    (w.tick start p).1.effects.lookup id = none ↔ 0 < deadline applied e ∧
      deadline applied e ≤ (StatusEffect.nowSeconds (serverNowMs start p.wall)).toNat := by
  obtain ⟨finite, ends, _⟩ := follows.same e' found
  have seconds := armed.toNat_endTime bounded
  have ended : (e'.update (serverNowMs start p.wall)).1 = true ↔ 0 < deadline applied e ∧
      deadline applied e ≤ (StatusEffect.nowSeconds (serverNowMs start p.wall)).toNat := by
    rw [StatusEffect.update]
    simp only [finite, ends, Bool.not_false, Bool.true_and, Bool.and_eq_true, bne_iff_ne,
      decide_eq_true_eq]
    rw [UInt32.le_iff_toNat_le, seconds, ← seconds, Nat.pos_iff_ne_zero, ne_eq, ne_eq,
      ← UInt32.toNat_inj]
    rfl
  rw [tick, StatusEffectContainer.lookup_update listed, found, Option.bind_some, ← ended]
  split
  · next goes => exact iff_of_true rfl goes
  · next stays => exact iff_of_false (by simp) stays

theorem behaves_iff (armed : Armed applied e) (bounded : deadline applied e < 2 ^ 32)
    (follows : Follows start applied id e w) (taken : w.step start id p = some w') :
    w.Behaves start id applied e p ↔ w.Punctual start id applied e p := by
  obtain ⟨⟨passed, listed⟩, _⟩ := step_eq_some taken
  apply imp_congr_right
  intro present
  obtain ⟨e', found⟩ := Option.isSome_iff_exists.mp present
  have ticks : (w.tick start p).2.any (·.isTick id) = true ↔
      StatusEffectContainer.Due (serverNowMs start p.wall) e' := by
    rw [tick, StatusEffectContainer.isTick_update_iff listed _ p.mods p.passive follows.keyed id]
    constructor
    · rintro ⟨other, found', due⟩
      obtain rfl := Option.some.inj (found.symm.trans found')
      exact due
    · intro due
      exact ⟨e', found, due⟩
  rw [goes_iff armed bounded follows found listed, ticks, fires_iff follows found passed]
  exact and_congr_left fun _ => iff_comm

end Watch

theorem shown_iff {applied : UInt64} {e : StatusEffect Potency} (armed : Armed applied e) :
    e.wireEndTime.toNat = Watch.deadline applied e ↔ Watch.deadline applied e < 2 ^ 32 := by
  have small := e.wireEndTime.toNat_lt
  refine ⟨fun same => same ▸ small, fun bounded => ?_⟩
  rw [StatusEffect.wireEndTime, armed.finite, if_neg (by decide), armed.toNat_endTime bounded]

/-- An effect that a call has given shows its end, goes with the first pass from then on and fires
in its interval exactly if the end fits the clock and every pass comes at a time of which the wall
clock and the clock of the ticker tell the same. -/
theorem effects_live_iff {c : StatusEffectContainer Potency} (kept : c.Kept)
    {start applied : UInt64} (running : start ≤ applied) {application : Application}
    (landed : (application.run c applied).1 = true) {id : UInt32} (gives : application.Gives id)
    {e : StatusEffect Potency}
    (found : (application.run c applied).2.effects.lookup id = some e)
    (passes : List TickerPass) :
    e.wireEndTime.toNat = Watch.deadline applied e ∧
        EachStep (Watch.step start id) (Watch.Behaves start id · applied e)
          ⟨(application.run c applied).2, applied, appliedAtMs applied⟩ passes ↔
      Watch.deadline applied e < 2 ^ 32 ∧
        EachStep (Watch.step start id) (Watch.Punctual start id · applied e)
          ⟨(application.run c applied).2, applied, appliedAtMs applied⟩ passes := by
  have armed := armed_run kept landed gives found
  rw [shown_iff armed]
  apply and_congr_right
  intro bounded
  have follows : Watch.Follows start applied id e
      ⟨(application.run c applied).2, applied, appliedAtMs applied⟩ := by
    refine ⟨running, UInt64.le_refl _, (kept_run kept application).keyed, fun e' found' => ?_⟩
    obtain rfl := Option.some.inj (found.symm.trans found')
    exact ⟨armed.finite, rfl, rfl, .inl ⟨rfl, armed.lastTickMs⟩⟩
  exact EachStep.congr_of_inv (I := Watch.Follows start applied id e)
    (fun w p w' held taken => Watch.behaves_iff armed bounded held taken)
    (fun w p w' held _ taken => held.step taken) follows

def poisoned : Application := .tryStatus 2 223011 30 (.finite 1) 3000 1

theorem poison_lives_at_first : ∃ e, (poisoned.run { ownerActorId := 1 } 1700000100000
    ).2.effects.lookup 223011 = some e ∧ e.wireEndTime.toNat = Watch.deadline 1700000100000 e ∧
      EachStep (Watch.step 1700000000000 223011)
        (Watch.Behaves 1700000000000 223011 · 1700000100000 e)
        ⟨(poisoned.run { ownerActorId := 1 } 1700000100000).2, 1700000100000,
          appliedAtMs 1700000100000⟩
        [⟨1700000101000, [223011], {}, {}⟩, ⟨1700000102000, [223011], {}, {}⟩] := by
  obtain ⟨e, found, duration, interval⟩ : ∃ e, (poisoned.run { ownerActorId := 1 } 1700000100000
      ).2.effects.lookup 223011 = some e ∧ e.duration = 30 ∧ e.tickMs = 3000 :=
    ⟨_, rfl, rfl, rfl⟩
  have ends : Watch.deadline 1700000100000 e = 1700000130 := by
    rw [Watch.deadline, duration]
    rfl
  have early (w : Watch) (p : TickerPass) (after : (1700000000000 : UInt64) ≤ p.wall)
      (soon : p.wall.toNat < 1700000103000) :
      w.Punctual 1700000000000 223011 1700000100000 e p := by
    have up := Watch.toNat_serverNowMs after
    have begun : (1700000000000 : UInt64).toNat = 1700000000000 := rfl
    have armed : (appliedAtMs 1700000100000).toNat = 1700000100000 := rfl
    have thousand : (1000 : UInt64).toNat = 1000 := rfl
    intro _
    rw [ends, interval, armed, StatusEffect.nowSeconds, UInt64.toNat_toUInt32, UInt64.toNat_div,
      up, begun, thousand]
    have three : (3000 : UInt32).toNat = 3000 := rfl
    rw [three]
    exact ⟨by omega, fun _ _ => by omega⟩
  have bounded : Watch.deadline 1700000100000 e < 2 ^ 32 := by
    rw [ends]
    decide
  have gives : poisoned.Gives 223011 := rfl
  refine ⟨e, found, (effects_live_iff (StatusEffectContainer.kept_new 1) (by decide) rfl gives
    found _).mpr ⟨bounded, fun w _ => ⟨early _ _ (by decide) (by decide), fun w' _ => ?_⟩⟩⟩
  exact ⟨early _ _ (by decide) (by decide), trivial⟩

/-- A pass a minute and a half later, when the poison should be gone for a minute. -/
theorem poison_outlives_its_duration :
    (poisoned.run { ownerActorId := 1 } 1700000100000).1 = true ∧
      ∃ e w, (poisoned.run { ownerActorId := 1 } 1700000100000).2.effects.lookup 223011 = some e ∧
        Watch.step 1700000000000 223011
          ⟨(poisoned.run { ownerActorId := 1 } 1700000100000).2, 1700000100000,
            appliedAtMs 1700000100000⟩
          ⟨1700000190000, [223011], {}, {}⟩ = some w ∧
        Watch.deadline 1700000100000 e ≤ 1700000190000 / 1000 ∧
          (w.container.effects.lookup 223011).isSome = true ∧ w.fired = 1700000100000 :=
  ⟨rfl, _, _, rfl, rfl, by decide, rfl, rfl⟩

end Garlemald.Status
