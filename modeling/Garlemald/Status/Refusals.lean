import Garlemald.Status.IconMirror

/-!
What an effect that is turned away leaves behind. The overwrite rule refuses before
anything is done; the cap refuses last, with the text of the gain already queued and,
where the effect was to overwrite another, with that one already taken out.
-/

namespace Garlemald.Status
open Library

namespace StatusEffectContainer

variable {μ : Type} {c : StatusEffectContainer μ} {effect : StatusEffect μ}

theorem enterEffect_full (full : maxEffects ≤ c.effects.entries.length) (prior : Option Nat)
    (sourceActorId : UInt32) (nowMs : UInt64) :
    c.enterEffect prior effect sourceActorId nowMs = (false, c, []) := by
  rw [enterEffect, if_pos full]

theorem enterEffect_room (room : c.effects.entries.length < maxEffects) (prior : Option Nat)
    (sourceActorId : UInt32) (nowMs : UInt64) :
    (c.enterEffect prior effect sourceActorId nowMs).1 = true := by
  rw [enterEffect, if_neg (Nat.not_le.mpr room)]

def gainText (c : StatusEffectContainer μ) (effect : StatusEffect μ) (textId : UInt16) :
    List StatusEvent :=
  if effect.silentOnGain then [] else [.worldMasterText c.ownerActorId textId effect.id true]

theorem gainText_eq_nil {textId : UInt16} :
    c.gainText effect textId = [] ↔ effect.silentOnGain = true := by
  rw [gainText]
  cases effect.silentOnGain <;> simp

/-- A call that returns false changes and sends nothing; one that returns true leaves one
effect with the id and every effect with another id as it was. -/
structure AddsOrRefuses (c : StatusEffectContainer μ) (id : UInt32)
    (result : Bool × StatusEffectContainer μ × List StatusEvent) : Prop where
  refused : result.1 = false → result.2.1 = c ∧ result.2.2 = []
  active : result.1 = true →
    ∃ e, e.id = id ∧ ∀ x, (⟨id, x⟩ : Sigma _) ∈ result.2.1.effects.entries ↔ x = e
  others : result.1 = true →
    ∀ other, other ≠ id → result.2.1.effects.lookup other = c.effects.lookup other

theorem mem_entries_insert (t : Table UInt32 (StatusEffect μ)) (id : UInt32)
    (n x : StatusEffect μ) : (⟨id, x⟩ : Sigma _) ∈ (t.insert id n).entries ↔ x = n := by
  rw [← AList.mem_lookup_iff, AList.lookup_insert, Option.mem_some_iff, eq_comm]

theorem Entered.addsOrRefuses {c' : StatusEffectContainer μ} {n : StatusEffect μ}
    {events : List StatusEvent} (entered : Entered c c' n events) :
    AddsOrRefuses c n.id (true, c', events) := by
  refine ⟨by simp, fun _ => ⟨n, rfl, fun x => ?_⟩, fun _ other apart => ?_⟩
  · rw [entered.effects]
    exact mem_entries_insert c.effects n.id n x
  · rw [entered.effects]
    exact AList.lookup_insert_ne apart

section Add

variable [LT μ] [LE μ] [DecidableLT μ] [DecidableLE μ]

theorem add_shut {old : StatusEffect μ} (found : c.effects.lookup effect.id = some old)
    (shut : old.admits effect = false) (sourceActorId : UInt32) (nowMs : UInt64)
    (textId : UInt16) :
    c.addStatusEffect effect sourceActorId nowMs textId = (false, c, []) := by
  simp only [addStatusEffect, found, Option.any_some, shut, Option.isSome_some, Bool.not_false,
    Bool.and_self, if_true]

theorem add_admitted {old : StatusEffect μ} (found : c.effects.lookup effect.id = some old)
    (admitted : old.admits effect = true) (sourceActorId : UInt32) (nowMs : UInt64)
    (textId : UInt16) :
    c.addStatusEffect effect sourceActorId nowMs textId =
      let added := { c with effects := c.effects.erase effect.id }.enterEffect
        (c.slotOf effect.statusId) effect sourceActorId nowMs
      (added.1, added.2.1, c.gainText effect textId ++ added.2.2) := by
  simp only [addStatusEffect, found, Option.any_some, admitted, Option.isSome_some, Bool.not_true,
    Bool.and_false, Bool.false_eq_true, if_false, if_true, gainText]

theorem add_fresh (absent : c.effects.lookup effect.id = none) (sourceActorId : UInt32)
    (nowMs : UInt64) (textId : UInt16) :
    c.addStatusEffect effect sourceActorId nowMs textId =
      let added := c.enterEffect none effect sourceActorId nowMs
      (added.1, added.2.1, c.gainText effect textId ++ added.2.2) := by
  simp only [addStatusEffect, absent, Option.any_none, Option.isSome_none, Bool.false_and,
    Bool.false_eq_true, if_false, gainText]

/-- What the call settles before it counts the effects leaves nothing to take back. -/
def RefusesQuietly (c : StatusEffectContainer μ) (effect : StatusEffect μ) : Prop :=
  match c.effects.lookup effect.id with
  | some old => old.admits effect = true → c.effects.entries.length ≤ maxEffects
  | none => c.effects.entries.length < maxEffects ∨ effect.silentOnGain = true

theorem add_true (few : c.effects.entries.length ≤ maxEffects) (accepted : c.Accepts effect)
    (sourceActorId : UInt32) (nowMs : UInt64) (textId : UInt16) :
    (c.addStatusEffect effect sourceActorId nowMs textId).1 = true := by
  rw [Accepts] at accepted
  cases found : c.effects.lookup effect.id with
  | none =>
      rw [found] at accepted
      rw [add_fresh found]
      exact enterEffect_room accepted ..
  | some old =>
      rw [found] at accepted
      rw [add_admitted found accepted]
      apply enterEffect_room
      have length := length_erase found
      change (c.effects.erase effect.id).entries.length < maxEffects
      omega

theorem add_accepts (few : c.effects.entries.length ≤ maxEffects) (accepted : c.Accepts effect)
    (sourceActorId : UInt32) (nowMs : UInt64) (textId : UInt16) :
    AddsOrRefuses c effect.id (c.addStatusEffect effect sourceActorId nowMs textId) := by
  have entered := (add_accepted few accepted sourceActorId nowMs textId).addsOrRefuses
  rw [← add_true few accepted sourceActorId nowMs textId] at entered
  exact entered

/-- An effect is added or refused as a whole exactly if the cap finds nothing done. -/
theorem add_atomic_iff (c : StatusEffectContainer μ) (effect : StatusEffect μ)
    (sourceActorId : UInt32) (nowMs : UInt64) (textId : UInt16) :
    AddsOrRefuses c effect.id (c.addStatusEffect effect sourceActorId nowMs textId) ↔
      c.RefusesQuietly effect := by
  rw [RefusesQuietly]
  cases found : c.effects.lookup effect.id with
  | none =>
      by_cases room : c.effects.entries.length < maxEffects
      · have accepted : c.Accepts effect := by
          rw [Accepts, found]
          exact room
        exact iff_of_true (add_accepts room.le accepted ..) (.inl room)
      · have full : c.enterEffect none effect sourceActorId nowMs = (false, c, []) :=
          enterEffect_full (Nat.not_lt.mp room) none sourceActorId nowMs
        have silence : c.gainText effect textId = [] ↔ effect.silentOnGain = true :=
          gainText_eq_nil
        rw [add_fresh found, full, ← silence]
        constructor
        · intro whole
          obtain ⟨_, silent⟩ := whole.refused rfl
          exact .inr ((List.append_nil _).symm.trans silent)
        · intro quiet
          have silent := quiet.resolve_left room
          rw [silent]
          exact ⟨fun _ => ⟨rfl, rfl⟩, by simp, by simp⟩
  | some old =>
      cases admitted : old.admits effect with
      | false =>
          rw [add_shut found admitted]
          refine iff_of_true ⟨fun _ => ⟨rfl, rfl⟩, by simp, by simp⟩ fun admits => ?_
          rw [admitted] at admits
          contradiction
      | true =>
          by_cases few : c.effects.entries.length ≤ maxEffects
          · have accepted : c.Accepts effect := by
              rw [Accepts, found]
              exact admitted
            exact iff_of_true (add_accepts few accepted ..) fun _ => few
          · have length := length_erase found
            have full : maxEffects ≤ (c.effects.erase effect.id).entries.length := by omega
            rw [add_admitted found admitted,
              enterEffect_full (c := { c with effects := c.effects.erase effect.id }) full]
            refine iff_of_false (fun whole => ?_) fun quiet => few (quiet admitted)
            -- The effect that was to be overwritten is gone.
            obtain ⟨same, _⟩ := whole.refused rfl
            have gone := AList.lookup_erase effect.id c.effects
            have kept : c.effects.erase effect.id = c.effects :=
              congrArg StatusEffectContainer.effects same
            rw [kept, found] at gone
            contradiction

end Add

/-- A visible effect of a minute with its gain text. -/
def minute (id : UInt32) : StatusEffect ℕ where
  ownerActorId := 1
  sourceActorId := 1
  id
  startTime := 0
  endTime := 0
  lastTickMs := 0
  duration := 60
  tickMs := 0
  magnitude := 1
  flags := 0
  overwrite := .none
  silentOnGain := false
  silentOnLoss := false
  hidden := false
  statusLossTextId := defaultLossTextId

/-- The container of actor 1 after twenty effects, one after the other. -/
def crowded : StatusEffectContainer ℕ :=
  (List.range 20).foldl (fun c i =>
    (c.addStatusEffect (minute (223001 + UInt32.ofNat i)) 1 5000 defaultGainTextId).2.1)
    { ownerActorId := 1 }

set_option maxRecDepth 1000 in
theorem refused_is_announced :
    ¬ AddsOrRefuses crowded 223050
      (crowded.addStatusEffect (minute 223050) 1 5000 defaultGainTextId) := by
  intro whole
  obtain ⟨_, silent⟩ := whole.refused (by decide)
  exact absurd silent (by decide)

end StatusEffectContainer
end Garlemald.Status
