import Garlemald.Status.Container

/-!
What each call does to the active effects and to the icon slots. The packets of a call
take the slots of a client that has seen all before to where the server's go.
-/

namespace Garlemald.Status
open Library

variable {μ : Type}

/-! ### The client -/

structure Client where
  status : List UInt16 := List.replicate maxEffects 0
  statusShownTime : List UInt32 := List.replicate maxEffects 0
deriving DecidableEq, Repr

namespace Client

def receive (client : Client) : StatusEvent → Client
  | .packetSetStatus _ slotIndex statusId =>
      { client with status := client.status.set slotIndex statusId }
  | .packetSetStatusTime _ slotIndex expiresAt =>
      { client with statusShownTime := client.statusShownTime.set slotIndex expiresAt }
  | _ => client

def replay (client : Client) (events : List StatusEvent) : Client := events.foldl receive client

def write (client : Client) (index : Nat) (statusId : UInt16) (expiresAt : UInt32) : Client :=
  ⟨client.status.set index statusId, client.statusShownTime.set index expiresAt⟩

/-- The slots with a short id put into the slot that shows it or into an empty one. -/
def showing (client : Client) (statusId : UInt16) (expiresAt : UInt32) : Client :=
  match (client.status.findIdx? (· == statusId)).or (client.status.findIdx? (· == 0)) with
  | some index => client.write index statusId expiresAt
  | none => client

def moving (client : Client) (old statusId : UInt16) (expiresAt : UInt32) : Client :=
  match client.status.findIdx? (· == old) with
  | some index => client.write index statusId expiresAt
  | none => client

@[simp] theorem replay_append (client : Client) (first second : List StatusEvent) :
    client.replay (first ++ second) = (client.replay first).replay second :=
  List.foldl_append

end Client

namespace StatusEffectContainer

def icons (c : StatusEffectContainer μ) : Client := ⟨c.status, c.statusShownTime⟩

theorem icons_setStatusAtIndex (c : StatusEffectContainer μ) (index : Nat) (statusId : UInt16) :
    (c.setStatusAtIndex index statusId).1.icons =
      ⟨c.status.set index statusId, c.statusShownTime⟩ := by
  rw [setStatusAtIndex]
  split
  · rfl
  · next outside =>
      rw [List.set_eq_of_length_le (Nat.not_lt.mp outside)]
      rfl

theorem icons_setTimeAtIndex (c : StatusEffectContainer μ) (index : Nat) (expiresAt : UInt32) :
    (c.setTimeAtIndex index expiresAt).1.icons =
      ⟨c.status, c.statusShownTime.set index expiresAt⟩ := by
  rw [setTimeAtIndex]
  split
  · rfl
  · next outside =>
      rw [List.set_eq_of_length_le (Nat.not_lt.mp outside)]
      rfl

theorem icons_setSlot (c : StatusEffectContainer μ) (index : Nat) (statusId : UInt16)
    (expiresAt : UInt32) :
    (c.setSlot index statusId expiresAt).1.icons = c.icons.write index statusId expiresAt := by
  have first := icons_setStatusAtIndex c index statusId
  simp only [icons, Client.mk.injEq] at first
  simp only [setSlot, icons_setTimeAtIndex, first.1, first.2]
  rfl

def Sends (c c' : StatusEffectContainer μ) (events : List StatusEvent) : Prop :=
  c.icons.replay events = c'.icons

theorem sends_setStatusAtIndex (c : StatusEffectContainer μ) (index : Nat) (statusId : UInt16) :
    Sends c (c.setStatusAtIndex index statusId).1 (c.setStatusAtIndex index statusId).2 := by
  rw [setStatusAtIndex]
  split <;> rfl

theorem sends_setTimeAtIndex (c : StatusEffectContainer μ) (index : Nat) (expiresAt : UInt32) :
    Sends c (c.setTimeAtIndex index expiresAt).1 (c.setTimeAtIndex index expiresAt).2 := by
  rw [setTimeAtIndex]
  split <;> rfl

theorem Sends.append {c d e : StatusEffectContainer μ} {first second : List StatusEvent}
    (before : Sends c d first) (behind : Sends d e second) : Sends c e (first ++ second) := by
  rw [Sends] at *
  rw [Client.replay_append, before, behind]

theorem sends_setSlot (c : StatusEffectContainer μ) (index : Nat) (statusId : UInt16)
    (expiresAt : UInt32) :
    Sends c (c.setSlot index statusId expiresAt).1 (c.setSlot index statusId expiresAt).2 :=
  (sends_setStatusAtIndex c index statusId).append (sends_setTimeAtIndex _ index expiresAt)

def Silent (events : List StatusEvent) : Prop := ∀ client : Client, client.replay events = client

theorem Sends.of_silent {c c' : StatusEffectContainer μ} {events : List StatusEvent}
    (silent : Silent events) (same : c'.icons = c.icons) : Sends c c' events := by
  rw [Sends, silent, same]

/-! ### What each call does -/

@[simp] theorem setSlot_effects (c : StatusEffectContainer μ) (index : Nat) (statusId : UInt16)
    (expiresAt : UInt32) : (c.setSlot index statusId expiresAt).1.effects = c.effects := by
  simp only [setSlot, setTimeAtIndex, setStatusAtIndex]
  split <;> split <;> rfl

theorem showEffect_spec (c : StatusEffectContainer μ) (effect : StatusEffect μ) {prior : Option Nat}
    (slot : prior = none ∨ prior = c.slotOf effect.statusId) :
    (c.showEffect prior effect).1.effects = c.effects ∧
      (c.showEffect prior effect).1.icons = (if effect.hidden then c.icons
        else c.icons.showing effect.statusId effect.wireEndTime) ∧
      Sends c (c.showEffect prior effect).1 (c.showEffect prior effect).2 := by
  have same : prior.or (c.slotOf effect.statusId) = c.slotOf effect.statusId := by
    cases slot with
    | inl fresh => rw [fresh, Option.none_or]
    | inr kept =>
        rw [kept]
        cases c.slotOf effect.statusId <;> rfl
  rw [showEffect, same]
  cases effect.hidden with
  | true => exact ⟨rfl, rfl, rfl⟩
  | false =>
      have target : (c.slotOf effect.statusId).or (c.slotOf 0) =
          (c.icons.status.findIdx? (· == effect.statusId)).or
            (c.icons.status.findIdx? (· == 0)) := rfl
      simp only [Bool.false_eq_true, if_false, Client.showing, ← target]
      cases (c.slotOf effect.statusId).or (c.slotOf 0) with
      | none => exact ⟨rfl, rfl, rfl⟩
      | some index => exact ⟨setSlot_effects .., icons_setSlot .., sends_setSlot ..⟩

theorem clearIcon_spec (c : StatusEffectContainer μ) (effect : StatusEffect μ) :
    (c.clearIcon effect).1.effects = c.effects ∧
      (c.clearIcon effect).1.icons = (if effect.hidden then c.icons
        else c.icons.moving effect.statusId 0 0) ∧
      Sends c (c.clearIcon effect).1 (c.clearIcon effect).2 := by
  rw [clearIcon]
  cases effect.hidden with
  | true => exact ⟨rfl, rfl, rfl⟩
  | false =>
      have target : c.slotOf effect.statusId =
          c.icons.status.findIdx? (· == effect.statusId) := rfl
      simp only [Bool.false_eq_true, if_false, Client.moving, ← target]
      cases c.slotOf effect.statusId with
      | none => exact ⟨rfl, rfl, rfl⟩
      | some index => exact ⟨setSlot_effects .., icons_setSlot .., sends_setSlot ..⟩

theorem moveIcon_spec (c : StatusEffectContainer μ) (old new : StatusEffect μ) :
    (c.moveIcon old new).1.effects = c.effects ∧
      (c.moveIcon old new).1.icons =
        c.icons.moving old.statusId new.statusId new.wireEndTime ∧
      Sends c (c.moveIcon old new).1 (c.moveIcon old new).2 := by
  have target : c.slotOf old.statusId = c.icons.status.findIdx? (· == old.statusId) := rfl
  simp only [moveIcon, Client.moving, ← target]
  cases c.slotOf old.statusId with
  | none => exact ⟨rfl, rfl, rfl⟩
  | some index =>
      have emptied := icons_setStatusAtIndex c index 0
      refine ⟨?_, ?_, (sends_setStatusAtIndex ..).append (sends_setSlot ..)⟩
      · rw [setSlot_effects, setStatusAtIndex]
        split <;> rfl
      · rw [icons_setSlot, emptied]
        simp only [Client.write, List.set_set]
        rfl

theorem silent_gain (effect : StatusEffect μ) (e : StatusEvent) (silent : Silent [e]) :
    Silent (if effect.silentOnGain then [] else [e]) := by
  intro client
  cases effect.silentOnGain with
  | true => rfl
  | false => exact silent client

def started (c : StatusEffectContainer μ) (effect : StatusEffect μ) (sourceActorId : UInt32)
    (nowMs : UInt64) : StatusEffect μ :=
  { effect with ownerActorId := c.ownerActorId, sourceActorId := sourceActorId }.begin nowMs

structure Entered (c c' : StatusEffectContainer μ) (n : StatusEffect μ)
    (events : List StatusEvent) : Prop where
  effects : c'.effects = c.effects.insert n.id n
  icons : c'.icons = if n.hidden then c.icons else c.icons.showing n.statusId n.wireEndTime
  sends : Sends c c' events

variable {c : StatusEffectContainer μ}

theorem enterEffect_spec (effect : StatusEffect μ) (prior : Option Nat)
    (slot : prior = none ∨ prior = c.slotOf effect.statusId)
    (room : c.effects.entries.length < maxEffects) (sourceActorId : UInt32) (nowMs : UInt64) :
    Entered c (c.enterEffect prior effect sourceActorId nowMs).2.1
      (c.started effect sourceActorId nowMs)
      (c.enterEffect prior effect sourceActorId nowMs).2.2 := by
  obtain ⟨effects, icons, sends⟩ := c.showEffect_spec (c.started effect sourceActorId nowMs) slot
  rw [enterEffect, if_neg (Nat.not_le.mpr room)]
  refine ⟨congrArg (AList.insert _ _) effects, icons, ?_⟩
  apply Sends.append (.append (.of_silent (fun _ => rfl) rfl) sends)
  exact .of_silent (fun _ => rfl) rfl

section Add

variable [LT μ] [LE μ] [DecidableLT μ] [DecidableLE μ]

/-- The effect is new and there is room, or the active one with its id lets it in. -/
def Accepts (c : StatusEffectContainer μ) (effect : StatusEffect μ) : Prop :=
  match c.effects.lookup effect.id with
  | some old => old.admits effect = true
  | none => c.effects.entries.length < maxEffects

theorem add_refused {effect : StatusEffect μ} (refused : ¬ c.Accepts effect)
    (sourceActorId : UInt32) (nowMs : UInt64) (textId : UInt16) :
    (c.addStatusEffect effect sourceActorId nowMs textId).2.1 = c ∧
      Sends c c (c.addStatusEffect effect sourceActorId nowMs textId).2.2 := by
  rw [Accepts] at refused
  cases found : c.effects.lookup effect.id with
  | some old =>
      rw [found] at refused
      have shut : old.admits effect = false := Bool.eq_false_iff.mpr refused
      simp only [addStatusEffect, found, Option.any_some, shut, Option.isSome_some,
        Bool.not_false, Bool.and_self, if_true]
      exact ⟨trivial, rfl⟩
  | none =>
      rw [found] at refused
      have full := Nat.not_lt.mp refused
      simp only [addStatusEffect, found, Option.any_none, Option.isSome_none, Bool.false_and,
        Bool.false_eq_true, if_false, enterEffect, full, if_true, List.append_nil]
      exact ⟨trivial, .of_silent (silent_gain effect _ fun _ => rfl) rfl⟩

theorem add_accepted (few : c.effects.entries.length ≤ maxEffects) {effect : StatusEffect μ}
    (accepted : c.Accepts effect) (sourceActorId : UInt32) (nowMs : UInt64) (textId : UInt16) :
    Entered c (c.addStatusEffect effect sourceActorId nowMs textId).2.1
      (c.started effect sourceActorId nowMs)
      (c.addStatusEffect effect sourceActorId nowMs textId).2.2 := by
  have silent : Silent (if effect.silentOnGain then []
      else [.worldMasterText c.ownerActorId textId effect.id true]) :=
    silent_gain effect _ fun _ => rfl
  rw [Accepts] at accepted
  cases found : c.effects.lookup effect.id with
  | some old =>
      rw [found] at accepted
      have length := (Table.entries_perm_erase found).length_eq
      rw [List.length_cons] at length
      have entered := enterEffect_spec (c := { c with effects := c.effects.erase effect.id })
        effect (c.slotOf effect.statusId) (Or.inr rfl) (by simp only; omega) sourceActorId nowMs
      simp only [addStatusEffect, found, Option.any_some, accepted, Option.isSome_some,
        Bool.not_true, Bool.and_false, Bool.false_eq_true, if_false, if_true]
      refine ⟨?_, entered.icons, .append (.of_silent silent rfl) entered.sends⟩
      rw [entered.effects]
      exact Table.insert_erase _ effect.id _
  | none =>
      rw [found] at accepted
      have entered := enterEffect_spec effect none (Or.inl rfl)
        accepted sourceActorId nowMs
      simp only [addStatusEffect, found, Option.any_none, Option.isSome_none, Bool.false_and,
        Bool.false_eq_true, if_false]
      exact ⟨entered.effects, entered.icons, .append (.of_silent silent rfl) entered.sends⟩

end Add

theorem silent_loss (effect : StatusEffect μ) (e : StatusEvent) (silent : Silent [e]) :
    Silent (if effect.silentOnLoss then [] else [e]) := by
  intro client
  cases effect.silentOnLoss with
  | true => rfl
  | false => exact silent client

theorem remove_absent {id : UInt32} (absent : c.effects.lookup id = none) (textId : UInt16)
    (playEffect : Bool) :
    c.removeStatusEffect id textId playEffect = (false, c, []) := by
  rw [removeStatusEffect, absent]

structure Removed (c c' : StatusEffectContainer μ) (id : UInt32) (e : StatusEffect μ)
    (events : List StatusEvent) : Prop where
  effects : c'.effects = c.effects.erase id
  icons : c'.icons = if e.hidden then c.icons else c.icons.moving e.statusId 0 0
  sends : Sends c c' events

theorem remove_present {id : UInt32} {e : StatusEffect μ} (found : c.effects.lookup id = some e)
    (textId : UInt16) (playEffect : Bool) :
    Removed c (c.removeStatusEffect id textId playEffect).2.1 id e
      (c.removeStatusEffect id textId playEffect).2.2 := by
  obtain ⟨effects, icons, sends⟩ := c.clearIcon_spec e
  simp only [removeStatusEffect, found]
  refine ⟨congrArg (AList.erase id) effects, icons, ?_⟩
  apply Sends.append (.append (.of_silent (silent_loss e _ fun _ => rfl) rfl) sends)
  exact .of_silent (fun _ => rfl) rfl

theorem replace_absent {oldId : UInt32} (absent : c.effects.lookup oldId = none)
    (new : StatusEffect μ) (nowMs : UInt64) :
    c.replaceEffect oldId new nowMs = (false, c, []) := by
  rw [replaceEffect, absent]

structure Replaced (c c' : StatusEffectContainer μ) (oldId : UInt32) (old n : StatusEffect μ)
    (events : List StatusEvent) : Prop where
  effects : c'.effects = (c.effects.erase oldId).insert n.id n
  icons : c'.icons = c.icons.moving old.statusId n.statusId n.wireEndTime
  sends : Sends c c' events

theorem replace_present {oldId : UInt32} {old : StatusEffect μ}
    (found : c.effects.lookup oldId = some old) (new : StatusEffect μ) (nowMs : UInt64) :
    Replaced c (c.replaceEffect oldId new nowMs).2.1 oldId old
      (c.started new new.sourceActorId nowMs) (c.replaceEffect oldId new nowMs).2.2 := by
  obtain ⟨effects, icons, sends⟩ :=
    ({ c with effects := c.effects.erase oldId } : StatusEffectContainer μ).moveIcon_spec old
      (c.started new new.sourceActorId nowMs)
  simp only [replaceEffect, found]
  refine ⟨congrArg (AList.insert _ _) effects, icons, ?_⟩
  apply Sends.append (.append (.of_silent (fun _ => rfl) rfl) sends)
  exact .of_silent (fun _ => rfl) rfl

end StatusEffectContainer

end Garlemald.Status
