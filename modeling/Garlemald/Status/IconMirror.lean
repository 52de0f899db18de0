import Garlemald.Status.IconSteps
import Garlemald.Library.Runs

/-!
The icon slots over whole runs of a container, with a client that is sent every packet. The
client's slots always follow the server's. Both show exactly the visible effects as long as
every effect that is entered or replaces another fits.
-/

namespace Garlemald.Status
open Library

variable {μ : Type}

theorem Client.Sized.showing {client : Client} (sized : client.Sized) (statusId : UInt16)
    (expiresAt : UInt32) : (client.showing statusId expiresAt).Sized := by
  rw [Client.showing]
  split
  · exact sized.write ..
  · exact sized

namespace StatusEffectContainer

variable {c c' d : StatusEffectContainer μ} {events : List StatusEvent}

theorem length_insert (t : Table UInt32 (StatusEffect μ)) (id : UInt32) (e : StatusEffect μ) :
    (t.insert id e).entries.length = (t.erase id).entries.length + 1 := by
  rw [AList.entries_insert]
  rfl

variable {t : Table UInt32 (StatusEffect μ)}

theorem length_erase {id : UInt32} {e : StatusEffect μ} (found : t.lookup id = some e) :
    t.entries.length = (t.erase id).entries.length + 1 :=
  (Table.entries_perm_erase found).length_eq

theorem length_erase_le (t : Table UInt32 (StatusEffect μ)) (id : UInt32) :
    (t.erase id).entries.length ≤ t.entries.length := by
  cases found : t.lookup id with
  | none => rw [Table.erase_absent found]
  | some e => exact length_erase found ▸ Nat.le_succ _

theorem keyed_insert {n : StatusEffect μ} (keyed : ∀ id e, t.lookup id = some e → e.id = id) :
    ∀ id e, (t.insert n.id n).lookup id = some e → e.id = id := by
  intro id e found
  by_cases own : id = n.id
  · rw [own, AList.lookup_insert] at found
    cases found
    exact own.symm
  · rw [AList.lookup_insert_ne own] at found
    exact keyed id e found

theorem keyed_erase {k : UInt32} (keyed : ∀ id e, t.lookup id = some e → e.id = id) :
    ∀ id e, (t.erase k).lookup id = some e → e.id = id := by
  intro id e found
  exact keyed id e (lookup_erase_iff.mp found).2

theorem Entered.kept (kept : c.Kept) {n : StatusEffect μ} (entered : Entered c c' n events)
    (room : (c.effects.erase n.id).entries.length < maxEffects) : c'.Kept := by
  refine ⟨?_, ?_, ?_⟩
  · rw [entered.icons]
    split
    · exact kept.sized
    · exact kept.sized.showing ..
  · rw [entered.effects]
    exact keyed_insert kept.keyed
  · rw [entered.effects, length_insert]
    exact room

theorem Removed.kept (kept : c.Kept) {id : UInt32} {e : StatusEffect μ}
    (removed : Removed c c' id e events) : c'.Kept := by
  refine ⟨?_, ?_, ?_⟩
  · rw [removed.icons]
    split
    · exact kept.sized
    · exact kept.sized.moving ..
  · rw [removed.effects]
    exact keyed_erase kept.keyed
  · rw [removed.effects]
    exact Nat.le_trans (length_erase_le ..) kept.few

theorem Replaced.kept (kept : c.Kept) {oldId : UInt32} {old n : StatusEffect μ}
    (found : c.effects.lookup oldId = some old) (replaced : Replaced c c' oldId old n events) :
    c'.Kept := by
  refine ⟨?_, ?_, ?_⟩
  · rw [replaced.icons]
    exact kept.sized.moving ..
  · rw [replaced.effects]
    exact keyed_insert (keyed_erase kept.keyed)
  · have before := length_erase found
    have shorter := length_erase_le (c.effects.erase oldId) n.id
    have few := kept.few
    rw [replaced.effects, length_insert]
    omega

/-! ### Calls that keep the mirror -/

/-- A call that leaves the slots right if they were, and the client's with them. -/
structure Carries (c c' : StatusEffectContainer μ) (events : List StatusEvent) : Prop where
  kept : c'.Kept
  icons : c.IconsMatch → c'.IconsMatch
  sends : Sends c c' events

theorem Carries.append {first second : List StatusEvent} (before : Carries c d first)
    (behind : Carries d c' second) : Carries c c' (first ++ second) :=
  ⟨behind.kept, fun icons => behind.icons (before.icons icons), before.sends.append behind.sends⟩

theorem Carries.of_steady (kept : c'.Kept) (same : c'.icons = c.icons)
    (shown : visible c'.effects = visible c.effects) (silent : Silent events) :
    Carries c c' events := by
  refine ⟨kept, fun icons => ?_, .of_silent silent same⟩
  rw [iconsMatch_iff, same, shown]
  exact iconsMatch_iff.mp icons

theorem Carries.refl (kept : c.Kept) : Carries c c [] :=
  .of_steady kept rfl rfl fun _ => rfl

theorem remove_carries (kept : c.Kept) (id : UInt32) (textId : UInt16) (playEffect : Bool) :
    Carries c (c.removeStatusEffect id textId playEffect).2.1
      (c.removeStatusEffect id textId playEffect).2.2 := by
  cases found : c.effects.lookup id with
  | none =>
      rw [remove_absent found]
      exact .refl kept
  | some e =>
      have removed := remove_present found textId playEffect
      exact ⟨removed.kept kept, fun icons => removed_match kept icons found removed, removed.sends⟩

theorem removeEach_carries (playEffect : Bool) (ids : List (UInt32 × UInt16)) (kept : c.Kept) :
    Carries c (removeEach playEffect ids c).1 (removeEach playEffect ids c).2 := by
  induction ids generalizing c with
  | nil => exact .refl kept
  | cons entry rest ih =>
      have first := remove_carries kept entry.1 entry.2 playEffect
      exact first.append (ih first.kept)

theorem removeExpired_carries (ids : List UInt32) (kept : c.Kept) :
    Carries c (removeExpired ids c).1 (removeExpired ids c).2 := by
  induction ids generalizing c with
  | nil => exact .refl kept
  | cons id rest ih =>
      have first := remove_carries kept id
        (((c.effects.lookup id).map (·.statusLossTextId)).getD defaultLossTextId) true
      exact first.append (ih first.kept)

theorem update_ticked (nowMs : UInt64) (e : StatusEffect μ) :
    (e.update nowMs).2.1.id = e.id ∧ (e.update nowMs).2.1.icon = e.icon := by
  simp only [StatusEffect.update]
  split
  · exact ⟨rfl, rfl⟩
  · exact ⟨rfl, rfl⟩

theorem silent_update (nowMs : UInt64) (e : StatusEffect μ) : Silent (e.update nowMs).2.2 := by
  intro client
  simp only [StatusEffect.update]
  split
  · exact rfl
  · exact rfl

theorem ticked_carries (kept : c.Kept) {id : UInt32} {e : StatusEffect μ}
    (found : c.effects.lookup id = some e) (nowMs : UInt64) :
    Carries c { c with effects := c.effects.insert id (e.update nowMs).2.1 }
      (e.update nowMs).2.2 := by
  obtain ⟨own, icon⟩ := update_ticked nowMs e
  have under : (e.update nowMs).2.1.id = id := own.trans (kept.keyed id e found)
  refine .of_steady ⟨kept.sized, ?_, ?_⟩ rfl ?_ (silent_update nowMs e)
  · have keyed := keyed_insert (n := (e.update nowMs).2.1) kept.keyed
    rw [under] at keyed
    exact keyed
  · have few := kept.few
    rw [length_erase found, ← length_insert] at few
    exact few
  · rw [visible_insert, icon, visible_cons (Table.entries_perm_erase found)]

theorem tickEach_carries (nowMs : UInt64) (order : List UInt32) (kept : c.Kept) :
    Carries c (tickEach nowMs order c).2.1 (tickEach nowMs order c).2.2 := by
  induction order generalizing c with
  | nil => exact .refl kept
  | cons id rest ih =>
      rw [tickEach]
      cases found : c.effects.lookup id with
      | none => exact ih kept
      | some e =>
          have first := ticked_carries kept found nowMs
          exact first.append (ih first.kept)

theorem Silent.append {first second : List StatusEvent} (before : Silent first)
    (behind : Silent second) : Silent (first ++ second) := by
  intro client
  rw [Client.replay_append, before, behind]

theorem silent_if {P : Prop} [Decidable P] {e : StatusEvent} (silent : Silent [e]) :
    Silent (if P then [e] else []) := by
  intro client
  split
  · exact silent client
  · rfl

theorem silent_regenTick (c : StatusEffectContainer μ) (mods : RegenModifiers)
    (passive : PassiveRegen) : Silent (c.regenTick mods passive) := by
  rw [regenTick]
  apply Silent.append (.append (.append _ _) _) _
  · exact silent_if fun _ => rfl
  · exact silent_if fun _ => rfl
  · exact silent_if fun _ => rfl
  · exact silent_if fun _ => rfl

theorem update_carries (kept : c.Kept) (order : List UInt32) (nowMs : UInt64)
    (mods : RegenModifiers) (passive : PassiveRegen) :
    Carries c (c.update order nowMs mods passive).1 (c.update order nowMs mods passive).2 := by
  have regen : Carries c
      (if regenTickMs.toNat ≤ nowMs.toNat - c.lastRegenMs.toNat
        then { c with lastRegenMs := nowMs } else c)
      (if regenTickMs.toNat ≤ nowMs.toNat - c.lastRegenMs.toNat
        then c.regenTick mods passive else []) := by
    split
    · exact .of_steady ⟨kept.sized, kept.keyed, kept.few⟩ rfl rfl (silent_regenTick c mods passive)
    · exact .refl kept
  have ticks := tickEach_carries nowMs order regen.kept
  exact (regen.append ticks).append (removeExpired_carries _ ticks.kept)

/-! ### Runs -/

/-- The calls the server makes of a container. The map of the active effects yields its keys
in an order of its own. -/
inductive Op (μ : Type) where
  | addStatusEffect (effect : StatusEffect μ) (sourceActorId : UInt32) (nowMs : UInt64)
      (worldmasterTextId : UInt16)
  | copyEffect (template : StatusEffect μ) (nowMs : UInt64)
  | removeStatusEffect (effectId : UInt32) (worldmasterTextId : UInt16) (playEffect : Bool)
  | removeByFlag (order : List UInt32) (flag : UInt32)
  | clearAll (order : List UInt32)
  | replaceEffect (oldEffectId : UInt32) (new : StatusEffect μ) (nowMs : UInt64)
  | update (order : List UInt32) (nowMs : UInt64) (mods : RegenModifiers) (passive : PassiveRegen)

/-- A call keeps the container in order, its packets follow the slots, and the slots stay
right exactly under a condition. -/
structure CarriesIff (fits : Prop) (c c' : StatusEffectContainer μ) (events : List StatusEvent) :
    Prop where
  kept : c'.Kept
  icons : c.IconsMatch → (c'.IconsMatch ↔ fits)
  sends : Sends c c' events

theorem Carries.iff {fits : Prop} (carries : Carries c c' events) (met : fits) :
    CarriesIff fits c c' events :=
  ⟨carries.kept, fun icons => iff_of_true (carries.icons icons) met, carries.sends⟩

theorem kept_new (owner : UInt32) : ({ ownerActorId := owner } : StatusEffectContainer μ).Kept := by
  refine ⟨⟨List.length_replicate, List.length_replicate⟩, fun id e found => ?_, Nat.zero_le _⟩
  rw [AList.lookup_empty] at found
  contradiction

theorem filled_new : ({} : Client).filled = 0 := by decide

theorem icons_new (owner : UInt32) :
    ({ ownerActorId := owner } : StatusEffectContainer μ).IconsMatch := by
  refine ⟨filled_new, ?_⟩
  change (({} : Client).filled.map Prod.fst).Nodup
  rw [filled_new]
  exact Multiset.nodup_zero

theorem replace_carries (kept : c.Kept) (oldId : UInt32) (new : StatusEffect μ)
    (nowMs : UInt64) :
    CarriesIff (∀ old, c.effects.lookup oldId = some old →
        c.ReplaceFits oldId old (c.started new new.sourceActorId nowMs)) c
      (c.replaceEffect oldId new nowMs).2.1 (c.replaceEffect oldId new nowMs).2.2 := by
  cases found : c.effects.lookup oldId with
  | none =>
      rw [replace_absent found]
      exact (Carries.refl kept).iff fun old active => by contradiction
  | some old =>
      have replaced := replace_present found new nowMs
      refine ⟨replaced.kept kept found, fun icons => ?_, replaced.sends⟩
      rw [replaced_match_iff kept icons found replaced]
      constructor
      · intro fits other same
        cases same
        exact fits
      · intro fits
        exact fits old rfl

variable [LT μ] [LE μ] [DecidableLT μ] [DecidableLE μ]

def call (c : StatusEffectContainer μ) : Op μ → StatusEffectContainer μ × List StatusEvent
  | .addStatusEffect effect sourceActorId nowMs textId =>
      (c.addStatusEffect effect sourceActorId nowMs textId).2
  | .copyEffect template nowMs => (c.copyEffect template nowMs).2
  | .removeStatusEffect effectId textId playEffect =>
      (c.removeStatusEffect effectId textId playEffect).2
  | .removeByFlag order flag => (c.removeByFlag order flag).2
  | .clearAll order => c.clearAll order
  | .replaceEffect oldEffectId new nowMs => (c.replaceEffect oldEffectId new nowMs).2
  | .update order nowMs mods passive => c.update order nowMs mods passive

def Fits (c : StatusEffectContainer μ) : Op μ → Prop
  | .addStatusEffect effect _ _ _ => c.Accepts effect → c.AddFits effect
  | .copyEffect template _ =>
      c.Accepts (template.clonedFor c.ownerActorId) → c.AddFits (template.clonedFor c.ownerActorId)
  | .replaceEffect oldEffectId new nowMs =>
      ∀ old, c.effects.lookup oldEffectId = some old →
        c.ReplaceFits oldEffectId old (c.started new new.sourceActorId nowMs)
  | _ => True

theorem add_carries (kept : c.Kept) (effect : StatusEffect μ) (sourceActorId : UInt32)
    (nowMs : UInt64) (textId : UInt16) :
    CarriesIff (c.Accepts effect → c.AddFits effect) c
      (c.addStatusEffect effect sourceActorId nowMs textId).2.1
      (c.addStatusEffect effect sourceActorId nowMs textId).2.2 := by
  by_cases accepted : c.Accepts effect
  · have entered := add_accepted kept.few accepted sourceActorId nowMs textId
    have room : (c.effects.erase effect.id).entries.length < maxEffects := by
      have few := kept.few
      rw [Accepts] at accepted
      cases found : c.effects.lookup effect.id with
      | none =>
          rw [found] at accepted
          rw [Table.erase_absent found]
          exact accepted
      | some old =>
          rw [length_erase found] at few
          exact few
    refine ⟨entered.kept kept room, fun icons => ?_, entered.sends⟩
    rw [imp_iff_right accepted]
    have exactly := entered_match_iff kept icons entered room
    exact exactly
  · obtain ⟨same, sends⟩ := add_refused accepted sourceActorId nowMs textId
    refine ⟨?_, fun icons => ?_, ?_⟩
    · rw [same]
      exact kept
    · rw [same]
      exact iff_of_true icons fun accepts => absurd accepts accepted
    · rw [same]
      exact sends

theorem call_carries (kept : c.Kept) (op : Op μ) :
    CarriesIff (c.Fits op) c (c.call op).1 (c.call op).2 := by
  cases op with
  | addStatusEffect effect sourceActorId nowMs textId =>
      exact add_carries kept effect sourceActorId nowMs textId
  | copyEffect template nowMs =>
      exact add_carries kept (template.clonedFor c.ownerActorId) template.sourceActorId nowMs
        defaultGainTextId
  | removeStatusEffect effectId textId playEffect =>
      exact (remove_carries kept effectId textId playEffect).iff trivial
  | removeByFlag order flag => exact (removeEach_carries true _ kept).iff trivial
  | clearAll order => exact (removeEach_carries false _ kept).iff trivial
  | replaceEffect oldEffectId new nowMs => exact replace_carries kept oldEffectId new nowMs
  | update order nowMs mods passive =>
      exact (update_carries kept order nowMs mods passive).iff trivial

def step (s : StatusEffectContainer μ × Client) (op : Op μ) :
    Option (StatusEffectContainer μ × Client) :=
  let called := s.1.call op
  some (called.1, s.2.replay called.2)

/-- The slots are right and the client has the same ones. -/
def Mirrored (s : StatusEffectContainer μ × Client) : Prop :=
  s.1.IconsMatch ∧ s.2 = s.1.icons

theorem followed {s s' : StatusEffectContainer μ × Client} {op : Op μ}
    (ordered : s.1.Kept ∧ s.2 = s.1.icons) (taken : step s op = some s') :
    s'.1.Kept ∧ s'.2 = s'.1.icons ∧ (s.1.IconsMatch → (s'.1.IconsMatch ↔ s.1.Fits op)) := by
  obtain ⟨kept, same⟩ := ordered
  have called := call_carries kept op
  cases taken
  refine ⟨called.kept, ?_, called.icons⟩
  rw [same]
  exact called.sends

theorem icons_mirrored_iff (owner : UInt32) (ops : List (Op μ)) :
    Always step Mirrored ({ ownerActorId := owner }, {}) ops ↔
      EachStep step (fun s op => s.1.Fits op) ({ ownerActorId := owner }, {}) ops := by
  apply always_iff_eachStep (I := fun s => s.1.Kept ∧ s.2 = s.1.icons)
  · intro s op s' ordered mirrored taken
    obtain ⟨_, same, exactly⟩ := followed ordered taken
    rw [Mirrored, and_iff_left same]
    exact exactly mirrored.1
  · intro s op s' ordered _ _ taken
    obtain ⟨kept, same, _⟩ := followed ordered taken
    exact ⟨kept, same⟩
  · exact ⟨kept_new owner, rfl⟩
  · exact ⟨icons_new owner, rfl⟩

def hidingRun : List (Op Nat) :=
  let shown : StatusEffect Nat :=
    { ownerActorId := 0, sourceActorId := 0, id := 223129, startTime := 0, endTime := 0,
      lastTickMs := 0, duration := 300, tickMs := 0, magnitude := 0, flags := 0,
      overwrite := .always, silentOnGain := false, silentOnLoss := false, hidden := false,
      statusLossTextId := defaultLossTextId }
  [.addStatusEffect shown 1 1000 defaultGainTextId,
    .addStatusEffect { shown with hidden := true } 1 2000 defaultGainTextId]

theorem hidingRun_ghost : ¬ Always step Mirrored ({ ownerActorId := 1 }, {}) hidingRun := by
  intro held
  have ghost := ((held.2 _ rfl).2 _ rfl).1.slots
  revert ghost
  decide

end StatusEffectContainer
end Garlemald.Status
