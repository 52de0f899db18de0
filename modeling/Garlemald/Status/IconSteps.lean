import Garlemald.Status.Shown

/-!
When a call that enters, removes or replaces an effect keeps the icon slots equal to the
active visible effects. Removing always does. The slots go wrong where an effect changes
between hidden and visible and where one takes a short id that another visible effect shows.
-/

namespace Garlemald.Status
open Library

variable {μ : Type}

namespace StatusEffectContainer

/-- The filled slots are the visible effects with their end times, each short id once. -/
structure IconsMatch (c : StatusEffectContainer μ) : Prop where
  slots : c.icons.filled = visible c.effects
  once : (c.icons.filled.map Prod.fst).Nodup

theorem iconsMatch_iff {c : StatusEffectContainer μ} : c.IconsMatch ↔
    c.icons.filled = visible c.effects ∧ (c.icons.filled.map Prod.fst).Nodup :=
  ⟨fun icons => ⟨icons.slots, icons.once⟩, fun both => ⟨both.1, both.2⟩⟩

/-- What holds of every container: twenty slots, effects under their own ids, and no more
effects than slots. -/
structure Kept (c : StatusEffectContainer μ) : Prop where
  sized : c.icons.Sized
  keyed : ∀ id e, c.effects.lookup id = some e → e.id = id
  few : c.effects.entries.length ≤ maxEffects

/-- A visible effect other than `id` has the short id. -/
def ShowsOther (c : StatusEffectContainer μ) (id : UInt32) (statusId : UInt16) : Prop :=
  ∃ other e, other ≠ id ∧ c.effects.lookup other = some e ∧ e.hidden = false ∧
    e.statusId = statusId

theorem lookup_erase_iff {t : Table UInt32 (StatusEffect μ)} {k id : UInt32} {e : StatusEffect μ} :
    (t.erase k).lookup id = some e ↔ id ≠ k ∧ t.lookup id = some e := by
  by_cases same : id = k
  · rw [same, AList.lookup_erase]
    simp
  · rw [AList.lookup_erase_ne same]
    simp [same]

theorem mem_erase_iff {c : StatusEffectContainer μ} {id : UInt32} {statusId : UInt16} :
    statusId ∈ (visible (c.effects.erase id)).map Prod.fst ↔ c.ShowsOther id statusId := by
  rw [Multiset.mem_map]
  constructor
  · intro shown
    obtain ⟨⟨short, time⟩, member, same⟩ := shown
    obtain ⟨other, e, found, seen, mine, _⟩ := mem_visible.mp member
    have apart : other ≠ id := by
      intro equal
      rw [equal, AList.lookup_erase] at found
      contradiction
    rw [AList.lookup_erase_ne apart] at found
    exact ⟨other, e, apart, found, seen, mine.trans same⟩
  · intro shown
    obtain ⟨other, e, apart, found, seen, mine⟩ := shown
    rw [← AList.lookup_erase_ne apart] at found
    exact ⟨(statusId, e.wireEndTime), mem_visible.mpr ⟨other, e, found, seen, mine, rfl⟩, rfl⟩

section Step

variable {c c' : StatusEffectContainer μ} {events : List StatusEvent}

/-- What an accepted add must meet: a hidden effect overwrites no visible one, and a
visible one has a short id that no other visible effect shows. -/
def AddFits (c : StatusEffectContainer μ) (effect : StatusEffect μ) : Prop :=
  if effect.hidden then ∀ old, c.effects.lookup effect.id = some old → old.hidden = true
  else effect.statusId ≠ 0 ∧ ¬ c.ShowsOther effect.id effect.statusId

variable {old n : StatusEffect μ} {oldId : UInt32} {t : Table UInt32 (StatusEffect μ)} {id : UInt32}

theorem iconAt_eq_zero : iconAt t id = 0 ↔ ∀ e, t.lookup id = some e → e.hidden = true := by
  rw [iconAt]
  cases t.lookup id with
  | none => simp
  | some e => cases hidden : e.hidden <;> simp [StatusEffect.icon, hidden]

theorem iconAt_cases (t : Table UInt32 (StatusEffect μ)) (id : UInt32) :
    iconAt t id = 0 ∨ ∃ e, t.lookup id = some e ∧ e.hidden = false ∧
      iconAt t id = {(e.statusId, e.wireEndTime)} := by
  rw [iconAt]
  cases t.lookup id with
  | none => exact Or.inl rfl
  | some e =>
      cases hidden : e.hidden with
      | true => exact Or.inl (by simp [StatusEffect.icon, hidden])
      | false => exact Or.inr ⟨e, rfl, hidden, by simp [StatusEffect.icon, hidden]⟩

theorem iconAt_single_iff {statusId : UInt16} {time : UInt32} : iconAt t id = {(statusId, time)} ↔
      ∃ e, t.lookup id = some e ∧ e.hidden = false ∧ e.statusId = statusId ∧
        e.wireEndTime = time := by
  rw [iconAt]
  cases t.lookup id with
  | none => simp
  | some e => cases hidden : e.hidden <;> simp [StatusEffect.icon, hidden]

theorem ends_iff {statusId : UInt16} {P : UInt32 → Prop} :
    (∀ id e, t.lookup id = some e → e.hidden = false → e.statusId = statusId →
      P e.wireEndTime) ↔ ∀ time, (statusId, time) ∈ visible t → P time := by
  constructor
  · intro all time shown
    obtain ⟨id, e, found, seen, short, ending⟩ := mem_visible.mp shown
    exact ending ▸ all id e found seen short
  · intro all id e found seen short
    exact all _ (mem_visible.mpr ⟨id, e, found, seen, short, rfl⟩)

theorem statusId_eq (kept : c.Kept) {e n : StatusEffect μ} (found : c.effects.lookup id = some e)
    (same : n.id = id) : e.statusId = n.statusId := by
  rw [StatusEffect.statusId, StatusEffect.statusId, kept.keyed id e found, same]

theorem showing_filled (kept : c.Kept) (icons : c.IconsMatch) {n : StatusEffect μ}
    (same : n.id = id) (proper : n.statusId ≠ 0)
    (fresh : n.statusId ∉ (visible (c.effects.erase id)).map Prod.fst)
    (room : (c.effects.erase id).entries.length < maxEffects) (time : UInt32) :
    (c.icons.showing n.statusId time).filled =
      {(n.statusId, time)} + visible (c.effects.erase id) := by
  have split := visible_split c.effects id
  have whole := icons.slots.trans split
  by_cases taken : n.statusId ∈ c.icons.status
  · -- only the effect under the same id can show it
    obtain ⟨shown, member⟩ := (Client.mem_status_iff kept.sized proper).mp taken
    rw [whole, Multiset.mem_add] at member
    have mine : (n.statusId, shown) ∈ iconAt c.effects id :=
      member.resolve_right fun other => fresh (Multiset.mem_map.mpr ⟨_, other, rfl⟩)
    have single : iconAt c.effects id = {(n.statusId, shown)} := by
      cases iconAt_cases c.effects id with
      | inl none =>
          rw [none] at mine
          exact absurd mine (Multiset.notMem_zero _)
      | inr some =>
          obtain ⟨e, _, _, icon⟩ := some
          rw [icon] at mine
          rw [icon, Multiset.mem_singleton.mp mine]
    rw [single] at whole
    rw [Client.showing_of_mem taken, Client.moving_shown kept.sized proper whole icons.once,
      slot_proper proper]
  · -- nothing shows it, so the other visible effects leave a slot empty
    have hidden : iconAt c.effects id = 0 := by
      cases iconAt_cases c.effects id with
      | inl none => exact none
      | inr some =>
          obtain ⟨e, found, _, icon⟩ := some
          have shown : (e.statusId, e.wireEndTime) ∈ c.icons.filled :=
            mem_of_eq_add (by rw [whole, icon])
          rw [statusId_eq kept found same] at shown
          exact absurd ((Client.mem_status_iff kept.sized proper).mpr ⟨_, shown⟩) taken
    rw [hidden, zero_add] at whole
    have free : c.icons.filled.card < maxEffects := by
      rw [whole]
      exact Nat.lt_of_le_of_lt (card_visible_le _) room
    rw [Client.showing_of_not_mem taken, Client.moving_empty kept.sized free, slot_proper proper,
      whole]

theorem entered_match_iff (kept : c.Kept) (icons : c.IconsMatch) {n : StatusEffect μ}
    (entered : Entered c c' n events)
    (room : (c.effects.erase n.id).entries.length < maxEffects) :
    c'.IconsMatch ↔ c.AddFits n := by
  have split := visible_split c.effects n.id
  have shown : visible c'.effects = n.icon + visible (c.effects.erase n.id) := by
    rw [entered.effects, visible_insert]
  have restOnce := once_of_add (icons.slots.trans split) icons.once
  cases hidden : n.hidden with
  | true =>
      have same : c'.icons = c.icons := by
        rw [entered.icons, hidden]
        rfl
      have nothing : n.icon = 0 := by simp [StatusEffect.icon, hidden]
      rw [AddFits, hidden, if_pos rfl, ← iconAt_eq_zero]
      constructor
      · intro match'
        have slots := match'.slots
        rw [same, icons.slots, shown, nothing, zero_add, split] at slots
        exact add_eq_right.mp slots
      · intro gone
        rw [gone, zero_add] at split
        refine ⟨?_, same ▸ icons.once⟩
        rw [same, icons.slots, shown, nothing, zero_add, split]
  | false =>
      have own : n.icon = {(n.statusId, n.wireEndTime)} := by simp [StatusEffect.icon, hidden]
      have icons' : c'.icons = c.icons.showing n.statusId n.wireEndTime := by
        rw [entered.icons, hidden]
        rfl
      rw [AddFits, hidden]
      simp only [Bool.false_eq_true, if_false]
      rw [own] at shown
      rw [← mem_erase_iff]
      constructor
      · intro match'
        have slots := match'.slots
        rw [shown] at slots
        have once' := match'.once
        rw [slots, once_cons] at once'
        exact ⟨Client.filled_proper (mem_of_eq_add slots), once'.1⟩
      · intro fits
        obtain ⟨proper, fresh⟩ := fits
        suffices slots : c'.icons.filled =
            {(n.statusId, n.wireEndTime)} + visible (c.effects.erase n.id) by
          refine ⟨slots.trans shown.symm, ?_⟩
          rw [slots, once_cons]
          exact ⟨fresh, restOnce⟩
        rw [icons']
        exact showing_filled kept icons rfl proper fresh room _

theorem removed_match (kept : c.Kept) (icons : c.IconsMatch) {e : StatusEffect μ}
    (found : c.effects.lookup id = some e) (removed : Removed c c' id e events) :
    c'.IconsMatch := by
  have split := visible_split c.effects id
  have own : iconAt c.effects id = e.icon := by rw [iconAt, found, Option.elim_some]
  suffices slots : c'.icons.filled = visible (c.effects.erase id) by
    refine ⟨by rw [slots, removed.effects], ?_⟩
    rw [slots]
    exact once_of_add (icons.slots.trans split) icons.once
  rw [own] at split
  have whole := icons.slots.trans split
  rw [removed.icons]
  cases hidden : e.hidden with
  | true =>
      simp only [StatusEffect.icon, hidden, if_true, zero_add] at whole
      exact whole
  | false =>
      simp only [StatusEffect.icon, hidden, Bool.false_eq_true, if_false] at whole
      simp only [Bool.false_eq_true, if_false]
      have proper : e.statusId ≠ 0 := Client.filled_proper (mem_of_eq_add whole)
      rw [Client.moving_shown kept.sized proper whole icons.once, slot, if_pos rfl, zero_add]

/-- What replacing a hidden effect must meet when its short id is that of a slot: the slot
written over is that of another effect with the short id, if there is one. -/
def FitsHidden (c : StatusEffectContainer μ) (oldId : UInt32) (old n : StatusEffect μ) : Prop :=
  if n.hidden = true then
    (∀ same, (c.effects.erase oldId).lookup n.id = some same → same.hidden = true) ∧
      ∀ other e, (c.effects.erase oldId).lookup other = some e → e.hidden = false →
        e.statusId = old.statusId → n.statusId = old.statusId ∧ n.wireEndTime = e.wireEndTime
  else
    ∃ same, (c.effects.erase oldId).lookup n.id = some same ∧ same.hidden = false ∧
      (same.statusId = old.statusId ∨
        (¬ c.ShowsOther oldId old.statusId ∧ same.wireEndTime = n.wireEndTime))

/-- What replacing `old` must meet. As a rule the new effect is put into the old one's slot:
it has to be visible, with a short id that no other visible effect shows. -/
def ReplaceFits (c : StatusEffectContainer μ) (oldId : UInt32) (old n : StatusEffect μ) : Prop :=
  if old.hidden = true ∧ old.statusId ≠ 0 then c.FitsHidden oldId old n
  else if n.hidden = true then n.statusId = 0
  else n.statusId ≠ 0 ∧ ¬ c.ShowsOther oldId n.statusId

/-- What is shown beside a replaced effect: the namesake of the new one and the others. -/
structure Beside (c c' : StatusEffectContainer μ) (oldId : UInt32) (old n : StatusEffect μ)
    (own others : Multiset (UInt16 × UInt32)) : Prop where
  whole : c.icons.filled = old.icon + (own + others)
  beside : visible (c.effects.erase oldId) = own + others
  goal : visible c'.effects = n.icon + others
  namesake : own = 0 ∨ ∃ t, own = {(n.statusId, t)}
  proper : ∀ entry ∈ own + others, entry.1 ≠ 0
  once : ((own + others).map Prod.fst).Nodup

theorem replaced_beside (kept : c.Kept) (icons : c.IconsMatch)
    (found : c.effects.lookup oldId = some old)
    (effects : c'.effects = (c.effects.erase oldId).insert n.id n) :
    Beside c c' oldId old n (iconAt (c.effects.erase oldId) n.id)
      (visible ((c.effects.erase oldId).erase n.id)) := by
  have beside := visible_split (c.effects.erase oldId) n.id
  have whole : c.icons.filled = old.icon + visible (c.effects.erase oldId) := by
    rw [icons.slots, visible_cons (Table.entries_perm_erase found)]
  rw [beside] at whole
  refine ⟨whole, beside, by rw [effects, visible_insert], ?_, ?_, once_of_add whole icons.once⟩
  · cases iconAt_cases (c.effects.erase oldId) n.id with
    | inl nothing => exact Or.inl nothing
    | inr shown =>
        obtain ⟨e, active, _, icon⟩ := shown
        rw [lookup_erase_iff] at active
        rw [statusId_eq kept active.2 rfl] at icon
        exact Or.inr ⟨_, icon⟩
  · intro entry member
    obtain ⟨statusId, time⟩ := entry
    have shown : (statusId, time) ∈ c.icons.filled := by
      rw [whole]
      exact Multiset.mem_add.mpr (Or.inr member)
    exact Client.filled_proper shown

theorem Beside.placed {own others : Multiset (UInt16 × UInt32)}
    (b : Beside c c' oldId old n own others)
    (placed : c'.icons.filled = slot n.statusId n.wireEndTime + (own + others)) :
    c'.IconsMatch ↔ if n.hidden = true then n.statusId = 0
      else n.statusId ≠ 0 ∧ ¬ c.ShowsOther oldId n.statusId := by
  rw [iconsMatch_iff, b.goal, placed]
  cases hidden : n.hidden with
  | true =>
      simp only [StatusEffect.icon, hidden, if_true, zero_add]
      rw [← placed_hidden n.wireEndTime b.namesake b.proper]
      refine and_iff_left_of_imp fun same => ?_
      rw [same]
      exact once_of_add rfl b.once
  | false =>
      simp only [StatusEffect.icon, hidden, Bool.false_eq_true, if_false]
      rw [← mem_erase_iff, b.beside]
      exact placed_visible b.namesake b.proper b.once

theorem Beside.overwritten {own others rest : Multiset (UInt16 × UInt32)}
    (b : Beside c c' oldId old n own others) {t : UInt32}
    (shown : {(old.statusId, t)} + rest = own + others)
    (written : c'.icons.filled = slot n.statusId n.wireEndTime + rest) :
    c'.IconsMatch ↔ if n.hidden = true
      then own = 0 ∧ n.statusId = old.statusId ∧ n.wireEndTime = t
      else ∃ t', own = {(old.statusId, t')} := by
  rw [iconsMatch_iff, b.goal, written]
  cases hidden : n.hidden with
  | true =>
      simp only [StatusEffect.icon, hidden, if_true, zero_add]
      rw [← overwritten_hidden b.namesake b.proper shown]
      refine and_iff_left_of_imp fun same => ?_
      rw [same]
      exact once_of_add rfl b.once
  | false =>
      simp only [StatusEffect.icon, hidden, Bool.false_eq_true, if_false]
      exact overwritten_visible b.namesake b.proper b.once shown

theorem Beside.unwritten {own others : Multiset (UInt16 × UInt32)}
    (b : Beside c c' oldId old n own others) (unwritten : c'.icons.filled = own + others) :
    c'.IconsMatch ↔ if n.hidden = true then own = 0 else own = {(n.statusId, n.wireEndTime)} := by
  rw [iconsMatch_iff, b.goal, unwritten, and_iff_left b.once]
  cases hidden : n.hidden with
  | true =>
      simp only [StatusEffect.icon, hidden, if_true, zero_add]
      exact add_eq_right
  | false =>
      simp only [StatusEffect.icon, hidden, Bool.false_eq_true, if_false]
      exact add_left_inj others

theorem overwriting_fits {others : Multiset (UInt16 × UInt32)}
    (b : Beside c c' oldId old n (iconAt (c.effects.erase oldId) n.id) others) {t : UInt32}
    (member : (old.statusId, t) ∈ iconAt (c.effects.erase oldId) n.id + others) :
    (if n.hidden = true then
        iconAt (c.effects.erase oldId) n.id = 0 ∧ n.statusId = old.statusId ∧ n.wireEndTime = t
      else ∃ t', iconAt (c.effects.erase oldId) n.id = {(old.statusId, t')}) ↔
      c.FitsHidden oldId old n := by
  have shows : c.ShowsOther oldId old.statusId := by
    rw [← mem_erase_iff, b.beside]
    exact Multiset.mem_map.mpr ⟨_, member, rfl⟩
  rw [FitsHidden, iconAt_eq_zero]
  split
  · apply and_congr_right
    intro _
    rw [ends_iff (P := fun time => n.statusId = old.statusId ∧ n.wireEndTime = time), b.beside]
    constructor
    · intro same time other
      rw [end_unique b.once other member]
      exact same
    · intro all
      exact all t member
  · constructor
    · intro single
      obtain ⟨t', single⟩ := single
      obtain ⟨same, found, seen, short, _⟩ := iconAt_single_iff.mp single
      exact ⟨same, found, seen, Or.inl short⟩
    · intro fits
      obtain ⟨same, found, seen, short | ⟨alone, _⟩⟩ := fits
      · exact ⟨_, iconAt_single_iff.mpr ⟨same, found, seen, short, rfl⟩⟩
      · exact absurd shows alone

theorem unwriting_fits (kept : c.Kept)
    (absent : old.statusId ∉ (visible (c.effects.erase oldId)).map Prod.fst) :
    (if n.hidden = true then iconAt (c.effects.erase oldId) n.id = 0
      else iconAt (c.effects.erase oldId) n.id = {(n.statusId, n.wireEndTime)}) ↔
      c.FitsHidden oldId old n := by
  rw [FitsHidden, iconAt_eq_zero, iconAt_single_iff]
  split
  · refine (and_iff_left ?_).symm
    intro other e found seen short
    have shown := mem_visible.mpr ⟨other, e, found, seen, short, rfl⟩
    exact absurd (Multiset.mem_map.mpr ⟨_, shown, rfl⟩) absent
  · constructor
    · intro single
      obtain ⟨same, found, seen, _, ending⟩ := single
      exact ⟨same, found, seen, Or.inr ⟨mt mem_erase_iff.mpr absent, ending⟩⟩
    · intro fits
      obtain ⟨same, found, seen, short | ⟨_, ending⟩⟩ := fits
      · have shown := mem_visible.mpr ⟨n.id, same, found, seen, short, rfl⟩
        exact absurd (Multiset.mem_map.mpr ⟨_, shown, rfl⟩) absent
      · exact ⟨same, found, seen, statusId_eq kept (lookup_erase_iff.mp found).2 rfl, ending⟩

theorem replaced_match_iff (kept : c.Kept) (icons : c.IconsMatch)
    (found : c.effects.lookup oldId = some old) (replaced : Replaced c c' oldId old n events) :
    c'.IconsMatch ↔ c.ReplaceFits oldId old n := by
  have b := replaced_beside kept icons found replaced.effects
  have whole := b.whole
  rw [ReplaceFits]
  cases hiddenOld : old.hidden with
  | false =>
      simp only [Bool.false_eq_true, false_and, if_false]
      apply b.placed
      simp only [StatusEffect.icon, hiddenOld, Bool.false_eq_true, if_false] at whole
      have proper : old.statusId ≠ 0 := Client.filled_proper (mem_of_eq_add whole)
      rw [replaced.icons]
      exact Client.moving_shown kept.sized proper whole icons.once ..
  | true =>
      simp only [StatusEffect.icon, hiddenOld, if_true, zero_add] at whole
      by_cases empty : old.statusId = 0
      · simp only [empty, ne_eq, not_true_eq_false, and_false, if_false]
        apply b.placed
        have length := (Table.entries_perm_erase found).length_eq
        rw [List.length_cons] at length
        have count := card_visible_le (c.effects.erase oldId)
        have free : c.icons.filled.card < maxEffects := by
          have few := kept.few
          rw [whole, ← b.beside]
          omega
        rw [replaced.icons, empty, Client.moving_empty kept.sized free, whole]
      · simp only [ne_eq, empty, not_false_eq_true, and_self, if_true]
        by_cases taken : old.statusId ∈ c.icons.status
        · obtain ⟨t, member⟩ := (Client.mem_status_iff kept.sized empty).mp taken
          rw [whole] at member
          have shown := Multiset.cons_erase member
          rw [← Multiset.singleton_add] at shown
          have written := Client.moving_shown kept.sized empty (whole.trans shown.symm) icons.once
            n.statusId n.wireEndTime
          rw [← replaced.icons] at written
          rw [b.overwritten shown written]
          exact overwriting_fits b member
        · have same : c'.icons = c.icons := by
            rw [replaced.icons, Client.moving_absent taken]
          rw [← same] at whole
          rw [b.unwritten whole]
          refine unwriting_fits kept fun shown => taken ?_
          rw [same] at whole
          rw [b.beside, ← whole] at shown
          obtain ⟨entry, member, short⟩ := Multiset.mem_map.mp shown
          obtain ⟨statusId, t⟩ := entry
          have equal : statusId = old.statusId := short
          rw [equal] at member
          exact (Client.mem_status_iff kept.sized empty).mpr ⟨t, member⟩

end Step
end StatusEffectContainer
end Garlemald.Status
