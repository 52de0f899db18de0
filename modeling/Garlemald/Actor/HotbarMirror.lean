import Garlemald.Actor.Hotbar

/-!
When memory shows the bar of the current class as the database has it. Every entry of
memory is to carry the mask or none is; an operation on another class is to leave memory
alone. Equipping keeps this for a fresh command beside masked entries, and a swap for two
filled slots beside unmasked ones.
-/

namespace Garlemald.Actor
open Library HotbarState

def withMask (mask : UInt32) (c : UInt32 × UInt32) : UInt32 × UInt32 := (c.1 ||| mask, c.2)

/-- Memory has the bar of the current class, each slot once and with a command, and either
every command of memory carries the mask or none does. -/
structure Mirrored (s : HotbarState) : Prop where
  once : (s.hotbar.map (·.hotbarSlot)).Nodup
  onceStored : ((s.rows.loadHotbar s.currentClass).map (·.hotbarSlot)).Nodup
  alike : ∃ mask, (mask = 0 ∨ mask = commandMask) ∧ ∀ slot,
    entryAt s.hotbar slot =
      (entryAt (s.rows.loadHotbar s.currentClass) slot).map (withMask mask)
  filled : ∀ slot c, entryAt (s.rows.loadHotbar s.currentClass) slot = some c → c.1 ≠ 0

/-- The bar is as it was. -/
def Restored (s s' : HotbarState) : Prop :=
  (∀ slot, entryAt (s'.rows.loadHotbar s.currentClass) slot =
    entryAt (s.rows.loadHotbar s.currentClass) slot) ∧
  ∀ slot, (entryAt s'.hotbar slot).map (withMask commandMask) =
    (entryAt s.hotbar slot).map (withMask commandMask)

def LowestFilled (s s' : HotbarState) (classId : UInt8) (commandId : UInt32) : Prop :=
  ∃ slot, slot < hotbarSlots ∧ entryAt (s.rows.loadHotbar classId) slot = none ∧
    (∀ lower, lower < slot → (entryAt (s.rows.loadHotbar classId) lower).isSome) ∧
    s'.rows = s.rows.equipAbility classId slot commandId 0

/-- What an operation does besides: memory is left alone for another class, a swap undoes
itself, and the first open slot is the lowest empty one. -/
structure Behaved (s : HotbarState) (op : HotbarOp) : Prop where
  otherClass : op.classId ≠ s.currentClass → (s.apply op).hotbar = s.hotbar
  swapTwice : ∀ slot1 slot2, op = .swap s.currentClass slot1 slot2 true true true →
    Restored s ((s.apply op).apply op)
  firstOpen : ∀ classId commandId found persisted,
    op = .equipInFirstOpenSlot classId commandId found persisted →
      s.apply op = s ∨ LowestFilled s (s.apply op) classId commandId

/-- The rows are such as `equip_ability` writes them: a command of 16 bits, in a slot that a
script can name. -/
def Stored (rows : HotbarRows) : Prop :=
  ∀ key c, rows.lookup key = some c → c.1 &&& 0xFFFF = c.1 ∧ key.hotbarSlot ≤ 0xFFDF

/-! ### When the mirror holds -/

/-- A command of 16 bits that is not 0, for a slot beside entries that carry the mask. -/
def FreshCommand (s : HotbarState) (slot : UInt16) (commandId : UInt32) : Prop :=
  commandId &&& 0xFFFF ≠ 0 ∧
    commandId ||| commandMask = (commandId &&& 0xFFFF) ||| commandMask ∧
      ∀ other c, other ≠ slot → entryAt s.hotbar other = some c → c.1 ||| commandMask = c.1

/-- What an equip has to find: room for a fresh command in the bar of the current class, or, for
another class, what it writes already in memory. -/
def MayEquip (s : HotbarState) (classId : UInt8) (slot : UInt16) (commandId : UInt32) : Prop :=
  if classId = s.currentClass then FreshCommand s slot commandId
  else entryAt s.hotbar slot = some (commandId ||| commandMask, 0)

def MaySwap (s : HotbarState) (classId : UInt8) (zero1 zero2 : UInt16) (written2 : Bool) : Prop :=
  if classId = s.currentClass then
    if written2 then
      (s.rows.lookup ⟨classId, zero1⟩).isSome ∧ (s.rows.lookup ⟨classId, zero2⟩).isSome ∧
        ∀ other c, other ≠ zero1 → other ≠ zero2 → entryAt s.hotbar other = some c →
          c.1 &&& 0xFFFF = c.1
    else ∃ c, s.rows.lookup ⟨classId, zero1⟩ = some c ∧ s.rows.lookup ⟨classId, zero2⟩ = some c
  else written2 = true →
    (∀ c, entryAt s.hotbar zero1 = some c →
      c = commandAt (s.rows.loadHotbar classId) zero2) ∧
    ∀ c, zero1 ≠ zero2 → entryAt s.hotbar zero2 = some c →
      c = commandAt (s.rows.loadHotbar classId) zero1

/-- The condition on the state and the operation. -/
def KeepsMirror (s : HotbarState) : HotbarOp → Prop
  | .equip classId commandId hotbarSlot persisted =>
      persisted = true → MayEquip s classId (zeroBased hotbarSlot) commandId
  | .unequip classId hotbarSlot persisted =>
      persisted = true → classId ≠ s.currentClass → entryAt s.hotbar hotbarSlot = none
  | .swap classId hotbarSlot1 hotbarSlot2 loaded written1 written2 =>
      loaded = true → written1 = true →
        MaySwap s classId (zeroBased hotbarSlot1) (zeroBased hotbarSlot2) written2
  | .equipInFirstOpenSlot classId commandId found persisted =>
      found = true → persisted = true →
        s.rows.findFirstCommandSlot classId < hotbarSlots →
          MayEquip s classId (s.rows.findFirstCommandSlot classId) commandId

/-! ### Masks -/

section Masks

theorem or_and_cancel (a m : UInt32) : (a ||| m) &&& m = m := by
  apply UInt32.toBitVec_inj.mp
  ext i inside
  simp [Bool.and_or_distrib_right]

theorem low_masked (a : UInt32) : (a ||| commandMask) &&& 0xFFFF = a &&& 0xFFFF := by
  have apart : commandMask.toBitVec &&& (0xFFFF : UInt32).toBitVec = 0#32 := by decide
  apply UInt32.toBitVec_inj.mp
  ext i inside
  have bit := congrArg (fun v : BitVec 32 => v[i]) apart
  simp only [BitVec.getElem_and, BitVec.getElem_zero] at bit
  simp only [UInt32.toBitVec_and, UInt32.toBitVec_or, BitVec.getElem_and, BitVec.getElem_or]
  rw [Bool.and_or_distrib_right, bit, Bool.or_false]

theorem low_raw (a : UInt32) : a &&& 0xFFFF &&& 0xFFFF = a &&& 0xFFFF := by
  rw [UInt32.and_assoc]
  rfl

theorem masked_twice (a : UInt32) : a ||| commandMask ||| commandMask = a ||| commandMask := by
  rw [UInt32.or_assoc, UInt32.or_self]

theorem masked_ne_raw (a : UInt32) {b : UInt32} (raw : b &&& 0xFFFF = b) :
    a ||| commandMask ≠ b := by
  intro same
  have carried : b &&& commandMask = commandMask := by
    rw [← same]
    exact or_and_cancel a commandMask
  rw [← raw, UInt32.and_assoc] at carried
  have none : b &&& (0xFFFF &&& commandMask) = 0 := UInt32.and_zero
  rw [none] at carried
  exact absurd carried (by decide)

theorem raw_eq_of_masked {a b mask mask' : UInt32} (either : mask = 0 ∨ mask = commandMask)
    (either' : mask' = 0 ∨ mask' = commandMask) (rawA : a &&& 0xFFFF = a)
    (rawB : b &&& 0xFFFF = b) (same : a ||| mask = b ||| mask') : a = b := by
  have low (c m : UInt32) (option : m = 0 ∨ m = commandMask) :
      (c ||| m) &&& 0xFFFF = c &&& 0xFFFF := by
    rcases option with rfl | rfl
    · rw [UInt32.or_zero]
    · exact low_masked c
  rw [← rawA, ← rawB, ← low a mask either, ← low b mask' either', same]

@[simp] theorem withMask_zero (c : UInt32 × UInt32) : withMask 0 c = c := by
  rw [withMask, UInt32.or_zero]

theorem withMask_twice (c : UInt32 × UInt32) {mask : UInt32}
    (either : mask = 0 ∨ mask = commandMask) :
    withMask commandMask (withMask mask c) = withMask commandMask c := by
  rcases either with rfl | rfl
  · rw [withMask_zero]
  · exact congrArg (·, c.2) (masked_twice c.1)

end Masks

/-! ### Rows -/

namespace HotbarRows

variable (rows : HotbarRows)

theorem lookup_equipAbility (classId other : UInt8) (slot at' : UInt16)
    (commandId recast : UInt32) :
    (rows.equipAbility classId slot commandId recast).lookup ⟨other, at'⟩ =
      if other = classId ∧ at' = slot then some (commandId &&& 0xFFFF, recast)
      else rows.lookup ⟨other, at'⟩ := by
  simp only [equipAbility, Table.lookup_insert_if, HotbarKey.mk.injEq]

theorem lookup_unequipAbility (classId other : UInt8) (slot at' : UInt16) :
    (rows.unequipAbility classId slot).lookup ⟨other, at'⟩ =
      if other = classId ∧ at' = slot then none else rows.lookup ⟨other, at'⟩ := by
  simp only [unequipAbility, Table.lookup_erase_if, HotbarKey.mk.injEq]

theorem firstGap_spec {expected : UInt16} {slots : List UInt16}
    (sorted : slots.Pairwise (· < ·)) (from_expected : ∀ slot ∈ slots, expected ≤ slot)
    (bounded : ∀ slot ∈ slots, slot ≤ 0xFFDF) :
    expected ≤ firstGap expected slots ∧ firstGap expected slots ∉ slots ∧
      ∀ lower, expected ≤ lower → lower < firstGap expected slots → lower ∈ slots := by
  induction slots generalizing expected with
  | nil =>
      refine ⟨UInt16.le_refl expected, by simp, fun lower least below => ?_⟩
      exact absurd below (UInt16.not_lt.mpr least)
  | cons slot slots ih =>
      obtain ⟨above, sorted⟩ := List.pairwise_cons.mp sorted
      have least := from_expected slot (List.mem_cons_self ..)
      rw [firstGap]
      split
      · next gap =>
          refine ⟨UInt16.le_refl expected, fun member => ?_, fun lower least below =>
            absurd below (UInt16.not_lt.mpr least)⟩
          rcases List.mem_cons.mp member with same | later
          · exact gap same.symm
          · have less := above expected later
            exact absurd (UInt16.lt_of_le_of_lt least less) (UInt16.lt_irrefl _)
      · next hit =>
          have hit : slot = expected := not_not.mp hit
          subst hit
          have top := bounded slot (List.mem_cons_self ..)
          have next_le (other : UInt16) (less : slot < other) : slot + 1 ≤ other := by
            rw [UInt16.lt_iff_toNat_lt] at less
            have high := other.toNat_lt
            rw [UInt16.le_iff_toNat_le, UInt16.toNat_add]
            have one : (1 : UInt16).toNat = 1 := rfl
            omega
          have rising : slot < slot + 1 := by
            rw [UInt16.le_iff_toNat_le] at top
            have bound : (0xFFDF : UInt16).toNat = 0xFFDF := rfl
            have one : (1 : UInt16).toNat = 1 := rfl
            rw [UInt16.lt_iff_toNat_lt, UInt16.toNat_add]
            omega
          obtain ⟨reached, absent, present⟩ := ih sorted
            (fun other later => next_le other (above other later))
            fun other later => bounded other (List.mem_cons_of_mem _ later)
          have grown := UInt16.lt_of_lt_of_le rising reached
          refine ⟨UInt16.le_of_lt grown, fun member => ?_, fun lower least below => ?_⟩
          · rcases List.mem_cons.mp member with same | later
            · rw [same] at grown
              exact UInt16.lt_irrefl _ grown
            · exact absent later
          · by_cases same : lower = slot
            · rw [same]
              exact List.mem_cons_self ..
            · exact List.mem_cons_of_mem _ (present lower
                (next_le lower (UInt16.lt_of_le_of_ne least (Ne.symm same))) below)

variable {rows} in
theorem findFirst_spec (stored : Stored rows) (classId : UInt8) :
    rows.lookup ⟨classId, rows.findFirstCommandSlot classId⟩ = none ∧
      ∀ lower, lower < rows.findFirstCommandSlot classId →
        (rows.lookup ⟨classId, lower⟩).isSome := by
  have present (slot : UInt16) : slot ∈ (rows.loadHotbar classId).map (·.hotbarSlot) ↔
      (rows.lookup ⟨classId, slot⟩).isSome := by
    rw [← entryAt_loadHotbar, ← not_iff_not, ← entryAt_eq_none, Option.not_isSome_iff_eq_none]
  obtain ⟨-, absent, below⟩ := firstGap_spec (rows.sorted_loadHotbar classId)
    (fun slot _ => UInt16.zero_le (a := slot)) (fun slot member => by
      obtain ⟨c, found⟩ := Option.isSome_iff_exists.mp ((present slot).mp member)
      exact (stored _ c found).2)
  refine ⟨?_, fun lower less => (present lower).mp (below lower UInt16.zero_le less)⟩
  rw [← Option.not_isSome_iff_eq_none, ← present]
  exact absent

end HotbarRows

variable {slot : UInt16}

theorem Stored.equipAbility {rows : HotbarRows} (stored : Stored rows) (classId : UInt8)
    (inside : slot ≤ 0xFFDF) (commandId recastTime : UInt32) :
    Stored (rows.equipAbility classId slot commandId recastTime) := by
  intro key c found
  obtain ⟨other, at'⟩ := key
  rw [HotbarRows.lookup_equipAbility] at found
  split at found
  · next same =>
      obtain rfl := Option.some.inj found
      exact ⟨low_raw commandId, same.2 ▸ inside⟩
  · exact stored _ c found

theorem Stored.unequipAbility {rows : HotbarRows} (stored : Stored rows) (classId : UInt8)
    (slot : UInt16) : Stored (rows.unequipAbility classId slot) := by
  intro key c found
  obtain ⟨other, at'⟩ := key
  rw [HotbarRows.lookup_unequipAbility] at found
  split at found
  · contradiction
  · exact stored _ c found

theorem zeroBased_le (slot : UInt16) : zeroBased slot ≤ 0xFFDF := by
  rw [zeroBased]
  split
  · exact UInt16.zero_le
  · next high =>
      have low := UInt16.le_iff_toNat_le.mp (UInt16.not_lt.mp high)
      have top := slot.toNat_lt
      have border : commandBorder.toNat = 0x20 := rfl
      have bound : (0xFFDF : UInt16).toNat = 0xFFDF := rfl
      rw [UInt16.le_iff_toNat_le, UInt16.toNat_sub_of_le _ _ (UInt16.not_lt.mp high)]
      omega

/-! ### Equipping -/

section Equip

variable {s s' : HotbarState}

theorem Mirrored.congr (mirrored : Mirrored s) (class_eq : s'.currentClass = s.currentClass)
    (hotbar_eq : s'.hotbar = s.hotbar)
    (rows_eq : ∀ slot, s'.rows.lookup ⟨s.currentClass, slot⟩ =
      s.rows.lookup ⟨s.currentClass, slot⟩) : Mirrored s' := by
  have loaded (slot : UInt16) : entryAt (s'.rows.loadHotbar s'.currentClass) slot =
      entryAt (s.rows.loadHotbar s.currentClass) slot := by
    rw [HotbarRows.entryAt_loadHotbar, HotbarRows.entryAt_loadHotbar, class_eq, rows_eq]
  obtain ⟨mask, either, alike⟩ := mirrored.alike
  refine ⟨hotbar_eq ▸ mirrored.once, HotbarRows.nodup_loadHotbar .., ⟨mask, either, fun slot => ?_⟩,
    fun slot c => ?_⟩
  · rw [hotbar_eq, loaded]
    exact alike slot
  · rw [loaded]
    exact mirrored.filled slot c

theorem fresh_of_mirrored {commandId : UInt32}
    (after : Mirrored (s.equipAt s.currentClass slot commandId)) :
    FreshCommand s slot commandId := by
  obtain ⟨mask, either, alike⟩ := after.alike
  have row (at' : UInt16) := s.rows.lookup_equipAbility s.currentClass s.currentClass slot at'
    commandId 0
  simp only [equipAt, HotbarRows.entryAt_loadHotbar, entryAt_setEntry, row, true_and] at alike
  have filled := after.filled slot (commandId &&& 0xFFFF, 0)
  simp only [equipAt, HotbarRows.entryAt_loadHotbar, row, true_and, if_true, true_implies]
    at filled
  have own := alike slot
  simp only [if_true, Option.map_some, withMask, Option.some.injEq, Prod.mk.injEq, and_true]
    at own
  have masked : mask = commandMask := by
    rcases either with rfl | same
    · rw [UInt32.or_zero] at own
      exact absurd own (masked_ne_raw commandId (low_raw commandId))
    · exact same
  subst masked
  refine ⟨filled, own, fun other c apart found => ?_⟩
  have there := alike other
  rw [if_neg apart, if_neg apart, found] at there
  obtain ⟨r, -, same⟩ := Option.map_eq_some_iff.mp there.symm
  rw [← same]
  exact masked_twice r.1

theorem mirrored_of_fresh {commandId : UInt32} (mirrored : Mirrored s)
    (fresh : FreshCommand s slot commandId) :
    Mirrored (s.equipAt s.currentClass slot commandId) := by
  obtain ⟨nonzero, masked, others⟩ := fresh
  obtain ⟨mask, either, alike⟩ := mirrored.alike
  have row (at' : UInt16) := s.rows.lookup_equipAbility s.currentClass s.currentClass slot at'
    commandId 0
  refine ⟨nodup_setEntry mirrored.once, HotbarRows.nodup_loadHotbar ..,
    ⟨commandMask, Or.inr rfl, fun at' => ?_⟩, fun at' c found => ?_⟩
  · simp only [equipAt, HotbarRows.entryAt_loadHotbar, entryAt_setEntry, row, true_and]
    by_cases here : at' = slot
    · rw [if_pos here, if_pos here, Option.map_some, withMask, ← masked]
    · rw [if_neg here, if_neg here]
      have there := alike at'
      rw [HotbarRows.entryAt_loadHotbar] at there
      cases held : s.rows.lookup ⟨s.currentClass, at'⟩ with
      | none =>
          rw [held] at there
          exact there
      | some r =>
          rw [held, Option.map_some] at there
          have carries : withMask commandMask (withMask mask r) = withMask mask r :=
            Prod.ext (others at' _ here there) rfl
          rw [there, Option.map_some, ← withMask_twice r either, carries]
  · simp only [equipAt, HotbarRows.entryAt_loadHotbar, row, true_and] at found
    split at found
    · obtain rfl := Option.some.inj found
      exact nonzero
    · exact mirrored.filled at' c (by rw [HotbarRows.entryAt_loadHotbar]; exact found)

theorem equipAt_iff (mirrored : Mirrored s) (classId : UInt8) (slot : UInt16)
    (commandId : UInt32) :
    Mirrored (s.equipAt classId slot commandId) ∧
        (classId ≠ s.currentClass → (s.equipAt classId slot commandId).hotbar = s.hotbar) ↔
      MayEquip s classId slot commandId := by
  rw [MayEquip]
  by_cases own : classId = s.currentClass
  · subst own
    rw [if_pos rfl]
    constructor
    · exact fun both => fresh_of_mirrored both.1
    · exact fun fresh => ⟨mirrored_of_fresh mirrored fresh, fun other => absurd rfl other⟩
  · rw [if_neg own, ← setEntry_eq_self]
    constructor
    · exact fun both => both.2 own
    · intro same
      refine ⟨mirrored.congr rfl same fun at' => ?_, fun _ => same⟩
      rw [equipAt, HotbarRows.lookup_equipAbility, if_neg fun both => own both.1.symm]

end Equip

/-! ### Swapping -/

section Swap

variable {s : HotbarState} {classId : UInt8} {zero1 zero2 : UInt16}

theorem commandAt_raw (stored : Stored s.rows) (classId : UInt8) (slot : UInt16) :
    (commandAt (s.rows.loadHotbar classId) slot).1 &&& 0xFFFF =
      (commandAt (s.rows.loadHotbar classId) slot).1 := by
  rw [commandAt, HotbarRows.entryAt_loadHotbar]
  cases found : s.rows.lookup ⟨classId, slot⟩ with
  | none => rfl
  | some c => exact (stored _ c found).1

theorem commandAt_of_lookup {c : UInt32 × UInt32} (found : s.rows.lookup ⟨classId, slot⟩ = some c) :
    commandAt (s.rows.loadHotbar classId) slot = c := by
  rw [commandAt, HotbarRows.entryAt_loadHotbar, found]
  rfl

theorem lookup_of_commandAt (nonzero : (commandAt (s.rows.loadHotbar classId) slot).1 ≠ 0) :
    s.rows.lookup ⟨classId, slot⟩ = some (commandAt (s.rows.loadHotbar classId) slot) := by
  rw [commandAt, HotbarRows.entryAt_loadHotbar] at nonzero ⊢
  cases found : s.rows.lookup ⟨classId, slot⟩ with
  | none =>
      rw [found] at nonzero
      exact absurd rfl nonzero
  | some c => rfl

variable (classId) in
theorem lookup_swapped (stored : Stored s.rows) (other : UInt8) (slot1 slot2 at' : UInt16) :
    (s.applySwapAbilities classId slot1 slot2 true true true).rows.lookup ⟨other, at'⟩ =
      if other = classId then
        if at' = zeroBased slot2 then
          some (commandAt (s.rows.loadHotbar classId) (zeroBased slot1))
        else if at' = zeroBased slot1 then
          some (commandAt (s.rows.loadHotbar classId) (zeroBased slot2))
        else s.rows.lookup ⟨other, at'⟩
      else s.rows.lookup ⟨other, at'⟩ := by
  have raw1 := commandAt_raw stored classId (zeroBased slot1)
  have raw2 := commandAt_raw stored classId (zeroBased slot2)
  simp only [applySwapAbilities, not_true_eq_false, if_false, HotbarRows.lookup_equipAbility,
    raw1, raw2]
  by_cases own : other = classId
  · simp only [own, true_and, if_true]
  · simp only [own, false_and, if_false]

theorem entryAt_swapped (s : HotbarState) (classId : UInt8) (slot1 slot2 at' : UInt16) :
    entryAt (s.applySwapAbilities classId slot1 slot2 true true true).hotbar at' =
      (entryAt s.hotbar at').map fun c =>
        if at' = zeroBased slot1 then commandAt (s.rows.loadHotbar classId) (zeroBased slot2)
        else if at' = zeroBased slot2 then commandAt (s.rows.loadHotbar classId) (zeroBased slot1)
        else c := by
  simp only [applySwapAbilities, not_true_eq_false, if_false]
  apply entryAt_map (g := fun at' c =>
    if at' = zeroBased slot1 then commandAt (s.rows.loadHotbar classId) (zeroBased slot2)
    else if at' = zeroBased slot2 then commandAt (s.rows.loadHotbar classId) (zeroBased slot1)
    else c)
  · intro e
    split
    · rfl
    · split
      · rfl
      · rfl
  · intro e
    split
    · rfl
    · split
      · rfl
      · rfl

theorem once_swapped (mirrored : Mirrored s) (classId : UInt8) (slot1 slot2 : UInt16) :
    ((s.applySwapAbilities classId slot1 slot2 true true true).hotbar.map
      (·.hotbarSlot)).Nodup := by
  have same : (s.applySwapAbilities classId slot1 slot2 true true true).hotbar.map
      (·.hotbarSlot) = s.hotbar.map (·.hotbarSlot) := by
    simp only [applySwapAbilities, not_true_eq_false, if_false, List.map_map]
    apply List.map_congr_left
    intro e _
    dsimp only [Function.comp_apply]
    split
    · rfl
    · split
      · rfl
      · rfl
  rw [same]
  exact mirrored.once

variable {slot1 slot2 : UInt16}

theorem mirrored_swapped (stored : Stored s.rows) (mirrored : Mirrored s)
    (may : MaySwap s s.currentClass (zeroBased slot1) (zeroBased slot2) true) :
    Mirrored (s.applySwapAbilities s.currentClass slot1 slot2 true true true) := by
  rw [MaySwap, if_pos rfl, if_pos rfl] at may
  obtain ⟨held1, held2, raw⟩ := may
  obtain ⟨c1, found1⟩ := Option.isSome_iff_exists.mp held1
  obtain ⟨c2, found2⟩ := Option.isSome_iff_exists.mp held2
  obtain ⟨mask, either, alike⟩ := mirrored.alike
  have class_eq : (s.applySwapAbilities s.currentClass slot1 slot2 true true true).currentClass =
      s.currentClass := rfl
  have nonzero {slot : UInt16} {c : UInt32 × UInt32}
      (found : s.rows.lookup ⟨s.currentClass, slot⟩ = some c) : c.1 ≠ 0 :=
    mirrored.filled slot c (by rw [HotbarRows.entryAt_loadHotbar]; exact found)
  simp only [HotbarRows.entryAt_loadHotbar] at alike
  refine ⟨once_swapped mirrored .., HotbarRows.nodup_loadHotbar .., ⟨0, Or.inl rfl, fun at' => ?_⟩,
    fun at' c found => ?_⟩
  · rw [class_eq, HotbarRows.entryAt_loadHotbar, lookup_swapped _ stored, if_pos rfl,
      entryAt_swapped, alike, commandAt_of_lookup found1, commandAt_of_lookup found2]
    by_cases first : at' = zeroBased slot1
    · subst first
      rw [found1]
      simp only [if_true, Option.map_some]
      split
      · next same =>
          rw [same, found2] at found1
          rw [Option.some.inj found1, Option.map_some, withMask_zero]
      · rw [Option.map_some, withMask_zero]
    · by_cases second : at' = zeroBased slot2
      · subst second
        rw [found2]
        simp only [if_neg first, if_true, Option.map_some, withMask_zero]
      · simp only [if_neg first, if_neg second, Option.map_id']
        have there := alike at'
        cases held : s.rows.lookup ⟨s.currentClass, at'⟩ with
        | none => rfl
        | some r =>
            rw [held, Option.map_some] at there
            have low := raw at' _ first second there
            have same : withMask mask r = r := by
              apply Prod.ext
              · exact raw_eq_of_masked (Or.inl rfl) either low (stored _ r held).1
                  (UInt32.or_zero)
              · rfl
            simp only [Option.map_some, withMask_zero, same]
  · rw [class_eq, HotbarRows.entryAt_loadHotbar, lookup_swapped _ stored, if_pos rfl,
      commandAt_of_lookup found1, commandAt_of_lookup found2] at found
    split at found
    · exact Option.some.inj found ▸ nonzero found1
    · split at found
      · exact Option.some.inj found ▸ nonzero found2
      · exact nonzero found

theorem maySwap_of_mirrored (stored : Stored s.rows) (mirrored : Mirrored s)
    (after : Mirrored (s.applySwapAbilities s.currentClass slot1 slot2 true true true)) :
    MaySwap s s.currentClass (zeroBased slot1) (zeroBased slot2) true := by
  rw [MaySwap, if_pos rfl, if_pos rfl]
  have class_eq : (s.applySwapAbilities s.currentClass slot1 slot2 true true true).currentClass =
      s.currentClass := rfl
  have filled := after.filled
  obtain ⟨mask, either, alike⟩ := after.alike
  obtain ⟨mask', either', alike'⟩ := mirrored.alike
  simp only [class_eq, HotbarRows.entryAt_loadHotbar, lookup_swapped _ stored, if_true] at filled
  simp only [class_eq, HotbarRows.entryAt_loadHotbar, lookup_swapped _ stored, if_true,
    entryAt_swapped] at alike
  simp only [HotbarRows.entryAt_loadHotbar] at alike'
  have found1 := lookup_of_commandAt (filled (zeroBased slot2) _ (if_pos rfl))
  have found2 : s.rows.lookup ⟨s.currentClass, zeroBased slot2⟩ =
      some (commandAt (s.rows.loadHotbar s.currentClass) (zeroBased slot2)) := by
    by_cases same : zeroBased slot1 = zeroBased slot2
    · rw [← same]
      exact found1
    · apply lookup_of_commandAt
      exact filled (zeroBased slot1) _ (by rw [if_neg same, if_pos rfl])
  refine ⟨by rw [found1]; rfl, by rw [found2]; rfl, fun other c first second found => ?_⟩
  -- The entry at the second slot is written as it is in the row, so no entry carries the mask.
  have unmasked : mask = 0 := by
    rcases either with same | rfl
    · exact same
    · have there := alike (zeroBased slot2)
      rw [alike', found2] at there
      simp only [if_true, Option.map_some, Option.some.injEq] at there
      have same : commandAt (s.rows.loadHotbar s.currentClass) (zeroBased slot1) =
          withMask commandMask
            (commandAt (s.rows.loadHotbar s.currentClass) (zeroBased slot1)) := by
        split at there
        · next equal =>
            rw [← equal] at there ⊢
            exact there
        · exact there
      exact absurd (congrArg Prod.fst same).symm
        (masked_ne_raw _ (commandAt_raw stored s.currentClass (zeroBased slot1)))
  have there := alike other
  rw [if_neg second, if_neg first, found, unmasked] at there
  simp only [if_neg first, if_neg second, Option.map_some] at there
  obtain ⟨r, held, same⟩ := Option.map_eq_some_iff.mp there.symm
  rw [← same, withMask_zero]
  exact (stored _ r held).1

theorem halfSwapped_iff (stored : Stored s.rows) (mirrored : Mirrored s) :
    Mirrored (s.applySwapAbilities s.currentClass slot1 slot2 true true false) ↔
      MaySwap s s.currentClass (zeroBased slot1) (zeroBased slot2) false := by
  rw [MaySwap, if_pos rfl, if_neg Bool.false_ne_true]
  have raw2 := commandAt_raw stored s.currentClass (zeroBased slot2)
  have rows_eq (at' : UInt16) :
      (s.applySwapAbilities s.currentClass slot1 slot2 true true false).rows.lookup
          ⟨s.currentClass, at'⟩ =
        if at' = zeroBased slot1 then
          some (commandAt (s.rows.loadHotbar s.currentClass) (zeroBased slot2))
        else s.rows.lookup ⟨s.currentClass, at'⟩ := by
    simp only [applySwapAbilities, not_true_eq_false, if_false, Bool.false_eq_true,
      not_false_eq_true, if_true, HotbarRows.lookup_equipAbility, true_and, raw2]
  have hotbar_eq : (s.applySwapAbilities s.currentClass slot1 slot2 true true false).hotbar =
      s.hotbar := rfl
  have class_eq : (s.applySwapAbilities s.currentClass slot1 slot2 true true false).currentClass =
      s.currentClass := rfl
  constructor
  · intro after
    have filled := after.filled (zeroBased slot1)
    obtain ⟨mask, either, alike⟩ := after.alike
    obtain ⟨mask', either', alike'⟩ := mirrored.alike
    have there := alike (zeroBased slot1)
    have there' := alike' (zeroBased slot1)
    rw [class_eq, HotbarRows.entryAt_loadHotbar, rows_eq, if_pos rfl] at filled there
    rw [hotbar_eq, Option.map_some, there', HotbarRows.entryAt_loadHotbar] at there
    obtain ⟨r, held, same⟩ := Option.map_eq_some_iff.mp there
    have command_eq := raw_eq_of_masked either' either (stored _ r held).1 raw2
      (congrArg Prod.fst same)
    have recast_eq : (withMask mask' r).2 = (withMask mask _).2 := congrArg Prod.snd same
    have whole : r = commandAt (s.rows.loadHotbar s.currentClass) (zeroBased slot2) :=
      Prod.ext command_eq recast_eq
    exact ⟨r, held, whole ▸ lookup_of_commandAt (filled _ rfl)⟩
  · rintro ⟨c, found1, found2⟩
    refine mirrored.congr class_eq hotbar_eq fun at' => ?_
    rw [rows_eq, commandAt_of_lookup found2]
    split
    · next same => rw [same, found1]
    · rfl

theorem swappedTwice (stored : Stored s.rows) (mirrored : Mirrored s)
    (may : MaySwap s s.currentClass (zeroBased slot1) (zeroBased slot2) true) :
    Restored s ((s.applySwapAbilities s.currentClass slot1 slot2 true true true
      ).applySwapAbilities s.currentClass slot1 slot2 true true true) := by
  rw [MaySwap, if_pos rfl, if_pos rfl] at may
  obtain ⟨held1, held2, -⟩ := may
  obtain ⟨c1, found1⟩ := Option.isSome_iff_exists.mp held1
  obtain ⟨c2, found2⟩ := Option.isSome_iff_exists.mp held2
  obtain ⟨mask, either, alike⟩ := mirrored.alike
  simp only [HotbarRows.entryAt_loadHotbar] at alike
  have stored' : Stored (s.applySwapAbilities s.currentClass slot1 slot2 true true true).rows :=
    (stored.equipAbility _ (zeroBased_le slot1) _ _).equipAbility _ (zeroBased_le slot2) _ _
  have rows_eq (at' : UInt16) := lookup_swapped s.currentClass stored s.currentClass
    slot1 slot2 at'
  simp only [if_true, commandAt_of_lookup found1, commandAt_of_lookup found2] at rows_eq
  have now2 : commandAt ((s.applySwapAbilities s.currentClass slot1 slot2 true true true
      ).rows.loadHotbar s.currentClass) (zeroBased slot2) = c1 :=
    commandAt_of_lookup (by rw [rows_eq, if_pos rfl])
  have now1 : commandAt ((s.applySwapAbilities s.currentClass slot1 slot2 true true true
      ).rows.loadHotbar s.currentClass) (zeroBased slot1) = c2 := by
    apply commandAt_of_lookup
    rw [rows_eq]
    split
    · next same =>
        rw [← same, found1] at found2
        exact found2
    · exact if_pos rfl
  refine ⟨fun at' => ?_, fun at' => ?_⟩
  · rw [HotbarRows.entryAt_loadHotbar, HotbarRows.entryAt_loadHotbar, lookup_swapped _ stored',
      if_pos rfl, now1, now2, rows_eq]
    split
    · next second => rw [second, found2]
    · split
      · next first => rw [first, found1]
      · rfl
  · rw [entryAt_swapped, entryAt_swapped, now1, now2, commandAt_of_lookup found1,
      commandAt_of_lookup found2, Option.map_map, Option.map_map, alike]
    by_cases first : at' = zeroBased slot1
    · subst first
      rw [found1]
      simp only [Option.map_some, Function.comp_apply, if_true, withMask_twice c1 either]
    · by_cases second : at' = zeroBased slot2
      · subst second
        rw [found2]
        simp only [Option.map_some, Function.comp_apply, if_neg first, if_true,
          withMask_twice c2 either]
      · cases s.rows.lookup ⟨s.currentClass, at'⟩ with
        | none => rfl
        | some r => simp only [Option.map_some, Function.comp_apply, if_neg first, if_neg second]

theorem swappedElsewhere_iff (mirrored : Mirrored s) (other : classId ≠ s.currentClass)
    {written2 : Bool} :
    (s.applySwapAbilities classId slot1 slot2 true true written2).hotbar = s.hotbar ↔
      MaySwap s classId (zeroBased slot1) (zeroBased slot2) written2 := by
  rw [MaySwap, if_neg other]
  cases written2 with
  | false => exact iff_of_true rfl fun impossible => by contradiction
  | true =>
      have read := entryAt_swapped s classId slot1 slot2
      constructor
      · intro same _
        rw [same] at read
        refine ⟨fun c found => ?_, fun c apart found => ?_⟩
        · have there := read (zeroBased slot1)
          rw [found] at there
          simpa using there
        · have there := read (zeroBased slot2)
          rw [found] at there
          simpa [Ne.symm apart] using there
      · intro holds
        obtain ⟨first, second⟩ := holds rfl
        simp only [applySwapAbilities, not_true_eq_false, if_false]
        rw [List.map_congr_left (g := id), List.map_id]
        intro e member
        have here := (entryAt_eq_some mirrored.once (c := (e.commandId, e.recastTime))).mpr member
        split
        · next own =>
            rw [own] at here
            rw [← first _ here]
            rfl
        · next apart =>
            split
            · next own =>
                rw [own] at here
                rw [← second _ (fun same => apart (own.trans same.symm)) here]
                rfl
            · rfl

end Swap

/-! ### Runs -/

section Runs

variable {s : HotbarState}

@[simp] theorem apply_currentClass (s : HotbarState) (op : HotbarOp) :
    (s.apply op).currentClass = s.currentClass := by
  cases op with
  | equip classId commandId hotbarSlot persisted =>
      rw [apply, applyEquipAbility]
      split
      · rfl
      · rfl
  | unequip classId hotbarSlot persisted =>
      rw [apply, applyUnequipAbility]
      split
      · rfl
      · rfl
  | swap classId hotbarSlot1 hotbarSlot2 loaded written1 written2 =>
      rw [apply, applySwapAbilities]
      cases loaded
      · rfl
      · cases written1
        · rfl
        · cases written2
          · rfl
          · rfl
  | equipInFirstOpenSlot classId commandId found persisted =>
      rw [apply, applyEquipAbilityInFirstOpenSlot]
      split
      · rfl
      · dsimp only
        split
        · rfl
        · split
          · rfl
          · rfl

theorem stored_apply (stored : Stored s.rows) (op : HotbarOp) : Stored (s.apply op).rows := by
  cases op with
  | equip classId commandId hotbarSlot persisted =>
      rw [apply, applyEquipAbility]
      split
      · exact stored.equipAbility _ (zeroBased_le hotbarSlot) _ _
      · exact stored
  | unequip classId hotbarSlot persisted =>
      rw [apply, applyUnequipAbility]
      split
      · exact stored.unequipAbility _ _
      · exact stored
  | swap classId hotbarSlot1 hotbarSlot2 loaded written1 written2 =>
      have first := stored.equipAbility classId (zeroBased_le hotbarSlot1)
      rw [apply, applySwapAbilities]
      split
      · exact stored
      · dsimp only
        split
        · exact stored
        · split
          · exact first _ _
          · exact (first _ _).equipAbility classId (zeroBased_le hotbarSlot2) _ _
  | equipInFirstOpenSlot classId commandId found persisted =>
      rw [apply, applyEquipAbilityInFirstOpenSlot]
      split
      · exact stored
      · dsimp only
        split
        · exact stored
        · next low =>
            split
            · have inside : s.rows.findFirstCommandSlot classId ≤ 0xFFDF :=
                UInt16.le_of_lt (UInt16.lt_of_lt_of_le (UInt16.not_le.mp low) (by decide))
              exact stored.equipAbility _ inside _ _
            · exact stored

theorem unequip_iff (mirrored : Mirrored s) (classId : UInt8) (slot : UInt16) :
    Mirrored (s.applyUnequipAbility classId slot true) ∧
        (classId ≠ s.currentClass → (s.applyUnequipAbility classId slot true).hotbar = s.hotbar) ↔
      (classId ≠ s.currentClass → entryAt s.hotbar slot = none) := by
  have hotbar_eq : (s.applyUnequipAbility classId slot true).hotbar =
      s.hotbar.filter (·.hotbarSlot ≠ slot) := rfl
  have class_eq : (s.applyUnequipAbility classId slot true).currentClass = s.currentClass := rfl
  have row (at' : UInt16) := s.rows.lookup_unequipAbility classId s.currentClass slot at'
  have unchanged : (s.hotbar.filter (·.hotbarSlot ≠ slot)) = s.hotbar ↔
      entryAt s.hotbar slot = none := by
    rw [List.filter_eq_self, entryAt_eq_none, List.mem_map, not_exists]
    simp only [decide_eq_true_eq, not_and]
  constructor
  · intro both other
    exact unchanged.mp (both.2 other)
  · intro absent
    by_cases own : classId = s.currentClass
    · subst own
      obtain ⟨mask, either, alike⟩ := mirrored.alike
      simp only [HotbarRows.entryAt_loadHotbar] at alike
      refine ⟨⟨?_, HotbarRows.nodup_loadHotbar .., ⟨mask, either, fun at' => ?_⟩,
        fun at' c found => ?_⟩, fun other => absurd rfl other⟩
      · exact mirrored.once.sublist (List.Sublist.map _ List.filter_sublist)
      · rw [hotbar_eq, class_eq, entryAt_filter, HotbarRows.entryAt_loadHotbar]
        rw [applyUnequipAbility, if_pos rfl, row]
        simp only [true_and]
        split
        · rfl
        · exact alike at'
      · rw [class_eq, HotbarRows.entryAt_loadHotbar, applyUnequipAbility, if_pos rfl, row] at found
        simp only [true_and] at found
        split at found
        · contradiction
        · exact mirrored.filled at' c (by rw [HotbarRows.entryAt_loadHotbar]; exact found)
    · have same := unchanged.mpr (absent own)
      refine ⟨mirrored.congr class_eq (hotbar_eq.trans same) fun at' => ?_, fun _ => same⟩
      rw [applyUnequipAbility, if_pos rfl, row, if_neg fun both => own both.1.symm]

theorem behaved_iff {op : HotbarOp}
    (twice : ∀ slot1 slot2, op = .swap s.currentClass slot1 slot2 true true true →
      Restored s ((s.apply op).apply op))
    (first : ∀ classId commandId found persisted,
      op = .equipInFirstOpenSlot classId commandId found persisted →
        s.apply op = s ∨ LowestFilled s (s.apply op) classId commandId) :
    Behaved s op ↔ (op.classId ≠ s.currentClass → (s.apply op).hotbar = s.hotbar) :=
  ⟨fun behaved => behaved.otherClass, fun alone => ⟨alone, twice, first⟩⟩

theorem lowestFilled (stored : Stored s.rows) (classId : UInt8) (commandId : UInt32)
    (found persisted : Bool) :
    s.applyEquipAbilityInFirstOpenSlot classId commandId found persisted = s ∨
      LowestFilled s (s.applyEquipAbilityInFirstOpenSlot classId commandId found persisted)
        classId commandId := by
  rw [applyEquipAbilityInFirstOpenSlot]
  split
  · exact Or.inl rfl
  · dsimp only
    split
    · exact Or.inl rfl
    · next low =>
        split
        · obtain ⟨empty, below⟩ := HotbarRows.findFirst_spec stored classId
          refine Or.inr ⟨_, UInt16.not_le.mp low, ?_, fun lower less => ?_, rfl⟩
          · rw [HotbarRows.entryAt_loadHotbar, empty]
          · rw [HotbarRows.entryAt_loadHotbar]
            exact below lower less
        · exact Or.inl rfl

theorem swap_iff (stored : Stored s.rows) (mirrored : Mirrored s) (classId : UInt8)
    (slot1 slot2 : UInt16) (written2 : Bool) :
    Mirrored (s.apply (.swap classId slot1 slot2 true true written2)) ∧
        Behaved s (.swap classId slot1 slot2 true true written2) ↔
      MaySwap s classId (zeroBased slot1) (zeroBased slot2) written2 := by
  by_cases own : classId = s.currentClass
  · subst own
    have alone : s.currentClass ≠ s.currentClass →
        (s.apply (.swap s.currentClass slot1 slot2 true true written2)).hotbar = s.hotbar :=
      fun other => absurd rfl other
    cases written2 with
    | true =>
        constructor
        · exact fun both => maySwap_of_mirrored stored mirrored both.1
        · intro may
          refine ⟨mirrored_swapped stored mirrored may, alone, fun _ _ same => ?_, by simp⟩
          cases same
          exact swappedTwice stored mirrored may
    | false =>
        rw [behaved_iff (by simp) (by simp)]
        exact (and_iff_left alone).trans (halfSwapped_iff stored mirrored)
  · have elsewhere (slot1' slot2' : UInt16) (same : HotbarOp.swap classId slot1 slot2 true true
        written2 = .swap s.currentClass slot1' slot2' true true true) :
        Restored s ((s.apply (.swap classId slot1 slot2 true true written2)).apply
          (.swap classId slot1 slot2 true true written2)) := by
      cases same
      exact absurd rfl own
    rw [behaved_iff elsewhere (by simp), ← swappedElsewhere_iff mirrored own]
    constructor
    · exact fun both => both.2 own
    · intro same
      refine ⟨mirrored.congr ?_ same fun at' => ?_, fun _ => same⟩
      · cases written2 with
        | true => rfl
        | false => rfl
      · have apart (slot : UInt16) : ¬ (s.currentClass = classId ∧ at' = slot) :=
          fun both => own both.1.symm
        cases written2 with
        | true =>
            simp only [apply, applySwapAbilities, not_true_eq_false, if_false,
              HotbarRows.lookup_equipAbility, if_neg (apart _)]
        | false =>
            simp only [apply, applySwapAbilities, not_true_eq_false, if_false, if_true,
              Bool.false_eq_true, not_false_eq_true, HotbarRows.lookup_equipAbility,
              if_neg (apart _)]

theorem keepsMirror_iff (stored : Stored s.rows) (mirrored : Mirrored s) (op : HotbarOp) :
    Mirrored (s.apply op) ∧ Behaved s op ↔ KeepsMirror s op := by
  cases op with
  | equip classId commandId hotbarSlot persisted =>
      rw [behaved_iff (by simp) (by simp), KeepsMirror, apply, applyEquipAbility]
      cases persisted with
      | false => exact iff_of_true ⟨mirrored, fun _ => rfl⟩ (by simp)
      | true =>
          rw [if_pos rfl, imp_iff_right rfl]
          exact equipAt_iff mirrored classId (zeroBased hotbarSlot) commandId
  | unequip classId hotbarSlot persisted =>
      rw [behaved_iff (by simp) (by simp), KeepsMirror, apply]
      cases persisted with
      | false => exact iff_of_true ⟨mirrored, fun _ => rfl⟩ (by simp)
      | true =>
          rw [imp_iff_right rfl]
          exact unequip_iff mirrored classId hotbarSlot
  | swap classId hotbarSlot1 hotbarSlot2 loaded written1 written2 =>
      rw [KeepsMirror]
      by_cases through : loaded = true ∧ written1 = true
      · obtain ⟨rfl, rfl⟩ := through
        rw [imp_iff_right rfl, imp_iff_right rfl]
        exact swap_iff stored mirrored classId hotbarSlot1 hotbarSlot2 written2
      · have same : s.apply
            (.swap classId hotbarSlot1 hotbarSlot2 loaded written1 written2) = s := by
          rw [apply, applySwapAbilities]
          split
          · rfl
          · next loads =>
              have failed : ¬ written1 = true := fun writes =>
                through ⟨not_not.mp loads, writes⟩
              dsimp only
              rw [if_pos failed]
        have behaved : Behaved s
            (.swap classId hotbarSlot1 hotbarSlot2 loaded written1 written2) := by
          refine ⟨fun _ => by rw [same], fun _ _ full => ?_, by simp⟩
          cases full
          exact absurd ⟨rfl, rfl⟩ through
        rw [same]
        exact iff_of_true ⟨mirrored, behaved⟩ fun loads writes => absurd ⟨loads, writes⟩ through
  | equipInFirstOpenSlot classId commandId found persisted =>
      rw [behaved_iff (by simp) (fun _ _ _ _ same => by
        cases same
        exact lowestFilled stored classId commandId found persisted), KeepsMirror, apply,
        applyEquipAbilityInFirstOpenSlot]
      cases found with
      | false => exact iff_of_true ⟨mirrored, fun _ => rfl⟩ (by simp)
      | true =>
          cases persisted with
          | false =>
              have same : (if hotbarSlots ≤ s.rows.findFirstCommandSlot classId then s
                  else if false = true then s.equipAt classId
                    (s.rows.findFirstCommandSlot classId) commandId else s) = s := by
                split
                · rfl
                · rfl
              dsimp only
              simp only [not_true_eq_false, if_false, same]
              exact iff_of_true ⟨mirrored, fun _ => trivial⟩ (by simp)
          | true =>
              simp only [not_true_eq_false, if_false, if_true, true_implies]
              split
              · next full =>
                  exact iff_of_true ⟨mirrored, fun _ => rfl⟩ fun low =>
                    absurd low (UInt16.not_lt.mpr full)
              · next low =>
                  rw [imp_iff_right (UInt16.not_le.mp low)]
                  exact equipAt_iff mirrored classId _ commandId

/-- In every run from a bar that memory mirrors, memory mirrors it in every state and every
operation behaves exactly if every operation finds what it has to. -/
theorem hotbar_mirrored_iff (stored : Stored s.rows) (mirrored : Mirrored s)
    (ops : List HotbarOp) :
    Always hotbarStep Mirrored s ops ∧ EachStep hotbarStep Behaved s ops ↔
      EachStep hotbarStep KeepsMirror s ops := by
  apply always_and_eachStep_iff (I := fun s => Stored s.rows) _ _ stored mirrored
  · intro s op s' stored mirrored taken
    obtain rfl := Option.some.inj taken
    exact keepsMirror_iff stored mirrored op
  · intro s op s' stored _ _ taken
    obtain rfl := Option.some.inj taken
    exact stored_apply stored op

end Runs

def emptyBar : HotbarState where
  currentClass := 3
  hotbar := []
  rows := ∅

theorem emptyBar_stored : Stored emptyBar.rows := fun key c found => by
  rw [emptyBar, AList.lookup_empty] at found
  simp at found

theorem emptyBar_mirrored : Mirrored emptyBar := by
  have none_loaded (slot : UInt16) :
      entryAt (emptyBar.rows.loadHotbar emptyBar.currentClass) slot = none := by
    rw [HotbarRows.entryAt_loadHotbar, emptyBar, AList.lookup_empty]
  refine ⟨List.nodup_nil, HotbarRows.nodup_loadHotbar .., ⟨0, Or.inl rfl, fun slot => ?_⟩,
    fun slot _ found => ?_⟩
  · rw [none_loaded]
    rfl
  · rw [none_loaded] at found
    simp at found

theorem hotbar_mirrored_two :
    Always hotbarStep Mirrored emptyBar
        [.equip 3 27150 0x20 true, .equipInFirstOpenSlot 3 27151 true true, .unequip 3 0 true] ∧
      EachStep hotbarStep Behaved emptyBar
        [.equip 3 27150 0x20 true, .equipInFirstOpenSlot 3 27151 true true, .unequip 3 0 true] := by
  apply (hotbar_mirrored_iff emptyBar_stored emptyBar_mirrored _).mpr
  intro s taken
  obtain rfl := Option.some.inj taken
  refine ⟨fun _ => ⟨by decide, by decide, fun other c _ found => ?_⟩, fun s taken => ?_⟩
  · simp [emptyBar, entryAt] at found
  obtain rfl := Option.some.inj taken
  refine ⟨fun _ _ _ => ⟨by decide, by decide, fun other c _ found => ?_⟩, fun s taken => ?_⟩
  · have held : entryAt [⟨0, 27150 ||| commandMask, 0⟩] other = some c := found
    rw [entryAt_cons] at held
    split at held
    · obtain rfl := Option.some.inj held
      decide
    · simp [entryAt] at held
  · obtain rfl := Option.some.inj taken
    refine ⟨fun _ other => absurd ?_ other, trivial⟩
    rw [apply_currentClass, apply_currentClass]
    rfl

/-- A bar with one command, as it is loaded. -/
def loadedBar : HotbarState where
  currentClass := 3
  hotbar := [⟨0, 27150, 0⟩]
  rows := HotbarRows.equipAbility ∅ 3 0 27150 0

theorem swap_with_empty_slot :
    Stored loadedBar.rows ∧ Mirrored loadedBar ∧
      ¬ Always hotbarStep Mirrored loadedBar [.swap 3 0x20 0x21 true true true] := by
  have row (at' : UInt16) : loadedBar.rows.lookup ⟨3, at'⟩ =
      if at' = 0 then some (27150, 0) else none := by
    rw [loadedBar, HotbarRows.lookup_equipAbility]
    simp only [true_and, AList.lookup_empty]
    rfl
  have stored : Stored loadedBar.rows := emptyBar_stored.equipAbility 3 (by decide) 27150 0
  refine ⟨stored, ⟨by decide, HotbarRows.nodup_loadHotbar .., ⟨0, Or.inl rfl, fun at' => ?_⟩,
    fun at' c found => ?_⟩, fun always => ?_⟩
  · rw [HotbarRows.entryAt_loadHotbar]
    change entryAt [⟨0, 27150, 0⟩] at' = (loadedBar.rows.lookup ⟨3, at'⟩).map (withMask 0)
    rw [row, entryAt_cons]
    by_cases here : at' = 0
    · rw [if_pos here, if_pos here.symm]
      rfl
    · rw [if_neg here, if_neg (Ne.symm here)]
      rfl
  · rw [HotbarRows.entryAt_loadHotbar] at found
    change loadedBar.rows.lookup ⟨3, at'⟩ = some c at found
    rw [row] at found
    split at found
    · obtain rfl := Option.some.inj found
      decide
    · simp at found
  · have empty : commandAt (loadedBar.rows.loadHotbar 3) (zeroBased 0x21) = (0, 0) := by
      rw [commandAt, HotbarRows.entryAt_loadHotbar, row]
      rfl
    have written := lookup_swapped 3 stored 3 0x20 0x21 0
    rw [empty] at written
    have after := (always.2 _ rfl).filled 0 (0, 0)
    rw [HotbarRows.entryAt_loadHotbar] at after
    exact after written rfl

end Garlemald.Actor
