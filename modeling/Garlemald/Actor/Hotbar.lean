import Garlemald.Library.Runs
import Garlemald.Library.Table
import Mathlib.Data.List.Sort
import Mathlib.Data.UInt

/-!
The hotbar of one player: the rows of the database and the entries in memory, and the
four operations that write to both. The database knows a bar for every class, memory
the bar of the current class alone. Every database step of an operation may fail.
-/

namespace Garlemald.Actor
open Library

structure HotbarEntry where
  hotbarSlot : UInt16
  commandId : UInt32
  recastTime : UInt32
deriving DecidableEq, Repr

/-- The primary key of `characters_hotbar` for one character. -/
structure HotbarKey where
  classId : UInt8
  hotbarSlot : UInt16
deriving DecidableEq, Repr

/-- The rows of `characters_hotbar`: command and recast time. -/
abbrev HotbarRows := Table HotbarKey (UInt32 × UInt32)

def commandMask : UInt32 := 0xA0F00000

def commandBorder : UInt16 := 0x20

def hotbarSlots : UInt16 := 30

/-! ### The database -/

namespace HotbarRows

variable (rows : HotbarRows)

def equipAbility (classId : UInt8) (hotbarSlot : UInt16) (commandId recastTime : UInt32) :
    HotbarRows :=
  rows.insert ⟨classId, hotbarSlot⟩ (commandId &&& 0xFFFF, recastTime)

def unequipAbility (classId : UInt8) (hotbarSlot : UInt16) : HotbarRows :=
  rows.erase ⟨classId, hotbarSlot⟩

/-- `WHERE classId = :class ORDER BY hotbarSlot` -/
def loadHotbar (classId : UInt8) : List HotbarEntry :=
  ((rows.entries.filter fun row => row.1.classId = classId).map fun row =>
    { hotbarSlot := row.1.hotbarSlot, commandId := row.2.1, recastTime := row.2.2 }).mergeSort
      fun a b => a.hotbarSlot ≤ b.hotbarSlot

/-- The first number that is missing in an ascending list. -/
def firstGap : UInt16 → List UInt16 → UInt16
  | expected, [] => expected
  | expected, slot :: slots => if slot ≠ expected then expected else firstGap (expected + 1) slots

def findFirstCommandSlot (classId : UInt8) : UInt16 :=
  firstGap 0 ((rows.loadHotbar classId).map (·.hotbarSlot))

end HotbarRows

/-! ### The operations -/

structure HotbarState where
  currentClass : UInt8
  hotbar : List HotbarEntry
  rows : HotbarRows

def setEntry (slot : UInt16) (commandId recastTime : UInt32) :
    List HotbarEntry → List HotbarEntry
  | [] => [{ hotbarSlot := slot, commandId, recastTime }]
  | entry :: entries =>
      if entry.hotbarSlot = slot then { entry with commandId, recastTime } :: entries
      else entry :: setEntry slot commandId recastTime entries

/-- The command and recast time of the first entry at a slot. -/
def entryAt (entries : List HotbarEntry) (slot : UInt16) : Option (UInt32 × UInt32) :=
  (entries.find? (·.hotbarSlot = slot)).map fun e => (e.commandId, e.recastTime)

/-- The scripts count the slots of a bar from the border. -/
def zeroBased (hotbarSlot : UInt16) : UInt16 :=
  if hotbarSlot < commandBorder then 0 else hotbarSlot - commandBorder

/-- An operation on the bar of a class, and which of its database steps go through. -/
inductive HotbarOp where
  | equip (classId : UInt8) (commandId : UInt32) (hotbarSlot : UInt16) (persisted : Bool)
  | unequip (classId : UInt8) (hotbarSlot : UInt16) (persisted : Bool)
  | swap (classId : UInt8) (hotbarSlot1 hotbarSlot2 : UInt16) (loaded written1 written2 : Bool)
  | equipInFirstOpenSlot (classId : UInt8) (commandId : UInt32) (found persisted : Bool)
deriving DecidableEq, Repr

namespace HotbarState

variable (s : HotbarState)

def equipAt (classId : UInt8) (slot : UInt16) (commandId : UInt32) : HotbarState :=
  { s with
    rows := s.rows.equipAbility classId slot commandId 0
    hotbar := setEntry slot (commandId ||| commandMask) 0 s.hotbar }

def applyEquipAbility (classId : UInt8) (commandId : UInt32) (hotbarSlot : UInt16)
    (persisted : Bool) : HotbarState :=
  if persisted then s.equipAt classId (zeroBased hotbarSlot) commandId else s

def applyUnequipAbility (classId : UInt8) (hotbarSlot : UInt16) (persisted : Bool) :
    HotbarState :=
  if persisted then
    { s with
      rows := s.rows.unequipAbility classId hotbarSlot
      hotbar := s.hotbar.filter (·.hotbarSlot ≠ hotbarSlot) }
  else s

def commandAt (entries : List HotbarEntry) (slot : UInt16) : UInt32 × UInt32 :=
  (entryAt entries slot).getD (0, 0)

/-- Both rows are written one after the other, then the entries that memory has. -/
def applySwapAbilities (classId : UInt8) (hotbarSlot1 hotbarSlot2 : UInt16)
    (loaded written1 written2 : Bool) : HotbarState :=
  if ¬ loaded then s
  else
    let zero1 := zeroBased hotbarSlot1
    let zero2 := zeroBased hotbarSlot2
    let entries := s.rows.loadHotbar classId
    let cmd1 := commandAt entries zero1
    let cmd2 := commandAt entries zero2
    if ¬ written1 then s
    else
      let rows := s.rows.equipAbility classId zero1 cmd2.1 cmd2.2
      if ¬ written2 then { s with rows }
      else
        { s with
          rows := rows.equipAbility classId zero2 cmd1.1 cmd1.2
          hotbar := s.hotbar.map fun entry =>
            if entry.hotbarSlot = zero1 then
              { entry with commandId := cmd2.1, recastTime := cmd2.2 }
            else if entry.hotbarSlot = zero2 then
              { entry with commandId := cmd1.1, recastTime := cmd1.2 }
            else entry }

def applyEquipAbilityInFirstOpenSlot (classId : UInt8) (commandId : UInt32)
    (found persisted : Bool) : HotbarState :=
  if ¬ found then s
  else
    let slot := s.rows.findFirstCommandSlot classId
    if hotbarSlots ≤ slot then s
    else if persisted then s.equipAt classId slot commandId else s

def apply : HotbarOp → HotbarState
  | .equip classId commandId hotbarSlot persisted =>
      s.applyEquipAbility classId commandId hotbarSlot persisted
  | .unequip classId hotbarSlot persisted => s.applyUnequipAbility classId hotbarSlot persisted
  | .swap classId hotbarSlot1 hotbarSlot2 loaded written1 written2 =>
      s.applySwapAbilities classId hotbarSlot1 hotbarSlot2 loaded written1 written2
  | .equipInFirstOpenSlot classId commandId found persisted =>
      s.applyEquipAbilityInFirstOpenSlot classId commandId found persisted

end HotbarState

def HotbarOp.classId : HotbarOp → UInt8
  | equip classId .. => classId
  | unequip classId .. => classId
  | swap classId .. => classId
  | equipInFirstOpenSlot classId .. => classId

def hotbarStep (s : HotbarState) (op : HotbarOp) : Option HotbarState := some (s.apply op)

/-! ### The entries of a bar -/

section Entries

variable {entries : List HotbarEntry} {slot : UInt16} {commandId recastTime : UInt32}

theorem entryAt_cons (entry : HotbarEntry) (entries : List HotbarEntry) (at' : UInt16) :
    entryAt (entry :: entries) at' =
      if entry.hotbarSlot = at' then some (entry.commandId, entry.recastTime)
      else entryAt entries at' := by
  rw [entryAt, List.find?_cons]
  by_cases same : entry.hotbarSlot = at'
  · rw [if_pos same, decide_eq_true same]
    rfl
  · rw [if_neg same, decide_eq_false same]
    rfl

theorem entryAt_eq_none : entryAt entries slot = none ↔
    slot ∉ entries.map (·.hotbarSlot) := by
  induction entries with
  | nil => simp [entryAt]
  | cons entry entries ih =>
      rw [entryAt_cons, List.map_cons, List.mem_cons]
      split
      · next same => simp [same]
      · next other => simp [ih, Ne.symm other]

theorem entryAt_eq_some (once : (entries.map (·.hotbarSlot)).Nodup) {c : UInt32 × UInt32} :
    entryAt entries slot = some c ↔ ⟨slot, c.1, c.2⟩ ∈ entries := by
  induction entries with
  | nil => simp [entryAt]
  | cons entry entries ih =>
      rw [List.map_cons] at once
      obtain ⟨fresh, once⟩ := List.nodup_cons.mp once
      rw [entryAt_cons, List.mem_cons]
      split
      · next same =>
          subst same
          have absent : (⟨entry.hotbarSlot, c.1, c.2⟩ : HotbarEntry) ∉ entries :=
            fun member => fresh (List.mem_map.mpr ⟨_, member, rfl⟩)
          rw [or_iff_left absent, Option.some.injEq]
          constructor
          · rintro rfl
            rfl
          · intro whole
            rw [← whole]
      · next other =>
          rw [ih once]
          refine (or_iff_right fun same => other ?_).symm
          rw [← same]

theorem entryAt_setEntry (entries : List HotbarEntry) (at' : UInt16) :
    entryAt (setEntry slot commandId recastTime entries) at' =
      if at' = slot then some (commandId, recastTime) else entryAt entries at' := by
  induction entries with
  | nil =>
      rw [setEntry, entryAt_cons]
      by_cases same : at' = slot
      · rw [if_pos same, if_pos same.symm]
      · rw [if_neg same, if_neg (Ne.symm same)]
  | cons entry entries ih =>
      rw [setEntry]
      split
      · next here =>
          rw [entryAt_cons, entryAt_cons]
          by_cases same : at' = slot
          · rw [if_pos same, if_pos (here.trans same.symm)]
          · have other : ¬ entry.hotbarSlot = at' := fun own => same (own.symm.trans here)
            rw [if_neg same, if_neg other, if_neg other]
      · next elsewhere =>
          rw [entryAt_cons, ih, entryAt_cons]
          by_cases same : at' = slot
          · have other : ¬ entry.hotbarSlot = at' := fun own => elsewhere (own.trans same)
            rw [if_neg other, if_pos same, if_pos same]
          · rw [if_neg same, if_neg same]

theorem slot_of_mem_setEntry {e : HotbarEntry}
    (member : e ∈ setEntry slot commandId recastTime entries) :
    e.hotbarSlot = slot ∨ e.hotbarSlot ∈ entries.map (·.hotbarSlot) := by
  induction entries with
  | nil =>
      obtain rfl := List.mem_singleton.mp member
      exact Or.inl rfl
  | cons entry entries ih =>
      rw [setEntry] at member
      rw [List.map_cons, List.mem_cons]
      split at member
      · next here =>
          rcases List.mem_cons.mp member with rfl | later
          · exact Or.inl here
          · exact Or.inr (Or.inr (List.mem_map.mpr ⟨e, later, rfl⟩))
      · rcases List.mem_cons.mp member with rfl | later
        · exact Or.inr (Or.inl rfl)
        · exact (ih later).imp_right Or.inr

theorem nodup_setEntry (once : (entries.map (·.hotbarSlot)).Nodup) :
    ((setEntry slot commandId recastTime entries).map (·.hotbarSlot)).Nodup := by
  induction entries with
  | nil => exact List.nodup_singleton slot
  | cons entry entries ih =>
      obtain ⟨fresh, once'⟩ := List.nodup_cons.mp once
      rw [setEntry]
      split
      · exact once
      · next elsewhere =>
          refine List.nodup_cons.mpr ⟨fun member => ?_, ih once'⟩
          obtain ⟨e, inside, same⟩ := List.mem_map.mp member
          rcases slot_of_mem_setEntry inside with own | old
          · exact elsewhere (same.symm.trans own)
          · exact fresh (same ▸ old)

theorem setEntry_eq_self :
    setEntry slot commandId recastTime entries = entries ↔
      entryAt entries slot = some (commandId, recastTime) := by
  induction entries with
  | nil => simp [setEntry, entryAt]
  | cons entry entries ih =>
      rw [setEntry, entryAt_cons]
      split
      · next here =>
          rw [List.cons.injEq, Option.some.injEq, Prod.mk.injEq, and_iff_left rfl]
          constructor
          · intro same
            rw [← same]
            exact ⟨rfl, rfl⟩
          · rintro ⟨rfl, rfl⟩
            rfl
      · rw [List.cons.injEq, and_iff_right rfl, ih]

theorem entryAt_filter (entries : List HotbarEntry) (at' : UInt16) :
    entryAt (entries.filter (·.hotbarSlot ≠ slot)) at' =
      if at' = slot then none else entryAt entries at' := by
  induction entries with
  | nil => simp [entryAt]
  | cons entry entries ih =>
      rw [List.filter_cons]
      by_cases here : entry.hotbarSlot = slot
      · rw [if_neg (by simpa using here), ih, entryAt_cons]
        by_cases same : at' = slot
        · rw [if_pos same, if_pos same]
        · have other : ¬ entry.hotbarSlot = at' := fun own => same (own.symm.trans here)
          rw [if_neg same, if_neg same, if_neg other]
      · rw [if_pos (by simpa using here), entryAt_cons, ih, entryAt_cons]
        by_cases same : at' = slot
        · have other : ¬ entry.hotbarSlot = at' := fun own => here (own.trans same)
          rw [if_neg other, if_pos same, if_pos same]
        · rw [if_neg same, if_neg same]

theorem entryAt_map {f : HotbarEntry → HotbarEntry}
    {g : UInt16 → UInt32 × UInt32 → UInt32 × UInt32}
    (slot_eq : ∀ e, (f e).hotbarSlot = e.hotbarSlot)
    (value_eq : ∀ e, ((f e).commandId, (f e).recastTime) =
      g e.hotbarSlot (e.commandId, e.recastTime)) (entries : List HotbarEntry) (at' : UInt16) :
    entryAt (entries.map f) at' = (entryAt entries at').map (g at') := by
  induction entries with
  | nil => rfl
  | cons entry entries ih =>
      rw [List.map_cons, entryAt_cons, entryAt_cons, slot_eq]
      split
      · next here => rw [value_eq, here, Option.map_some]
      · exact ih

end Entries

/-! ### The bar of a class -/

namespace HotbarRows

variable (rows : HotbarRows) (classId : UInt8)

theorem mem_loadHotbar (e : HotbarEntry) : e ∈ rows.loadHotbar classId ↔
    rows.lookup ⟨classId, e.hotbarSlot⟩ = some (e.commandId, e.recastTime) := by
  rw [loadHotbar, (List.mergeSort_perm _ _).mem_iff, List.mem_map, ← Option.mem_def,
    AList.mem_lookup_iff]
  constructor
  · rintro ⟨⟨⟨k, slot⟩, c⟩, inside, rfl⟩
    obtain ⟨present, own⟩ := List.mem_filter.mp inside
    obtain rfl := of_decide_eq_true own
    exact present
  · intro present
    exact ⟨_, List.mem_filter.mpr ⟨present, decide_eq_true rfl⟩, rfl⟩

theorem slots_perm : ((rows.loadHotbar classId).map (·.hotbarSlot)).Perm
    ((rows.entries.filter fun row => row.1.classId = classId).map (·.1.hotbarSlot)) := by
  have sorted := (List.mergeSort_perm ((rows.entries.filter fun row =>
    row.1.classId = classId).map fun row => (⟨row.1.hotbarSlot, row.2.1, row.2.2⟩ : HotbarEntry))
    fun a b => a.hotbarSlot ≤ b.hotbarSlot).map (·.hotbarSlot)
  rw [List.map_map] at sorted
  exact sorted

theorem nodup_loadHotbar : ((rows.loadHotbar classId).map (·.hotbarSlot)).Nodup := by
  rw [(rows.slots_perm classId).nodup_iff]
  have keys : ((rows.entries.filter fun row => row.1.classId = classId).map (·.1)).Nodup :=
    List.Nodup.sublist (List.Sublist.map _ List.filter_sublist) rows.nodupKeys
  have own : ∀ key ∈ (rows.entries.filter fun row => row.1.classId = classId).map (·.1),
      key.classId = classId := by
    intro key member
    obtain ⟨row, inside, rfl⟩ := List.mem_map.mp member
    exact of_decide_eq_true (List.mem_filter.mp inside).2
  have slots := List.Nodup.map_on (f := (·.hotbarSlot)) (fun a inA b inB same => by
    cases a
    cases b
    cases own _ inA
    cases own _ inB
    cases same
    rfl) keys
  rw [List.map_map] at slots
  exact slots

theorem entryAt_loadHotbar (slot : UInt16) :
    entryAt (rows.loadHotbar classId) slot = rows.lookup ⟨classId, slot⟩ := by
  apply Option.ext
  intro c
  rw [entryAt_eq_some (rows.nodup_loadHotbar classId), mem_loadHotbar]

theorem sorted_loadHotbar : ((rows.loadHotbar classId).map (·.hotbarSlot)).Pairwise (· < ·) := by
  have sorted : ((rows.loadHotbar classId).map (·.hotbarSlot)).Pairwise (· ≤ ·) := by
    rw [List.pairwise_map, loadHotbar]
    refine List.Pairwise.imp (fun le => decide_eq_true_eq.mp le) (List.pairwise_mergeSort ?_ ?_ _)
    · intro a b c first second
      rw [decide_eq_true_eq] at first second ⊢
      exact UInt16.le_trans first second
    · intro a b
      rw [Bool.or_eq_true, decide_eq_true_eq, decide_eq_true_eq]
      exact UInt16.le_total a.hotbarSlot b.hotbarSlot
  exact sorted.imp₂ (fun _ _ le ne => UInt16.lt_iff_le_and_ne.mpr ⟨le, ne⟩)
    (rows.nodup_loadHotbar classId)

end HotbarRows

end Garlemald.Actor
