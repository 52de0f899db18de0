import Garlemald.Common.Bitstream
import Mathlib.Data.List.FinRange

/-!
The quest journal of a player: sixteen slots and the bits of the completed quests. A quest is
under the low twenty bits of its id; the lookups compare them with the whole id they are given.
-/

namespace Garlemald

open Common

def QUEST_ACTOR_ID_PREFIX : UInt32 := 0xA0F00000
def QUEST_ID_MASK : UInt32 := 0x000FFFFF
def QUEST_ID_BITSTREAM_BASE : UInt32 := 110001
def QUEST_BIT_MAX : ℕ := 2047

def questActorId (questId : UInt32) : UInt32 :=
  QUEST_ACTOR_ID_PREFIX ||| (questId &&& QUEST_ID_MASK)

def questIdFromActor (actorId : UInt32) : UInt32 := actorId &&& QUEST_ID_MASK

def questIdToBit (questId : UInt32) : Option ℕ :=
  if questId < QUEST_ID_BITSTREAM_BASE then none
  else
    let bit := (questId - QUEST_ID_BITSTREAM_BASE).toNat
    if bit > QUEST_BIT_MAX then none else some bit

structure QuestData where
  flags : UInt32 := 0
  counters : Fin 4 → UInt16 := fun _ => 0
  npcLsFrom : UInt32 := 0
  npcLsMsgStep : UInt8 := 0
  dirty : Bool := false

namespace QuestData

def setFlag (d : QuestData) (index : UInt8) : QuestData :=
  if index ≥ 32 then d
  else { d with flags := d.flags ||| (1 <<< index.toUInt32), dirty := true }

def clearFlag (d : QuestData) (index : UInt8) : QuestData :=
  if index ≥ 32 then d
  else { d with flags := d.flags &&& ~~~(1 <<< index.toUInt32), dirty := true }

def updateCounter (d : QuestData) (idx : ℕ) (f : UInt16 → UInt16) : QuestData :=
  if h : idx < 4 then
    { d with counters := Function.update d.counters ⟨idx, h⟩ (f (d.counters ⟨idx, h⟩)),
             dirty := true }
  else d

def incCounter (d : QuestData) (idx : ℕ) : QuestData := d.updateCounter idx (· + 1)
def decCounter (d : QuestData) (idx : ℕ) : QuestData := d.updateCounter idx (· - 1)
def setCounter (d : QuestData) (idx : ℕ) (value : UInt16) : QuestData :=
  d.updateCounter idx fun _ => value

def setNpcLsFrom (d : QuestData) (source : UInt32) : QuestData :=
  { d with npcLsFrom := source, npcLsMsgStep := 1, dirty := true }

def incNpcLsMsgStep (d : QuestData) : QuestData :=
  { d with npcLsMsgStep := if d.npcLsMsgStep = 255 then 255 else d.npcLsMsgStep + 1,
           dirty := true }

def clearNpcLs (d : QuestData) : QuestData :=
  { d with npcLsFrom := 0, npcLsMsgStep := 0, dirty := true }

def clear (_ : QuestData) : QuestData := { dirty := true }

def clearFlags (d : QuestData) : QuestData := { d with flags := 0, dirty := true }

end QuestData

structure Quest where
  actorId : UInt32
  sequence : UInt32 := 0
  data : QuestData := {}

namespace Quest

def questId (q : Quest) : UInt32 := questIdFromActor q.actorId

def startSequence (q : Quest) (sequence : UInt32) : Quest :=
  { q with sequence, data := { q.data with dirty := true } }

def clearDirty (q : Quest) : Quest := { q with data := { q.data with dirty := false } }

end Quest

theorem questIdFromActor_questActorId (questId : UInt32) :
    questIdFromActor (questActorId questId) = questId &&& QUEST_ID_MASK := by
  apply UInt32.toBitVec_inj.mp
  have apart : QUEST_ACTOR_ID_PREFIX.toBitVec &&& QUEST_ID_MASK.toBitVec = 0#32 := by decide
  simp only [questIdFromActor, questActorId, UInt32.toBitVec_and, UInt32.toBitVec_or]
  rw [BitVec.and_or_distrib_right, apart, BitVec.and_assoc, BitVec.and_self, BitVec.zero_or]

structure QuestJournal where
  slots : Fin 16 → Option Quest := fun _ => none
  completed : Bitstream2048 := .new

namespace QuestJournal

variable (j : QuestJournal) (questId : UInt32)

def holds (i : Fin 16) : Bool := (j.slots i).any (·.questId == questId)

def getFreeSlot : Option (Fin 16) :=
  (List.finRange 16).find? fun i => (j.slots i).isNone

def slotOf : Option (Fin 16) := (List.finRange 16).find? (j.holds questId)

def has : Bool := (j.slotOf questId).isSome

def setSlot (i : Fin 16) (quest : Option Quest) : QuestJournal :=
  { j with slots := Function.update j.slots i quest }

def add (quest : Quest) : Option (Fin 16 × QuestJournal) := do
  let slot ← j.getFreeSlot
  some (slot, j.setSlot slot (some quest))

def remove : QuestJournal :=
  match j.slotOf questId with
  | some slot => j.setSlot slot none
  | none => j

def setCompleted (done : Bool) : QuestJournal :=
  match questIdToBit questId with
  | some bit => { j with completed := if done then j.completed.set bit else j.completed.clear bit }
  | none => j

def complete : QuestJournal := (j.remove questId).setCompleted questId true

def isCompleted : Bool :=
  match questIdToBit questId with
  | some bit => j.completed.get bit
  | none => false

def canAccept : Bool := !j.has questId && !j.isCompleted questId && j.getFreeSlot.isSome

variable {j questId}

variable {j' : QuestJournal} {i : Fin 16} {quest : Quest}

theorem slotOf_some (found : j.slotOf questId = some i) : j.holds questId i = true :=
  List.find?_some found

theorem slots_of_slotOf (found : j.slotOf questId = some i) :
    ∃ q, j.slots i = some q ∧ q.questId = questId := by
  have taken := slotOf_some found
  rw [holds, Option.any_eq_true] at taken
  obtain ⟨q, here, same⟩ := taken
  exact ⟨q, here, beq_iff_eq.mp same⟩

theorem has_iff : j.has questId = true ↔ ∃ i, j.holds questId i = true := by
  simp [has, slotOf]

theorem has_eq_false : j.has questId = false ↔ ∀ i, j.holds questId i = false := by
  rw [← Bool.not_eq_true, has_iff]
  simp

theorem getFreeSlot_some (free : j.getFreeSlot = some i) : j.slots i = none := by
  have empty := List.find?_some free
  exact Option.isNone_iff_eq_none.mp empty

@[simp] theorem setCompleted_slots {done : Bool} :
    (j.setCompleted questId done).slots = j.slots := by
  rw [setCompleted]
  split <;> rfl

theorem setSlot_self {quest : Option Quest} (same : j.slots i = quest) : j.setSlot i quest = j := by
  rw [setSlot, ← same, Function.update_eq_self]

theorem slots_setSlot (i k : Fin 16) (quest : Option Quest) :
    (j.setSlot i quest).slots k = if k = i then quest else j.slots k :=
  Function.update_apply j.slots i quest k

theorem holds_setSlot {i k : Fin 16} {quest : Option Quest} :
    (j.setSlot i quest).holds questId k =
      if k = i then quest.any (·.questId == questId) else j.holds questId k := by
  rw [holds, slots_setSlot]
  split <;> rfl

def Single (j : QuestJournal) (questId : UInt32) : Prop :=
  ∀ i k, j.holds questId i = true → j.holds questId k = true → i = k

theorem holds_of_slots (same : j'.slots = j.slots) (i : Fin 16) :
    j'.holds questId i = j.holds questId i := by
  rw [holds, holds, same]

theorem Single.congr (single : j.Single questId)
    (same : ∀ i, j'.holds questId i = j.holds questId i) : j'.Single questId := by
  intro i k left right
  rw [same] at left right
  exact single i k left right

theorem holds_setSlot_some {q q' : Quest} (found : j.slots i = some q)
    (same : q'.questId = q.questId) (k : Fin 16) :
    (j.setSlot i (some q')).holds questId k = j.holds questId k := by
  rw [holds_setSlot]
  split
  · next here => rw [here, holds, found, Option.any_some, Option.any_some, same]
  · rfl

theorem slots_complete : (j.complete questId).slots = (j.remove questId).slots :=
  setCompleted_slots

theorem add_some (added : j.add quest = some (i, j')) :
    j.slots i = none ∧ j' = j.setSlot i (some quest) := by
  obtain ⟨slot, free, result⟩ := Option.bind_eq_some_iff.mp added
  cases result
  exact ⟨getFreeSlot_some free, rfl⟩

theorem free_of_add (added : j.add quest = some (i, j')) : j.getFreeSlot = some i := by
  obtain ⟨slot, free, result⟩ := Option.bind_eq_some_iff.mp added
  cases result
  exact free

theorem holds_add {i k : Fin 16} (added : j.add quest = some (i, j')) :
    j'.holds questId k = (decide (k = i) && quest.questId == questId || j.holds questId k) := by
  obtain ⟨free, rfl⟩ := add_some added
  rw [holds_setSlot]
  by_cases this : k = i
  · simp [this, holds, free]
  · simp [this]

theorem Single.add_ne (added : j.add quest = some (i, j')) (other : quest.questId ≠ questId)
    (single : j.Single questId) : j'.Single questId := by
  apply single.congr
  intro k
  rw [holds_add added]
  simp [other]

theorem Single.add (added : j.add quest = some (i, j')) (absent : j.has questId = false) :
    j'.Single questId := by
  intro k l left right
  rw [holds_add added, has_eq_false.mp absent] at left right
  simp only [Bool.or_false, Bool.and_eq_true, decide_eq_true_eq] at left right
  exact left.1.trans right.1.symm

theorem remove_some (found : j.slotOf questId = some i) : j.remove questId = j.setSlot i none := by
  rw [remove, found]

theorem remove_none (missing : j.slotOf questId = none) : j.remove questId = j := by
  rw [remove, missing]

theorem remove_completed : (j.remove questId).completed = j.completed := by
  cases found : j.slotOf questId with
  | none => rw [remove_none found]
  | some i =>
      rw [remove_some found]
      rfl

theorem masked_of_has (found : j.has questId = true) : questId &&& QUEST_ID_MASK = questId := by
  obtain ⟨i, taken⟩ := has_iff.mp found
  rw [holds, Option.any_eq_true] at taken
  obtain ⟨q, _, same⟩ := taken
  rw [← beq_iff_eq.mp same, Quest.questId, questIdFromActor, UInt32.and_assoc, UInt32.and_self]

theorem holds_remove_ne {other : UInt32} (differ : other ≠ questId) (k : Fin 16) :
    (j.remove other).holds questId k = j.holds questId k := by
  cases found : j.slotOf other with
  | none => rw [remove_none found]
  | some i =>
      rw [remove_some found, holds_setSlot]
      split
      · next here =>
          subst here
          have taken := slotOf_some found
          rw [holds] at taken ⊢
          cases quest : j.slots k with
          | none => rfl
          | some q =>
              rw [quest, Option.any_some, beq_iff_eq] at taken
              simp [taken, differ]
      · rfl

theorem Single.remove {other : UInt32} (single : j.Single questId) :
    (j.remove other).Single questId := by
  cases found : j.slotOf other with
  | none =>
      rw [remove_none found]
      exact single
  | some i =>
      rw [remove_some found]
      intro k l left right
      rw [holds_setSlot] at left right
      split at left
      · cases left
      · split at right
        · cases right
        · exact single k l left right

theorem has_remove (single : j.Single questId) : (j.remove questId).has questId = false := by
  cases found : j.slotOf questId with
  | none =>
      rw [remove_none found, has, found]
      rfl
  | some i =>
      rw [remove_some found, has_eq_false]
      intro k
      rw [holds_setSlot]
      split
      · rfl
      · next elsewhere =>
          rw [← Bool.not_eq_true]
          intro also
          exact elsewhere (single k i also (slotOf_some found))

end QuestJournal
end Garlemald
