import Garlemald.Library.Runs
import Garlemald.Library.Table
import Garlemald.Quest.Journal

/-!
The rows of a player's quest journal in the database. A row is keyed by its slot and written by
three statements: one that saves the sequence, the flags and the counters, one for the fields
of the linkshell messages, and one that removes the rows of a quest. A load builds the journal
from the rows.
-/

namespace Garlemald.Quest

open Common Library

structure ScenarioRow where
  questId : UInt32
  sequence : UInt32
  flags : UInt32
  counters : Fin 4 → UInt16
  npcLsFrom : UInt32 := 0
  npcLsMsgStep : UInt8 := 0

structure Database where
  scenario : Table ℕ ScenarioRow
  completedQuests : Option (List UInt8)

namespace Database

variable (db : Database)

/-- The update of a row that is there keeps the fields of the linkshell messages. -/
def saveQuest (slot : ℕ) (quest : Quest) : Database :=
  let row : ScenarioRow :=
    match db.scenario.lookup slot with
    | some row =>
        { row with questId := QUEST_ID_MASK &&& quest.actorId, sequence := quest.sequence,
                   flags := quest.data.flags, counters := quest.data.counters }
    | none =>
        { questId := QUEST_ID_MASK &&& quest.actorId, sequence := quest.sequence,
          flags := quest.data.flags, counters := quest.data.counters }
  { db with scenario := db.scenario.insert slot row }

def saveQuestNpcLs (slot : ℕ) (npcLsFrom : UInt32) (npcLsMsgStep : UInt8) : Database :=
  match db.scenario.lookup slot with
  | some row => { db with scenario := db.scenario.insert slot { row with npcLsFrom, npcLsMsgStep } }
  | none => db

def removeQuest (questId : UInt32) : Database :=
  { db with scenario :=
      Table.retain (fun _ row => row.questId != QUEST_ID_MASK &&& questId) db.scenario }

def loadCompletedQuests : Bitstream2048 :=
  match db.completedQuests with
  | some bytes => .fromSlice bytes
  | none => .new

def saveCompletedQuests (bitstream : Bitstream2048) : Database :=
  { db with completedQuests := some bitstream.asBytes }

def completeQuest (questId : UInt32) : Database :=
  match questIdToBit questId with
  | none => db
  | some bit =>
      let current := db.loadCompletedQuests
      if current.get bit then db else db.saveCompletedQuests (current.set bit)

end Database

def fromDbRow (row : ScenarioRow) : Quest where
  actorId := questActorId row.questId
  sequence := row.sequence
  data :=
    { flags := row.flags, counters := row.counters, npcLsFrom := row.npcLsFrom,
      npcLsMsgStep := row.npcLsMsgStep }

def loadRow (slots : Fin 16 → Option Quest) (row : Sigma fun _ : ℕ => ScenarioRow) :
    Fin 16 → Option Quest :=
  if inside : row.1 < 16 then Function.update slots ⟨row.1, inside⟩ (some (fromDbRow row.2))
  else slots

/-- The rows in the order in which the database gives them. -/
def loadSlots (rows : List (Sigma fun _ : ℕ => ScenarioRow)) : Fin 16 → Option Quest :=
  rows.foldl loadRow fun _ => none

def loadJournal (db : Database) : QuestJournal where
  slots := loadSlots db.scenario.entries
  completed := db.loadCompletedQuests

structure Player where
  journal : QuestJournal
  db : Database

inductive QuestMutation where
  | startSequence (sequence : UInt32)
  | setFlag (bit : UInt8)
  | clearFlag (bit : UInt8)
  | setCounter (idx : ℕ) (value : UInt16)
  | incCounter (idx : ℕ)
  | decCounter (idx : ℕ)
  | clearFlags
  | clearData

def QuestMutation.apply (q : Quest) : QuestMutation → Quest
  | .startSequence sequence => q.startSequence sequence
  | .setFlag bit => { q with data := q.data.setFlag bit }
  | .clearFlag bit => { q with data := q.data.clearFlag bit }
  | .setCounter idx value => { q with data := q.data.setCounter idx value }
  | .incCounter idx => { q with data := q.data.incCounter idx }
  | .decCounter idx => { q with data := q.data.decCounter idx }
  | .clearFlags => { q with data := q.data.clearFlags }
  | .clearData => { q with data := q.data.clear }

namespace Player

variable (p : Player) (questId : UInt32)

def applyAddQuest : Player :=
  if p.journal.has questId || p.journal.isCompleted questId then p
  else
    let quest : Quest := { actorId := questActorId questId }
    match p.journal.add quest with
    | none => p
    | some (slot, journal) => { journal, db := p.db.saveQuest slot quest }

def applyQuestMutation (mutation : QuestMutation) : Player :=
  match p.journal.slotOf questId with
  | none => p
  | some slot =>
      match p.journal.slots slot with
      | none => p
      | some q =>
          let q := mutation.apply q
          if q.data.dirty then
            { journal := p.journal.setSlot slot (some q.clearDirty), db := p.db.saveQuest slot q }
          else { p with journal := p.journal.setSlot slot (some q) }

/-- The three appliers of the linkshell messages save the fields that they leave. -/
def applyNpcLs (f : QuestData → QuestData) : Player :=
  match p.journal.slotOf questId with
  | none => p
  | some slot =>
      match p.journal.slots slot with
      | none => p
      | some q =>
          let data := f q.data
          { journal := p.journal.setSlot slot (some { q with data }),
            db := p.db.saveQuestNpcLs slot data.npcLsFrom data.npcLsMsgStep }

def applyQuestSetNpcLsFrom (source : UInt32) : Player :=
  p.applyNpcLs questId (·.setNpcLsFrom source)

def applyQuestIncrementNpcLsMsgStep : Player := p.applyNpcLs questId (·.incNpcLsMsgStep)

def applyQuestClearNpcLs : Player := p.applyNpcLs questId (·.clearNpcLs)

/-- The row goes only if the quest was in a slot. -/
def applyCompleteQuest : Player :=
  if p.journal.has questId then
    let db := if (p.journal.slotOf questId).isSome then p.db.removeQuest questId else p.db
    { journal := p.journal.complete questId, db := db.completeQuest questId }
  else p

def applyAbandonQuest : Player :=
  if p.journal.has questId then
    { journal := p.journal.remove questId, db := p.db.removeQuest questId }
  else p

def applySetQuestComplete (flag : Bool) : Player where
  journal := p.journal.setCompleted questId flag
  db :=
    if flag then p.db.completeQuest questId
    else
      match questIdToBit questId with
      | some bit => p.db.saveCompletedQuests (p.db.loadCompletedQuests.clear bit)
      | none => p.db

end Player

inductive JournalOp where
  | addQuest (questId : UInt32)
  | mutate (questId : UInt32) (mutation : QuestMutation)
  | setNpcLsFrom (questId source : UInt32)
  | incrementNpcLsMsgStep (questId : UInt32)
  | clearNpcLs (questId : UInt32)
  | completeQuest (questId : UInt32)
  | abandonQuest (questId : UInt32)
  | setQuestComplete (questId : UInt32) (flag : Bool)

def Player.apply (p : Player) : JournalOp → Player
  | .addQuest questId => p.applyAddQuest questId
  | .mutate questId mutation => p.applyQuestMutation questId mutation
  | .setNpcLsFrom questId source => p.applyQuestSetNpcLsFrom questId source
  | .incrementNpcLsMsgStep questId => p.applyQuestIncrementNpcLsMsgStep questId
  | .clearNpcLs questId => p.applyQuestClearNpcLs questId
  | .completeQuest questId => p.applyCompleteQuest questId
  | .abandonQuest questId => p.applyAbandonQuest questId
  | .setQuestComplete questId flag => p.applySetQuestComplete questId flag

def Player.step (p : Player) (op : JournalOp) : Option Player := some (p.apply op)

def saved (q : Quest) : ScenarioRow where
  questId := q.questId
  sequence := q.sequence
  flags := q.data.flags
  counters := q.data.counters
  npcLsFrom := q.data.npcLsFrom
  npcLsMsgStep := q.data.npcLsMsgStep

/-- No quest is in two slots, and a load of the database gives the journal. -/
structure Persisted (p : Player) : Prop where
  single : ∀ questId, p.journal.Single questId
  slots : ∀ i, ((loadJournal p.db).slots i).map saved = (p.journal.slots i).map saved
  completed : (loadJournal p.db).completed = p.journal.completed

/-- The row of a slot is what its quest would be saved as, and no other row is in a slot. -/
structure Stored (p : Player) : Prop where
  rows : ∀ i : Fin 16, p.db.scenario.lookup i.val = (p.journal.slots i).map saved
  completed : p.db.loadCompletedQuests = p.journal.completed

/-- A quest that the journal has is not accepted again under another id, and the data of a
quest is cleared only while it has no linkshell message. -/
def Clean (p : Player) : JournalOp → Prop
  | .addQuest questId =>
      p.journal.has (questIdFromActor (questActorId questId)) → ¬ p.journal.canAccept questId
  | .mutate questId .clearData =>
      ∀ slot quest, p.journal.slotOf questId = some slot → p.journal.slots slot = some quest →
        quest.data.npcLsFrom = 0 ∧ quest.data.npcLsMsgStep = 0
  | _ => True

theorem loadRow_apply (slots : Fin 16 → Option Quest) (row : Sigma fun _ : ℕ => ScenarioRow)
    (i : Fin 16) :
    loadRow slots row i = if row.1 = i.val then some (fromDbRow row.2) else slots i := by
  rw [loadRow]
  split
  · simp only [Function.update_apply, Fin.ext_iff, eq_comm]
  · next outside =>
      rw [if_neg]
      omega

theorem foldl_loadRow (rows : List (Sigma fun _ : ℕ => ScenarioRow)) (keys : rows.NodupKeys)
    (slots : Fin 16 → Option Quest) (i : Fin 16) :
    rows.foldl loadRow slots i = ((rows.dlookup i.val).map fromDbRow).or (slots i) := by
  induction rows generalizing slots with
  | nil => rfl
  | cons row rows ih =>
      obtain ⟨fresh, later⟩ := List.nodupKeys_cons.mp keys
      rw [List.foldl_cons, ih later, loadRow_apply]
      obtain ⟨slot, row⟩ := row
      split
      · next here =>
          cases here
          have absent : rows.dlookup i.val = none := List.dlookup_eq_none.mpr fresh
          rw [absent, List.dlookup_cons_eq]
          rfl
      · next elsewhere => rw [List.dlookup_cons_ne _ _ (Ne.symm elsewhere)]

theorem loadJournal_slots (db : Database) (i : Fin 16) :
    (loadJournal db).slots i = (db.scenario.lookup i.val).map fromDbRow :=
  (foldl_loadRow db.scenario.entries db.scenario.nodupKeys _ i).trans (Option.or_none)

theorem questIdFromActor_questId (q : Quest) :
    questIdFromActor (questActorId q.questId) = q.questId := by
  rw [questIdFromActor_questActorId, Quest.questId, questIdFromActor, UInt32.and_assoc,
    UInt32.and_self]

theorem saved_fromDbRow_saved (q : Quest) : saved (fromDbRow (saved q)) = saved q := by
  simp only [saved, fromDbRow]
  rw [Quest.questId, questIdFromActor_questId]

theorem lookup_saveQuest (db : Database) (slot other : ℕ) (q : Quest) :
    (db.saveQuest slot q).scenario.lookup other =
      if other = slot then
        some { saved q with
          npcLsFrom := (db.scenario.lookup slot).elim 0 (·.npcLsFrom)
          npcLsMsgStep := (db.scenario.lookup slot).elim 0 (·.npcLsMsgStep) }
      else db.scenario.lookup other := by
  have masked : QUEST_ID_MASK &&& q.actorId = q.questId := UInt32.and_comm _ _
  by_cases here : other = slot
  · subst here
    rw [if_pos rfl, Database.saveQuest, AList.lookup_insert, masked]
    cases db.scenario.lookup other <;> rfl
  · rw [if_neg here, Database.saveQuest, AList.lookup_insert_ne here]

namespace Stored

variable {p : Player}

theorem matches_slots (st : Stored p) (i : Fin 16) :
    ((loadJournal p.db).slots i).map saved = (p.journal.slots i).map saved := by
  rw [loadJournal_slots, st.rows, Option.map_map, Option.map_map]
  apply Option.map_congr
  intro q _
  exact saved_fromDbRow_saved q

theorem persisted (st : Stored p) (single : ∀ questId, p.journal.Single questId) : Persisted p :=
  ⟨single, st.matches_slots, st.completed⟩

theorem rows_save (st : Stored p) (i : Fin 16) (q : Quest) :
    (p.db.saveQuest i q).scenario.lookup i.val =
      some { saved q with
        npcLsFrom := (p.journal.slots i).elim 0 (·.data.npcLsFrom)
        npcLsMsgStep := (p.journal.slots i).elim 0 (·.data.npcLsMsgStep) } := by
  rw [lookup_saveQuest, if_pos rfl, st.rows]
  cases p.journal.slots i <;> rfl

theorem save (st : Stored p) {i : Fin 16} {q shown : Quest} (same : saved shown = saved q)
    (npcLsFrom : q.data.npcLsFrom = (p.journal.slots i).elim 0 (·.data.npcLsFrom))
    (npcLsMsgStep : q.data.npcLsMsgStep = (p.journal.slots i).elim 0 (·.data.npcLsMsgStep)) :
    Stored { journal := p.journal.setSlot i (some shown), db := p.db.saveQuest i q } where
  rows k := by
    dsimp only
    rw [QuestJournal.slots_setSlot]
    by_cases here : k = i
    · subst here
      rw [st.rows_save, ← npcLsFrom, ← npcLsMsgStep, if_pos rfl, Option.map_some, same]
      rfl
    · rw [lookup_saveQuest, if_neg (Fin.val_ne_of_ne here), if_neg here]
      exact st.rows k
  completed := st.completed

theorem saveNpcLs (st : Stored p) {i : Fin 16} {q : Quest} (found : p.journal.slots i = some q)
    {data : QuestData} (flags : data.flags = q.data.flags)
    (counters : data.counters = q.data.counters) :
    Stored { journal := p.journal.setSlot i (some { q with data }),
             db := p.db.saveQuestNpcLs i data.npcLsFrom data.npcLsMsgStep } := by
  have row : p.db.scenario.lookup i.val = some (saved q) := by rw [st.rows, found, Option.map_some]
  simp only [Database.saveQuestNpcLs, row]
  constructor
  · intro k
    dsimp only
    rw [QuestJournal.slots_setSlot]
    by_cases here : k = i
    · subst here
      rw [AList.lookup_insert, if_pos rfl, Option.map_some]
      rw [saved, saved, flags, counters]
      rfl
    · rw [AList.lookup_insert_ne (Fin.val_ne_of_ne here), if_neg here]
      exact st.rows k
  · exact st.completed

theorem slots_remove {j : QuestJournal} {questId : UInt32} (single : j.Single questId)
    (k : Fin 16) : (j.remove questId).slots k = (j.slots k).filter (·.questId != questId) := by
  have kept (free : j.holds questId k = false) :
      j.slots k = (j.slots k).filter (·.questId != questId) := by
    rw [QuestJournal.holds] at free
    cases quest : j.slots k with
    | none => rfl
    | some q =>
        rw [quest, Option.any_some] at free
        simp only [Option.filter, bne, free, Bool.not_false, if_true]
  cases found : j.slotOf questId with
  | none =>
      rw [QuestJournal.remove_none found]
      apply kept
      have missing : j.has questId = false := by rw [QuestJournal.has, found]; rfl
      exact QuestJournal.has_eq_false.mp missing k
  | some i =>
      have taken := QuestJournal.slotOf_some found
      rw [QuestJournal.remove_some found, QuestJournal.slots_setSlot]
      split
      · next here =>
          subst here
          rw [QuestJournal.holds] at taken
          cases quest : j.slots k with
          | none => rfl
          | some q =>
              rw [quest, Option.any_some] at taken
              simp [Option.filter, beq_iff_eq.mp taken]
      · next elsewhere =>
          apply kept
          rw [← Bool.not_eq_true]
          intro also
          exact elsewhere (single k i also taken)

theorem remove (st : Stored p) {questId : UInt32} (single : p.journal.Single questId)
    (found : p.journal.has questId = true) :
    Stored { journal := p.journal.remove questId, db := p.db.removeQuest questId } where
  rows k := by
    dsimp only
    have masked := QuestJournal.masked_of_has found
    rw [Database.removeQuest, Table.lookup_retain, st.rows, slots_remove single, UInt32.and_comm,
      masked]
    cases p.journal.slots k with
    | none => rfl
    | some q =>
        simp only [Option.map_some, Option.filter, saved]
        split <;> rfl
  completed := st.completed.trans QuestJournal.remove_completed.symm

theorem loadCompletedQuests_save (db : Database) (bitstream : Bitstream2048) :
    (db.saveCompletedQuests bitstream).loadCompletedQuests = bitstream :=
  Bitstream2048.fromSlice_asBytes bitstream

theorem loadCompletedQuests_complete (db : Database) (questId : UInt32) :
    (db.completeQuest questId).loadCompletedQuests =
      (questIdToBit questId).elim db.loadCompletedQuests db.loadCompletedQuests.set := by
  rw [Database.completeQuest]
  cases questIdToBit questId with
  | none => rfl
  | some bit =>
      dsimp only
      split
      · next present => exact (Bitstream2048.set_of_get present).symm
      · exact loadCompletedQuests_save db _

theorem complete (st : Stored p) (questId : UInt32) :
    Stored { journal := p.journal.setCompleted questId true,
             db := p.db.completeQuest questId } where
  rows k := by
    dsimp only
    have same : (p.db.completeQuest questId).scenario = p.db.scenario := by
      rw [Database.completeQuest]
      split
      · rfl
      · dsimp only
        split <;> rfl
    rw [same, QuestJournal.setCompleted_slots]
    exact st.rows k
  completed := by
    dsimp only
    rw [loadCompletedQuests_complete, st.completed, QuestJournal.setCompleted]
    cases questIdToBit questId <;> rfl

theorem uncomplete (st : Stored p) (questId : UInt32) :
    Stored (p.applySetQuestComplete questId false) where
  rows k := by
    simp only [Player.applySetQuestComplete, QuestJournal.setCompleted_slots]
    cases questIdToBit questId <;> exact st.rows k
  completed := by
    simp only [Player.applySetQuestComplete, QuestJournal.setCompleted]
    cases questIdToBit questId with
    | none => exact st.completed
    | some bit => exact (loadCompletedQuests_save p.db _).trans (by rw [st.completed]; rfl)

end Stored

namespace QuestMutation

variable (mutation : QuestMutation) (q : Quest)

theorem apply_actorId : (mutation.apply q).actorId = q.actorId := by
  cases mutation <;> rfl

theorem updateCounter_cases (d : QuestData) (idx : ℕ) (f : UInt16 → UInt16) :
    (d.updateCounter idx f = d ∨ (d.updateCounter idx f).dirty = true) ∧
      (d.updateCounter idx f).npcLsFrom = d.npcLsFrom ∧
        (d.updateCounter idx f).npcLsMsgStep = d.npcLsMsgStep := by
  rw [QuestData.updateCounter]
  split
  · exact ⟨.inr rfl, rfl, rfl⟩
  · exact ⟨.inl rfl, rfl, rfl⟩

theorem apply_cases : mutation.apply q = q ∨ (mutation.apply q).data.dirty = true := by
  cases mutation with
  | startSequence _ | clearFlags | clearData => exact .inr rfl
  | setFlag bit | clearFlag bit =>
      simp only [apply, QuestData.setFlag, QuestData.clearFlag]
      split
      · exact .inl rfl
      · exact .inr rfl
  | setCounter idx _ | incCounter idx | decCounter idx =>
      obtain same | dirty := (updateCounter_cases q.data idx _).1
      · exact .inl (congrArg (fun data => { q with data }) same)
      · exact .inr dirty

theorem apply_npcLs (kept : mutation ≠ .clearData) :
    (mutation.apply q).data.npcLsFrom = q.data.npcLsFrom ∧
      (mutation.apply q).data.npcLsMsgStep = q.data.npcLsMsgStep := by
  cases mutation with
  | startSequence _ | clearFlags => exact ⟨rfl, rfl⟩
  | clearData => exact absurd rfl kept
  | setFlag bit | clearFlag bit =>
      simp only [apply, QuestData.setFlag, QuestData.clearFlag]
      split <;> exact ⟨rfl, rfl⟩
  | setCounter idx _ | incCounter idx | decCounter idx => exact (updateCounter_cases q.data idx _).2

end QuestMutation

namespace Player

variable {p : Player} {questId : UInt32}

theorem stored_add (st : Stored p) : Stored (p.applyAddQuest questId) := by
  rw [applyAddQuest]
  split
  · exact st
  · cases added : p.journal.add { actorId := questActorId questId } with
    | none =>
        simp only [added]
        exact st
    | some result =>
        obtain ⟨i, journal⟩ := result
        obtain ⟨free, rfl⟩ := QuestJournal.add_some added
        simp only [added]
        apply st.save rfl
        · rw [free]
          rfl
        · rw [free]
          rfl

theorem single_add (single : ∀ questId, p.journal.Single questId)
    (clean : Clean p (.addQuest questId)) (other : UInt32) :
    (p.applyAddQuest questId).journal.Single other := by
  rw [applyAddQuest]
  split
  · exact single other
  · next accepts =>
      rw [Bool.or_eq_true, not_or, Bool.not_eq_true, Bool.not_eq_true] at accepts
      cases added : p.journal.add { actorId := questActorId questId } with
      | none =>
          simp only [added]
          exact single other
      | some result =>
          obtain ⟨i, journal⟩ := result
          simp only [added]
          by_cases this : questIdFromActor (questActorId questId) = other
          · apply QuestJournal.Single.add added
            rw [← Bool.not_eq_true, ← this]
            intro present
            apply clean present
            rw [QuestJournal.canAccept, accepts.1, accepts.2, QuestJournal.free_of_add added]
            rfl
          · exact QuestJournal.Single.add_ne added this (single other)

theorem clean_of_single_add (single : ∀ other, (p.applyAddQuest questId).journal.Single other) :
    Clean p (.addQuest questId) := by
  intro present accepts
  rw [QuestJournal.canAccept, Bool.and_eq_true, Bool.and_eq_true, Bool.not_eq_true',
    Bool.not_eq_true'] at accepts
  obtain ⟨⟨unseen, uncompleted⟩, free⟩ := accepts
  obtain ⟨i, free⟩ := Option.isSome_iff_exists.mp free
  obtain ⟨k, held⟩ := QuestJournal.has_iff.mp present
  have twice := single (questIdFromActor (questActorId questId))
  have added : p.journal.add { actorId := questActorId questId } =
      some (i, p.journal.setSlot i (some { actorId := questActorId questId })) := by
    rw [QuestJournal.add, free]
    rfl
  simp only [applyAddQuest, unseen, uncompleted, Bool.or_false, Bool.false_eq_true, if_false,
    added] at twice
  have same : i = k := by
    apply twice i k
    · rw [QuestJournal.holds_setSlot, if_pos rfl, Option.any_some, beq_iff_eq]
      rfl
    · rw [QuestJournal.holds_add added, held, Bool.or_true]
  rw [← same, QuestJournal.holds, QuestJournal.getFreeSlot_some free] at held
  cases held

theorem applyQuestMutation_cases (p : Player) (questId : UInt32) (mutation : QuestMutation) :
    (p.applyQuestMutation questId mutation = p ∧
      (mutation = .clearData → p.journal.slotOf questId = none)) ∨
    ∃ i quest, p.journal.slotOf questId = some i ∧ p.journal.slots i = some quest ∧
      p.applyQuestMutation questId mutation =
        { journal := p.journal.setSlot i (some (mutation.apply quest).clearDirty),
          db := p.db.saveQuest i (mutation.apply quest) } := by
  cases found : p.journal.slotOf questId with
  | none =>
      simp only [applyQuestMutation, found]
      exact .inl ⟨trivial, fun _ => trivial⟩
  | some i =>
      obtain ⟨quest, here, _⟩ := QuestJournal.slots_of_slotOf found
      simp only [applyQuestMutation, found, here]
      split
      · exact .inr ⟨i, quest, rfl, here, rfl⟩
      · next settled =>
          refine .inl ⟨?_, ?_⟩
          · obtain same | dirty := mutation.apply_cases quest
            · rw [same, QuestJournal.setSlot_self here]
            · exact absurd dirty settled
          · rintro rfl
            exact absurd rfl settled

theorem single_mutate (single : ∀ questId, p.journal.Single questId) (mutation : QuestMutation)
    (other : UInt32) : (p.applyQuestMutation questId mutation).journal.Single other := by
  obtain ⟨same, _⟩ | ⟨i, quest, _, here, result⟩ := applyQuestMutation_cases p questId mutation
  · rw [same]
    exact single other
  · rw [result]
    have sameId : (mutation.apply quest).clearDirty.questId = quest.questId :=
      congrArg questIdFromActor (mutation.apply_actorId quest)
    exact (single other).congr (QuestJournal.holds_setSlot_some here sameId)

theorem stored_mutate (st : Stored p) {mutation : QuestMutation}
    (clean : Clean p (.mutate questId mutation)) :
    Stored (p.applyQuestMutation questId mutation) := by
  obtain ⟨same, _⟩ | ⟨i, quest, found, here, result⟩ := applyQuestMutation_cases p questId mutation
  · rw [same]
    exact st
  · rw [result]
    have kept : (mutation.apply quest).data.npcLsFrom = quest.data.npcLsFrom ∧
        (mutation.apply quest).data.npcLsMsgStep = quest.data.npcLsMsgStep := by
      by_cases cleared : mutation = .clearData
      · subst cleared
        obtain ⟨source, step⟩ := clean i quest found here
        rw [source, step]
        exact ⟨rfl, rfl⟩
      · exact mutation.apply_npcLs quest cleared
    apply st.save rfl
    · rw [here]
      exact kept.1
    · rw [here]
      exact kept.2

theorem clean_of_persisted_mutate (st : Stored p) {mutation : QuestMutation}
    (persisted : Persisted (p.applyQuestMutation questId mutation)) :
    Clean p (.mutate questId mutation) := by
  by_cases cleared : mutation = .clearData
  · subst cleared
    intro slot quest found here
    obtain ⟨_, absent⟩ | ⟨i, old, found', here', result⟩ :=
      applyQuestMutation_cases p questId .clearData
    · rw [absent rfl] at found
      cases found
    · cases found.symm.trans found'
      cases here.symm.trans here'
      have slots := persisted.slots slot
      rw [result, loadJournal_slots, st.rows_save, here, QuestJournal.slots_setSlot, if_pos rfl]
        at slots
      have rows := congrArg (Option.map fun row => (row.npcLsFrom, row.npcLsMsgStep)) slots
      exact Prod.mk.inj (Option.some.inj rows)
  · cases mutation with
    | clearData => exact absurd rfl cleared
    | _ => trivial

theorem applyNpcLs_cases (p : Player) (questId : UInt32) (f : QuestData → QuestData) :
    p.applyNpcLs questId f = p ∨
      ∃ i quest, p.journal.slots i = some quest ∧ p.applyNpcLs questId f =
        { journal := p.journal.setSlot i (some { quest with data := f quest.data }),
          db := p.db.saveQuestNpcLs i (f quest.data).npcLsFrom (f quest.data).npcLsMsgStep } := by
  cases found : p.journal.slotOf questId with
  | none =>
      simp only [applyNpcLs, found]
      exact .inl trivial
  | some i =>
      obtain ⟨quest, here, _⟩ := QuestJournal.slots_of_slotOf found
      simp only [applyNpcLs, found, here]
      exact .inr ⟨i, quest, here, rfl⟩

theorem single_npcLs (single : ∀ questId, p.journal.Single questId) (f : QuestData → QuestData)
    (other : UInt32) : (p.applyNpcLs questId f).journal.Single other := by
  obtain same | ⟨i, quest, here, result⟩ := applyNpcLs_cases p questId f
  · rw [same]
    exact single other
  · rw [result]
    exact (single other).congr (QuestJournal.holds_setSlot_some here rfl)

theorem stored_npcLs (st : Stored p) {f : QuestData → QuestData}
    (flags : ∀ data, (f data).flags = data.flags)
    (counters : ∀ data, (f data).counters = data.counters) : Stored (p.applyNpcLs questId f) := by
  obtain same | ⟨i, quest, here, result⟩ := applyNpcLs_cases p questId f
  · rw [same]
    exact st
  · rw [result]
    exact st.saveNpcLs here (flags quest.data) (counters quest.data)

theorem single_abandon (single : ∀ questId, p.journal.Single questId) (other : UInt32) :
    (p.applyAbandonQuest questId).journal.Single other := by
  rw [applyAbandonQuest]
  split
  · exact (single other).remove
  · exact single other

theorem stored_abandon (st : Stored p) (single : p.journal.Single questId) :
    Stored (p.applyAbandonQuest questId) := by
  rw [applyAbandonQuest]
  split
  · next found => exact st.remove single found
  · exact st

theorem single_complete (single : ∀ questId, p.journal.Single questId) (other : UInt32) :
    (p.applyCompleteQuest questId).journal.Single other := by
  rw [applyCompleteQuest]
  split
  · exact (single other).remove.congr (QuestJournal.holds_of_slots QuestJournal.slots_complete)
  · exact single other

theorem stored_complete (st : Stored p) (single : p.journal.Single questId) :
    Stored (p.applyCompleteQuest questId) := by
  rw [applyCompleteQuest]
  split
  · next found =>
      rw [QuestJournal.has] at found
      rw [if_pos found]
      exact (st.remove single found).complete questId
  · exact st

theorem stored_setQuestComplete (st : Stored p) (flag : Bool) :
    Stored (p.applySetQuestComplete questId flag) := by
  cases flag with
  | true => exact st.complete questId
  | false => exact st.uncomplete questId

theorem stored_apply (st : Stored p) (single : ∀ questId, p.journal.Single questId)
    (op : JournalOp) (clean : Clean p op) : Stored (p.apply op) := by
  cases op with
  | addQuest questId => exact stored_add st
  | mutate questId mutation => exact stored_mutate st clean
  | setNpcLsFrom _ source =>
      exact stored_npcLs st (f := (·.setNpcLsFrom source)) (fun _ => rfl) fun _ => rfl
  | incrementNpcLsMsgStep _ =>
      exact stored_npcLs st (f := (·.incNpcLsMsgStep)) (fun _ => rfl) fun _ => rfl
  | clearNpcLs _ => exact stored_npcLs st (f := (·.clearNpcLs)) (fun _ => rfl) fun _ => rfl
  | completeQuest questId => exact stored_complete st (single questId)
  | abandonQuest questId => exact stored_abandon st (single questId)
  | setQuestComplete questId flag => exact stored_setQuestComplete st flag

theorem single_apply (single : ∀ questId, p.journal.Single questId) (op : JournalOp)
    (clean : Clean p op) (other : UInt32) : (p.apply op).journal.Single other := by
  cases op with
  | addQuest questId => exact single_add single clean other
  | mutate questId mutation => exact single_mutate single mutation other
  | setNpcLsFrom _ _ | incrementNpcLsMsgStep _ | clearNpcLs _ => exact single_npcLs single _ other
  | completeQuest questId => exact single_complete single other
  | abandonQuest questId => exact single_abandon single other
  | setQuestComplete questId flag =>
      exact (single other).congr (QuestJournal.holds_of_slots QuestJournal.setCompleted_slots)

theorem persisted_apply (st : Stored p) (single : ∀ questId, p.journal.Single questId)
    (op : JournalOp) : Persisted (p.apply op) ↔ Clean p op := by
  constructor
  · intro persisted
    cases op with
    | addQuest questId => exact clean_of_single_add persisted.single
    | mutate questId mutation => exact clean_of_persisted_mutate st persisted
    | _ => trivial
  · intro clean
    exact (stored_apply st single op clean).persisted (single_apply single op clean)

/-- In every run from rows that are what the slots say, the database stays a copy of the
journal exactly as long as the operations are clean. -/
theorem database_matches_journal (p : Player) (st : Stored p)
    (single : ∀ questId, p.journal.Single questId) (ops : List JournalOp) :
    Always step Persisted p ops ↔ EachStep step Clean p ops := by
  apply always_iff_eachStep (I := Stored) _ _ st (st.persisted single)
  · intro p op p' st persisted taken
    cases taken
    exact persisted_apply st persisted.single op
  · intro p op p' st persisted clean taken
    cases taken
    exact stored_apply st persisted.single op clean

def new : Player where
  journal := {}
  db := { scenario := ∅, completedQuests := none }

theorem stored_new : Stored new where
  rows _ := rfl
  completed := rfl

theorem single_new (questId : UInt32) : new.journal.Single questId := by
  intro i k left _
  cases left

theorem turned_in_is_persisted :
    Always step Persisted new
      [.addQuest 110001, .mutate 110001 (.setCounter 3 1), .setNpcLsFrom 110001 5,
        .completeQuest 110001] := by
  apply (database_matches_journal new stored_new single_new _).mpr
  intro _ _
  refine ⟨?_, fun _ _ => ⟨trivial, fun _ _ => ⟨trivial, fun _ _ => ⟨trivial, trivial⟩⟩⟩⟩
  intro present
  have absent : new.journal.has (questIdFromActor (questActorId 110001)) = false := by
    decide
  rw [absent] at present
  cases present

/-- Data that is cleared while a linkshell message is open comes back with the message. -/
theorem cleared_message_comes_back :
    ¬ ∀ (p : Player) (ops : List JournalOp), Stored p → (∀ questId, p.journal.Single questId) →
      Always step Persisted p ops := by
  intro claim
  let ops : List JournalOp :=
    [.addQuest 110001, .setNpcLsFrom 110001 5, .mutate 110001 .clearData]
  have differ : (run step new ops).any (fun p =>
      (((loadJournal p.db).slots 0).map saved).map (·.npcLsFrom) = some 5 ∧
        ((p.journal.slots 0).map saved).map (·.npcLsFrom) = some 0) = true := by
    decide
  obtain ⟨p, reached, differ⟩ := (Option.any_eq_true _ _).mp differ
  obtain ⟨loaded, held⟩ := of_decide_eq_true differ
  have always := claim new ops stored_new single_new
  have same := (always_iff_reached.mp always ops List.prefix_rfl p reached).slots 0
  rw [same, held] at loaded
  cases loaded

end Player

end Garlemald.Quest
