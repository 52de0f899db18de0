import Garlemald.Library.Table
import Garlemald.Quest.Journal
import Mathlib.Algebra.BigOperators.Group.List.Basic
import Mathlib.Algebra.GroupWithZero.Nat
import Mathlib.Data.Int.Order.Basic
import Mathlib.Data.List.Induction

/-!
Regional leves: the catalog with its indexes by target, the view of a quest as a leve, and the
events that advance the leves of a journal.
-/

namespace Garlemald

open Library

inductive LeveType where
  | fieldcraft
  | battlecraft
deriving DecidableEq, Repr

/-- Of a row of the catalog, what the progress and the rewards read. The bands are parallel. -/
structure RegionalLeveData where
  id : UInt32
  leveType : LeveType
  objectiveTargetId : Fin 4 → Int32
  objectiveQuantity : Fin 4 → Int32
  rewardItemId : Fin 4 → Int32
  rewardQuantity : Fin 4 → Int32
  rewardGil : Fin 4 → Int32

/-! ### The catalog -/

structure RegionalLeveResolver where
  byId : Table UInt32 RegionalLeveData
  byFieldcraftTarget : Table UInt32 (List UInt32)
  byBattlecraftTarget : Table UInt32 (List UInt32)

namespace RegionalLeveResolver

def new : RegionalLeveResolver := ⟨∅, ∅, ∅⟩

/-- The target of the first band is the key of the index. -/
def insert (r : RegionalLeveResolver) (row : RegionalLeveData) : RegionalLeveResolver :=
  let t0 := row.objectiveTargetId 0
  let indexed :=
    if 0 < t0 then
      match row.leveType with
      | .fieldcraft =>
          { r with byFieldcraftTarget := Table.push r.byFieldcraftTarget t0.toUInt32 row.id }
      | .battlecraft =>
          { r with byBattlecraftTarget := Table.push r.byBattlecraftTarget t0.toUInt32 row.id }
    else r
  { indexed with byId := r.byId.insert row.id row }

def fromRows (rows : List RegionalLeveData) : RegionalLeveResolver := rows.foldl insert new

def fieldcraftLevesForItem (r : RegionalLeveResolver) (itemCatalogId : UInt32) : List UInt32 :=
  (r.byFieldcraftTarget.lookup itemCatalogId).getD []

def battlecraftLevesForClass (r : RegionalLeveResolver) (actorClassId : UInt32) : List UInt32 :=
  (r.byBattlecraftTarget.lookup actorClassId).getD []

end RegionalLeveResolver

/-! ### The view -/

def QuestData.getFlag (d : QuestData) (index : UInt8) : Bool :=
  if index ≥ 32 then false else (d.flags &&& (1 <<< index.toUInt32)) ≠ 0

def ACCEPTED_FLAG_BIT : UInt8 := 0

def COMPLETED_FLAG_BIT : UInt8 := 1

namespace RegionalLeveView

variable (quest : Quest) (data : RegionalLeveData)

def currentDifficulty : Fin 4 := ⟨min (quest.data.counters 1).toNat 3, by omega⟩

def progress : UInt16 := quest.data.counters 0

def isAccepted : Bool := quest.data.getFlag ACCEPTED_FLAG_BIT

def isCompleted : Bool := quest.data.getFlag COMPLETED_FLAG_BIT

def objectiveQuantity : Int32 := data.objectiveQuantity (currentDifficulty quest)

def objectiveTargetId : Int32 := data.objectiveTargetId (currentDifficulty quest)

def saturatingAddU16 (a b : UInt16) : UInt16 := UInt16.ofNat (min (a.toNat + b.toNat) (2 ^ 16 - 1))

/-- The quantity is cut to 16 bits. -/
def advanceProgress (delta : UInt16) : Quest × Bool :=
  if !isAccepted quest || isCompleted quest then (quest, false)
  else
    let target := UInt16.ofNat (max (objectiveQuantity quest data) 0).toInt.toNat
    let new := min (saturatingAddU16 (progress quest) delta) target
    let advanced := { quest with data := quest.data.setCounter 0 new }
    if target ≤ new ∧ 0 < target then
      ({ advanced with data := advanced.data.setFlag COMPLETED_FLAG_BIT }, true)
    else (advanced, false)

end RegionalLeveView

/-! ### Events -/

/-- A journal with the leves that were completed and the quests that are to be saved. -/
structure LeveAdvance where
  journal : QuestJournal
  completed : List UInt32 := []
  saves : List (Fin 16 × Quest) := []

namespace LeveAdvance

def advanceOne (resolver : RegionalLeveResolver) (delta : UInt16) (s : LeveAdvance)
    (leveId : UInt32) : LeveAdvance :=
  match resolver.byId.lookup leveId, s.journal.slotOf leveId with
  | some data, some slot =>
      match s.journal.slots slot with
      | none => s
      | some quest =>
          let (quest, justCompleted) := RegionalLeveView.advanceProgress quest data delta
          let completed := if justCompleted then s.completed ++ [leveId] else s.completed
          if quest.data.dirty then
            { journal := s.journal.setSlot slot (some quest.clearDirty)
              completed
              saves := s.saves ++ [(slot, quest.clearDirty)] }
          else { s with journal := s.journal.setSlot slot (some quest), completed }
  | _, _ => s

end LeveAdvance

def advanceRegionalLeves (resolver : RegionalLeveResolver) (leveIds : List UInt32) (delta : UInt16)
    (journal : QuestJournal) : LeveAdvance :=
  leveIds.foldl (LeveAdvance.advanceOne resolver delta) { journal }

inductive LeveEvent where
  | harvest (itemCatalogId : UInt32) (delta : UInt16)
  | kill (actorClassId : UInt32)
deriving DecidableEq, Repr

namespace LeveEvent

def advance (resolver : RegionalLeveResolver) (journal : QuestJournal) : LeveEvent → LeveAdvance
  | harvest itemCatalogId delta =>
      if delta = 0 then { journal }
      else
        advanceRegionalLeves resolver (resolver.fieldcraftLevesForItem itemCatalogId) delta journal
  | kill actorClassId =>
      advanceRegionalLeves resolver (resolver.battlecraftLevesForClass actorClassId) 1 journal

end LeveEvent

/-! ### The indexes -/

structure LeveRows where
  rows : List RegionalLeveData
  once : (rows.map (·.id)).Nodup

namespace LeveEvent

/-- The event is for the target of the first band of a leve of its kind. -/
def Names (e : LeveEvent) (d : RegionalLeveData) : Prop :=
  0 < d.objectiveTargetId 0 ∧
    match e with
    | harvest itemCatalogId delta =>
        d.leveType = .fieldcraft ∧ delta ≠ 0 ∧ (d.objectiveTargetId 0).toUInt32 = itemCatalogId
    | kill actorClassId =>
        d.leveType = .battlecraft ∧ (d.objectiveTargetId 0).toUInt32 = actorClassId

instance (e : LeveEvent) (d : RegionalLeveData) : Decidable (e.Names d) :=
  match e with
  | harvest _ _ => inferInstanceAs (Decidable (_ ∧ _ ∧ _ ∧ _))
  | kill _ => inferInstanceAs (Decidable (_ ∧ _ ∧ _))

def amount : LeveEvent → UInt16
  | harvest _ delta => delta
  | kill _ => 1

end LeveEvent

namespace RegionalLeveResolver

variable {rows : List RegionalLeveData}

theorem lookup_byId (once : (rows.map (·.id)).Nodup) (r : RegionalLeveResolver) (id : UInt32) :
    (rows.foldl insert r).byId.lookup id =
      ((rows.find? fun d => d.id == id).or (r.byId.lookup id)) := by
  induction rows generalizing r with
  | nil => rfl
  | cons d rows ih =>
      obtain ⟨fresh, rest⟩ := List.nodup_cons.mp once
      rw [List.foldl_cons, ih rest]
      have put : (r.insert d).byId = r.byId.insert d.id d := by
        rw [insert]
      rw [put, List.find?_cons]
      by_cases same : d.id = id
      · subst same
        have none_later : rows.find? (fun e => e.id == d.id) = none := by
          apply List.find?_eq_none.mpr
          intro e member both
          have again : e.id ∈ rows.map (·.id) := List.mem_map_of_mem member
          rw [beq_iff_eq.mp both] at again
          exact fresh again
        rw [none_later, AList.lookup_insert, beq_self_eq_true]
        rfl
      · have other : (d.id == id) = false := beq_false_of_ne same
        rw [AList.lookup_insert_ne (Ne.symm same), other]

def ids (r : RegionalLeveResolver) : LeveEvent → List UInt32
  | .harvest itemCatalogId delta =>
      if delta = 0 then [] else r.fieldcraftLevesForItem itemCatalogId
  | .kill actorClassId => r.battlecraftLevesForClass actorClassId

theorem ids_insert (r : RegionalLeveResolver) (d : RegionalLeveData) (e : LeveEvent) :
    (r.insert d).ids e = r.ids e ++ if e.Names d then [d.id] else [] := by
  rw [insert]
  by_cases set : 0 < d.objectiveTargetId 0
  · cases e with
    | harvest itemCatalogId delta =>
        by_cases none : delta = 0
        · simp [ids, LeveEvent.Names, none]
        · cases kind : d.leveType <;>
            simp [ids, LeveEvent.Names, none, set, kind, fieldcraftLevesForItem,
              Table.lookup_push, eq_comm]
    | kill actorClassId =>
        cases kind : d.leveType <;>
          simp [ids, LeveEvent.Names, set, kind, battlecraftLevesForClass, Table.lookup_push,
            eq_comm]
  · cases e <;>
      simp [ids, LeveEvent.Names, set, fieldcraftLevesForItem, battlecraftLevesForClass]

theorem ids_fold (r : RegionalLeveResolver) (e : LeveEvent) :
    (rows.foldl insert r).ids e =
      r.ids e ++ (rows.filter fun d => decide (e.Names d)).map (·.id) := by
  induction rows generalizing r with
  | nil => simp
  | cons d rows ih =>
      rw [List.foldl_cons, ih, ids_insert, List.filter_cons]
      by_cases named : e.Names d
      · simp [named]
      · simp [named]

theorem ids_fromRows (e : LeveEvent) :
    (fromRows rows).ids e = (rows.filter fun d => decide (e.Names d)).map (·.id) := by
  rw [fromRows, ids_fold]
  cases e <;> simp [ids, new, fieldcraftLevesForItem, battlecraftLevesForClass]

theorem ids_nodup (once : (rows.map (·.id)).Nodup) (e : LeveEvent) :
    ((fromRows rows).ids e).Nodup := by
  rw [ids_fromRows]
  exact once.sublist (List.filter_sublist.map _)

theorem mem_ids (once : (rows.map (·.id)).Nodup) {d : RegionalLeveData} (member : d ∈ rows)
    (e : LeveEvent) : d.id ∈ (fromRows rows).ids e ↔ e.Names d := by
  rw [ids_fromRows, List.mem_map]
  constructor
  · rintro ⟨other, kept, same⟩
    rw [List.mem_filter, decide_eq_true_iff] at kept
    rw [← List.inj_on_of_nodup_map once kept.1 member same]
    exact kept.2
  · intro named
    exact ⟨d, List.mem_filter.mpr ⟨member, decide_eq_true named⟩, rfl⟩

theorem lookup_fromRows (once : (rows.map (·.id)).Nodup) {d : RegionalLeveData}
    (member : d ∈ rows) : (fromRows rows).byId.lookup d.id = some d := by
  rw [fromRows, lookup_byId once]
  cases found : rows.find? fun e => e.id == d.id with
  | none =>
      have missing := List.find?_eq_none.mp found d member
      simp at missing
  | some other =>
      have same := List.find?_some found
      rw [List.inj_on_of_nodup_map once (List.mem_of_find?_eq_some found) member
        (beq_iff_eq.mp same)]
      rfl

end RegionalLeveResolver

theorem LeveEvent.advance_eq (resolver : RegionalLeveResolver) (journal : QuestJournal)
    (e : LeveEvent) :
    e.advance resolver journal =
      advanceRegionalLeves resolver (resolver.ids e) e.amount journal := by
  cases e with
  | harvest itemCatalogId delta =>
      rw [advance, RegionalLeveResolver.ids]
      split <;> rfl
  | kill actorClassId => rfl

/-! ### The view after an event -/

namespace QuestData

variable (d : QuestData)

private theorem toBitVec_bit {k : UInt8} (small : k < 32) :
    ((1 : UInt32) <<< k.toUInt32).toBitVec = BitVec.twoPow 32 k.toNat := by
  have bound : k.toNat < 32 := small
  apply BitVec.eq_of_toNat_eq
  simp [BitVec.toNat_twoPow, Nat.mod_eq_of_lt bound, Nat.shiftLeft_eq]

theorem getFlag_eq {k : UInt8} (small : k < 32) :
    d.getFlag k = d.flags.toBitVec.getLsbD k.toNat := by
  have bound : k.toNat < 32 := small
  rw [getFlag, if_neg (UInt8.not_le.mpr small), Bool.eq_iff_iff, decide_eq_true_iff, ne_eq,
    ← UInt32.toBitVec_inj, UInt32.toBitVec_and, toBitVec_bit small, BitVec.and_twoPow]
  split
  · next set =>
      refine ⟨fun _ => set, fun _ zero => ?_⟩
      have bits := congrArg (fun x => BitVec.getLsbD x k.toNat) zero
      simp [bound] at bits
  · next clear =>
      rw [Bool.not_eq_true] at clear
      simp [clear]

theorem getFlag_setFlag {i k : UInt8} (lower : i < 32) (upper : k < 32) :
    (d.setFlag i).getFlag k = (decide (k = i) || d.getFlag k) := by
  have bound : i.toNat < 32 := lower
  rw [getFlag_eq _ upper, getFlag_eq _ upper, setFlag, if_neg (UInt8.not_le.mpr lower),
    UInt32.toBitVec_or, toBitVec_bit lower, BitVec.getLsbD_or, BitVec.getLsbD_twoPow,
    Bool.or_comm]
  congr 1
  rw [decide_eq_true bound, Bool.true_and, decide_eq_decide, eq_comm]
  exact UInt8.toNat_inj

end QuestData

namespace RegionalLeveView

variable {quest : Quest} {data : RegionalLeveData} {delta : UInt16}

theorem advanceProgress_questId : (advanceProgress quest data delta).1.questId = quest.questId := by
  rw [advanceProgress]
  split
  · rfl
  · dsimp only
    split <;> rfl

theorem advanceProgress_band :
    (advanceProgress quest data delta).1.data.counters 1 = quest.data.counters 1 := by
  rw [advanceProgress]
  split
  · rfl
  · dsimp only
    split <;> rfl

end RegionalLeveView

/-! ### The journal after an event -/

def QuestJournal.leve (j : QuestJournal) (leveId : UInt32) : Option Quest :=
  (j.slotOf leveId).bind j.slots

theorem Quest.clearDirty_of_clean {q : Quest} (clean : q.data.dirty = false) :
    q.clearDirty = q := by
  cases q with
  | mk actorId sequence data =>
      cases data
      cases clean
      rfl

theorem QuestJournal.slotOf_congr {j j' : QuestJournal} {questId : UInt32}
    (same : ∀ i, j'.holds questId i = j.holds questId i) :
    j'.slotOf questId = j.slotOf questId := by
  rw [slotOf, slotOf, funext same]

namespace LeveAdvance

variable {resolver : RegionalLeveResolver} {delta : UInt16} {s : LeveAdvance}

def advanced (resolver : RegionalLeveResolver) (delta : UInt16) (leveId : UInt32)
    (quest : Quest) : Quest :=
  match resolver.byId.lookup leveId with
  | none => quest
  | some data => (RegionalLeveView.advanceProgress quest data delta).1.clearDirty

def reached (resolver : RegionalLeveResolver) (delta : UInt16) (journal : QuestJournal)
    (leveId : UInt32) : Bool :=
  match resolver.byId.lookup leveId, journal.leve leveId with
  | some data, some quest => (RegionalLeveView.advanceProgress quest data delta).2
  | _, _ => false

theorem advanced_questId (leveId : UInt32) (quest : Quest) :
    (advanced resolver delta leveId quest).questId = quest.questId := by
  rw [advanced]
  split
  · rfl
  · exact RegionalLeveView.advanceProgress_questId

variable {ids : List UInt32} {quest : Quest} {leveId : UInt32}

theorem advanceOne_absent (absent : s.journal.leve leveId = none) :
    advanceOne resolver delta s leveId = s := by
  rw [QuestJournal.leve] at absent
  rw [advanceOne]
  split
  · next slot _ found =>
      rw [found, Option.bind_some] at absent
      rw [absent]
  · rfl

theorem advanceOne_present {slot : Fin 16} (found : s.journal.slotOf leveId = some slot)
    (here : s.journal.slots slot = some quest) :
    (advanceOne resolver delta s leveId).journal =
        s.journal.setSlot slot (some (advanced resolver delta leveId quest)) ∧
      (advanceOne resolver delta s leveId).completed =
        s.completed ++ if reached resolver delta s.journal leveId then [leveId] else [] := by
  have leve : s.journal.leve leveId = some quest := by
    rw [QuestJournal.leve, found]
    exact here
  rw [advanceOne, advanced, reached, found, leve]
  cases resolver.byId.lookup leveId with
  | none =>
      refine ⟨(QuestJournal.setSlot_self here).symm, ?_⟩
      simp
  | some data =>
      simp only [here]
      split
      · refine ⟨rfl, ?_⟩
        dsimp only
        split <;> simp
      · next clean =>
          rw [Bool.not_eq_true] at clean
          refine ⟨?_, ?_⟩
          · rw [Quest.clearDirty_of_clean clean]
          · dsimp only
            split <;> simp

theorem holds_advanceOne (leveId questId : UInt32) (i : Fin 16) :
    (advanceOne resolver delta s leveId).journal.holds questId i = s.journal.holds questId i := by
  cases found : s.journal.slotOf leveId with
  | none =>
      rw [advanceOne_absent]
      rw [QuestJournal.leve, found]
      rfl
  | some slot =>
      obtain ⟨quest, here, _⟩ := QuestJournal.slots_of_slotOf found
      rw [(advanceOne_present found here).1]
      exact QuestJournal.holds_setSlot_some here (advanced_questId leveId quest) i

theorem slots_advanceOne (leveId : UInt32) {i : Fin 16} (here : s.journal.slots i = some quest) :
    (advanceOne resolver delta s leveId).journal.slots i =
      some (if s.journal.slotOf leveId = some i then advanced resolver delta leveId quest
        else quest) := by
  cases found : s.journal.slotOf leveId with
  | none =>
      rw [advanceOne_absent]
      · simpa using here
      · rw [QuestJournal.leve, found]
        rfl
  | some slot =>
      obtain ⟨other, there, _⟩ := QuestJournal.slots_of_slotOf found
      rw [(advanceOne_present found there).1, QuestJournal.slots_setSlot]
      by_cases same : i = slot
      · subst same
        rw [here] at there
        cases there
        rw [if_pos rfl, if_pos rfl]
      · rw [if_neg same, if_neg fun at_slot => same (Option.some.inj at_slot).symm, here]

theorem empty_fold {i : Fin 16} (empty : s.journal.slots i = none) :
    (ids.foldl (advanceOne resolver delta) s).journal.slots i = none := by
  induction ids generalizing s with
  | nil => exact empty
  | cons id ids ih =>
      apply ih
      cases found : s.journal.slotOf id with
      | none =>
          rw [advanceOne_absent]
          · exact empty
          · rw [QuestJournal.leve, found]
            rfl
      | some slot =>
          obtain ⟨other, there, _⟩ := QuestJournal.slots_of_slotOf found
          rw [(advanceOne_present found there).1, QuestJournal.slots_setSlot, if_neg]
          · exact empty
          · rintro rfl
            rw [empty] at there
            cases there

theorem slots_fold (once : ids.Nodup) {i : Fin 16} (here : s.journal.slots i = some quest) :
    (ids.foldl (advanceOne resolver delta) s).journal.slots i =
      some (if quest.questId ∈ ids ∧ s.journal.slotOf quest.questId = some i then
        advanced resolver delta quest.questId quest else quest) := by
  induction ids generalizing s quest with
  | nil => simpa using here
  | cons id ids ih =>
      obtain ⟨fresh, rest⟩ := List.nodup_cons.mp once
      have stays (questId : UInt32) : (advanceOne resolver delta s id).journal.slotOf questId =
          s.journal.slotOf questId :=
        QuestJournal.slotOf_congr (holds_advanceOne id questId)
      rw [List.foldl_cons, ih rest (slots_advanceOne id here), stays]
      by_cases found : s.journal.slotOf id = some i
      · obtain ⟨other, there, same⟩ := QuestJournal.slots_of_slotOf found
        rw [here] at there
        cases there
        subst same
        simp [found, fresh, advanced_questId]
      · by_cases same : quest.questId = id
        · subst same
          simp [found]
        · simp [found, same]

theorem holds_fold (ids : List UInt32) (questId : UInt32) (i : Fin 16) :
    (ids.foldl (advanceOne resolver delta) s).journal.holds questId i =
      s.journal.holds questId i := by
  induction ids generalizing s with
  | nil => rfl
  | cons id ids ih => rw [List.foldl_cons, ih, holds_advanceOne]

theorem leve_advanceOne_ne {leveId other : UInt32} (differ : other ≠ leveId) :
    (advanceOne resolver delta s leveId).journal.leve other = s.journal.leve other := by
  rw [QuestJournal.leve, QuestJournal.leve,
    QuestJournal.slotOf_congr (holds_advanceOne leveId other)]
  cases found : s.journal.slotOf other with
  | none => rfl
  | some i =>
      obtain ⟨quest, here, same⟩ := QuestJournal.slots_of_slotOf found
      rw [Option.bind_some, Option.bind_some, slots_advanceOne leveId here, if_neg, here]
      intro also
      obtain ⟨again, there, self⟩ := QuestJournal.slots_of_slotOf also
      rw [here] at there
      cases there
      exact differ (same.symm.trans self)

theorem completed_advanceOne (leveId : UInt32) :
    (advanceOne resolver delta s leveId).completed =
      s.completed ++ if reached resolver delta s.journal leveId then [leveId] else [] := by
  cases found : s.journal.slotOf leveId with
  | none =>
      have absent : s.journal.leve leveId = none := by
        rw [QuestJournal.leve, found]
        rfl
      rw [advanceOne_absent absent, reached, absent]
      cases resolver.byId.lookup leveId <;> simp
  | some slot =>
      obtain ⟨quest, here, _⟩ := QuestJournal.slots_of_slotOf found
      exact (advanceOne_present found here).2

theorem completed_fold (once : ids.Nodup) :
    (ids.foldl (advanceOne resolver delta) s).completed =
      s.completed ++ ids.filter (reached resolver delta s.journal) := by
  induction ids generalizing s with
  | nil => simp
  | cons id ids ih =>
      obtain ⟨fresh, rest⟩ := List.nodup_cons.mp once
      have later : ids.filter (reached resolver delta (advanceOne resolver delta s id).journal) =
          ids.filter (reached resolver delta s.journal) := by
        apply List.filter_congr
        intro other member
        have differ : other ≠ id := fun same => fresh (same ▸ member)
        rw [reached, reached, leve_advanceOne_ne differ]
      rw [List.foldl_cons, ih rest, later, completed_advanceOne, List.filter_cons,
        List.append_assoc]
      congr 1
      split <;> rfl

theorem saves_advanceOne {slot : Fin 16} (found : s.journal.slotOf leveId = some slot)
    (here : s.journal.slots slot = some quest) :
    (advanceOne resolver delta s leveId).saves = s.saves ∨
      (advanceOne resolver delta s leveId).saves =
        s.saves ++ [(slot, advanced resolver delta leveId quest)] := by
  rw [advanceOne, advanced, found]
  cases resolver.byId.lookup leveId with
  | none => exact .inl rfl
  | some data =>
      simp only [here]
      split
      · exact .inr rfl
      · exact .inl rfl

theorem saves_fold (once : ids.Nodup)
    (before : ∀ save ∈ s.saves, s.journal.slots save.1 = some save.2 ∧ save.2.questId ∉ ids) :
    ∀ save ∈ (ids.foldl (advanceOne resolver delta) s).saves,
      (ids.foldl (advanceOne resolver delta) s).journal.slots save.1 = some save.2 := by
  induction ids generalizing s with
  | nil => exact fun save member => (before save member).1
  | cons id ids ih =>
      obtain ⟨fresh, rest⟩ := List.nodup_cons.mp once
      apply ih rest
      cases found : s.journal.slotOf id with
      | none =>
          have absent : s.journal.leve id = none := by
            rw [QuestJournal.leve, found]
            rfl
          rw [advanceOne_absent absent]
          intro save member
          obtain ⟨here, apart⟩ := before save member
          exact ⟨here, fun later => apart (List.mem_cons_of_mem _ later)⟩
      | some slot =>
          obtain ⟨quest, there, same⟩ := QuestJournal.slots_of_slotOf found
          have old : ∀ save ∈ s.saves,
              (advanceOne resolver delta s id).journal.slots save.1 = some save.2 ∧
                save.2.questId ∉ ids := by
            intro save member
            obtain ⟨here, apart⟩ := before save member
            refine ⟨?_, fun later => apart (List.mem_cons_of_mem _ later)⟩
            rw [slots_advanceOne id here, if_neg]
            intro also
            rw [found] at also
            cases also
            rw [here] at there
            cases there
            exact apart (same ▸ List.mem_cons_self)
          intro save member
          have recorded : (advanceOne resolver delta s id).saves = s.saves ∨
              (advanceOne resolver delta s id).saves =
                s.saves ++ [(slot, advanced resolver delta id quest)] :=
            saves_advanceOne found there
          obtain kept | more := recorded
          · rw [kept] at member
            exact old save member
          · rw [more, List.mem_append, List.mem_singleton] at member
            obtain earlier | rfl := member
            · exact old save earlier
            · refine ⟨?_, ?_⟩
              · rw [slots_advanceOne id there, if_pos found]
              · rw [advanced_questId, same]
                exact fresh

end LeveAdvance

namespace RegionalLeveView

variable {quest : Quest} {data : RegionalLeveData} {delta : UInt16}

structure Counts (data : RegionalLeveData) (gained : ℕ) (quest : Quest) : Prop where
  accepted : isAccepted quest = true
  progress : (progress quest).toNat = min (objectiveQuantity quest data).toInt.toNat gained
  completed : isCompleted quest = true ↔
    0 < (objectiveQuantity quest data).toInt ∧ (objectiveQuantity quest data).toInt ≤ gained

theorem objectiveQuantity_congr {other : Quest}
    (same : other.data.counters 1 = quest.data.counters 1) :
    objectiveQuantity other data = objectiveQuantity quest data := by
  rw [objectiveQuantity, objectiveQuantity, currentDifficulty, currentDifficulty]
  congr 3
  rw [same]

private theorem target_toNat
    (least : 0 ≤ objectiveQuantity quest data) (most : objectiveQuantity quest data ≤ 65535) :
    (UInt16.ofNat (max (objectiveQuantity quest data) 0).toInt.toNat).toNat =
      (objectiveQuantity quest data).toInt.toNat := by
  have top : max (objectiveQuantity quest data) 0 = objectiveQuantity quest data := by
    by_cases none : objectiveQuantity quest data ≤ 0
    · rw [Int32.le_antisymm none least]
      rfl
    · exact if_neg none
  have bound : (objectiveQuantity quest data).toInt ≤ 65535 := Int32.le_iff_toInt_le.mp most
  have small : (objectiveQuantity quest data).toInt.toNat ≤ 65535 := by omega
  rw [top, UInt16.toNat_ofNat_of_lt']
  exact Nat.lt_succ_of_le small

private theorem toNat_saturatingAddU16 (a b : UInt16) :
    (saturatingAddU16 a b).toNat = min (a.toNat + b.toNat) 65535 := by
  rw [saturatingAddU16, UInt16.toNat_ofNat_of_lt']
  · rfl
  · exact Nat.lt_of_le_of_lt (Nat.min_le_right _ _) (Nat.lt_succ_self 65535)

private theorem toNat_minU16 (a b : UInt16) : (min a b).toNat = min a.toNat b.toNat := by
  by_cases less : a ≤ b
  · have least : min a b = a := if_pos less
    rw [least, Nat.min_eq_left (UInt16.le_iff_toNat_le.mp less)]
  · have least : min a b = b := if_neg less
    rw [least, Nat.min_eq_right]
    exact Nat.le_of_lt (Nat.lt_of_not_le fun also => less (UInt16.le_iff_toNat_le.mpr also))

/-- The progress that is stored for a leve that is not finished. -/
def nextProgress (quest : Quest) (data : RegionalLeveData) (delta : UInt16) : UInt16 :=
  min (saturatingAddU16 (progress quest) delta)
    (UInt16.ofNat (max (objectiveQuantity quest data) 0).toInt.toNat)

theorem nextProgress_le :
    (nextProgress quest data delta).toNat ≤ (progress quest).toNat + delta.toNat := by
  rw [nextProgress, toNat_minU16, toNat_saturatingAddU16]
  omega

theorem nextProgress_value
    (least : 0 ≤ objectiveQuantity quest data) (most : objectiveQuantity quest data ≤ 65535) :
    (nextProgress quest data delta).toNat =
      min (objectiveQuantity quest data).toInt.toNat ((progress quest).toNat + delta.toNat) := by
  have bound : (objectiveQuantity quest data).toInt ≤ 65535 := Int32.le_iff_toInt_le.mp most
  rw [nextProgress, toNat_minU16, toNat_saturatingAddU16, target_toNat least most]
  omega

theorem advanceProgress_finished (finished : isCompleted quest = true) :
    advanceProgress quest data delta = (quest, false) := by
  rw [advanceProgress, finished, Bool.or_true, if_pos rfl]

theorem advanceProgress_unaccepted (idle : isAccepted quest = false) :
    advanceProgress quest data delta = (quest, false) := by
  rw [advanceProgress, idle, Bool.not_false, Bool.true_or, if_pos rfl]

theorem advanceProgress_open
    (least : 0 ≤ objectiveQuantity quest data) (most : objectiveQuantity quest data ≤ 65535)
    (accepted : isAccepted quest = true) (unfinished : isCompleted quest = false) :
    advanceProgress quest data delta =
      if 0 < (objectiveQuantity quest data).toInt ∧
          (objectiveQuantity quest data).toInt ≤ (progress quest).toNat + delta.toNat then
        ({ quest with
            data := (quest.data.setCounter 0 (nextProgress quest data delta)).setFlag
              COMPLETED_FLAG_BIT }, true)
      else ({ quest with data := quest.data.setCounter 0 (nextProgress quest data delta) },
        false) := by
  have next : (nextProgress quest data delta).toNat =
      min (objectiveQuantity quest data).toInt.toNat ((progress quest).toNat + delta.toNat) :=
    nextProgress_value least most
  rw [advanceProgress, accepted, unfinished, Bool.not_true, Bool.or_self,
    if_neg Bool.false_ne_true]
  apply if_congr _ rfl rfl
  rw [UInt16.le_iff_toNat_le, UInt16.lt_iff_toNat_lt, target_toNat least most, ← nextProgress,
    next]
  have zero : (0 : UInt16).toNat = 0 := rfl
  rw [zero]
  omega

theorem advanceProgress_reached (unfinished : isCompleted quest = false)
    (most : objectiveQuantity quest data ≤ 65535)
    (completed : isCompleted (advanceProgress quest data delta).1 = true) :
    0 < (objectiveQuantity quest data).toInt ∧
      (objectiveQuantity quest data).toInt ≤ (progress quest).toNat + delta.toNat := by
  cases accepted : isAccepted quest with
  | false =>
      rw [advanceProgress_unaccepted accepted, unfinished] at completed
      cases completed
  | true =>
      by_cases least : 0 ≤ objectiveQuantity quest data
      · rw [advanceProgress_open least most accepted unfinished] at completed
        split at completed
        · next reached => exact reached
        · have kept : isCompleted quest = true := completed
          rw [unfinished] at kept
          cases kept
      · have none : max (objectiveQuantity quest data) 0 = 0 := by
          apply if_pos
          exact Int32.le_of_lt (Int32.not_le.mp least)
        rw [advanceProgress, accepted, unfinished, none] at completed
        have kept : isCompleted quest = true := completed
        rw [unfinished] at kept
        cases kept

theorem progress_advanceProgress_le :
    (progress (advanceProgress quest data delta).1).toNat ≤
      (progress quest).toNat + delta.toNat := by
  cases accepted : isAccepted quest with
  | false =>
      rw [advanceProgress_unaccepted accepted]
      exact Nat.le_add_right _ _
  | true =>
      cases completed : isCompleted quest with
      | true =>
          rw [advanceProgress_finished completed]
          exact Nat.le_add_right _ _
      | false =>
          rw [advanceProgress, accepted, completed, Bool.not_true, Bool.or_self,
            if_neg Bool.false_ne_true]
          dsimp only
          split <;> exact nextProgress_le

theorem isCompleted_setFlag (d : QuestData) :
    (d.setFlag COMPLETED_FLAG_BIT).getFlag COMPLETED_FLAG_BIT = true := by
  rw [QuestData.getFlag_setFlag d (by decide) (by decide), decide_eq_true rfl, Bool.true_or]

theorem isAccepted_setFlag (d : QuestData) :
    (d.setFlag COMPLETED_FLAG_BIT).getFlag ACCEPTED_FLAG_BIT = d.getFlag ACCEPTED_FLAG_BIT := by
  rw [QuestData.getFlag_setFlag d (by decide) (by decide), decide_eq_false (by decide),
    Bool.false_or]

theorem advanceProgress_counts {gained : ℕ} (delta : UInt16)
    (least : 0 ≤ objectiveQuantity quest data) (most : objectiveQuantity quest data ≤ 65535)
    (counts : Counts data gained quest) :
    Counts data (gained + delta.toNat) (advanceProgress quest data delta).1.clearDirty ∧
      ((advanceProgress quest data delta).2 = true ↔
        (gained : ℤ) < (objectiveQuantity quest data).toInt ∧
          (objectiveQuantity quest data).toInt ≤ gained + delta.toNat) ∧
      objectiveQuantity (advanceProgress quest data delta).1.clearDirty data =
        objectiveQuantity quest data := by
  have stored := counts.progress
  have next : (nextProgress quest data delta).toNat =
      min (objectiveQuantity quest data).toInt.toNat (gained + delta.toNat) := by
    rw [nextProgress_value least most, stored]
    omega
  have reach := counts.completed
  cases completed : isCompleted quest with
  | true =>
      have quantity : objectiveQuantity quest.clearDirty data = objectiveQuantity quest data := rfl
      have done := reach.mp completed
      rw [advanceProgress_finished completed]
      refine ⟨⟨counts.accepted, ?_, ?_⟩, ?_, rfl⟩
      · have kept : progress quest.clearDirty = progress quest := rfl
        rw [quantity, kept, counts.progress]
        omega
      · have kept : isCompleted quest.clearDirty = isCompleted quest := rfl
        rw [quantity, kept, completed]
        simp only [true_iff]
        omega
      · simp only [Bool.false_eq_true, false_iff]
        omega
  | false =>
      rw [completed] at reach
      simp only [Bool.false_eq_true, false_iff] at reach
      rw [advanceProgress_open least most counts.accepted completed]
      split
      · next full =>
          refine ⟨⟨?_, next, ?_⟩, ?_, rfl⟩
          · exact (isAccepted_setFlag _).trans counts.accepted
          · refine iff_of_true (isCompleted_setFlag _) ⟨full.1, ?_⟩
            have quantity := full.2
            change (objectiveQuantity quest data).toInt ≤ _
            omega
          · simp only [true_iff]
            omega
      · next short =>
          refine ⟨⟨counts.accepted, next, ?_⟩, ?_, rfl⟩
          · refine iff_of_false (Bool.eq_false_iff.mp completed) ?_
            change ¬ (0 < (objectiveQuantity quest data).toInt ∧
              (objectiveQuantity quest data).toInt ≤ _)
            omega
          · simp only [Bool.false_eq_true, false_iff]
            omega

theorem progress_advanceProgress
    (least : 0 ≤ objectiveQuantity quest data) (most : objectiveQuantity quest data ≤ 65535) :
    (progress (advanceProgress quest data delta).1.clearDirty).toNat =
      if isAccepted quest = true ∧ isCompleted quest = false then
        min (objectiveQuantity quest data).toInt.toNat ((progress quest).toNat + delta.toNat)
      else (progress quest).toNat := by
  cases accepted : isAccepted quest with
  | false =>
      rw [advanceProgress_unaccepted accepted]
      rfl
  | true =>
      cases completed : isCompleted quest with
      | true =>
          rw [advanceProgress_finished completed]
          rfl
      | false =>
          rw [if_pos ⟨rfl, rfl⟩, ← nextProgress_value least most,
            advanceProgress_open least most accepted completed]
          split <;> rfl

end RegionalLeveView

/-! ### Runs of events -/

namespace LeveEvent

open RegionalLeveView LeveAdvance

variable {rows : List RegionalLeveData} {d : RegionalLeveData} {j : QuestJournal} {q : Quest}

/-- The journal after events, one after another. -/
def play (resolver : RegionalLeveResolver) (j : QuestJournal) (events : List LeveEvent) :
    QuestJournal :=
  events.foldl (fun j e => (e.advance resolver j).journal) j

/-- The leves that the events complete, each as often as it is reported. -/
def reports (resolver : RegionalLeveResolver) (j : QuestJournal) : List LeveEvent → List UInt32
  | [] => []
  | e :: events =>
      (e.advance resolver j).completed ++ reports resolver (e.advance resolver j).journal events

def gained (d : RegionalLeveData) (events : List LeveEvent) : ℕ :=
  (events.map fun e => if e.Names d then e.amount.toNat else 0).sum

theorem play_append (resolver : RegionalLeveResolver) (events : List LeveEvent) (e : LeveEvent) :
    play resolver j (events ++ [e]) = (e.advance resolver (play resolver j events)).journal := by
  rw [play, List.foldl_append]
  rfl

theorem reports_append (resolver : RegionalLeveResolver) (events : List LeveEvent)
    (e : LeveEvent) :
    reports resolver j (events ++ [e]) =
      reports resolver j events ++ (e.advance resolver (play resolver j events)).completed := by
  induction events generalizing j with
  | nil => simp [reports, play]
  | cons first events ih =>
      rw [List.cons_append, reports, reports, ih, List.append_assoc]
      rfl

theorem gained_append (events : List LeveEvent) (e : LeveEvent) :
    gained d (events ++ [e]) = gained d events + if e.Names d then e.amount.toNat else 0 := by
  rw [gained, gained, List.map_append, List.sum_append, List.map_singleton, List.sum_singleton]

theorem slots_advance (once : (rows.map (·.id)).Nodup) (e : LeveEvent) {i : Fin 16}
    (here : j.slots i = some q) :
    (e.advance (.fromRows rows) j).journal.slots i =
      some (if q.questId ∈ (RegionalLeveResolver.fromRows rows).ids e ∧
          j.slotOf q.questId = some i then
        advanced (.fromRows rows) e.amount q.questId q else q) := by
  rw [advance_eq, advanceRegionalLeves]
  exact slots_fold (RegionalLeveResolver.ids_nodup once e) here

theorem slotOf_advance (resolver : RegionalLeveResolver) (e : LeveEvent) (questId : UInt32) :
    (e.advance resolver j).journal.slotOf questId = j.slotOf questId := by
  rw [advance_eq, advanceRegionalLeves]
  apply QuestJournal.slotOf_congr
  intro i
  exact holds_fold _ questId i

theorem leve_advance (once : (rows.map (·.id)).Nodup) (member : d ∈ rows) (e : LeveEvent)
    (found : j.leve d.id = some q) :
    (e.advance (.fromRows rows) j).journal.leve d.id =
      some (if e.Names d then (advanceProgress q d e.amount).1.clearDirty else q) := by
  obtain ⟨i, slot, here⟩ := Option.bind_eq_some_iff.mp found
  have same : q.questId = d.id := by
    obtain ⟨other, there, id⟩ := QuestJournal.slots_of_slotOf slot
    rw [here] at there
    cases there
    exact id
  rw [QuestJournal.leve, slotOf_advance, slot, Option.bind_some, slots_advance once e here, same,
    advanced, RegionalLeveResolver.lookup_fromRows once member]
  congr 1
  refine if_congr ?_ rfl rfl
  rw [RegionalLeveResolver.mem_ids once member]
  exact and_iff_left slot

theorem count_completed (once : (rows.map (·.id)).Nodup) (member : d ∈ rows) (e : LeveEvent)
    (found : j.leve d.id = some q) :
    (e.advance (.fromRows rows) j).completed.count d.id =
      if e.Names d ∧ (advanceProgress q d e.amount).2 = true then 1 else 0 := by
  rw [advance_eq, advanceRegionalLeves,
    completed_fold (RegionalLeveResolver.ids_nodup once e), List.nil_append]
  have distinct := (RegionalLeveResolver.ids_nodup once e).filter
    (reached (.fromRows rows) e.amount j)
  rw [List.Nodup.count distinct]
  apply if_congr _ rfl rfl
  rw [List.mem_filter, RegionalLeveResolver.mem_ids once member, reached,
    RegionalLeveResolver.lookup_fromRows once member, found]

theorem slots_advance_others (once : (rows.map (·.id)).Nodup) (e : LeveEvent) {i : Fin 16}
    (apart : ∀ d ∈ rows, e.Names d → j.slotOf d.id ≠ some i) :
    (e.advance (.fromRows rows) j).journal.slots i = j.slots i := by
  cases here : j.slots i with
  | none =>
      rw [advance_eq, advanceRegionalLeves]
      exact empty_fold here
  | some q =>
      rw [slots_advance once e here, if_neg]
      rintro ⟨listed, slot⟩
      rw [RegionalLeveResolver.ids_fromRows, List.mem_map] at listed
      obtain ⟨d, kept, same⟩ := listed
      rw [List.mem_filter, decide_eq_true_iff] at kept
      apply apart d kept.1 kept.2
      rw [same]
      exact slot

theorem play_counts (once : (rows.map (·.id)).Nodup) (member : d ∈ rows)
    (found : j.leve d.id = some q)
    (least : 0 ≤ objectiveQuantity q d) (most : objectiveQuantity q d ≤ 65535)
    (fresh : Counts d 0 q) (events : List LeveEvent) :
    ∃ q', (play (.fromRows rows) j events).leve d.id = some q' ∧
      objectiveQuantity q' d = objectiveQuantity q d ∧ Counts d (gained d events) q' := by
  induction events using List.reverseRecOn with
  | nil => exact ⟨q, found, rfl, fresh⟩
  | append_singleton events e ih =>
      obtain ⟨q', there, quantity, counts⟩ := ih
      rw [play_append, leve_advance once member e there, gained_append]
      refine ⟨_, rfl, ?_⟩
      by_cases named : e.Names d
      · rw [if_pos named, if_pos named]
        rw [← quantity] at least most
        obtain ⟨after, _, kept⟩ := advanceProgress_counts e.amount least most counts
        exact ⟨kept.trans quantity, after⟩
      · rw [if_neg named, if_neg named]
        exact ⟨quantity, counts⟩

theorem completed_play (once : (rows.map (·.id)).Nodup) (member : d ∈ rows)
    (found : j.leve d.id = some q)
    (least : 0 ≤ objectiveQuantity q d) (most : objectiveQuantity q d ≤ 65535)
    (fresh : Counts d 0 q) (events : List LeveEvent) (e : LeveEvent) :
    (e.advance (.fromRows rows) (play (.fromRows rows) j events)).completed.count d.id =
      if (gained d events : ℤ) < (objectiveQuantity q d).toInt ∧
        (objectiveQuantity q d).toInt ≤ gained d (events ++ [e]) then 1 else 0 := by
  obtain ⟨q', there, quantity, counts⟩ := play_counts once member found least most fresh events
  rw [← quantity] at least most
  obtain ⟨_, reached, _⟩ := advanceProgress_counts e.amount least most counts
  rw [count_completed once member e there, gained_append]
  apply if_congr _ rfl rfl
  rw [reached, quantity]
  by_cases named : e.Names d
  · simp [named]
  · simp only [named, false_and, if_false, false_iff]
    omega

private theorem passed_once (bound : ℤ) (sum step : ℕ) :
    ((if 0 < bound ∧ bound ≤ sum then 1 else 0) +
      if (sum : ℤ) < bound ∧ bound ≤ (sum + step : ℕ) then 1 else 0) =
        if 0 < bound ∧ bound ≤ (sum + step : ℕ) then 1 else 0 := by
  split_ifs <;> omega

theorem count_reports (once : (rows.map (·.id)).Nodup) (member : d ∈ rows)
    (found : j.leve d.id = some q)
    (least : 0 ≤ objectiveQuantity q d) (most : objectiveQuantity q d ≤ 65535)
    (fresh : Counts d 0 q) (events : List LeveEvent) :
    (reports (.fromRows rows) j events).count d.id =
      if 0 < (objectiveQuantity q d).toInt ∧
        (objectiveQuantity q d).toInt ≤ gained d events then 1 else 0 := by
  induction events using List.reverseRecOn with
  | nil =>
      rw [reports, List.count_nil, if_neg]
      have none : gained d [] = 0 := rfl
      rw [none]
      omega
  | append_singleton events e ih =>
      rw [reports_append, List.count_append, ih,
        completed_play once member found least most fresh events e, gained_append]
      exact passed_once _ _ _

/--
Over any events an accepted leve stores the sum of the amounts that are for it, up to its quantity,
and is reported once, at the event that reaches the quantity. One event advances the accepted,
unfinished leves of its kind whose first band has its target, and no other quest.
-/
theorem leve_progress_exact (catalog : LeveRows) :
    (∀ d ∈ catalog.rows, ∀ (j : QuestJournal) (q : Quest), j.leve d.id = some q →
      0 ≤ objectiveQuantity q d → objectiveQuantity q d ≤ 65535 → Counts d 0 q →
      ∀ events : List LeveEvent,
        (∃ q', (play (.fromRows catalog.rows) j events).leve d.id = some q' ∧
          (progress q').toNat =
            min (objectiveQuantity q d).toInt.toNat (gained d events)) ∧
        (reports (.fromRows catalog.rows) j events).count d.id =
          (if 0 < (objectiveQuantity q d).toInt ∧
            (objectiveQuantity q d).toInt ≤ gained d events then 1 else 0) ∧
        ∀ e : LeveEvent,
          (e.advance (.fromRows catalog.rows)
              (play (.fromRows catalog.rows) j events)).completed.count d.id =
            if (gained d events : ℤ) < (objectiveQuantity q d).toInt ∧
              (objectiveQuantity q d).toInt ≤ gained d (events ++ [e]) then 1 else 0) ∧
    (∀ d ∈ catalog.rows, ∀ (j : QuestJournal) (q : Quest), j.leve d.id = some q →
      0 ≤ objectiveQuantity q d → objectiveQuantity q d ≤ 65535 → ∀ e : LeveEvent,
        ∃ q', (e.advance (.fromRows catalog.rows) j).journal.leve d.id = some q' ∧
          (progress q').toNat =
            if e.Names d ∧ isAccepted q = true ∧ isCompleted q = false then
              min (objectiveQuantity q d).toInt.toNat ((progress q).toNat + e.amount.toNat)
            else (progress q).toNat) ∧
    ∀ (j : QuestJournal) (e : LeveEvent) (i : Fin 16),
      (∀ d ∈ catalog.rows, e.Names d → j.slotOf d.id ≠ some i) →
        (e.advance (.fromRows catalog.rows) j).journal.slots i = j.slots i := by
  refine ⟨?_, ?_, fun j e i apart => slots_advance_others catalog.once e apart⟩
  · intro d member j q found least most fresh events
    refine ⟨?_, count_reports catalog.once member found least most fresh events,
      completed_play catalog.once member found least most fresh events⟩
    obtain ⟨q', there, quantity, counts⟩ :=
      play_counts catalog.once member found least most fresh events
    refine ⟨q', there, ?_⟩
    rw [counts.progress, quantity]
  · intro d member j q found least most e
    refine ⟨_, leve_advance catalog.once member e found, ?_⟩
    by_cases named : e.Names d
    · rw [if_pos named, progress_advanceProgress least most]
      simp only [named, true_and]
    · simp only [named, if_false, false_and]

/-- A leve with another target in its second band. -/
private def mixedLeve : RegionalLeveData where
  id := 140001
  leveType := .battlecraft
  objectiveTargetId := fun band => if band = 1 then 76 else 35
  objectiveQuantity := fun _ => 3
  rewardItemId := fun _ => 0
  rewardQuantity := fun _ => 0
  rewardGil := fun _ => 200

private def mixedQuest : Quest where
  actorId := questActorId 140001
  data := { flags := 1, counters := fun i => if i = 1 then 1 else 0 }

private def mixedJournal : QuestJournal := QuestJournal.setSlot {} 0 (some mixedQuest)

theorem leve_progress_exact_mixed :
    (∃ q', (play (.fromRows [mixedLeve]) mixedJournal
        [.kill 35, .kill 76, .kill 35, .kill 35, .kill 35]).leve 140001 = some q' ∧
        (progress q').toNat = 3) ∧
      (reports (.fromRows [mixedLeve]) mixedJournal
        [.kill 35, .kill 76, .kill 35, .kill 35, .kill 35]).count 140001 = 1 := by
  have start : Counts mixedLeve 0 mixedQuest := ⟨rfl, rfl, by decide⟩
  have run := (leve_progress_exact ⟨[mixedLeve], List.nodup_singleton _⟩).1 mixedLeve
    (List.mem_singleton_self _) mixedJournal mixedQuest rfl (by decide) (by decide) start
    [.kill 35, .kill 76, .kill 35, .kill 35, .kill 35]
  have sum : gained mixedLeve [.kill 35, .kill 76, .kill 35, .kill 35, .kill 35] = 4 := by decide
  have quantity : (objectiveQuantity mixedQuest mixedLeve).toInt = 3 := rfl
  rw [sum, quantity] at run
  exact ⟨run.1, run.2.1⟩

/-- Two kills of the target of the active band leave the leve as it is. -/
theorem active_band_ignored :
    objectiveTargetId mixedQuest mixedLeve = 76 ∧ isAccepted mixedQuest = true ∧
      isCompleted mixedQuest = false ∧
      ((play (.fromRows [mixedLeve]) mixedJournal [.kill 76, .kill 76]).leve 140001).map progress =
        some 0 ∧
      ((play (.fromRows [mixedLeve]) mixedJournal [.kill 35]).leve 140001).map progress =
        some 1 := by
  refine ⟨rfl, rfl, rfl, ?_, ?_⟩
  · decide
  · decide

end LeveEvent

end Garlemald
