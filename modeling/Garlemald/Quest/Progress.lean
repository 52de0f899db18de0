import Garlemald.Library.WriteBehind
import Garlemald.Quest.Persistence
import Mathlib.Algebra.Group.Int.Defs

/-!
What a player earns, in memory and in the database: experience, levels, the rest bonus and the
data of the quests. A call changes the character under its lock and writes the rows afterwards,
when other calls may have been there.
-/

namespace Garlemald.Quest
open Library

abbrev NUM_SKILLS : ℕ := 52

/-- The classes that the tables of the levels and of the experience have a column for. -/
inductive ClassColumn where
  | pug | gla | mrd | arc | lnc | thm | cnj | crp | bsm | arm | gsm | ltw | wvr | alc | cul | min
  | btn | fsh
deriving DecidableEq, Repr

def ClassColumn.classId : ClassColumn → Fin NUM_SKILLS
  | pug => 2
  | gla => 3
  | mrd => 4
  | arc => 7
  | lnc => 8
  | thm => 22
  | cnj => 23
  | crp => 29
  | bsm => 30
  | arm => 31
  | gsm => 32
  | ltw => 33
  | wvr => 34
  | alc => 35
  | cul => 36
  | min => 39
  | btn => 40
  | fsh => 41

def classColumn (classId : UInt8) : Option ClassColumn :=
  match classId.toNat with
  | 2 => some .pug
  | 3 => some .gla
  | 4 => some .mrd
  | 7 => some .arc
  | 8 => some .lnc
  | 22 => some .thm
  | 23 => some .cnj
  | 29 => some .crp
  | 30 => some .bsm
  | 31 => some .arm
  | 32 => some .gsm
  | 33 => some .ltw
  | 34 => some .wvr
  | 35 => some .alc
  | 36 => some .cul
  | 39 => some .min
  | 40 => some .btn
  | 41 => some .fsh
  | _ => none

/-! ### Experience -/

def MAX_LEVEL : Int16 := 50

def LEVEL_THRESHOLDS : List Int32 :=
  [570, 700, 880, 1100, 1500, 1800, 2300, 3200, 4300, 5000, 5900, 6800, 7700, 8700, 9700, 11000,
   12000, 13000, 15000, 16000, 20000, 22000, 23000, 25000, 27000, 29000, 31000, 33000, 35000, 38000,
   45000, 47000, 50000, 53000, 56000, 59000, 62000, 65000, 68000, 71000, 74000, 78000, 81000, 85000,
   89000, 92000, 96000, 100000, 100000, 110000]

/-- The levels gained over the thresholds from here on. -/
def climb : List Int32 → Int16 → Int32 → Int16 → Int16 × Int32 × Int16
  | [], lvl, sp, gained => (lvl, sp, gained)
  | threshold :: thresholds, lvl, sp, gained =>
      if lvl < MAX_LEVEL ∧ threshold ≤ sp then
        climb thresholds (lvl + 1) (sp - threshold) (gained + 1)
      else (lvl, sp, gained)

def levelUpIfThresholdCrossed (level : Int16) (skillPoint : Int32) : Int16 × Int32 × Int16 :=
  let lvl := max level 1
  let climbed := climb (LEVEL_THRESHOLDS.drop (lvl - 1).toInt.toNat) lvl (max skillPoint 0) 0
  (climbed.1, if MAX_LEVEL ≤ climbed.1 then 0 else climbed.2.1, climbed.2.2)

def saturatingAddI32 (a b : Int32) : Int32 :=
  Int32.ofInt (max (-2 ^ 31) (min (a.toInt + b.toInt) (2 ^ 31 - 1)))

def consumeRestedXp (exp rested : Int32) : Int32 × Int32 :=
  if exp ≤ 0 ∨ rested ≤ 0 then (exp, max rested 0)
  else
    let bonus := Int32.ofInt (exp.toInt * (min rested 100).toInt / 100)
    let decay := max ((exp + 49) / 50) 1
    (saturatingAddI32 exp bonus, max (rested - decay) 0)

/-! ### Memory and rows -/

structure Earned where
  activeClass : Int16
  level : Int16
  restBonusExpRate : Int32
  skillLevel : Fin NUM_SKILLS → Int16
  skillPoint : Fin NUM_SKILLS → Int32
  journal : QuestJournal

structure EarnedRows where
  exp : ClassColumn → Int32
  levels : ClassColumn → Int16
  mainSkill : ℤ
  mainSkillLevel : Int16
  restBonus : Int32
  quests : Database

inductive EarnedWrite where
  | setExp (classId : UInt8) (exp : Int32)
  | setLevel (classId : UInt8) (level : Int16)
  | savePlayerCurrentClass (classId : UInt8) (level : Int16)
  | setRestBonusExpRate (rate : Int32)
  | saveQuest (slot : Fin 16) (quest : Quest)

/-- A class without a column is passed over. -/
def EarnedRows.write (rows : EarnedRows) : EarnedWrite → EarnedRows
  | .setExp classId exp =>
      match classColumn classId with
      | some col => { rows with exp := Function.update rows.exp col exp }
      | none => rows
  | .setLevel classId level =>
      match classColumn classId with
      | some col => { rows with levels := Function.update rows.levels col level }
      | none => rows
  | .savePlayerCurrentClass classId level =>
      { rows with mainSkill := classId.toNat, mainSkillLevel := level }
  | .setRestBonusExpRate rate => { rows with restBonus := rate }
  | .saveQuest slot quest => { rows with quests := rows.quests.saveQuest slot quest }

/-- What comes of a gain, as the lock is released. -/
structure ExpGain where
  newExp : Int32
  newLevel : Int16
  levelsGained : Int16
  restedAfter : Int32
  isActiveClass : Bool

namespace Earned

variable (m : Earned)

def gain (slot : Fin NUM_SKILLS) (exp : Int32) : ExpGain :=
  let rested := consumeRestedXp exp m.restBonusExpRate
  let combined := max (saturatingAddI32 (m.skillPoint slot) rested.1) 0
  let up := levelUpIfThresholdCrossed (max (m.skillLevel slot) 1) combined
  { newExp := up.2.1
    newLevel := up.1
    levelsGained := up.2.2
    restedAfter := rested.2
    isActiveClass := m.activeClass.toInt = slot.val }

def take (slot : Fin NUM_SKILLS) (g : ExpGain) : Earned :=
  { m with
    restBonusExpRate := g.restedAfter
    skillPoint := Function.update m.skillPoint slot g.newExp
    skillLevel :=
      if 0 < g.levelsGained then Function.update m.skillLevel slot g.newLevel else m.skillLevel
    level := if 0 < g.levelsGained ∧ g.isActiveClass then g.newLevel else m.level }

def takeWrites (classId : UInt8) (g : ExpGain) : List EarnedWrite :=
  .setExp classId g.newExp ::
    (if 0 < g.levelsGained then
      .setLevel classId g.newLevel ::
        if g.isActiveClass then [.savePlayerCurrentClass classId g.newLevel] else []
    else []) ++
    if g.restedAfter ≠ m.restBonusExpRate then [.setRestBonusExpRate g.restedAfter] else []

def addExp (classId : UInt8) (exp : Int32) : Earned × List EarnedWrite :=
  if exp = 0 then (m, [])
  else if inside : classId.toNat < NUM_SKILLS then
    let g := m.gain ⟨classId.toNat, inside⟩ exp
    (m.take ⟨classId.toNat, inside⟩ g, m.takeWrites classId g)
  else (m, [])

def mutateQuest (questId : UInt32) (mutation : QuestMutation) : Earned × List EarnedWrite :=
  match m.journal.slotOf questId with
  | none => (m, [])
  | some slot =>
      match m.journal.slots slot with
      | none => (m, [])
      | some q =>
          let q := mutation.apply q
          if q.data.dirty then
            ({ m with journal := m.journal.setSlot slot (some q.clearDirty) },
              [.saveQuest slot q])
          else ({ m with journal := m.journal.setSlot slot (some q) }, [])

end Earned

inductive EarnedCall where
  | addExp (classId : UInt8) (exp : Int32)
  | questMutation (questId : UInt32) (mutation : QuestMutation)

def Earned.call (m : Earned) : EarnedCall → Earned × List EarnedWrite
  | .addExp classId exp => m.addExp classId exp
  | .questMutation questId mutation => m.mutateQuest questId mutation

/-! ### The cells -/

inductive EarnedCell where
  | exp (col : ClassColumn)
  | level (col : ClassColumn)
  | mainSkill
  | restBonus
  | quest (slot : Fin 16)
deriving DecidableEq

structure QuestSave where
  questId : UInt32
  sequence : UInt32
  flags : UInt32
  counters : Fin 4 → UInt16

abbrev EarnedCell.Value : EarnedCell → Type
  | exp _ => Int32
  | level _ => Int16
  | mainSkill => ℤ × Int16
  | restBonus => Int32
  | quest _ => Option QuestSave

def ScenarioRow.save (row : ScenarioRow) : QuestSave :=
  { questId := row.questId, sequence := row.sequence, flags := row.flags,
    counters := row.counters }

def Earned.held (m : Earned) : ∀ k : EarnedCell, k.Value
  | .exp col => m.skillPoint col.classId
  | .level col => m.skillLevel col.classId
  | .mainSkill => (m.activeClass.toInt, m.level)
  | .restBonus => m.restBonusExpRate
  | .quest slot => (m.journal.slots slot).map fun q => (saved q).save

def EarnedRows.stored (rows : EarnedRows) : ∀ k : EarnedCell, k.Value
  | .exp col => rows.exp col
  | .level col => rows.levels col
  | .mainSkill => (rows.mainSkill, rows.mainSkillLevel)
  | .restBonus => rows.restBonus
  | .quest slot => (rows.quests.scenario.lookup slot.val).map ScenarioRow.save

def EarnedWrite.value : EarnedWrite → ∀ k : EarnedCell, Option k.Value
  | .setExp classId exp, .exp col => if classColumn classId = some col then some exp else none
  | .setLevel classId level, .level col =>
      if classColumn classId = some col then some level else none
  | .savePlayerCurrentClass classId level, .mainSkill => some (classId.toNat, level)
  | .setRestBonusExpRate rate, .restBonus => some rate
  | .saveQuest slot quest, .quest slot' =>
      if slot' = slot then some (some (saved quest).save) else none
  | _, _ => none

theorem classColumn_eq_some {classId : UInt8} {col : ClassColumn} :
    classColumn classId = some col ↔ classId.toNat = col.classId.val := by
  rw [classColumn]
  constructor
  · intro found
    split at found <;> cases found <;> assumption
  · intro same
    rw [same]
    cases col <;> rfl

namespace EarnedRows

theorem update_column {α : Type} (own col : ClassColumn) (columns : ClassColumn → α) (x : α) :
    Function.update columns own x col =
      (if some own = some col then some x else none).getD (columns col) := by
  rw [Function.update_apply]
  by_cases same : col = own
  · rw [if_pos same, if_pos (congrArg some same.symm), Option.getD_some]
  · rw [if_neg same, if_neg fun eq => same (Option.some.inj eq).symm, Option.getD_none]

theorem stored_write (rows : EarnedRows) (w : EarnedWrite) (k : EarnedCell) :
    (rows.write w).stored k = (w.value k).getD (rows.stored k) := by
  cases w with
  | setExp classId exp =>
      rw [write]
      cases k with
      | exp col =>
          rw [EarnedWrite.value]
          cases found : classColumn classId with
          | none => rfl
          | some own =>
              exact update_column own col _ _
      | level | mainSkill | restBonus | quest => cases classColumn classId <;> rfl
  | setLevel classId level =>
      rw [write]
      cases k with
      | level col =>
          rw [EarnedWrite.value]
          cases found : classColumn classId with
          | none => rfl
          | some own =>
              exact update_column own col _ _
      | exp | mainSkill | restBonus | quest => cases classColumn classId <;> rfl
  | savePlayerCurrentClass classId level => cases k <;> rfl
  | setRestBonusExpRate rate => cases k <;> rfl
  | saveQuest slot quest =>
      cases k with
      | quest slot' =>
          rw [EarnedWrite.value]
          dsimp only [write, stored]
          rw [lookup_saveQuest]
          by_cases same : slot' = slot
          · rw [if_pos same, if_pos (congrArg Fin.val same), Option.getD_some]
            rfl
          · rw [if_neg same, if_neg (Fin.val_ne_of_ne same), Option.getD_none]
      | exp | level | mainSkill | restBonus => rfl

end EarnedRows

namespace Earned

variable (m : Earned)

theorem held_take {classId : UInt8} (inside : classId.toNat < NUM_SKILLS) (g : ExpGain)
    (k : EarnedCell) : (m.take ⟨classId.toNat, inside⟩ g).held k = m.held k ∨
      ∃ w ∈ m.takeWrites classId g, (w.value k).isSome := by
  have own {col : ClassColumn} (same : col.classId = ⟨classId.toNat, inside⟩) :
      classColumn classId = some col := classColumn_eq_some.mpr (congrArg Fin.val same).symm
  cases k with
  | exp col =>
      by_cases same : col.classId = ⟨classId.toNat, inside⟩
      · refine .inr ⟨.setExp classId g.newExp, List.mem_cons_self, ?_⟩
        rw [EarnedWrite.value, if_pos (own same)]
        rfl
      · exact .inl (Function.update_of_ne same _ _)
  | level col =>
      by_cases gains : 0 < g.levelsGained
      · by_cases same : col.classId = ⟨classId.toNat, inside⟩
        · refine .inr ⟨.setLevel classId g.newLevel, by simp [takeWrites, gains], ?_⟩
          rw [EarnedWrite.value, if_pos (own same)]
          rfl
        · refine .inl ?_
          rw [held, take, if_pos gains]
          exact Function.update_of_ne same _ _
      · refine .inl ?_
        rw [held, take, if_neg gains]
        rfl
  | mainSkill =>
      by_cases gains : 0 < g.levelsGained ∧ g.isActiveClass
      · exact .inr ⟨.savePlayerCurrentClass classId g.newLevel,
          by simp [takeWrites, gains.1, gains.2], rfl⟩
      · refine .inl ?_
        rw [held, take, if_neg gains]
        rfl
  | restBonus =>
      by_cases same : g.restedAfter = m.restBonusExpRate
      · exact .inl same
      · exact .inr ⟨.setRestBonusExpRate g.restedAfter, by simp [takeWrites, same], rfl⟩
  | quest slot => exact .inl rfl

theorem mutateQuest_cases (questId : UInt32) (mutation : QuestMutation) :
    (m.mutateQuest questId mutation = (m, []) ∧
      ∀ slot q, m.journal.slotOf questId = some slot → m.journal.slots slot = some q →
        ¬ (mutation.apply q).data.dirty = true) ∨
    ∃ slot q, m.journal.slotOf questId = some slot ∧ m.journal.slots slot = some q ∧
      (mutation.apply q).data.dirty = true ∧
        m.mutateQuest questId mutation =
          ({ m with journal := m.journal.setSlot slot (some (mutation.apply q).clearDirty) },
            [.saveQuest slot (mutation.apply q)]) := by
  cases found : m.journal.slotOf questId with
  | none =>
      refine .inl ⟨?_, by simp⟩
      rw [mutateQuest, found]
  | some slot =>
      obtain ⟨q, here, _⟩ := QuestJournal.slots_of_slotOf found
      by_cases dirty : (mutation.apply q).data.dirty = true
      · refine .inr ⟨slot, q, rfl, here, dirty, ?_⟩
        rw [mutateQuest, found]
        dsimp only
        rw [here]
        dsimp only
        rw [if_pos dirty]
      · refine .inl ⟨?_, fun slot' q' same here' => ?_⟩
        · obtain same | also := mutation.apply_cases q
          · rw [mutateQuest, found]
            dsimp only
            rw [here]
            dsimp only
            rw [if_neg dirty, same, QuestJournal.setSlot_self here]
          · exact absurd also dirty
        · obtain rfl := Option.some.inj same
          obtain rfl := Option.some.inj (here.symm.trans here')
          exact dirty

theorem held_call (c : EarnedCall) (k : EarnedCell) :
    (m.call c).1.held k = m.held k ∨ ∃ w ∈ (m.call c).2, (w.value k).isSome := by
  cases c with
  | addExp classId exp =>
      rw [call, addExp]
      split
      · exact .inl rfl
      · split
        · next inside => exact m.held_take inside _ k
        · exact .inl rfl
  | questMutation questId mutation =>
      rw [call]
      rcases m.mutateQuest_cases questId mutation with
        ⟨same, _⟩ | ⟨slot, q, _, here, _, result⟩
      · rw [same]
        exact .inl rfl
      · rw [result]
        cases k with
        | quest slot' =>
            by_cases same : slot' = slot
            · refine .inr ⟨.saveQuest slot (mutation.apply q), List.mem_singleton.mpr rfl, ?_⟩
              rw [EarnedWrite.value, if_pos same]
              rfl
            · refine .inl ?_
              rw [held, held, QuestJournal.slots_setSlot, if_neg same]
        | exp | level | mainSkill | restBonus => exact .inl rfl

end Earned

def earned : WriteBehind Earned EarnedRows EarnedCall EarnedWrite EarnedCell.Value where
  call := Earned.call
  write := EarnedRows.write
  held := Earned.held
  stored := EarnedRows.stored
  value := EarnedWrite.value
  stored_write := EarnedRows.stored_write
  held_call := Earned.held_call

/-- A player with the calls under way, and the slots of which a save has failed since the last
mutation of the quest. -/
structure Progress where
  behind : Behind Earned EarnedRows EarnedWrite
  failed : Fin 16 → Bool

namespace Progress

variable (s : Progress)

def noted : Turn EarnedCall → Fin 16 → Bool
  | .call (.questMutation questId _) =>
      match s.behind.memory.journal.slotOf questId with
      | some slot => Function.update s.failed slot false
      | none => s.failed
  | .call (.addExp ..) => s.failed
  | .land i through =>
      match WriteBehind.lands s.behind (.land (C := EarnedCall) i through) with
      | some (.saveQuest slot _) => if through then s.failed else Function.update s.failed slot true
      | _ => s.failed

def step (t : Turn EarnedCall) : Option Progress :=
  (earned.step s.behind t).map fun behind => { behind, failed := s.noted t }

structure Converged : Prop where
  exp : ∀ col, s.behind.store.exp col = s.behind.memory.skillPoint col.classId
  levels : ∀ col, s.behind.store.levels col = s.behind.memory.skillLevel col.classId
  mainSkill : s.behind.store.mainSkill = s.behind.memory.activeClass.toInt
  mainSkillLevel : s.behind.store.mainSkillLevel = s.behind.memory.level
  restBonus : s.behind.store.restBonus = s.behind.memory.restBonusExpRate
  quests : ∀ slot : Fin 16, s.behind.store.quests.scenario.lookup slot.val =
    (s.behind.memory.journal.slots slot).map saved

/-- A mutation of a quest whose save has failed saves the quest. -/
def Repeats (t : Turn EarnedCall) : Prop :=
  ∀ questId mutation, t = .call (.questMutation questId mutation) →
    ∀ slot q, s.behind.memory.journal.slotOf questId = some slot →
      s.behind.memory.journal.slots slot = some q → s.failed slot = true →
        (s.behind.memory.call (.questMutation questId mutation)).2 =
          [.saveQuest slot (mutation.apply q)]

/-- The data of a quest is cleared only while it has no linkshell message. -/
def KeepsMessages (t : Turn EarnedCall) : Prop :=
  ∀ questId mutation, t = .call (.questMutation questId mutation) →
    Clean ⟨s.behind.memory.journal, s.behind.store.quests⟩ (.mutate questId mutation)

end Progress

/-- The mutation names a flag or a counter that there is. -/
def QuestMutation.InRange : QuestMutation → Prop
  | .setFlag bit | .clearFlag bit => bit < 32
  | .setCounter idx _ | .incCounter idx | .decCounter idx => idx < 4
  | _ => True

/-- A mutation after a failed save changes something, or finds the quest changed. -/
def Progress.Redoes (s : Progress) (t : Turn EarnedCall) : Prop :=
  ∀ questId mutation, t = .call (.questMutation questId mutation) →
    ∀ slot q, s.behind.memory.journal.slotOf questId = some slot →
      s.behind.memory.journal.slots slot = some q → s.failed slot = true →
        q.data.dirty = true ∨ mutation.InRange

theorem QuestMutation.dirty_apply (mutation : QuestMutation) (q : Quest) :
    (mutation.apply q).data.dirty = true ↔ q.data.dirty = true ∨ mutation.InRange := by
  cases mutation with
  | startSequence _ | clearFlags | clearData => exact iff_of_true rfl (.inr trivial)
  | setFlag bit | clearFlag bit =>
      simp only [apply, QuestData.setFlag, QuestData.clearFlag, InRange]
      split
      · next past => rw [or_iff_left (UInt8.not_lt.mpr past)]
      · next inside => exact iff_of_true rfl (.inr (UInt8.not_le.mp inside))
  | setCounter idx _ | incCounter idx | decCounter idx =>
      simp only [apply, QuestData.setCounter, QuestData.incCounter, QuestData.decCounter,
        QuestData.updateCounter, InRange]
      split
      · next inside => exact iff_of_true rfl (.inr inside)
      · next past => rw [or_iff_left past]

namespace Progress

variable {s s' : Progress} {t : Turn EarnedCall} {turns : List (Turn EarnedCall)}

theorem repeats_iff : s.Repeats t ↔ s.Redoes t := by
  apply forall₂_congr
  intro questId mutation
  apply forall_congr'
  intro _
  apply forall₂_congr
  intro slot q
  apply forall₂_congr
  intro found here
  apply imp_congr_right
  intro _
  rw [← QuestMutation.dirty_apply, Earned.call]
  rcases s.behind.memory.mutateQuest_cases questId mutation with
    ⟨same, clean⟩ | ⟨slot', q', found', here', dirty, result⟩
  · rw [same]
    exact iff_of_false (by simp) (clean slot q found here)
  · obtain rfl := Option.some.inj (found.symm.trans found')
    obtain rfl := Option.some.inj (here.symm.trans here')
    rw [result]
    exact iff_of_true rfl dirty

theorem behind_step (taken : s.step t = some s') : earned.step s.behind t = some s'.behind := by
  obtain ⟨behind, inner, rfl⟩ := Option.map_eq_some_iff.mp taken
  exact inner

theorem behind_run (ended : run step s turns = some s') :
    run earned.step s.behind turns = some s'.behind := by
  induction turns generalizing s with
  | nil =>
      cases ended
      rfl
  | cons t turns ih =>
      obtain ⟨m, taken, rest⟩ := Option.bind_eq_some_iff.mp ended
      exact Option.bind_eq_some_iff.mpr ⟨m.behind, behind_step taken, ih rest⟩

/-! ### Linkshell messages -/

def message (row : ScenarioRow) : UInt32 × UInt8 := (row.npcLsFrom, row.npcLsMsgStep)

def MessagesKept (s : Progress) : Prop :=
  ∀ slot : Fin 16, (s.behind.store.quests.scenario.lookup slot.val).map message =
    (s.behind.memory.journal.slots slot).map fun q => message (saved q)

def MessageLeft (s : Progress) : Prop :=
  ∃ (slot : Fin 16) (q : Quest) (row : ScenarioRow),
    s.behind.memory.journal.slots slot = some q ∧ message (saved q) = (0, 0) ∧
      s.behind.store.quests.scenario.lookup slot.val = some row ∧ message row ≠ (0, 0)

def SavesPresent (s : Progress) : Prop :=
  ∀ writes ∈ s.behind.pending, ∀ slot q, EarnedWrite.saveQuest slot q ∈ writes →
    (s.behind.memory.journal.slots slot).isSome

theorem message_write (rows : EarnedRows) (w : EarnedWrite) (slot : Fin 16)
    (present : ∀ q, w = .saveQuest slot q → (rows.quests.scenario.lookup slot.val).isSome) :
    ((rows.write w).quests.scenario.lookup slot.val).map message =
      (rows.quests.scenario.lookup slot.val).map message := by
  cases w with
  | setExp classId exp =>
      rw [EarnedRows.write]
      cases classColumn classId <;> rfl
  | setLevel classId level =>
      rw [EarnedRows.write]
      cases classColumn classId <;> rfl
  | savePlayerCurrentClass classId level => rfl
  | setRestBonusExpRate rate => rfl
  | saveQuest slot' q =>
      dsimp only [EarnedRows.write]
      rw [lookup_saveQuest]
      by_cases same : slot = slot'
      · subst same
        obtain ⟨row, found⟩ := Option.isSome_iff_exists.mp (present q rfl)
        rw [if_pos rfl, found]
        rfl
      · rw [if_neg (Fin.val_ne_of_ne same)]

theorem slots_call (m : Earned) (c : EarnedCall) (slot : Fin 16) :
    (m.call c).1.journal.slots slot = m.journal.slots slot ∨
      ∃ questId mutation q, c = .questMutation questId mutation ∧
        m.journal.slotOf questId = some slot ∧ m.journal.slots slot = some q ∧
          (m.call c).1.journal.slots slot = some (mutation.apply q).clearDirty := by
  cases c with
  | addExp classId exp =>
      refine .inl ?_
      rw [Earned.call, Earned.addExp]
      split
      · rfl
      · split
        · rfl
        · rfl
  | questMutation questId mutation =>
      rw [Earned.call]
      rcases m.mutateQuest_cases questId mutation with
        ⟨same, _⟩ | ⟨slot', q, found, here, _, result⟩
      · exact .inl (by rw [same])
      · rw [result]
        dsimp only
        rw [QuestJournal.slots_setSlot]
        by_cases own : slot = slot'
        · subst own
          exact .inr ⟨questId, mutation, q, rfl, found, here, if_pos rfl⟩
        · exact .inl (if_neg own)

theorem isSome_slots_call (m : Earned) (c : EarnedCall) (slot : Fin 16) :
    ((m.call c).1.journal.slots slot).isSome = (m.journal.slots slot).isSome := by
  rcases slots_call m c slot with same | ⟨_, _, q, _, _, here, after⟩
  · rw [same]
  · rw [after, here]
    rfl

theorem saves_call {m : Earned} {c : EarnedCall} {slot : Fin 16} {q : Quest}
    (queued : EarnedWrite.saveQuest slot q ∈ (m.call c).2) : (m.journal.slots slot).isSome := by
  cases c with
  | addExp classId exp =>
      rw [Earned.call, Earned.addExp] at queued
      split at queued
      · simp at queued
      · split at queued
        · simp only [Earned.takeWrites, List.mem_append, List.mem_cons] at queued
          rcases queued with (gain | level) | rest
          · simp at gain
          · split at level
            · split at level
              · simp at level
              · simp at level
            · simp at level
          · split at rest
            · simp at rest
            · simp at rest
        · simp at queued
  | questMutation questId mutation =>
      rw [Earned.call] at queued
      rcases m.mutateQuest_cases questId mutation with
        ⟨same, _⟩ | ⟨slot', q', _, here, _, result⟩
      · rw [same] at queued
        simp at queued
      · rw [result] at queued
        cases List.mem_singleton.mp queued
        rw [here]
        rfl

theorem savesPresent_step (present : SavesPresent s) (taken : s.step t = some s') :
    SavesPresent s' := by
  rcases WriteBehind.step_cases (behind_step taken) with
    ⟨c, _, result⟩ | ⟨i, through, w, later, _, here, _, result⟩
  · intro writes member slot q queued
    rw [result] at member ⊢
    refine (isSome_slots_call s.behind.memory c slot).trans ?_
    rcases List.mem_append.mp member with before | new
    · exact present writes before slot q queued
    · obtain rfl := List.mem_singleton.mp new
      exact saves_call queued
  · intro writes member slot q queued
    rw [result] at member ⊢
    rcases List.mem_or_eq_of_mem_set member with before | rfl
    · exact present writes before slot q queued
    · exact present _ (List.mem_of_getElem? here) slot q (List.mem_cons_of_mem _ queued)

theorem present_of_kept (kept : MessagesKept s) {slot : Fin 16}
    (inside : (s.behind.memory.journal.slots slot).isSome) :
    (s.behind.store.quests.scenario.lookup slot.val).isSome := by
  have same := congrArg Option.isSome (kept slot)
  rw [Option.isSome_map, Option.isSome_map] at same
  exact same.trans inside

theorem message_apply {mutation : QuestMutation} (kept : mutation ≠ .clearData) (q : Quest) :
    message (saved (mutation.apply q).clearDirty) = message (saved q) := by
  obtain ⟨source, step⟩ := mutation.apply_npcLs q kept
  exact Prod.ext source step

theorem messagesKept_step (present : SavesPresent s) (kept : MessagesKept s)
    (keeps : s.KeepsMessages t) (taken : s.step t = some s') : MessagesKept s' := by
  intro slot
  rcases WriteBehind.step_cases (behind_step taken) with
    ⟨c, rfl, result⟩ | ⟨i, through, w, later, _, here, _, result⟩
  · rw [result]
    refine (kept slot).trans ?_
    dsimp only [earned]
    rcases slots_call s.behind.memory c slot with
      same | ⟨questId, mutation, q, rfl, found, inside, after⟩
    · rw [same]
    · rw [after, inside, Option.map_some, Option.map_some]
      apply congrArg some
      by_cases clears : mutation = .clearData
      · subst clears
        obtain ⟨source, step⟩ := keeps questId .clearData rfl slot q found inside
        exact Prod.ext source step
      · exact (message_apply clears q).symm
  · rw [result]
    refine Eq.trans ?_ (kept slot)
    dsimp only
    split
    · apply message_write
      rintro q rfl
      exact present_of_kept kept (present _ (List.mem_of_getElem? here) slot q List.mem_cons_self)
    · rfl

theorem messageLeft_of_clear (kept : MessagesKept s) (spoils : ¬ s.KeepsMessages t)
    (taken : s.step t = some s') : MessageLeft s' := by
  rw [KeepsMessages] at spoils
  push Not at spoils
  obtain ⟨questId, mutation, rfl, unclean⟩ := spoils
  cases mutation with
  | clearData =>
      rw [Clean] at unclean
      push Not at unclean
      obtain ⟨slot, q, found, here, told⟩ := unclean
      have row := kept slot
      rw [here, Option.map_some] at row
      obtain ⟨row, stored, same⟩ := Option.map_eq_some_iff.mp row
      have call : (earned.call s.behind.memory (.questMutation questId .clearData)).1 =
          { s.behind.memory with
            journal := s.behind.memory.journal.setSlot slot
              (some (QuestMutation.clearData.apply q).clearDirty) } := by
        rcases s.behind.memory.mutateQuest_cases questId .clearData with
          ⟨_, clean⟩ | ⟨slot', q', found', here', _, result⟩
        · exact absurd rfl (clean slot q found here)
        · obtain rfl := Option.some.inj (found.symm.trans found')
          obtain rfl := Option.some.inj (here.symm.trans here')
          exact congrArg Prod.fst result
      rcases WriteBehind.step_cases (behind_step taken) with
        ⟨c, same', result⟩ | ⟨_, _, _, _, same', _⟩
      · obtain rfl := Turn.call.inj same'
        refine ⟨slot, (QuestMutation.clearData.apply q).clearDirty, row, ?_, rfl, ?_, ?_⟩
        · rw [result, call]
          dsimp only
          rw [QuestJournal.slots_setSlot, if_pos rfl]
        · rw [result]
          exact stored
        · rw [same]
          intro nothing
          obtain ⟨source, step⟩ := Prod.mk.inj nothing
          exact told source step
      · simp at same'
  | _ => exact absurd trivial unclean

theorem messageLeft_step (left : MessageLeft s) (taken : s.step t = some s') :
    MessageLeft s' := by
  obtain ⟨slot, q, row, here, silent, stored, told⟩ := left
  rcases WriteBehind.step_cases (behind_step taken) with
    ⟨c, _, result⟩ | ⟨i, through, w, later, _, _, _, result⟩
  · rcases slots_call s.behind.memory c slot with
      same | ⟨questId, mutation, q', _, _, here', after⟩
    · refine ⟨slot, q, row, ?_, silent, ?_, told⟩
      · rw [result]
        exact same.trans here
      · rw [result]
        exact stored
    · obtain rfl := Option.some.inj (here.symm.trans here')
      refine ⟨slot, (mutation.apply q).clearDirty, row, ?_, ?_, ?_, told⟩
      · rw [result]
        exact after
      · by_cases clears : mutation = .clearData
        · rw [clears]
          rfl
        · rw [message_apply clears, silent]
      · rw [result]
        exact stored
  · have after : ((if through then s.behind.store.write w else s.behind.store
        ).quests.scenario.lookup slot.val).map message = some (message row) := by
      split
      · rw [message_write _ _ _ (fun q _ => by rw [stored]; rfl), stored, Option.map_some]
      · rw [stored, Option.map_some]
    obtain ⟨row', stored', same⟩ := Option.map_eq_some_iff.mp after
    refine ⟨slot, q, row', ?_, silent, ?_, by rw [same]; exact told⟩
    · rw [result]
      exact here
    · rw [result]
      exact stored'

theorem MessageLeft.not_kept (left : MessageLeft s) : ¬ MessagesKept s := by
  obtain ⟨slot, q, row, here, silent, stored, told⟩ := left
  intro kept
  have same := kept slot
  rw [here, stored, Option.map_some, Option.map_some] at same
  exact told ((Option.some.inj same).trans silent)

theorem messages_iff (present : SavesPresent s) (kept : MessagesKept s)
    (ended : run step s turns = some s') :
    MessagesKept s' ↔ EachStep step KeepsMessages s turns := by
  have both : SavesPresent s' ∧ MessagesKept s' ↔ EachStep step KeepsMessages s turns :=
    end_iff_eachStep (I := fun s => SavesPresent s ∧ MessagesKept s) (B := MessageLeft)
      (fun _ _ _ held keeps taken => ⟨savesPresent_step held.1 taken,
        messagesKept_step held.1 held.2 keeps taken⟩)
      (fun _ _ _ held spoils taken => messageLeft_of_clear held.2 spoils taken)
      (fun _ _ _ left taken => messageLeft_step left taken)
      (fun _ left held => left.not_kept held.2) ⟨present, kept⟩ ended
  have always : Always step SavesPresent s turns :=
    always_of_step (fun _ _ _ held taken => savesPresent_step held taken) present turns
  rw [← both, and_iff_right (always_iff_reached.mp always turns List.prefix_rfl s' ended)]

/-! ### Convergence -/

theorem converged_iff (s : Progress) : s.Converged ↔
    (∀ k, earned.stored s.behind.store k = earned.held s.behind.memory k) ∧ MessagesKept s := by
  constructor
  · intro converged
    refine ⟨fun k => ?_, fun slot => ?_⟩
    · cases k with
      | exp col => exact converged.exp col
      | level col => exact converged.levels col
      | mainSkill => exact Prod.ext converged.mainSkill converged.mainSkillLevel
      | restBonus => exact converged.restBonus
      | quest slot =>
          dsimp only [earned, EarnedRows.stored, Earned.held]
          rw [converged.quests, Option.map_map]
          rfl
    · rw [converged.quests, Option.map_map]
      rfl
  · rintro ⟨cells, messages⟩
    refine ⟨fun col => cells (.exp col), fun col => cells (.level col),
      congrArg Prod.fst (cells .mainSkill), congrArg Prod.snd (cells .mainSkill),
      cells .restBonus, fun slot => ?_⟩
    have save := cells (.quest slot)
    have told := messages slot
    dsimp only [earned, EarnedRows.stored, Earned.held] at save
    cases row : s.behind.store.quests.scenario.lookup slot.val with
    | none =>
        rw [row] at told
        rw [Option.map_eq_none_iff.mp told.symm]
        rfl
    | some row' =>
        rw [row] at save told
        obtain ⟨q, here, same⟩ := Option.map_eq_some_iff.mp save.symm
        rw [here] at told ⊢
        have left := Option.some.inj told
        cases row'
        cases same
        cases left
        rfl

/-- Of calls whose writes all go through, the rows are those of memory in the end exactly if the
last write of each cell puts into it what memory has and no message is cleared; and of
failed saves, the next mutation repeats each exactly if it changes something. -/
theorem progress_converges_iff (started : s.Converged) (idle : s.behind.pending = [])
    (ended : run step s turns = some s') :
    ((∀ t ∈ turns, t.Through) → WriteBehind.Finished s'.behind → s'.Converged) ∧
        EachStep step Repeats s turns ↔
      ((∀ t ∈ turns, t.Through) → WriteBehind.Finished s'.behind →
        (∀ k, earned.LastCurrent k s.behind turns) ∧ EachStep step KeepsMessages s turns) ∧
          EachStep step Redoes s turns := by
  obtain ⟨cells, messages⟩ := (converged_iff s).mp started
  have present : SavesPresent s := fun writes member => by
    rw [idle] at member
    simp at member
  apply and_congr
  · apply imp_congr_right
    intro through
    apply imp_congr_right
    intro finished
    rw [converged_iff, messages_iff present messages ended]
    apply and_congr_left
    intro _
    apply forall_congr'
    intro k
    exact WriteBehind.settles_iff (cells k) (behind_run ended) through finished
  · exact EachStep.congr fun _ _ _ _ => repeats_iff

local instance sixteenSlots : @NeZero Nat Zero.ofOfNat0 16 := ⟨by decide⟩

def gladiator : Progress where
  behind :=
    { memory :=
        { activeClass := 3
          level := 1
          restBonusExpRate := 0
          skillLevel := fun slot => if slot = 3 then 1 else 0
          skillPoint := fun _ => 0
          journal :=
            { slots := Function.update (fun _ => none) 0
                (some { actorId := questActorId 110001 }) } }
      store :=
        { exp := fun _ => 0
          levels := fun col => if col = .gla then 1 else 0
          mainSkill := 3
          mainSkillLevel := 1
          restBonus := 0
          quests :=
            { scenario := AList.insert 0 (saved { actorId := questActorId 110001 }) ∅
              completedQuests := none } }
      pending := [] }
  failed := fun _ => false

theorem gladiator_converged : gladiator.Converged where
  exp _ := rfl
  levels col := by cases col <;> rfl
  mainSkill := rfl
  mainSkillLevel := rfl
  restBonus := rfl
  quests slot := by
    dsimp only [gladiator]
    by_cases first : slot = 0
    · rw [first]
      rfl
    · have later : slot.val ≠ 0 := fun same => first (Fin.ext same)
      rw [Function.update_of_ne first, AList.lookup_insert_ne later, AList.lookup_empty]
      rfl

theorem progress_converges_two : ∃ s', run step gladiator
    [.call (.addExp 3 100), .call (.questMutation 110001 (.setFlag 3)), .land 1 true,
      .land 0 true] = some s' ∧ s'.Converged := by
  obtain ⟨s', ended⟩ : ∃ s', run step gladiator
    [.call (.addExp 3 100), .call (.questMutation 110001 (.setFlag 3)), .land 1 true,
      .land 0 true] = some s' := ⟨_, rfl⟩
  have finished : WriteBehind.Finished s'.behind := by
    obtain rfl := Option.some.inj ended
    change ∀ writes ∈ ([[], []] : List (List EarnedWrite)), writes = []
    simp
  refine ⟨s', ended, ((progress_converges_iff gladiator_converged rfl ended).mpr
    ⟨fun _ _ => ⟨fun k => ?_, ?_⟩, ?_⟩).1 (by simp [Turn.Through]) finished⟩
  · intro s₁ taken
    obtain rfl := Option.some.inj taken
    refine ⟨fun w v lands => by simp [WriteBehind.lands] at lands, fun s₂ taken => ?_⟩
    obtain rfl := Option.some.inj taken
    refine ⟨fun w v lands => by simp [WriteBehind.lands] at lands, fun s₃ taken => ?_⟩
    obtain rfl := Option.some.inj taken
    refine ⟨fun w v lands writes _ => ?_, fun s₄ taken => ?_⟩
    · obtain rfl := Option.some.inj lands
      cases k with
      | quest slot =>
          simp only [earned, EarnedWrite.value] at writes
          split at writes
          · next first =>
              obtain rfl := Option.some.inj writes
              rw [first]
              rfl
          · simp at writes
      | _ => simp [earned, EarnedWrite.value] at writes
    · obtain rfl := Option.some.inj taken
      refine ⟨fun w v lands writes _ => ?_, trivial⟩
      obtain rfl := Option.some.inj lands
      cases k with
      | exp col =>
          simp only [earned, EarnedWrite.value] at writes
          split at writes
          · next own =>
              obtain rfl := Option.some.inj writes
              obtain rfl : ClassColumn.gla = col := Option.some.inj own
              rfl
          · simp at writes
      | _ => simp [earned, EarnedWrite.value] at writes
  · intro s₁ taken
    obtain rfl := Option.some.inj taken
    refine ⟨fun _ _ same => by simp at same, fun s₂ taken => ?_⟩
    obtain rfl := Option.some.inj taken
    refine ⟨fun _ _ same => ?_, fun s₃ taken => ?_⟩
    · cases same
      trivial
    · obtain rfl := Option.some.inj taken
      refine ⟨fun _ _ same => by simp at same, fun s₄ taken => ?_⟩
      exact ⟨fun _ _ same => by simp at same, trivial⟩
  · intro s₁ taken
    obtain rfl := Option.some.inj taken
    refine ⟨fun _ _ same => by simp at same, fun s₂ taken => ?_⟩
    obtain rfl := Option.some.inj taken
    refine ⟨fun _ _ same _ _ _ _ _ => ?_, fun s₃ taken => ?_⟩
    · cases same
      exact .inr (show (3 : UInt8) < 32 by decide)
    · obtain rfl := Option.some.inj taken
      refine ⟨fun _ _ same => by simp at same, fun s₄ taken => ?_⟩
      exact ⟨fun _ _ same => by simp at same, trivial⟩

theorem older_exp_lands_last : gladiator.Converged ∧ ∃ s', run step gladiator
    [.call (.addExp 3 100), .call (.addExp 3 100), .land 1 true, .land 0 true] = some s' ∧
      WriteBehind.Finished s'.behind ∧ s'.behind.memory.skillPoint 3 = 200 ∧
        s'.behind.store.exp .gla = 100 ∧ ¬ s'.Converged := by
  obtain ⟨s', ended, finished, earned, stored⟩ : ∃ s', run step gladiator
      [.call (.addExp 3 100), .call (.addExp 3 100), .land 1 true, .land 0 true] = some s' ∧
        WriteBehind.Finished s'.behind ∧ s'.behind.memory.skillPoint 3 = 200 ∧
          s'.behind.store.exp .gla = 100 := by
    refine ⟨_, rfl, ?_, by decide, rfl⟩
    change ∀ writes ∈ ([[], []] : List (List EarnedWrite)), writes = []
    simp
  refine ⟨gladiator_converged, s', ended, finished, earned, stored, fun converged => ?_⟩
  have same := converged.exp .gla
  rw [stored, ClassColumn.classId, earned] at same
  exact absurd same (by decide)

end Progress

end Garlemald.Quest
