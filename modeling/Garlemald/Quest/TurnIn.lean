import Garlemald.Library.Runs
import Garlemald.Quest.Journal
import Mathlib.Algebra.GroupWithZero.Nat

/-!
Taking, turning in and abandoning quests, by tasks of one player that take turns wherever one
of them waits. A turn-in looks into the journal, waits for its reward hook and for whatever
the hook asks for, and only then takes the quest out of the journal.
-/

namespace Garlemald.Quest.TurnIn

open Library

inductive QuestCall where
  | addQuest (questId : UInt32)
  | completeQuest (questId : UInt32)
  | abandonQuest (questId : UInt32)
deriving DecidableEq

/-- Where a call stands at a wait. -/
inductive Frame where
  | start (call : QuestCall)
  /-- A turn-in has found the quest in the journal; its hook comes next. -/
  | finishing (questId : UInt32)
  /-- The hook of a turn-in has run, and what it asks for is done before this. -/
  | completing (questId : UInt32)
  /-- The hook of an abandonment has run. -/
  | removing (questId : UInt32)
deriving DecidableEq

inductive QuestEvent where
  | added
  /-- `onFinish(true)` -/
  | rewarded
  /-- The toast, the completed bit and the removal of the row. -/
  | completed
  /-- `onFinish(false)`, with the quest in the journal or not. -/
  | refused (inJournal : Bool)
  | abandoned
deriving DecidableEq

/-- The tasks with the calls that each is in, the innermost first, and what has happened to
which quest, the latest first. -/
structure World where
  journal : QuestJournal
  tasks : List (List Frame) := []
  log : List (UInt32 × QuestEvent) := []

/-- A new task with a call, or the turn of a task with the calls that a hook asks for. -/
inductive Turn where
  | spawn (call : QuestCall)
  | turn (task : ℕ) (calls : List QuestCall)

/-- The calls that a hook asks for, one after another; a quest without hooks asks for none. -/
def hookCalls (hooked : Bool) (calls : List QuestCall) : List Frame :=
  if hooked then calls.map Frame.start else []

namespace World

-- `hooks` are the quests that have a script to run.
variable (hooks : UInt32 → Bool) (w : World)

def happened (questId : UInt32) (event : QuestEvent) : World :=
  { w with log := (questId, event) :: w.log }

/-- The quest is under the id that its actor has. The hook of this call waits for no world,
and what it asks for is dropped. -/
def applyAddQuest (questId : UInt32) : World :=
  if w.journal.has questId || w.journal.isCompleted questId then w
  else
    let quest : Quest := { actorId := questActorId questId }
    match w.journal.add quest with
    | none => w
    | some (_, journal) => { w with journal }.happened quest.questId .added

def fireOnFinish (questId : UInt32) (event : QuestEvent) : World :=
  if hooks questId then w.happened questId event else w

def finishCompleteQuest (questId : UInt32) : World :=
  { w with journal := w.journal.complete questId }.happened questId .completed

def removeQuest (questId : UInt32) : World :=
  if w.journal.has questId then
    { w with journal := w.journal.remove questId }.happened questId .abandoned
  else w

/-- What a call does up to its next wait, and what is left of it, with the calls that its
hook asks for before that. -/
def advance (calls : List QuestCall) : Frame → World × List Frame
  | .start (.addQuest questId) => (w.applyAddQuest questId, [])
  | .start (.completeQuest questId) =>
      (w, if w.journal.has questId then [.finishing questId] else [])
  | .finishing questId =>
      (w.fireOnFinish hooks questId .rewarded,
        hookCalls (hooks questId) calls ++ [.completing questId])
  | .completing questId => (w.finishCompleteQuest questId, [])
  | .start (.abandonQuest questId) =>
      (w.fireOnFinish hooks questId (.refused (w.journal.has questId)), [.removing questId])
  | .removing questId => (w.removeQuest questId, [])

def step : World → Turn → Option World
  | w, .spawn call => some { w with tasks := w.tasks ++ [[.start call]] }
  | w, .turn task calls =>
      match w.tasks[task]? with
      | some (frame :: rest) =>
          let (w', next) := w.advance hooks calls frame
          some { w' with tasks := w.tasks.set task (next ++ rest) }
      | _ => none

def count (frame : Frame) : ℕ := (w.tasks.map (·.count frame)).sum

/-- How many turn-ins of the quest are past their look into the journal and have not ended. -/
def turnIns (questId : UInt32) : ℕ :=
  w.count (.finishing questId) + w.count (.completing questId)

/-- What has happened to the quest since it was last added. -/
def acceptance (questId : UInt32) : List QuestEvent :=
  ((w.log.filter (·.1 = questId)).map (·.2)).takeWhile (· ≠ .added)

end World

/-- In one acceptance the reward is paid at most once, the quest is completed at most once, it
is refused only while in the journal, and not abandoned once the reward has been paid. -/
structure PaysOnce (acceptance : List QuestEvent) : Prop where
  rewarded : acceptance.count .rewarded ≤ 1
  completed : acceptance.count .completed ≤ 1
  refused : .refused false ∉ acceptance
  abandoned : ∀ later earlier, acceptance = later ++ .abandoned :: earlier → .rewarded ∉ earlier

/-- A turn-in finds the quest, and an abandonment takes it away, only while no turn-in of it is
under way, nobody asks to abandon it while it is not in the journal, and who adds a quest
finds it if the journal has it. -/
def Frame.Clean (hooks : UInt32 → Bool) (questId : UInt32) (w : World) : Frame → Prop
  | .start (.addQuest asked) =>
      questIdFromActor (questActorId asked) = questId → w.journal.has questId →
        w.journal.has asked
  | .start (.completeQuest asked) | .removing asked =>
      asked = questId → w.journal.has questId → w.turnIns questId = 0
  | .start (.abandonQuest asked) => asked = questId → hooks asked → w.journal.has questId
  | .finishing _ | .completing _ => True

def Clean (hooks : UInt32 → Bool) (questId : UInt32) (w : World) : Turn → Prop
  | .spawn _ => True
  | .turn task _ =>
      ∀ frame rest, w.tasks[task]? = some (frame :: rest) → frame.Clean hooks questId w

instance (hooks : UInt32 → Bool) (questId : UInt32) (w : World) (frame : Frame) :
    Decidable (frame.Clean hooks questId w) :=
  match frame with
  | .start (.addQuest _) | .start (.completeQuest _) | .start (.abandonQuest _) | .removing _ =>
      inferInstanceAs (Decidable (_ → _ → _))
  | .finishing _ | .completing _ => isTrue trivial

instance (hooks : UInt32 → Bool) (questId : UInt32) (w : World) (turn : Turn) :
    Decidable (Clean hooks questId w turn) :=
  match turn with
  | .spawn _ => isTrue trivial
  | .turn task _ =>
      match found : w.tasks[task]? with
      | some (frame :: rest) =>
          decidable_of_iff (frame.Clean hooks questId w) (by simp [Clean, found])
      | some [] | none => isTrue (by simp [Clean, found])

namespace PaysOnce

variable {past : List QuestEvent}

theorem cons {event : QuestEvent} (once : PaysOnce past)
    (paid : event = .rewarded → .rewarded ∉ past)
    (ended : event = .completed → .completed ∉ past)
    (held : event ≠ .refused false) (kept : event = .abandoned → .rewarded ∉ past) :
    PaysOnce (event :: past) where
  rewarded := by
    rw [List.count_cons]
    split
    · next this => simp [List.count_eq_zero.mpr (paid (beq_iff_eq.mp this))]
    · exact once.rewarded
  completed := by
    rw [List.count_cons]
    split
    · next this => simp [List.count_eq_zero.mpr (ended (beq_iff_eq.mp this))]
    · exact once.completed
  refused := List.not_mem_cons_of_ne_of_not_mem held.symm once.refused
  abandoned later earlier split := by
    cases later with
    | nil =>
        cases split
        exact kept rfl
    | cons event later =>
        cases split
        exact once.abandoned later earlier rfl

theorem nothing : PaysOnce [] where
  rewarded := by simp
  completed := by simp
  refused := by simp
  abandoned later earlier split := by simp at split

end PaysOnce

/-- How the quest stands in a run whose turns are clean: at most one turn-in is under way, and
the quest stays in the journal until its end; the reward is paid when its hook has run. -/
structure Standing (questId : UInt32) (journal : QuestJournal) (finishing completing : ℕ)
    (past : List QuestEvent) : Prop where
  single : journal.Single questId
  one : finishing + completing ≤ 1
  held : 0 < finishing + completing → journal.has questId = true
  unpaid : journal.has questId = true → completing = 0 → .rewarded ∉ past
  uncompleted : journal.has questId = true → .completed ∉ past
  once : PaysOnce past

namespace Standing

variable {questId : UInt32} {journal journal' : QuestJournal} {finishing completing : ℕ}
  {past : List QuestEvent}

theorem absent (st : Standing questId journal finishing completing past)
    (gone : journal.has questId = false) : finishing = 0 ∧ completing = 0 := by
  have none_held := st.held
  simp only [gone, Bool.false_eq_true, imp_false] at none_held
  omega

theorem congr (st : Standing questId journal finishing completing past)
    (same : ∀ i, journal'.holds questId i = journal.holds questId i) :
    Standing questId journal' finishing completing past := by
  have has_eq : journal'.has questId = journal.has questId := by
    rw [Bool.eq_iff_iff, QuestJournal.has_iff, QuestJournal.has_iff]
    simp only [same]
  refine ⟨st.single.congr same, st.one, ?_, ?_, ?_, st.once⟩
  · rw [has_eq]
    exact st.held
  · rw [has_eq]
    exact st.unpaid
  · rw [has_eq]
    exact st.uncompleted

theorem accept (st : Standing questId journal finishing completing past)
    (gone : journal.has questId = false) (single : journal'.Single questId) :
    Standing questId journal' finishing completing [] := by
  obtain ⟨rfl, rfl⟩ := st.absent gone
  exact ⟨single, by simp, by simp, by simp, by simp, .nothing⟩

theorem look (st : Standing questId journal finishing completing past)
    (found : journal.has questId = true) (free : finishing + completing = 0) :
    Standing questId journal (finishing + 1) completing past :=
  ⟨st.single, by omega, fun _ => found, st.unpaid, st.uncompleted, st.once⟩

theorem skip (st : Standing questId journal (finishing + 1) completing past) :
    Standing questId journal finishing (completing + 1) past := by
  have one := st.one
  refine ⟨st.single, by omega, fun _ => st.held (by omega), ?_, st.uncompleted, st.once⟩
  intro _ impossible
  omega

theorem reward (st : Standing questId journal (finishing + 1) completing past) :
    Standing questId journal finishing (completing + 1) (.rewarded :: past) := by
  have one := st.one
  have found := st.held (by omega)
  have unpaid := st.unpaid found (by omega)
  refine ⟨st.single, by omega, fun _ => found, ?_, ?_, ?_⟩
  · intro _ impossible
    omega
  · intro _
    simpa using st.uncompleted found
  · exact st.once.cons (fun _ => unpaid) (by simp) (by simp) (by simp)

theorem refuse (st : Standing questId journal finishing completing past) :
    Standing questId journal finishing completing (.refused true :: past) := by
  refine ⟨st.single, st.one, st.held, ?_, ?_, st.once.cons (by simp) (by simp) (by simp) (by simp)⟩
  · simpa using st.unpaid
  · simpa using st.uncompleted

theorem gone (missing : journal.has questId = false) (once : PaysOnce past) :
    Standing questId journal 0 0 past := by
  refine ⟨?_, by simp, by simp, ?_, ?_, once⟩
  · intro i k left _
    rw [QuestJournal.has_eq_false.mp missing i] at left
    cases left
  · simp [missing]
  · simp [missing]

theorem complete (st : Standing questId journal finishing (completing + 1) past)
    (missing : journal'.has questId = false) :
    Standing questId journal' finishing completing (.completed :: past) := by
  have one := st.one
  obtain ⟨rfl, rfl⟩ : finishing = 0 ∧ completing = 0 := by omega
  have uncompleted := st.uncompleted (st.held (by omega))
  exact gone missing (st.once.cons (by simp) (fun _ => uncompleted) (by simp) (by simp))

theorem abandon (st : Standing questId journal finishing completing past)
    (found : journal.has questId = true) (free : finishing + completing = 0)
    (missing : journal'.has questId = false) :
    Standing questId journal' finishing completing (.abandoned :: past) := by
  obtain ⟨rfl, rfl⟩ : finishing = 0 ∧ completing = 0 := by omega
  exact gone missing (st.once.cons (by simp) (by simp) (by simp) fun _ => st.unpaid found rfl)

end Standing

theorem sum_count_set (frame : Frame) (next : List Frame) {ran : Frame}
    {tasks : List (List Frame)} {task : ℕ} {rest : List Frame}
    (found : tasks[task]? = some (ran :: rest)) :
    ((tasks.set task (next ++ rest)).map (·.count frame)).sum + [ran].count frame =
      (tasks.map (·.count frame)).sum + next.count frame := by
  induction tasks generalizing task with
  | nil => simp at found
  | cons frames tasks ih =>
      cases task with
      | zero =>
          cases found
          simp only [List.set_cons_zero, List.map_cons, List.sum_cons, List.count_append,
            List.count_cons, List.count_nil]
          omega
      | succ task =>
          have tail := ih found
          simp only [List.set_cons_succ, List.map_cons, List.sum_cons]
          omega

namespace World

variable {hooks : UInt32 → Bool} {questId : UInt32} {w w' : World}

def Stands (questId : UInt32) (w : World) : Prop :=
  Standing questId w.journal (w.count (.finishing questId)) (w.count (.completing questId))
    (w.acceptance questId)

@[simp] theorem happened_journal (asked : UInt32) (event : QuestEvent) :
    (w.happened asked event).journal = w.journal := rfl

theorem acceptance_happened (event : QuestEvent) (other : event ≠ .added) :
    (w.happened questId event).acceptance questId = event :: w.acceptance questId := by
  simp [acceptance, happened, other]

theorem acceptance_added : (w.happened questId .added).acceptance questId = [] := by
  simp [acceptance, happened]

variable {finishing completing : ℕ} {asked : UInt32} {calls : List QuestCall}

theorem acceptance_other (event : QuestEvent) (other : asked ≠ questId) :
    (w.happened asked event).acceptance questId = w.acceptance questId := by
  simp [acceptance, happened, other]

theorem count_hookCalls {frame : Frame} (waits : ∀ call, Frame.start call ≠ frame) (hooked : Bool)
    (calls : List QuestCall) : (hookCalls hooked calls).count frame = 0 := by
  rw [List.count_eq_zero, hookCalls]
  cases hooked with
  | true => simpa using fun call _ => waits call
  | false => simp

theorem applyAddQuest_cases (asked : UInt32) :
    w.applyAddQuest asked = w ∨
      ∃ i journal, w.journal.has asked = false ∧
        w.journal.add { actorId := questActorId asked } = some (i, journal) ∧
          w.applyAddQuest asked =
            { w with journal }.happened (questIdFromActor (questActorId asked)) .added := by
  rw [applyAddQuest]
  split
  · exact .inl rfl
  · next guard =>
      rw [Bool.or_eq_true, not_or, Bool.not_eq_true] at guard
      cases added : w.journal.add { actorId := questActorId asked } with
      | none => exact .inl (by simp only [added])
      | some result => exact .inr ⟨result.1, result.2, guard.1, rfl, by simp only [added]; rfl⟩

theorem standing_addQuest
    (st : Standing questId w.journal finishing completing (w.acceptance questId))
    (clean : Frame.Clean hooks questId w (.start (.addQuest asked))) :
    Standing questId (w.applyAddQuest asked).journal finishing completing
      ((w.applyAddQuest asked).acceptance questId) := by
  obtain unchanged | ⟨i, journal, unseen, added, result⟩ := w.applyAddQuest_cases asked
  · rw [unchanged]
    exact st
  · rw [result, happened_journal]
    by_cases this : questIdFromActor (questActorId asked) = questId
    · have absent : w.journal.has questId = false := by
        rw [← Bool.not_eq_true]
        intro present
        rw [clean this present] at unseen
        cases unseen
      rw [this, acceptance_added]
      exact st.accept absent (.add added absent)
    · rw [acceptance_other _ this]
      apply st.congr
      intro k
      rw [QuestJournal.holds_add added]
      simp [Quest.questId, this]

theorem standing_completeQuest
    (st : Standing questId w.journal finishing completing (w.acceptance questId))
    (clean : asked = questId → w.journal.has questId → finishing + completing = 0) :
    Standing questId w.journal
      (finishing + (if w.journal.has asked then [Frame.finishing asked] else []).count
        (.finishing questId))
      (completing + (if w.journal.has asked then [Frame.finishing asked] else []).count
        (.completing questId)) (w.acceptance questId) := by
  split
  · next found =>
      by_cases this : asked = questId
      · subst this
        rw [List.count_singleton_self]
        exact st.look found (clean rfl found)
      · simp only [List.count_singleton, beq_iff_eq, Frame.finishing.injEq, this, if_false]
        exact st
  · exact st

theorem standing_abandonQuest
    (st : Standing questId w.journal finishing completing (w.acceptance questId))
    (clean : Frame.Clean hooks questId w (.start (.abandonQuest asked))) :
    Standing questId (w.fireOnFinish hooks asked (.refused (w.journal.has asked))).journal
      finishing completing
      ((w.fireOnFinish hooks asked (.refused (w.journal.has asked))).acceptance questId) := by
  rw [fireOnFinish]
  split
  · next hooked =>
      rw [happened_journal]
      by_cases this : asked = questId
      · subst this
        rw [acceptance_happened _ (by simp), clean rfl hooked]
        exact st.refuse
      · rw [acceptance_other _ this]
        exact st
  · exact st

theorem standing_finishing (st : Standing questId w.journal
      (finishing + [Frame.finishing asked].count (.finishing questId)) completing
      (w.acceptance questId)) :
    Standing questId (w.fireOnFinish hooks asked .rewarded).journal
      (finishing + (hookCalls (hooks asked) calls ++ [Frame.completing asked]).count
        (Frame.finishing questId))
      (completing + (hookCalls (hooks asked) calls ++ [Frame.completing asked]).count
        (Frame.completing questId))
      ((w.fireOnFinish hooks asked .rewarded).acceptance questId) := by
  rw [List.count_append, List.count_append, count_hookCalls (by simp), count_hookCalls (by simp)]
  by_cases this : asked = questId
  · subst this
    rw [List.count_singleton_self] at st ⊢
    rw [fireOnFinish]
    split
    · rw [happened_journal, acceptance_happened _ (by simp)]
      exact st.reward
    · exact st.skip
  · simp only [List.count_singleton, beq_iff_eq, Frame.finishing.injEq, this, if_false] at st
    simp only [List.count_singleton, beq_iff_eq, Frame.completing.injEq, this, if_false]
    rw [fireOnFinish]
    split
    · rw [happened_journal, acceptance_other _ this]
      exact st
    · exact st

theorem standing_completing (st : Standing questId w.journal finishing
      (completing + [Frame.completing asked].count (.completing questId)) (w.acceptance questId)) :
    Standing questId (w.finishCompleteQuest asked).journal finishing completing
      ((w.finishCompleteQuest asked).acceptance questId) := by
  have slots (i : Fin 16) : (w.journal.complete asked).holds questId i =
      (w.journal.remove asked).holds questId i :=
    QuestJournal.holds_of_slots QuestJournal.slots_complete i
  rw [finishCompleteQuest, happened_journal]
  by_cases this : asked = questId
  · subst this
    rw [acceptance_happened _ (by simp)]
    rw [List.count_singleton_self] at st
    apply st.complete
    rw [QuestJournal.has_eq_false]
    intro i
    rw [slots]
    exact QuestJournal.has_eq_false.mp (QuestJournal.has_remove st.single) i
  · rw [acceptance_other _ this]
    simp only [List.count_singleton, beq_iff_eq, Frame.completing.injEq, this, if_false] at st
    apply st.congr
    intro i
    rw [slots]
    exact QuestJournal.holds_remove_ne this i

theorem standing_removing
    (st : Standing questId w.journal finishing completing (w.acceptance questId))
    (clean : asked = questId → w.journal.has questId → finishing + completing = 0) :
    Standing questId (w.removeQuest asked).journal finishing completing
      ((w.removeQuest asked).acceptance questId) := by
  rw [removeQuest]
  split
  · next found =>
      rw [happened_journal]
      by_cases this : asked = questId
      · subst this
        rw [acceptance_happened _ (by simp)]
        exact st.abandon found (clean rfl found) (QuestJournal.has_remove st.single)
      · rw [acceptance_other _ this]
        exact st.congr (QuestJournal.holds_remove_ne this)
  · exact st

theorem standing_advance {ran : Frame}
    (st : Standing questId w.journal (finishing + [ran].count (.finishing questId))
      (completing + [ran].count (.completing questId)) (w.acceptance questId))
    (total : w.turnIns questId = finishing + completing +
      ([ran].count (.finishing questId) + [ran].count (.completing questId)))
    (clean : ran.Clean hooks questId w) :
    Standing questId (w.advance hooks calls ran).1.journal
      (finishing + (w.advance hooks calls ran).2.count (.finishing questId))
      (completing + (w.advance hooks calls ran).2.count (.completing questId))
      ((w.advance hooks calls ran).1.acceptance questId) := by
  cases ran with
  | start call =>
      simp only [List.count_singleton, beq_iff_eq, reduceCtorEq, if_false, Nat.add_zero] at st total
      cases call with
      | addQuest asked => exact standing_addQuest st clean
      | completeQuest asked =>
          exact standing_completeQuest st fun same found => total ▸ clean same found
      | abandonQuest asked => exact standing_abandonQuest st clean
  | finishing asked => exact standing_finishing st
  | completing asked => exact standing_completing st
  | removing asked => exact standing_removing st fun same found => total ▸ clean same found

theorem step_turn {task : ℕ} (taken : step hooks w (.turn task calls) = some w') :
    ∃ ran rest, w.tasks[task]? = some (ran :: rest) ∧
      w' = { (w.advance hooks calls ran).1 with
        tasks := w.tasks.set task ((w.advance hooks calls ran).2 ++ rest) } := by
  rw [step] at taken
  split at taken
  · next ran rest found =>
      cases taken
      exact ⟨ran, rest, found, rfl⟩
  · cases taken

theorem stands_step (turn : Turn) (st : w.Stands questId) (clean : Clean hooks questId w turn)
    (taken : step hooks w turn = some w') : w'.Stands questId := by
  cases turn with
  | spawn call =>
      cases taken
      have unmoved (frame : Frame) (waits : Frame.start call ≠ frame) :
          World.count { w with tasks := w.tasks ++ [[.start call]] } frame = w.count frame := by
        simp [count, waits]
      rw [Stands, unmoved _ (by simp), unmoved _ (by simp)]
      exact st
  | turn task calls =>
      obtain ⟨ran, rest, found, rfl⟩ := step_turn taken
      -- The frames that wait are those of the tasks without the one that ran.
      let waiting : World := { w with tasks := w.tasks.set task rest }
      have before (frame : Frame) :
          w.count frame = waiting.count frame + [ran].count frame :=
        (sum_count_set frame [] found).symm
      have after (frame : Frame) : World.count { (w.advance hooks calls ran).1 with
          tasks := w.tasks.set task ((w.advance hooks calls ran).2 ++ rest) } frame =
            waiting.count frame + (w.advance hooks calls ran).2.count frame := by
        have moved := sum_count_set frame (w.advance hooks calls ran).2 found
        have same := before frame
        simp only [count] at moved same ⊢
        omega
      rw [Stands, before, before] at st
      rw [Stands, after, after]
      apply standing_advance st _ (clean ran rest found)
      rw [turnIns, before, before]
      omega

/-- In a run whose turns are clean, from a journal with the quest at most once, every
acceptance of the quest pays once. -/
theorem pays_once (hooks : UInt32 → Bool) (questId : UInt32) (journal : QuestJournal)
    (single : journal.Single questId) (turns : List Turn)
    (clean : EachStep (step hooks) (Clean hooks questId) { journal } turns) :
    Always (step hooks) (fun w => PaysOnce (w.acceptance questId)) { journal } turns := by
  have start : Stands questId { journal } :=
    ⟨single, by simp [count], by simp [count], by simp [acceptance], by simp [acceptance],
      .nothing⟩
  apply Always.mono fun w (st : Stands questId w) => st.once
  exact always_of_eachStep (fun _ turn _ st meets taken => stands_step turn st meets taken) start
    clean

def journalWith (questId : UInt32) : QuestJournal :=
  QuestJournal.setSlot {} ⟨0, by decide⟩ (some { actorId := questActorId questId })

theorem single_journalWith (questId asked : UInt32) : (journalWith questId).Single asked := by
  intro i k left right
  rw [journalWith, QuestJournal.holds_setSlot] at left right
  split at left
  · split at right
    · next here there => rw [here, there]
    · cases right
  · cases left

theorem turned_in_pays_once :
    let turns : List Turn := [.spawn (.completeQuest 110001), .turn 0 [],
      .turn 0 [.addQuest 110002], .turn 0 [], .turn 0 []]
    Always (step fun _ => true) (fun w => PaysOnce (w.acceptance 110001))
      { journal := journalWith 110001 } turns := by
  apply pays_once (fun _ => true) 110001 _ (single_journalWith _ _)
  decide

/-- A hook that asks to turn in its own quest is run again, and again pays. -/
theorem hook_pays_twice :
    ¬ ∀ (hooks : UInt32 → Bool) (questId : UInt32) (journal : QuestJournal) (turns : List Turn),
      journal.Single questId →
        Always (step hooks) (fun w => PaysOnce (w.acceptance questId)) { journal } turns := by
  intro claim
  let turns : List Turn := [.spawn (.completeQuest 110001), .turn 0 [],
    .turn 0 [.completeQuest 110001], .turn 0 [], .turn 0 []]
  have paid : (run (step fun _ => true) { journal := journalWith 110001 } turns).any
      (fun w => (w.acceptance 110001).count .rewarded = 2) = true := by decide
  obtain ⟨w, reached, twice⟩ := (Option.any_eq_true _ _).mp paid
  have held := claim (fun _ => true) 110001 (journalWith 110001) turns (single_journalWith _ _)
  have once := (always_iff_reached.mp held turns List.prefix_rfl w reached).rewarded
  rw [of_decide_eq_true twice] at once
  omega

end World

end Garlemald.Quest.TurnIn
