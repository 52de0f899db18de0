import Garlemald.Library.Runs
import Mathlib.Logic.Function.Basic

/-!
The NPCs that a quest registers for its sequence, and the markers that a client shows for
them. A change of the sequence moves the registrations aside, runs a script hook that may
come back with any operation, and then clears the markers of what is still aside.
-/

namespace Garlemald.Quest

open Library

structure QuestEnpc where
  actorClassId : UInt32
  questFlagType : UInt8
  isSpawned : Bool
  isTalkEnabled : Bool
  isEmoteEnabled : Bool
  isPushEnabled : Bool
deriving DecidableEq

def QuestEnpc.isChanged (enpc other : QuestEnpc) : Bool :=
  enpc.questFlagType != other.questFlagType || enpc.isSpawned != other.isSpawned ||
    enpc.isTalkEnabled != other.isTalkEnabled || enpc.isEmoteEnabled != other.isEmoteEnabled ||
      enpc.isPushEnabled != other.isPushEnabled

abbrev EnpcMap := UInt32 → Option QuestEnpc

def EnpcMap.empty : EnpcMap := fun _ => none

inductive AddEnpcOutcome where
  | unchanged
  | updated (enpc : QuestEnpc)
  | new (enpc : QuestEnpc)

structure QuestState where
  current : EnpcMap := .empty
  old : EnpcMap := .empty

namespace QuestState

def addEnpc (q : QuestState) (enpc : QuestEnpc) : QuestState × AddEnpcOutcome :=
  let current := Function.update q.current enpc.actorClassId (some enpc)
  match q.old enpc.actorClassId with
  | some existing =>
      ({ current, old := Function.update q.old enpc.actorClassId none },
        if existing.isChanged enpc then .updated enpc else .unchanged)
  | none => ({ q with current }, .new enpc)

def beginSequenceSwap (q : QuestState) : QuestState where
  current := .empty
  old := q.current

end QuestState

/-- A quest, as long as it is in the journal, and the NPCs that a client shows a marker for,
each as the last update of it said. -/
structure Markers where
  quest : Option QuestState
  client : EnpcMap

namespace Markers

variable (m : Markers)

def broadcastUpdate (enpc : QuestEnpc) : Markers :=
  { m with client := Function.update m.client enpc.actorClassId (some enpc) }

def broadcastClears (enpcs : EnpcMap) : Markers :=
  { m with client := fun id => if (enpcs id).isSome then none else m.client id }

def beginSequenceSwap : Markers := { m with quest := m.quest.map QuestState.beginSequenceSwap }

def drainStaleEnpcs : Markers :=
  match m.quest with
  | none => m
  | some q => { m with quest := some { q with old := .empty } }.broadcastClears q.old

/-- Without a script engine the hook does nothing. -/
def applyQuestStartSequence (hook : Markers → Markers) : Markers :=
  (hook m.beginSequenceSwap).drainStaleEnpcs

def applyQuestSetEnpc (enpc : QuestEnpc) : Markers :=
  match m.quest with
  | none => m
  | some q =>
      let added := q.addEnpc enpc
      match added.2 with
      | .unchanged => { m with quest := some added.1 }
      | .updated snapshot => { m with quest := some added.1 }.broadcastUpdate snapshot
      | .new snapshot => { m with quest := some added.1 }.broadcastUpdate snapshot

/-- The graphics that go out again at the end are no updates. -/
def applyQuestUpdateEnpcs (lua : Bool) (hook : Markers → Markers) : Markers :=
  (if m.quest.isSome ∧ lua then hook m.beginSequenceSwap else m).drainStaleEnpcs

def finishCompleteQuest : Markers :=
  match m.quest with
  | none => m
  | some q => { m with quest := none }.broadcastClears fun id => (q.current id).or (q.old id)

/-- What the hook of an abandon asks for is dropped. -/
def applyAbandonQuest : Markers := { m with quest := none }

end Markers

mutual

/-- An operation on the quest, with the operations that its hook comes back with. -/
inductive QuestOp where
  | startSequence (hook : Script)
  | setEnpc (enpc : QuestEnpc)
  | updateEnpcs (lua : Bool) (hook : Script)
  | finishComplete
  | abandon

inductive Script where
  | done
  | next (op : QuestOp) (rest : Script)

end

mutual

def QuestOp.apply : QuestOp → Markers → Markers
  | .startSequence hook, m => m.applyQuestStartSequence hook.run
  | .setEnpc enpc, m => m.applyQuestSetEnpc enpc
  | .updateEnpcs lua hook, m => m.applyQuestUpdateEnpcs lua hook.run
  | .finishComplete, m => m.finishCompleteQuest
  | .abandon, m => m.applyAbandonQuest

def Script.run : Script → Markers → Markers
  | .done, m => m
  | .next op rest, m => rest.run (op.apply m)

end

namespace Markers

def Settled (m : Markers) : Prop := ∀ q, m.quest = some q → q.old = .empty

def Unregistered (m : Markers) : Prop :=
  ∀ q, m.quest = some q → q.current = .empty ∧ q.old = .empty

def Follows (m : Markers) : Prop :=
  m.client = m.quest.elim .empty QuestState.current

end Markers

mutual

/-- No sequence starts while something of the one before is still aside, and no quest is
abandoned that has an NPC registered. -/
def QuestOp.Clean : QuestOp → Markers → Prop
  | .startSequence hook, m => m.Settled ∧ hook.Clean m.beginSequenceSwap
  | .updateEnpcs lua hook, m =>
      m.quest.isSome ∧ lua = true → m.Settled ∧ hook.Clean m.beginSequenceSwap
  | .abandon, m => m.Unregistered
  | .setEnpc _, _ => True
  | .finishComplete, _ => True

def Script.Clean : Script → Markers → Prop
  | .done, _ => True
  | .next op rest, m => op.Clean m ∧ rest.Clean (op.apply m)

end

def step (m : Markers) (op : QuestOp) : Option Markers := some (op.apply m)

theorem isChanged_eq_false {enpc other : QuestEnpc} (same : enpc.isChanged other = false)
    (key : enpc.actorClassId = other.actorClassId) : enpc = other := by
  obtain ⟨_, _, _, _, _, _⟩ := enpc
  obtain ⟨_, _, _, _, _, _⟩ := other
  simp_all [QuestEnpc.isChanged]

/-- The client shows what is registered and what is still aside, which is never both. -/
structure Tracks (q : QuestState) (client : EnpcMap) : Prop where
  keys : ∀ id enpc, q.old id = some enpc → enpc.actorClassId = id
  registered : ∀ id enpc, q.current id = some enpc → enpc.actorClassId = id
  apart : ∀ id, q.old id ≠ none → q.current id = none
  client_eq : ∀ id, client id = (q.current id).or (q.old id)

namespace Tracks

variable {q : QuestState} {client : EnpcMap}

theorem swap (h : Tracks q client) (settled : q.old = .empty) :
    Tracks q.beginSequenceSwap client := by
  refine ⟨h.registered, by rintro _ _ ⟨⟩, fun _ _ => rfl, fun id => ?_⟩
  rw [h.client_eq id, settled]
  cases found : q.current id <;> simp [QuestState.beginSequenceSwap, EnpcMap.empty, found]

theorem drain (h : Tracks q client) :
    Tracks { q with old := .empty } fun id => if (q.old id).isSome then none else client id := by
  refine ⟨by rintro _ _ ⟨⟩, h.registered, fun _ some => absurd rfl some, fun id => ?_⟩
  dsimp only
  rw [h.client_eq id]
  cases aside : q.old id with
  | none => rfl
  | some enpc =>
      have apart := h.apart id (by rw [aside]; nofun)
      simp [apart, EnpcMap.empty]

theorem register (h : Tracks q client) (enpc : QuestEnpc) (old : EnpcMap)
    (kept : ∀ id, id ≠ enpc.actorClassId → old id = q.old id)
    (gone : old enpc.actorClassId = none) :
    Tracks ⟨Function.update q.current enpc.actorClassId (some enpc), old⟩
      (Function.update client enpc.actorClassId (some enpc)) := by
  constructor
  · intro id other there
    by_cases same : id = enpc.actorClassId
    · subst same
      exact nomatch gone.symm.trans there
    · exact h.keys id other ((kept id same).symm.trans there)
  · intro id other there
    by_cases same : id = enpc.actorClassId
    · subst same
      dsimp only at there
      rw [Function.update_self] at there
      cases there
      rfl
    · dsimp only at there
      rw [Function.update_of_ne same] at there
      exact h.registered id other there
  · intro id aside
    by_cases same : id = enpc.actorClassId
    · exact absurd (same ▸ gone) aside
    · dsimp only
      rw [Function.update_of_ne same]
      exact h.apart id fun absent => aside ((kept id same).trans absent)
  · intro id
    by_cases same : id = enpc.actorClassId
    · subst same
      simp only [Function.update_self, Option.some_or]
    · simp only [Function.update_of_ne same, h.client_eq id, kept id same]

end Tracks

namespace Markers

/-- The client shows what is registered and aside; nothing without a quest. -/
def Tracked (m : Markers) : Prop :=
  match m.quest with
  | none => m.client = .empty
  | some q => Tracks q m.client

theorem tracked_swap {m : Markers} (h : m.Tracked) (settled : m.Settled) :
    m.beginSequenceSwap.Tracked := by
  obtain ⟨quest, client⟩ := m
  cases quest with
  | none => exact h
  | some q => exact Tracks.swap h (settled q rfl)

theorem tracked_drain {m : Markers} (h : m.Tracked) :
    m.drainStaleEnpcs.Tracked ∧ m.drainStaleEnpcs.Settled := by
  obtain ⟨quest, client⟩ := m
  cases quest with
  | none => exact ⟨h, by rintro _ ⟨⟩⟩
  | some q =>
      refine ⟨Tracks.drain h, ?_⟩
      rintro _ ⟨⟩
      rfl

theorem tracked_setEnpc {m : Markers} (h : m.Tracked) (enpc : QuestEnpc) :
    (m.applyQuestSetEnpc enpc).Tracked ∧ (m.Settled → (m.applyQuestSetEnpc enpc).Settled) := by
  obtain ⟨quest, client⟩ := m
  cases quest with
  | none => exact ⟨h, id⟩
  | some q =>
      have tracks : Tracks q client := h
      cases aside : q.old enpc.actorClassId with
      | none =>
          have registered := tracks.register enpc q.old (fun _ _ => rfl) aside
          have applied : applyQuestSetEnpc ⟨some q, client⟩ enpc =
              ⟨some ⟨Function.update q.current enpc.actorClassId (some enpc), q.old⟩,
                Function.update client enpc.actorClassId (some enpc)⟩ := by
            simp only [applyQuestSetEnpc, QuestState.addEnpc, aside]
            rfl
          rw [applied]
          refine ⟨registered, fun settled => ?_⟩
          rintro _ ⟨⟩
          exact settled q rfl
      | some existing =>
          have registered := tracks.register enpc (Function.update q.old enpc.actorClassId none)
            (fun id other => Function.update_of_ne other _ _) (Function.update_self ..)
          have key := tracks.keys _ existing aside
          have applied : applyQuestSetEnpc ⟨some q, client⟩ enpc =
              ⟨some ⟨Function.update q.current enpc.actorClassId (some enpc),
                Function.update q.old enpc.actorClassId none⟩,
                Function.update client enpc.actorClassId (some enpc)⟩ := by
            simp only [applyQuestSetEnpc, QuestState.addEnpc, aside]
            cases changed : existing.isChanged enpc with
            | true => rfl
            | false =>
                -- The same registration again: the client has it already.
                obtain rfl := isChanged_eq_false changed key
                have shown : client existing.actorClassId = some existing := by
                  rw [tracks.client_eq, aside, tracks.apart _ (by rw [aside]; nofun)]
                  rfl
                rw [← shown, Function.update_eq_self]
                rfl
          rw [applied]
          refine ⟨registered, fun settled => ?_⟩
          have empty := settled q rfl
          rw [empty] at aside
          cases aside

theorem tracked_finish {m : Markers} (h : m.Tracked) : m.finishCompleteQuest.Tracked := by
  obtain ⟨quest, client⟩ := m
  cases quest with
  | none => exact h
  | some q =>
      have tracks : Tracks q client := h
      show (fun id => if ((q.current id).or (q.old id)).isSome then none else client id) = _
      funext id
      rw [tracks.client_eq id]
      cases (q.current id).or (q.old id) <;> rfl

theorem tracked_abandon {m : Markers} (h : m.Tracked) (unregistered : m.Unregistered) :
    m.applyAbandonQuest.Tracked := by
  obtain ⟨quest, client⟩ := m
  cases quest with
  | none => exact h
  | some q =>
      have tracks : Tracks q client := h
      obtain ⟨current, old⟩ := unregistered q rfl
      show client = .empty
      funext id
      rw [tracks.client_eq id, current, old]
      rfl

end Markers

mutual

theorem QuestOp.keeps : (op : QuestOp) → (m : Markers) → m.Tracked → op.Clean m →
    (op.apply m).Tracked
  | .startSequence hook, m, h, clean => by
      rw [QuestOp.apply]
      have inside := hook.keeps m.beginSequenceSwap (Markers.tracked_swap h clean.1) clean.2
      exact (Markers.tracked_drain inside).1
  | .setEnpc enpc, m, h, _ => by
      rw [QuestOp.apply]
      exact (Markers.tracked_setEnpc h enpc).1
  | .updateEnpcs lua hook, m, h, clean => by
      rw [QuestOp.apply, Markers.applyQuestUpdateEnpcs]
      split
      · next runs =>
          obtain ⟨settled, nested⟩ := clean runs
          have inside := hook.keeps m.beginSequenceSwap (Markers.tracked_swap h settled) nested
          exact (Markers.tracked_drain inside).1
      · exact (Markers.tracked_drain h).1
  | .finishComplete, m, h, _ => by
      rw [QuestOp.apply]
      exact Markers.tracked_finish h
  | .abandon, m, h, clean => by
      rw [QuestOp.apply]
      exact Markers.tracked_abandon h clean

theorem Script.keeps : (script : Script) → (m : Markers) → m.Tracked → script.Clean m →
    (script.run m).Tracked
  | .done, m, h, _ => by
      rw [Script.run]
      exact h
  | .next op rest, m, h, clean => by
      rw [Script.run]
      exact rest.keeps (op.apply m) (op.keeps m h clean.1) clean.2

end

theorem step_tracked (m : Markers) (op : QuestOp) (m' : Markers)
    (h : m.Tracked ∧ m.Settled) (clean : op.Clean m) (taken : step m op = some m') :
    m'.Tracked ∧ m'.Settled := by
  obtain rfl := Option.some.inj taken
  refine ⟨op.keeps m h.1 clean, ?_⟩
  cases op with
  | startSequence hook =>
      rw [QuestOp.apply]
      have inside := hook.keeps m.beginSequenceSwap (Markers.tracked_swap h.1 clean.1) clean.2
      exact (Markers.tracked_drain inside).2
  | setEnpc enpc =>
      rw [QuestOp.apply]
      exact (Markers.tracked_setEnpc h.1 enpc).2 h.2
  | updateEnpcs lua hook =>
      rw [QuestOp.apply, Markers.applyQuestUpdateEnpcs]
      split
      · next runs =>
          obtain ⟨settled, nested⟩ := clean runs
          have inside := hook.keeps m.beginSequenceSwap (Markers.tracked_swap h.1 settled) nested
          exact (Markers.tracked_drain inside).2
      · exact (Markers.tracked_drain h.1).2
  | finishComplete =>
      rw [QuestOp.apply]
      unfold Markers.finishCompleteQuest
      intro q present
      cases found : m.quest with
      | none =>
          rw [found] at present
          exact h.2 q present
      | some q' =>
          rw [found] at present
          cases present
  | abandon =>
      rw [QuestOp.apply]
      rintro q ⟨⟩

theorem follows_of_tracked {m : Markers} (h : m.Tracked) (settled : m.Settled) : m.Follows := by
  obtain ⟨quest, client⟩ := m
  cases quest with
  | none => exact h
  | some q =>
      have tracks : Tracks q client := h
      show client = q.current
      funext id
      rw [tracks.client_eq id, settled q rfl]
      exact Option.or_none

/-- A quest that was just taken or loaded: nothing is registered, and nothing is shown. -/
def fresh : Markers := ⟨some {}, .empty⟩

/-- After each outermost operation the client shows what the quest has registered, and
nothing once the quest has left the journal, as long as no sequence starts while something
of the one before is aside and no quest is abandoned with an NPC registered. -/
theorem markers_follow {ops : List QuestOp}
    (clean : EachStep step (fun m op => op.Clean m) fresh ops) :
    Always step Markers.Follows fresh ops := by
  have start : fresh.Tracked ∧ fresh.Settled := by
    refine ⟨⟨?_, ?_, ?_, ?_⟩, ?_⟩
    · rintro _ _ ⟨⟩
    · rintro _ _ ⟨⟩
    · exact fun _ _ => rfl
    · exact fun _ => rfl
    · rintro _ ⟨⟩
      rfl
  have tracked := always_of_eachStep step_tracked start clean
  exact tracked.mono fun m h => follows_of_tracked h.1 h.2

def yda : QuestEnpc := ⟨1000009, 2, true, true, false, true⟩

def turnedIn : List QuestOp :=
  [.startSequence (.next (.setEnpc yda) (.next (.setEnpc yda) .done)), .finishComplete]

theorem turnedIn_follows : EachStep step (fun m op => op.Clean m) fresh turnedIn ∧
    Always step Markers.Follows fresh turnedIn := by
  have clean : EachStep step (fun m op => op.Clean m) fresh turnedIn := by
    intro m taken
    refine ⟨⟨?_, trivial, trivial, trivial⟩, fun m' _ => ⟨trivial, trivial⟩⟩
    rintro _ ⟨⟩
    rfl
  exact ⟨clean, markers_follow clean⟩

theorem abandoned_marker : ¬ ∀ ops, Always step Markers.Follows fresh ops := by
  intro held
  have gone := ((held [.setEnpc yda, .abandon]).2 _ rfl).2 _ rfl
  have shown := congrFun gone 1000009
  simp [QuestOp.apply, Markers.applyAbandonQuest, Markers.applyQuestSetEnpc, fresh,
    QuestState.addEnpc, Markers.broadcastUpdate, EnpcMap.empty, yda] at shown

end Garlemald.Quest
