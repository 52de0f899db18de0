import Garlemald.Lua.Scheduler

/-!
Wake-ups of parked coroutines over whole runs. What is outstanding after a run is
read off its calls alone: every park that no later call has ended, in the order of the
parks. A call ends a park by handing it back, by purging its owner or, for an event
park, by purging or parking under its key. The queues of the scheduler hold what is
outstanding, so each park is handed back once, by the first call that wakes it.
-/

namespace Garlemald.Lua
open Library

variable {θ : Type}

inductive Wait where
  | time (wakeAt : UInt64)
  | signal (name : Text)
  | event (key : UInt32)
deriving DecidableEq, Repr

namespace Event

def parks : Event θ → Option (Wait × ParkedCoroutine θ)
  | .parkTime now delay c => some (.time (now + delay), c)
  | .parkSignal signal c => some (.signal signal, c)
  | .parkEvent player c => some (.event player, c)
  | _ => none

def wakes : Event θ → Wait → Bool
  | .drainDueTime now, .time wakeAt => wakeAt ≤ now
  | .drainSignal signal, .signal name => signal = name
  | .takeEvent player, .event key => player = key
  | _, _ => false

def drops : Event θ → Wait → ParkedCoroutine θ → Bool
  | .purgeOwner player, w, c => player ≠ 0 && (c.ownerPlayerId = player || w = .event player)
  | .parkEvent player _, w, _ => w = .event player
  | _, _, _ => false

def ends (e : Event θ) (parked : Wait × ParkedCoroutine θ) : Bool :=
  e.wakes parked.1 || e.drops parked.1 parked.2

def fallsBack : Event θ → Bool
  | .firePlayerEvent _ => true
  | .discardParkedEvent _ => true
  | _ => false

end Event

/-- The parks of a run that no later call of it has ended. -/
def outstanding : List (Event θ) → List (Wait × ParkedCoroutine θ)
  | [] => []
  | e :: es =>
      e.parks.toList.filter (fun parked => !es.any fun d => d.ends parked) ++ outstanding es

def timed : Wait × ParkedCoroutine θ → Option (UInt64 × ParkedCoroutine θ)
  | (.time wakeAt, c) => some (wakeAt, c)
  | _ => none

def onSignal (name : Text) : Wait × ParkedCoroutine θ → Option (ParkedCoroutine θ)
  | (.signal signal, c) => if signal = name then some c else none
  | _ => none

def onKey (key : UInt32) : Wait × ParkedCoroutine θ → Option (ParkedCoroutine θ)
  | (.event player, c) => if player = key then some c else none
  | _ => none

theorem outstanding_append (front back : List (Event θ)) :
    outstanding (front ++ back) =
      (outstanding front).filter (fun parked => !back.any fun d => d.ends parked) ++
        outstanding back := by
  induction front with
  | nil => rfl
  | cons e front ih =>
      rw [List.cons_append, outstanding, outstanding, ih, List.filter_append, List.filter_filter,
        List.append_assoc]
      congr 1
      apply List.filter_congr
      intro parked _
      rw [List.any_append, Bool.not_or, Bool.and_comm]

theorem outstanding_concat (es : List (Event θ)) (e : Event θ) :
    outstanding (es ++ [e]) =
      (outstanding es).filter (fun parked => !e.ends parked) ++ e.parks.toList := by
  rw [outstanding_append]
  simp [outstanding]

namespace CoroutineScheduler

variable (s : CoroutineScheduler θ)

/-- The coroutines waiting on a signal, in the order they were parked. -/
def waitingOn (name : Text) : List (ParkedCoroutine θ) := (s.sleepingOnSignal.lookup name).getD []

def filedUnder (key : UInt32) : List (ParkedCoroutine θ) :=
  ((s.sleepingOnPlayerEvent.lookup key).map (·.coroutine)).toList

theorem fire_queues (player : UInt32) :
    (s.firePlayerEvent player).2.sleepingOnTime = s.sleepingOnTime ∧
      (s.firePlayerEvent player).2.sleepingOnSignal = s.sleepingOnSignal := by
  cases found : s.sleepingOnPlayerEvent.lookup player with
  | some parked => simp [firePlayerEvent, takeEvent, found]
  | none => by_cases known : player = 0 <;> simp [firePlayerEvent, takeEvent, found, known]

theorem discard_queues (player : UInt32) :
    (s.discardParkedEvent player).2.sleepingOnTime = s.sleepingOnTime ∧
      (s.discardParkedEvent player).2.sleepingOnSignal = s.sleepingOnSignal := by
  simp only [discardParkedEvent]
  split
  · exact ⟨rfl, rfl⟩
  · split <;> exact ⟨rfl, rfl⟩

section

attribute [local simp] apply Event.ends Event.wakes Event.drops Event.parks

theorem sleepingOnTime_apply (e : Event θ) :
    (s.apply e).sleepingOnTime =
      s.sleepingOnTime.filter (fun y => !e.ends (.time y.1, y.2)) ++
        e.parks.toList.filterMap timed := by
  cases e with
  | parkTime now delay c => simp [parkTime, timed]
  | parkSignal signal c => simp [parkSignal, timed]
  | parkEvent player c => simp [parkEvent, timed]
  | drainDueTime now =>
      simp [drainDueTime, List.partition_eq_filter_filter]
      rfl
  | drainSignal signal => simp [drainSignal]
  | takeEvent player => simp [takeEvent]
  | firePlayerEvent player => simp [(fire_queues s player).1]
  | discardParkedEvent player => simp [(discard_queues s player).1]
  | setEventOwnerContext player ownerActorId => simp [setEventOwnerContext]
  | clearEventOwnerContext player => simp [clearEventOwnerContext]
  | purgeOwner player => by_cases known : player = 0 <;> simp [purgeOwner, known]

theorem nonempty_getD {α : Type} (xs : List α) :
    ((some xs).filter fun xs => !xs.isEmpty).getD [] = xs := by
  cases xs <;> rfl

theorem waitingOn_apply (e : Event θ) (name : Text) :
    (s.apply e).waitingOn name =
      (s.waitingOn name).filter (fun c => !e.ends (.signal name, c)) ++
        e.parks.toList.filterMap (onSignal name) := by
  cases e with
  | parkTime now delay c => simp [parkTime, waitingOn, onSignal]
  | parkSignal signal c =>
      by_cases same : name = signal
      · subst same
        simp [parkSignal, waitingOn, onSignal]
      · simp [parkSignal, waitingOn, onSignal, Ne.symm same, AList.lookup_insert_ne same]
  | parkEvent player c => simp [parkEvent, waitingOn, onSignal]
  | drainDueTime now => simp [drainDueTime, waitingOn]
  | drainSignal signal =>
      by_cases same : name = signal
      · subst same
        simp [drainSignal, waitingOn]
      · simp [drainSignal, waitingOn, Ne.symm same, AList.lookup_erase_ne same]
  | takeEvent player => simp [takeEvent, waitingOn]
  | firePlayerEvent player => simp [waitingOn, (fire_queues s player).2]
  | discardParkedEvent player => simp [waitingOn, (discard_queues s player).2]
  | setEventOwnerContext player ownerActorId => simp [setEventOwnerContext, waitingOn]
  | clearEventOwnerContext player => simp [clearEventOwnerContext, waitingOn]
  | purgeOwner player =>
      by_cases known : player = 0
      · simp [purgeOwner, waitingOn, known]
      · simp only [apply, purgeOwner, waitingOn, known, if_false, Table.lookup_retain,
          Table.lookup_mapValues]
        cases s.sleepingOnSignal.lookup name with
        | none => rfl
        | some waiting =>
            rw [Option.map_some, nonempty_getD]
            simp [known]

theorem filedUnder_apply {e : Event θ} (own : e.fallsBack = false) (key : UInt32) :
    (s.apply e).filedUnder key =
      (s.filedUnder key).filter (fun c => !e.ends (.event key, c)) ++
        e.parks.toList.filterMap (onKey key) := by
  cases e with
  | parkTime now delay c => simp [parkTime, filedUnder, onKey]
  | parkSignal signal c => simp [parkSignal, filedUnder, onKey]
  | parkEvent player c =>
      by_cases same : key = player
      · subst same
        simp [parkEvent, filedUnder, onKey]
      · simp [parkEvent, filedUnder, onKey, same, Ne.symm same,
          AList.lookup_insert_ne same]
  | drainDueTime now => simp [drainDueTime, filedUnder]
  | drainSignal signal => simp [drainSignal, filedUnder]
  | takeEvent player =>
      by_cases same : key = player
      · subst same
        simp [takeEvent, filedUnder]
      · simp [takeEvent, filedUnder, Ne.symm same, AList.lookup_erase_ne same]
  | firePlayerEvent player => contradiction
  | discardParkedEvent player => contradiction
  | setEventOwnerContext player ownerActorId => simp [setEventOwnerContext, filedUnder]
  | clearEventOwnerContext player => simp [clearEventOwnerContext, filedUnder]
  | purgeOwner player =>
      by_cases known : player = 0
      · simp [purgeOwner, filedUnder, known]
      · simp only [apply, purgeOwner, filedUnder, known, if_false, Table.lookup_retain]
        cases s.sleepingOnPlayerEvent.lookup key with
        | none => rfl
        | some parked =>
            by_cases hit : key = player ∨ parked.coroutine.ownerPlayerId = player
            · cases hit with
              | inl same => simp [same, known]
              | inr same => simp [same, known]
            · simp only [not_or] at hit
              simp [hit, known]

end

end CoroutineScheduler

structure Holds (s : CoroutineScheduler θ) (out : List (Wait × ParkedCoroutine θ)) : Prop where
  time : s.sleepingOnTime = out.filterMap timed
  signal : ∀ name, s.waitingOn name = out.filterMap (onSignal name)

def HoldsEvents (s : CoroutineScheduler θ) (out : List (Wait × ParkedCoroutine θ)) : Prop :=
  ∀ key, s.filedUnder key = out.filterMap (onKey key)

theorem filterMap_keep {α β : Type} {f : α → Option β} {keep : α → Bool} {still : β → Bool}
    (same : ∀ x y, f x = some y → keep x = still y) (xs : List α) :
    (xs.filter keep).filterMap f = (xs.filterMap f).filter still := by
  rw [List.filterMap_filter, List.filter_filterMap]
  congr 1
  funext x
  cases image : f x with
  | none => simp
  | some y => simp [Option.filter, same x y image]

theorem Holds.apply {s : CoroutineScheduler θ} {out : List (Wait × ParkedCoroutine θ)}
    (holds : Holds s out) (e : Event θ) :
    Holds (s.apply e) (out.filter (fun parked => !e.ends parked) ++ e.parks.toList) := by
  constructor
  · rw [s.sleepingOnTime_apply, holds.time, List.filterMap_append]
    congr 1
    symm
    apply filterMap_keep
    intro parked y image
    obtain ⟨w, c⟩ := parked
    cases w <;> cases image
    rfl
  · intro name
    rw [s.waitingOn_apply, holds.signal, List.filterMap_append]
    congr 1
    symm
    apply filterMap_keep
    intro parked y image
    obtain ⟨w, c⟩ := parked
    cases w with
    | signal signal =>
        by_cases same : signal = name
        · simp only [onSignal, same, if_true] at image
          cases image
          rw [same]
        · simp [onSignal, same] at image
    | time _ => cases image
    | event _ => cases image

theorem HoldsEvents.apply {s : CoroutineScheduler θ} {out : List (Wait × ParkedCoroutine θ)}
    (holds : HoldsEvents s out) {e : Event θ} (own : e.fallsBack = false) :
    HoldsEvents (s.apply e) (out.filter (fun parked => !e.ends parked) ++ e.parks.toList) := by
  intro key
  rw [s.filedUnder_apply own, holds key, List.filterMap_append]
  congr 1
  symm
  apply filterMap_keep
  intro parked y image
  obtain ⟨w, c⟩ := parked
  cases w with
  | event player =>
      by_cases same : player = key
      · simp only [onKey, same, if_true] at image
        cases image
        rw [same]
      · simp [onKey, same] at image
  | time _ => cases image
  | signal _ => cases image

theorem holds_after (es : List (Event θ)) : Holds (.after es) (outstanding es) := by
  suffices general : ∀ (es front : List (Event θ)) (s : CoroutineScheduler θ),
      Holds s (outstanding front) → Holds (es.foldl CoroutineScheduler.apply s)
        (outstanding (front ++ es)) from general es [] {} ⟨rfl, fun _ => rfl⟩
  intro es
  induction es with
  | nil =>
      intro front s holds
      rw [List.append_nil]
      exact holds
  | cons e es ih =>
      intro front s holds
      have next := holds.apply e
      rw [← outstanding_concat] at next
      have later := ih (front ++ [e]) (s.apply e) next
      rwa [List.append_assoc] at later

theorem holdsEvents_after {es : List (Event θ)} (own : ∀ e ∈ es, e.fallsBack = false) :
    HoldsEvents (.after es) (outstanding es) := by
  suffices general : ∀ (es front : List (Event θ)) (s : CoroutineScheduler θ),
      (∀ e ∈ es, e.fallsBack = false) → HoldsEvents s (outstanding front) →
        HoldsEvents (es.foldl CoroutineScheduler.apply s) (outstanding (front ++ es)) from
    general es [] {} own fun _ => rfl
  intro es
  induction es with
  | nil =>
      intro front s _ holds
      rw [List.append_nil]
      exact holds
  | cons e es ih =>
      intro front s own holds
      have next := holds.apply (own e (List.mem_cons_self ..))
      rw [← outstanding_concat] at next
      have later := ih (front ++ [e]) (s.apply e)
        (fun d member => own d (List.mem_cons_of_mem _ member)) next
      rwa [List.append_assoc] at later

def Filed (s : CoroutineScheduler θ) : Wait × ParkedCoroutine θ → Prop
  | (.time wakeAt, c) => (wakeAt, c) ∈ s.sleepingOnTime
  | (.signal name, c) => c ∈ s.waitingOn name
  | (.event key, c) => c ∈ s.filedUnder key

theorem filed_apply {e : Event θ} (own : e.fallsBack = false) (s : CoroutineScheduler θ)
    (parked : Wait × ParkedCoroutine θ) :
    Filed (s.apply e) parked ↔
      (Filed s parked ∧ e.ends parked = false) ∨ e.parks = some parked := by
  obtain ⟨w, c⟩ := parked
  cases w with
  | time wakeAt =>
      rw [Filed, s.sleepingOnTime_apply, List.mem_append, List.mem_filter]
      cases e.parks with
      | none => simp [Filed]
      | some there =>
          obtain ⟨w, _⟩ := there
          cases w <;> simp [Filed, timed]
          exact or_congr Iff.rfl (and_congr eq_comm eq_comm)
  | signal name =>
      rw [Filed, s.waitingOn_apply, List.mem_append, List.mem_filter]
      cases e.parks with
      | none => simp [Filed]
      | some there =>
          obtain ⟨w, _⟩ := there
          cases w <;> simp [Filed, onSignal]
  | event key =>
      rw [Filed, s.filedUnder_apply own, List.mem_append, List.mem_filter]
      cases e.parks with
      | none => simp [Filed]
      | some there =>
          obtain ⟨w, _⟩ := there
          cases w <;> simp [Filed, onKey]

namespace CoroutineScheduler

theorem pendingSignalCount_eq (s : CoroutineScheduler θ) :
    s.pendingSignalCount = (Table.values s.sleepingOnSignal).flatten.length :=
  List.length_flatten.symm

theorem flatten_nonempty (t : Table Text (List (ParkedCoroutine θ))) :
    (Table.values (Table.retain (fun _ waiting => !waiting.isEmpty) t)).flatten =
      (Table.values t).flatten := by
  change ((t.entries.filter fun e => !e.2.isEmpty).map fun e => e.2).flatten =
    (t.entries.map fun e => e.2).flatten
  induction t.entries with
  | nil => rfl
  | cons e entries ih =>
      obtain ⟨name, waiting⟩ := e
      cases waiting with
      | nil => simpa using ih
      | cons c waiting => simp [ih]

/-- How many coroutines a purge finds: those of its owner on timers and signals, and those
of its owner or under its key on the event channel. -/
def purgeable (player : UInt32) (s : CoroutineScheduler θ) : Nat :=
  s.sleepingOnTime.countP (fun e => e.2.ownerPlayerId = player) +
    (Table.values s.sleepingOnSignal).flatten.countP (fun c => c.ownerPlayerId = player) +
    s.sleepingOnPlayerEvent.entries.countP
      (fun e => e.1 = player || e.2.coroutine.ownerPlayerId = player)

theorem countP_split {α : Type} (hit keep : α → Bool) (opposite : ∀ a, keep a = !hit a)
    (xs : List α) : xs.length = xs.countP hit + (xs.filter keep).length := by
  have same : keep = fun a => !hit a := funext opposite
  rw [same, ← List.countP_eq_length_filter, List.length_eq_countP_add_countP hit]
  simp

theorem purgeOwner_count {player : UInt32} (known : player ≠ 0) (s : CoroutineScheduler θ) :
    (s.purgeOwner player).1 = s.purgeable player := by
  have time := countP_split
    (fun e : UInt64 × ParkedCoroutine θ => decide (e.2.ownerPlayerId = player))
    (fun e => decide (e.2.ownerPlayerId ≠ player)) (fun e => by simp) s.sleepingOnTime
  have signal := countP_split
    (fun c : ParkedCoroutine θ => decide (c.ownerPlayerId = player))
    (fun c => decide (c.ownerPlayerId ≠ player)) (fun c => by simp)
    (Table.values s.sleepingOnSignal).flatten
  have event := countP_split
    (fun e : (_ : UInt32) × ParkedEventCoroutine θ =>
      e.1 = player || e.2.coroutine.ownerPlayerId = player)
    (fun e => decide (e.1 ≠ player) && decide (e.2.coroutine.ownerPlayerId ≠ player))
    (fun e => by simp) s.sleepingOnPlayerEvent.entries
  rw [List.filter_flatten] at signal
  simp only [purgeOwner, known, if_false, pendingCount, pendingTimeCount, pendingSignalCount_eq,
    pendingEventCount, flatten_nonempty, Table.values_mapValues, Table.entries_retain, purgeable]
  omega

theorem purgeOwner_zero (s : CoroutineScheduler θ) : s.purgeOwner 0 = (0, s) := rfl

/-- What a purge leaves: on timers and signals the coroutines of other owners, on the event
channel those of other owners under other keys. -/
theorem purgeOwner_leaves {player : UInt32} (known : player ≠ 0) (s : CoroutineScheduler θ) :
    (s.purgeOwner player).2.sleepingOnTime =
        s.sleepingOnTime.filter (fun e => e.2.ownerPlayerId ≠ player) ∧
      (∀ name, (s.purgeOwner player).2.waitingOn name =
        (s.waitingOn name).filter fun c => c.ownerPlayerId ≠ player) ∧
      ∀ key, (s.purgeOwner player).2.filedUnder key =
        (s.filedUnder key).filter fun c => c.ownerPlayerId ≠ player ∧ key ≠ player := by
  have time := s.sleepingOnTime_apply (.purgeOwner player)
  have signal := s.waitingOn_apply (.purgeOwner player)
  have event := s.filedUnder_apply (e := .purgeOwner player) rfl
  simp only [apply, Event.parks, Option.toList_none, List.filterMap_nil, List.append_nil]
    at time signal event
  refine ⟨time.trans ?_, fun name => (signal name).trans ?_, fun key => (event key).trans ?_⟩
  · simp [known, Event.ends, Event.wakes, Event.drops]
  · simp [known, Event.ends, Event.wakes, Event.drops]
  · simp [known, Event.ends, Event.wakes, Event.drops]

end CoroutineScheduler

def woken (e : Event θ) (out : List (Wait × ParkedCoroutine θ)) : List (ParkedCoroutine θ) :=
  (out.filter fun parked => e.wakes parked.1).map Prod.snd

theorem filterMap_eq_woken {f : Wait × ParkedCoroutine θ → Option (ParkedCoroutine θ)} {e : Event θ}
    (same : ∀ w c, f (w, c) = if e.wakes w then some c else none)
    (out : List (Wait × ParkedCoroutine θ)) : out.filterMap f = woken e out := by
  rw [woken, ← List.filterMap_eq_map, List.filterMap_filter]
  congr 1
  funext parked
  exact same parked.1 parked.2

open CoroutineScheduler in
/-- Over every run a park is handed back by the first call that wakes it and by no other,
unless a call before that has dropped it. -/
theorem handed_back (es : List (Event θ)) :
    (∀ now, ((after es).drainDueTime now).1 = woken (.drainDueTime now) (outstanding es)) ∧
    (∀ name, ((after es).drainSignal name).1 = woken (.drainSignal name) (outstanding es)) ∧
    ((∀ e ∈ es, e.fallsBack = false) →
      ∀ key, ((after es).takeEvent key).1.toList = woken (.takeEvent key) (outstanding es)) ∧
    (∀ player, player ≠ 0 →
      ((after es).purgeOwner player).1 = (after es).purgeable player ∧
      ((after es).purgeOwner player).2.sleepingOnTime =
        (after es).sleepingOnTime.filter (fun e => e.2.ownerPlayerId ≠ player) ∧
      (∀ name, ((after es).purgeOwner player).2.waitingOn name =
        ((after es).waitingOn name).filter fun c => c.ownerPlayerId ≠ player) ∧
      ∀ key, ((after es).purgeOwner player).2.filedUnder key =
        ((after es).filedUnder key).filter fun c => c.ownerPlayerId ≠ player ∧ key ≠ player) ∧
    (after es).purgeOwner 0 = (0, after es) := by
  have holds := holds_after es
  refine ⟨fun now => ?_, fun name => ?_, fun own key => ?_, fun player known => ?_,
    purgeOwner_zero _⟩
  · simp only [drainDueTime, List.partition_eq_filter_filter, holds.time]
    rw [List.filter_filterMap, List.map_filterMap]
    apply filterMap_eq_woken
    intro w c
    cases w with
    | time wakeAt => by_cases due : wakeAt ≤ now <;> simp [timed, Event.wakes, Option.filter, due]
    | signal _ => simp [timed, Event.wakes]
    | event _ => simp [timed, Event.wakes]
  · rw [drainSignal]
    change (after es).waitingOn name = _
    rw [holds.signal]
    apply filterMap_eq_woken
    intro w c
    cases w <;> simp [onSignal, Event.wakes, eq_comm]
  · rw [takeEvent]
    change (after es).filedUnder key = _
    rw [holdsEvents_after own key]
    apply filterMap_eq_woken
    intro w c
    cases w <;> simp [onKey, Event.wakes, eq_comm]
  · exact ⟨purgeOwner_count known _, purgeOwner_leaves known _⟩

/-- A purge goes by the key of an event park too: the coroutine of player 7 is dropped with
player 5, under whose key it was filed. -/
theorem purgeOwner_by_key :
    let s := CoroutineScheduler.after [.parkEvent 5 ⟨(), 7⟩]
    s.filedUnder 5 = [⟨(), 7⟩] ∧ (s.purgeOwner 5).1 = 1 ∧ (s.purgeOwner 5).2.filedUnder 5 = [] :=
  ⟨rfl, rfl, rfl⟩

end Garlemald.Lua
