import Garlemald.Lua.WakeUps

/-!
What a scheduler holds of one player: the coroutines parked by its scripts or for it, and the
context of its events. A purge takes away what is named after the player.
-/

namespace Garlemald.Lua.CoroutineScheduler

open Library

variable {θ : Type}

def Parked (P : Wait → ParkedCoroutine θ → Prop) (s : CoroutineScheduler θ) : Prop :=
  ∀ wait c, Filed s (wait, c) → P wait c

/-- The scheduler as if a player had never parked anything. -/
def without (mine : ParkedCoroutine θ → Bool) (player : UInt32) (s : CoroutineScheduler θ) :
    CoroutineScheduler θ where
  sleepingOnTime := s.sleepingOnTime.filter fun e => !mine e.2
  sleepingOnSignal := Table.mapValues (List.filter fun c => !mine c) s.sleepingOnSignal
  sleepingOnPlayerEvent :=
    Table.retain (fun key parked => decide (key ≠ player) && !mine parked.coroutine)
      s.sleepingOnPlayerEvent
  eventOwnerContext := s.eventOwnerContext.erase player

structure Free (mine : ParkedCoroutine θ → Bool) (player : UInt32) (s : CoroutineScheduler θ) :
    Prop where
  parked : s.Parked fun wait c => mine c = false ∧ wait ≠ .event player
  context : s.eventOwnerContext.lookup player = none

variable {P : Wait → ParkedCoroutine θ → Prop} {s : CoroutineScheduler θ}

theorem mem_filedUnder {key : UInt32} {c : ParkedCoroutine θ} : c ∈ s.filedUnder key ↔
    ∃ parked, s.sleepingOnPlayerEvent.lookup key = some parked ∧ parked.coroutine = c := by
  simp [filedUnder]

theorem filed_fallsBack {e : Event θ} (falls : e.fallsBack = true)
    {parked : Wait × ParkedCoroutine θ} (filed : Filed (s.apply e) parked) : Filed s parked := by
  have erased : ∀ (s : CoroutineScheduler θ) (player : UInt32),
      Filed (s.takeEvent player).2 parked → Filed s parked := by
    intro s player filed
    obtain ⟨old, _⟩ | parks := (filed_apply (e := .takeEvent player) rfl s parked).mp filed
    · exact old
    · cases parks
  cases e with
  | firePlayerEvent player =>
      simp only [apply, firePlayerEvent] at filed
      split at filed
      · rename_i taken
        apply erased s player
        rwa [taken]
      · rename_i taken
        apply erased s player
        rw [taken]
        split at filed
        · exact erased _ 0 filed
        · exact filed
  | discardParkedEvent player =>
      simp only [apply, discardParkedEvent] at filed
      split at filed
      · exact erased s player filed
      · split at filed
        · exact erased s 0 filed
        · exact filed
  | _ => cases falls

theorem Parked.apply (held : s.Parked P) {e : Event θ}
    (parks : ∀ wait c, e.parks = some (wait, c) → P wait c) : (s.apply e).Parked P := by
  intro wait c filed
  cases falls : e.fallsBack with
  | true => exact held wait c (filed_fallsBack falls filed)
  | false =>
      obtain ⟨old, _⟩ | parked := (filed_apply falls s (wait, c)).mp filed
      · exact held wait c old
      · exact parks wait c parked

theorem filed_parked {e : Event θ} {parked : Wait × ParkedCoroutine θ}
    (parks : e.parks = some parked) : Filed (s.apply e) parked := by
  have own : e.fallsBack = false := by
    cases e with
    | firePlayerEvent player => cases parks
    | discardParkedEvent player => cases parks
    | _ => rfl
  exact (filed_apply own s parked).mpr (.inr parks)

theorem filed_purgeOwner {player : UInt32} (known : player ≠ 0) {wait : Wait}
    {c : ParkedCoroutine θ} : Filed (s.purgeOwner player).2 (wait, c) ↔
      Filed s (wait, c) ∧ c.ownerPlayerId ≠ player ∧ wait ≠ .event player := by
  refine (filed_apply (e := .purgeOwner player) rfl s (wait, c)).trans ?_
  simp [Event.ends, Event.wakes, Event.drops, Event.parks, known]

theorem purgeOwner_context {player : UInt32} (known : player ≠ 0) (s : CoroutineScheduler θ) :
    (s.purgeOwner player).2.eventOwnerContext.lookup player = none := by
  rw [CoroutineScheduler.purgeOwner, if_neg known]
  exact AList.lookup_erase _ _

theorem context_apply {player : UInt32} (absent : s.eventOwnerContext.lookup player = none)
    {e : Event θ} (other : ∀ owner, e ≠ .setEventOwnerContext player owner) :
    (s.apply e).eventOwnerContext.lookup player = none := by
  have erased : ∀ key, (s.eventOwnerContext.erase key).lookup player = none := by
    intro key
    by_cases same : player = key
    · rw [same, AList.lookup_erase]
    · rwa [AList.lookup_erase_ne same]
  cases e with
  | setEventOwnerContext key owner =>
      have away : player ≠ key := by
        rintro rfl
        exact other owner rfl
      exact (AList.lookup_insert_ne away).trans absent
  | clearEventOwnerContext key => exact erased key
  | purgeOwner key =>
      by_cases known : key = 0
      · simpa only [apply, CoroutineScheduler.purgeOwner, known, if_true] using absent
      · simpa only [apply, CoroutineScheduler.purgeOwner, known, if_false] using erased key
  | firePlayerEvent key =>
      have same : (s.apply (.firePlayerEvent key)).eventOwnerContext = s.eventOwnerContext := by
        simp only [apply, firePlayerEvent]
        split
        · rename_i taken
          rw [← congrArg (fun r => r.2.eventOwnerContext) taken]
          rfl
        · rename_i taken
          have kept := congrArg (fun r => r.2.eventOwnerContext) taken
          split
          · exact kept.symm
          · exact kept.symm
      rw [same]
      exact absent
  | discardParkedEvent key =>
      simp only [apply, discardParkedEvent]
      split
      · exact absent
      · split
        · exact absent
        · exact absent
  | _ => exact absent

theorem Free.without_eq {mine : ParkedCoroutine θ → Bool} {player : UInt32}
    (free : s.Free mine player) : s.without mine player = s := by
  have time : s.sleepingOnTime.filter (fun e => !mine e.2) = s.sleepingOnTime := by
    apply List.filter_eq_self.mpr
    intro e member
    simp [(free.parked (.time e.1) e.2 member).1]
  have signal : Table.mapValues (List.filter fun c => !mine c) s.sleepingOnSignal =
      s.sleepingOnSignal := by
    apply Table.mapValues_fixed
    intro e member
    apply List.filter_eq_self.mpr
    intro c waits
    have found : s.waitingOn e.1 = e.2 := by
      rw [waitingOn, AList.mem_lookup_iff.mpr member]
      rfl
    have filed : Filed s (.signal e.1, c) := by
      rw [Filed, found]
      exact waits
    simp [(free.parked _ c filed).1]
  have event : Table.retain (fun key parked => decide (key ≠ player) && !mine parked.coroutine)
      s.sleepingOnPlayerEvent = s.sleepingOnPlayerEvent := by
    apply Table.retain_all
    intro e member
    have filed : Filed s (.event e.1, e.2.coroutine) :=
      mem_filedUnder.mpr ⟨e.2, AList.mem_lookup_iff.mpr member, rfl⟩
    obtain ⟨other, key⟩ := free.parked _ _ filed
    have apart : e.1 ≠ player := fun same => key (congrArg Wait.event same)
    simp [other, apart]
  rw [without, time, signal, event, Table.erase_absent free.context]
end Garlemald.Lua.CoroutineScheduler
