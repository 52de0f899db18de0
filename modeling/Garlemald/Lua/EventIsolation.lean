import Garlemald.Lua.Scheduler

/-!
Isolation of the players' event channels. An access for a player is isolated when it
leaves the coroutines parked for other players where they are and answers as if these
were not there. The accesses to a player's own key are; those that reach the shared
key are exactly when no other player's coroutine is filed under it.
-/

namespace Garlemald.Lua
open Library

variable {θ : Type}

/-- The player a coroutine is parked for: the key it is filed under or, under the shared
key, its owner. -/
def parkedFor (key : UInt32) (c : ParkedCoroutine θ) : UInt32 :=
  if key = 0 then c.ownerPlayerId else key

/-- Whether what is filed under `key` is parked for a player other than `p`. -/
def Foreign (p key : UInt32) (parked : ParkedEventCoroutine θ) : Prop :=
  parkedFor key parked.coroutine ≠ 0 ∧ parkedFor key parked.coroutine ≠ p

instance (p key : UInt32) (parked : ParkedEventCoroutine θ) : Decidable (Foreign p key parked) :=
  inferInstanceAs (Decidable (_ ∧ _))

inductive Access (θ : Type) where
  | park (key : UInt32) (c : ParkedCoroutine θ)
  | take
  | fire
  | discard
  | lookup
deriving DecidableEq, Repr

inductive Answer (θ : Type) where
  | done
  | resumed (c : Option (ParkedCoroutine θ))
  | dropped (found : Bool)
  | owner (actorId : Option UInt32)
deriving DecidableEq, Repr

namespace Access

/-- The access is made for the player `p`: a park parks a coroutine for `p`. -/
def Serves (p : UInt32) : Access θ → Prop
  | .park key c => parkedFor key c = p
  | _ => True

def call (p : UInt32) (s : CoroutineScheduler θ) : Access θ → Answer θ × CoroutineScheduler θ
  | .park key c => (.done, .parkEvent key c s)
  | .take => ((.resumed (s.takeEvent p).1), (s.takeEvent p).2)
  | .fire => ((.resumed (s.firePlayerEvent p).1), (s.firePlayerEvent p).2)
  | .discard => ((.dropped (s.discardParkedEvent p).1), (s.discardParkedEvent p).2)
  | .lookup => ((.owner (s.parkedEventOwner p)), s)

def Shares (p : UInt32) (s : CoroutineScheduler θ) : Access θ → Prop
  | .park key _ => key = 0
  | .take => False
  | _ => s.sleepingOnPlayerEvent.lookup p = none

end Access

/-- The scheduler without the coroutines parked for players other than `p`. -/
def CoroutineScheduler.withoutOthers (p : UInt32) (s : CoroutineScheduler θ) :
    CoroutineScheduler θ :=
  { s with sleepingOnPlayerEvent :=
      Table.retain (fun key parked => !decide (Foreign p key parked)) s.sleepingOnPlayerEvent }

structure Isolated (p : UInt32) (s : CoroutineScheduler θ) (a : Access θ) : Prop where
  /-- No coroutine parked for another player is taken or dropped. -/
  keeps : ∀ key parked, s.sleepingOnPlayerEvent.lookup key = some parked →
    Foreign p key parked → (a.call p s).2.sleepingOnPlayerEvent.lookup key = some parked
  /-- No coroutine parked for another player is handed back or reported. -/
  blind : (a.call p s).1 = (a.call p (s.withoutOthers p)).1

/-- Another player's coroutine is filed under the shared key. -/
def SharedForeign (p : UInt32) (s : CoroutineScheduler θ) : Prop :=
  ∃ parked, s.sleepingOnPlayerEvent.lookup 0 = some parked ∧ Foreign p 0 parked

variable {p : UInt32} {s : CoroutineScheduler θ}

theorem not_foreign_own (known : p ≠ 0) (parked : ParkedEventCoroutine θ) :
    ¬ Foreign p p parked := by
  intro foreign
  exact foreign.2 (if_neg known)

theorem lookup_withoutOthers (p key : UInt32) (s : CoroutineScheduler θ) :
    (s.withoutOthers p).sleepingOnPlayerEvent.lookup key =
      (s.sleepingOnPlayerEvent.lookup key).filter fun parked => !decide (Foreign p key parked) :=
  Table.lookup_retain _ _ key

theorem lookup_withoutOthers_own (known : p ≠ 0) (s : CoroutineScheduler θ) :
    (s.withoutOthers p).sleepingOnPlayerEvent.lookup p = s.sleepingOnPlayerEvent.lookup p := by
  rw [lookup_withoutOthers]
  cases s.sleepingOnPlayerEvent.lookup p with
  | none => rfl
  | some parked => simp [not_foreign_own known parked]

theorem lookup_withoutOthers_shared (own : ¬ SharedForeign p s) :
    (s.withoutOthers p).sleepingOnPlayerEvent.lookup 0 = s.sleepingOnPlayerEvent.lookup 0 := by
  rw [lookup_withoutOthers]
  cases found : s.sleepingOnPlayerEvent.lookup 0 with
  | none => rfl
  | some parked =>
      have mine : ¬ Foreign p 0 parked := fun foreign => own ⟨parked, found, foreign⟩
      simp [mine]

theorem keeps_erase_own (known : p ≠ 0) {key : UInt32} {parked : ParkedEventCoroutine θ}
    (found : s.sleepingOnPlayerEvent.lookup key = some parked) (foreign : Foreign p key parked) :
    (s.sleepingOnPlayerEvent.erase p).lookup key = some parked := by
  have other : key ≠ p := by
    intro same
    rw [same] at foreign
    exact not_foreign_own known parked foreign
  rw [AList.lookup_erase_ne other, found]

theorem keeps_erase_shared (own : ¬ SharedForeign p s) {key : UInt32}
    {parked : ParkedEventCoroutine θ} (found : s.sleepingOnPlayerEvent.lookup key = some parked)
    (foreign : Foreign p key parked) :
    (s.sleepingOnPlayerEvent.erase 0).lookup key = some parked := by
  have other : key ≠ 0 := by
    intro same
    rw [same] at found foreign
    exact own ⟨parked, found, foreign⟩
  rw [AList.lookup_erase_ne other, found]

theorem isolated_park_iff (known : p ≠ 0) (s : CoroutineScheduler θ) {key : UInt32}
    {c : ParkedCoroutine θ} (serves : parkedFor key c = p) :
    Isolated p s (.park key c) ↔ ¬ (key = 0 ∧ SharedForeign p s) := by
  constructor
  · intro isolated shared
    obtain ⟨shares, parked, found, foreign⟩ := shared
    cases shares
    have kept := isolated.keeps 0 parked found foreign
    simp only [Access.call, CoroutineScheduler.parkEvent, AList.lookup_insert] at kept
    cases kept
    exact foreign.2 serves
  · intro apart
    refine ⟨fun other parked found foreign => ?_, rfl⟩
    have elsewhere : other ≠ key := by
      intro same
      rw [same] at found foreign
      by_cases shares : key = 0
      · rw [shares] at found foreign
        exact apart ⟨shares, parked, found, foreign⟩
      · rw [parkedFor, if_neg shares] at serves
        rw [serves] at foreign
        exact not_foreign_own known parked foreign
    simp only [Access.call, CoroutineScheduler.parkEvent]
    rw [AList.lookup_insert_ne elsewhere, found]

theorem isolated_take (known : p ≠ 0) (s : CoroutineScheduler θ) : Isolated p s .take := by
  refine ⟨fun key parked => keeps_erase_own known, ?_⟩
  simp only [Access.call, CoroutineScheduler.takeEvent, lookup_withoutOthers_own known]

theorem isolated_lookup_iff (known : p ≠ 0) (s : CoroutineScheduler θ) :
    Isolated p s .lookup ↔ ¬ (s.sleepingOnPlayerEvent.lookup p = none ∧ SharedForeign p s) := by
  constructor
  · intro isolated shared
    obtain ⟨absent, parked, found, foreign⟩ := shared
    have same := isolated.blind
    simp only [Access.call, CoroutineScheduler.parkedEventOwner, known, ne_eq,
      not_false_eq_true, if_true, lookup_withoutOthers_own known, absent, Option.none_or,
      lookup_withoutOthers, found] at same
    simp [foreign] at same
  · intro apart
    refine ⟨fun key parked found _ => found, ?_⟩
    simp only [Access.call, CoroutineScheduler.parkedEventOwner,
      lookup_withoutOthers_own known]
    cases absent : s.sleepingOnPlayerEvent.lookup p with
    | some own => rfl
    | none =>
        have own : ¬ SharedForeign p s := fun shared => apart ⟨absent, shared⟩
        rw [lookup_withoutOthers_shared own]

theorem isolated_discard_iff (known : p ≠ 0) (s : CoroutineScheduler θ) :
    Isolated p s .discard ↔ ¬ (s.sleepingOnPlayerEvent.lookup p = none ∧ SharedForeign p s) := by
  constructor
  · intro isolated shared
    obtain ⟨absent, parked, found, foreign⟩ := shared
    have kept := isolated.keeps 0 parked found foreign
    simp [Access.call, CoroutineScheduler.discardParkedEvent, absent, known] at kept
  · intro apart
    cases absent : s.sleepingOnPlayerEvent.lookup p with
    | some own =>
        constructor
        · intro key parked found foreign
          simp only [Access.call, CoroutineScheduler.discardParkedEvent, absent,
            Option.isSome_some, if_true]
          exact keeps_erase_own known found foreign
        · simp only [Access.call, CoroutineScheduler.discardParkedEvent,
            lookup_withoutOthers_own known, absent, Option.isSome_some, if_true]
    | none =>
        have own : ¬ SharedForeign p s := fun shared => apart ⟨absent, shared⟩
        constructor
        · intro key parked found foreign
          simp only [Access.call, CoroutineScheduler.discardParkedEvent, absent, known,
            Option.isSome_none, Bool.false_eq_true, if_false, ne_eq, not_false_eq_true, if_true]
          exact keeps_erase_shared own found foreign
        · simp only [Access.call, CoroutineScheduler.discardParkedEvent,
            lookup_withoutOthers_own known, absent, known, Option.isSome_none,
            Bool.false_eq_true, if_false, ne_eq, not_false_eq_true, if_true,
            lookup_withoutOthers_shared own]

theorem firePlayerEvent_eq (known : p ≠ 0) (s : CoroutineScheduler θ) :
    s.firePlayerEvent p =
      match s.sleepingOnPlayerEvent.lookup p with
      | some parked => (some parked.coroutine, (s.takeEvent p).2)
      | none => ((s.takeEvent 0).1, ((s.takeEvent p).2.takeEvent 0).2) := by
  cases absent : s.sleepingOnPlayerEvent.lookup p with
  | some parked => simp [CoroutineScheduler.firePlayerEvent, CoroutineScheduler.takeEvent, absent]
  | none =>
      have other := AList.lookup_erase_ne (s := s.sleepingOnPlayerEvent) known.symm
      simp [CoroutineScheduler.firePlayerEvent, CoroutineScheduler.takeEvent, absent, known, other]

theorem isolated_fire_iff (known : p ≠ 0) (s : CoroutineScheduler θ) :
    Isolated p s .fire ↔ ¬ (s.sleepingOnPlayerEvent.lookup p = none ∧ SharedForeign p s) := by
  have here := firePlayerEvent_eq known s
  have there := firePlayerEvent_eq known (s.withoutOthers p)
  rw [lookup_withoutOthers_own known] at there
  constructor
  · intro isolated shared
    obtain ⟨absent, parked, found, foreign⟩ := shared
    have kept := isolated.keeps 0 parked found foreign
    rw [absent] at here
    simp [Access.call, here, CoroutineScheduler.takeEvent] at kept
  · intro apart
    cases absent : s.sleepingOnPlayerEvent.lookup p with
    | some own =>
        rw [absent] at here there
        constructor
        · intro key parked found foreign
          simp only [Access.call, here]
          exact keeps_erase_own known found foreign
        · simp only [Access.call, here, there]
    | none =>
        rw [absent] at here there
        have own : ¬ SharedForeign p s := fun shared => apart ⟨absent, shared⟩
        constructor
        · intro key parked found foreign
          have other : key ≠ p := by
            intro same
            rw [same, absent] at found
            contradiction
          simp only [Access.call, here, CoroutineScheduler.takeEvent]
          rw [AList.erase_erase, AList.lookup_erase_ne other]
          exact keeps_erase_shared own found foreign
        · simp only [Access.call, here, there, CoroutineScheduler.takeEvent,
            lookup_withoutOthers_shared own]

/-- An access for a player is isolated exactly when it does not reach, under the shared
key, a coroutine parked for another player. -/
theorem isolated_iff {p : UInt32} (known : p ≠ 0) (s : CoroutineScheduler θ) {a : Access θ}
    (serves : a.Serves p) : Isolated p s a ↔ ¬ (a.Shares p s ∧ SharedForeign p s) := by
  cases a with
  | park key c => exact isolated_park_iff known s serves
  | take => exact iff_of_true (isolated_take known s) fun shared => shared.1
  | fire => exact isolated_fire_iff known s
  | discard => exact isolated_discard_iff known s
  | lookup => exact isolated_lookup_iff known s

theorem isolated_iff_own :
    let s := CoroutineScheduler.after [.parkEvent 0 ⟨(), 5⟩]
    Isolated 5 s .fire ↔ ¬ (Access.Shares 5 s .fire ∧ SharedForeign 5 s) :=
  isolated_iff (by decide) _ trivial

/-- The coroutine of player 7 lost its player in the yield, and a new event of player 5
discards it. -/
theorem discard_drops_foreign :
    let s := CoroutineScheduler.after [.parkEvent 0 ⟨(), 7⟩]
    (s.discardParkedEvent 5).1 = true ∧ (s.discardParkedEvent 5).2.pendingEventCount = 0 ∧
      ¬ Isolated 5 s .discard := by
  refine ⟨rfl, rfl, fun isolated => ?_⟩
  have kept := isolated.keeps 0 ⟨0, ⟨(), 7⟩⟩ rfl (by decide)
  contradiction

end Garlemald.Lua
