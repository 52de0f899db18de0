import Garlemald.Library.Accrual
import Garlemald.Quest.Rested

/-!
The rest bonus that a stay at an inn builds up. Each pass of the ticker grants a point for each full
minute since the anchor and moves the anchor on by the minutes that it granted. What the passes of a
stay come to is compared with an account that is kept from one moment to the next.
-/

namespace Garlemald.Quest
open Library

def INN_REST_INTERVAL_SECS : UInt32 := 60

def INN_REST_BONUS_CAP : Int32 := 100

/-- The anchor is 0 while none is set. -/
structure RestState where
  restBonusExpRate : Int32
  lastRestAccrualUtc : UInt32
deriving DecidableEq, Repr

def saturatingAddU32 (a b : UInt32) : UInt32 := UInt32.ofNat (min (a.toNat + b.toNat) (2 ^ 32 - 1))

def saturatingSubU32 (a b : UInt32) : UInt32 := if a ≤ b then 0 else a - b

namespace RestState

/-- The part of a pass of the ticker over a player that is about the rest bonus. -/
def tickZone (zoneIsInn : Bool) (nowMs : UInt64) (s : RestState) : RestState :=
  let tickUtc := (nowMs / 1000).toUInt32
  if zoneIsInn ∧ s.restBonusExpRate < INN_REST_BONUS_CAP then
    if s.lastRestAccrualUtc = 0 then { s with lastRestAccrualUtc := tickUtc }
    else
      let earned := saturatingSubU32 tickUtc s.lastRestAccrualUtc / INN_REST_INTERVAL_SECS
      if 0 < earned.toInt32 then
        { restBonusExpRate := min (s.restBonusExpRate + earned.toInt32) INN_REST_BONUS_CAP
          lastRestAccrualUtc :=
            saturatingAddU32 s.lastRestAccrualUtc (earned * INN_REST_INTERVAL_SECS) }
      else s
  else if ¬zoneIsInn then { s with lastRestAccrualUtc := 0 }
  else s

def spend (exp : Int32) (s : RestState) : RestState :=
  { s with restBonusExpRate := (consumeRestedXp exp s.restBonusExpRate).2 }

end RestState

/-- What happens during a stay: a pass that finds the player in an inn, or a gain. -/
inductive InnEvent where
  | pass (nowMs : UInt64)
  | gain (nowMs : UInt64) (exp : Int32)
deriving DecidableEq, Repr

namespace InnEvent

def clock : InnEvent → ℕ
  | pass nowMs => nowMs.toNat / 1000
  | gain nowMs _ => nowMs.toNat / 1000

def apply : InnEvent → RestState → RestState
  | pass nowMs => RestState.tickZone true nowMs
  | gain _ exp => RestState.spend exp

end InnEvent

/-- A stay begins with the first pass that finds the player in an inn. -/
def stay (entry : UInt64) (s : RestState) (events : List InnEvent) : RestState :=
  events.foldl (fun s e => e.apply s) (s.tickZone true entry)

/-! ### The account -/

/-- The bonus with the seconds that are carried, as they are at a moment. -/
structure RestAccount where
  accrued : Accrued
  now : ℕ

def decay (exp : Int32) : ℤ := if exp.toInt ≤ 0 then 0 else (max ((exp + 49) / 50) 1).toInt

namespace RestAccount

def wait (now : ℕ) (a : RestAccount) : RestAccount :=
  ⟨a.accrued.advance 60 100 (now - a.now), now⟩

def take (e : InnEvent) (a : RestAccount) : RestAccount :=
  let b := a.wait e.clock
  match e with
  | .pass _ => b
  | .gain _ exp => { b with accrued.points := max (b.accrued.points - decay exp) 0 }

end RestAccount

/-- A point for each full minute of the stay below the cap. -/
def innAccount (entry : UInt64) (s : RestState) (events : List InnEvent) : RestAccount :=
  events.foldl (fun a e => a.take e) ⟨⟨s.restBonusExpRate.toInt, 0⟩, entry.toNat / 1000⟩

theorem RestAccount.wait_wait {first second : ℕ} (a : RestAccount) (after : a.now ≤ first)
    (later : first ≤ second) : (a.wait first).wait second = a.wait second := by
  have whole : first - a.now + (second - first) = second - a.now := by omega
  rw [wait, wait, wait, Accrued.advance_add, whole]

theorem RestAccount.take_wait {now : ℕ} {e : InnEvent} (a : RestAccount) (after : a.now ≤ now)
    (later : now ≤ e.clock) : (a.wait now).take e = a.take e := by
  cases e with
  | pass nowMs => exact wait_wait a after later
  | gain nowMs exp =>
      simp only [take, wait_wait a after later]

/-! ### Spending -/

theorem decay_nonneg (exp : Int32) : 0 ≤ decay exp := by
  unfold decay
  split
  · exact le_rfl
  · rw [toInt_max32]
    exact le_max_of_le_right (by decide)

theorem toInt_spend (exp : Int32) (s : RestState) :
    (s.spend exp).restBonusExpRate.toInt = max (s.restBonusExpRate.toInt - decay exp) 0 := by
  have nonneg := decay_nonneg exp
  have top := s.restBonusExpRate.toInt_lt
  change (consumeRestedXp exp s.restBonusExpRate).2.toInt = _
  by_cases idle : exp.toInt ≤ 0 ∨ s.restBonusExpRate.toInt ≤ 0
  · rw [consumeRestedXp_of_checked (consumeRestedXpChecked_idle idle), toInt_max32]
    change max s.restBonusExpRate.toInt 0 = _
    unfold decay at nonneg ⊢
    split
    · rw [sub_zero]
    · omega
  · have low : 1 ≤ (max ((exp + 49) / 50) 1).toInt := by
      rw [toInt_max32]
      exact le_max_of_le_right (by decide)
    have high := (max ((exp + 49) / 50) 1).toInt_lt
    rw [consumeRestedXp, if_neg (rested_apart (by omega) (by omega)), decay, if_neg (by omega),
      toInt_max32, Int32.toInt_sub, Int.bmod_eq_of_le (by omega) (by omega)]
    rfl

/-! ### Passes -/

section Passes

variable {s : RestState} {nowMs : UInt64}

theorem toNat_tickUtc (fits : nowMs.toNat / 1000 < 2 ^ 32) :
    (nowMs / 1000).toUInt32.toNat = nowMs.toNat / 1000 := by
  rw [UInt64.toNat_toUInt32, UInt64.toNat_div]
  exact Nat.mod_eq_of_lt fits

theorem tickZone_full (full : 100 ≤ s.restBonusExpRate.toInt) : s.tickZone true nowMs = s := by
  have not_below : ¬s.restBonusExpRate < INN_REST_BONUS_CAP := by
    rw [Int32.lt_iff_toInt_lt]
    exact not_lt.mpr full
  simp [RestState.tickZone, not_below]

theorem tickZone_fresh (below : s.restBonusExpRate.toInt < 100) (fresh : s.lastRestAccrualUtc = 0) :
    s.tickZone true nowMs = { s with lastRestAccrualUtc := (nowMs / 1000).toUInt32 } := by
  have is_below : s.restBonusExpRate < INN_REST_BONUS_CAP := Int32.lt_iff_toInt_lt.mpr below
  simp [RestState.tickZone, is_below, fresh]

private theorem toNat_saturatingSubU32 (a b : UInt32) :
    (saturatingSubU32 a b).toNat = a.toNat - b.toNat := by
  unfold saturatingSubU32
  split
  · rename_i le
    have small := UInt32.le_iff_toNat_le.mp le
    change 0 = _
    omega
  · rename_i less
    have small := UInt32.lt_iff_toNat_lt.mp (UInt32.not_le.mp less)
    exact UInt32.toNat_sub_of_le _ _ (UInt32.le_iff_toNat_le.mpr small.le)

theorem tickZone_anchored (fits : nowMs.toNat / 1000 < 2 ^ 32)
    (below : s.restBonusExpRate.toInt < 100) (anchored : s.lastRestAccrualUtc ≠ 0)
    (after : s.lastRestAccrualUtc.toNat ≤ nowMs.toNat / 1000) :
    (s.tickZone true nowMs).restBonusExpRate.toInt =
        min (s.restBonusExpRate.toInt +
          ((nowMs.toNat / 1000 - s.lastRestAccrualUtc.toNat) / 60 : ℕ)) 100 ∧
      (s.tickZone true nowMs).lastRestAccrualUtc.toNat = s.lastRestAccrualUtc.toNat +
        60 * ((nowMs.toNat / 1000 - s.lastRestAccrualUtc.toNat) / 60) := by
  have is_below : s.restBonusExpRate < INN_REST_BONUS_CAP := Int32.lt_iff_toInt_lt.mpr below
  have least := s.restBonusExpRate.le_toInt
  have minutes : (saturatingSubU32 (nowMs / 1000).toUInt32 s.lastRestAccrualUtc /
      INN_REST_INTERVAL_SECS).toNat =
        (nowMs.toNat / 1000 - s.lastRestAccrualUtc.toNat) / 60 := by
    rw [UInt32.toNat_div, toNat_saturatingSubU32, toNat_tickUtc fits]
    rfl
  simp only [RestState.tickZone, is_below, and_self, if_true, if_neg anchored]
  generalize saturatingSubU32 (nowMs / 1000).toUInt32 s.lastRestAccrualUtc /
    INN_REST_INTERVAL_SECS = earned at minutes ⊢
  have clock_bound : (nowMs.toNat / 1000 - s.lastRestAccrualUtc.toNat) / 60 < 2 ^ 27 := by omega
  have earned_int : earned.toInt32.toInt = earned.toNat := by
    rw [← UInt32.ofNat_toNat (x := earned), UInt32.toInt32_ofNat', UInt32.ofNat_toNat]
    exact Int32.toInt_ofNat_of_lt (by omega)
  split
  · rename_i some_earned
    refine ⟨?_, ?_⟩
    · rw [toInt_min32, Int32.toInt_add, Int.bmod_eq_of_le (by omega) (by omega), earned_int,
        minutes]
      rfl
    · have product : (earned * INN_REST_INTERVAL_SECS).toNat = earned.toNat * 60 := by
        rw [UInt32.toNat_mul]
        exact Nat.mod_eq_of_lt (by change earned.toNat * 60 < 2 ^ 32; omega)
      change (saturatingAddU32 s.lastRestAccrualUtc (earned * INN_REST_INTERVAL_SECS)).toNat = _
      rw [saturatingAddU32, product, UInt32.toNat_ofNat_of_lt' (by change _ < 2 ^ 32; omega)]
      omega
  · rename_i none_earned
    have zero : earned.toNat = 0 := by
      have not_pos := mt Int32.lt_iff_toInt_lt.mpr none_earned
      change ¬0 < earned.toInt32.toInt at not_pos
      omega
    omega

end Passes

/-! ### A stay -/

/-- The state stands for the account: what is due since the anchor is not granted yet. -/
structure Owes (s : RestState) (a : RestAccount) : Prop where
  unset : s.lastRestAccrualUtc = 0 →
    100 ≤ s.restBonusExpRate.toInt ∧ a.accrued = ⟨s.restBonusExpRate.toInt, 0⟩
  anchored : s.lastRestAccrualUtc ≠ 0 → s.lastRestAccrualUtc.toNat ≤ a.now ∧
    a.accrued = Accrued.advance 60 100 (a.now - s.lastRestAccrualUtc.toNat)
      ⟨s.restBonusExpRate.toInt, 0⟩

variable {s : RestState} {a : RestAccount}

theorem Owes.full (h : Owes s a) (full : 100 ≤ s.restBonusExpRate.toInt) :
    a.accrued = ⟨s.restBonusExpRate.toInt, 0⟩ := by
  by_cases fresh : s.lastRestAccrualUtc = 0
  · exact (h.unset fresh).2
  · rw [(h.anchored fresh).2]
    exact Accrued.advance_full full

theorem Owes.wait (h : Owes s a) {now : ℕ} (after : a.now ≤ now) : Owes s (a.wait now) := by
  refine ⟨fun fresh => ?_, fun anchored => ?_⟩
  · obtain ⟨full, still⟩ := h.unset fresh
    refine ⟨full, ?_⟩
    change a.accrued.advance 60 100 (now - a.now) = _
    rw [still]
    exact Accrued.advance_full full
  · obtain ⟨before, due⟩ := h.anchored anchored
    have whole : a.now - s.lastRestAccrualUtc.toNat + (now - a.now) =
        now - s.lastRestAccrualUtc.toNat := by omega
    refine ⟨before.trans after, ?_⟩
    change a.accrued.advance 60 100 (now - a.now) =
      Accrued.advance 60 100 (now - s.lastRestAccrualUtc.toNat) _
    rw [due, Accrued.advance_add, whole]

theorem Owes.pass {nowMs : UInt64} (h : Owes s a) (fits : nowMs.toNat / 1000 < 2 ^ 32)
    (now : a.now = nowMs.toNat / 1000) :
    Owes (s.tickZone true nowMs) a ∧
      (s.tickZone true nowMs).restBonusExpRate.toInt = a.accrued.points := by
  by_cases full : 100 ≤ s.restBonusExpRate.toInt
  · rw [tickZone_full full, h.full full]
    exact ⟨h, rfl⟩
  · have below := not_le.mp full
    have anchored : s.lastRestAccrualUtc ≠ 0 := fun fresh => full (h.unset fresh).1
    obtain ⟨before, due⟩ := h.anchored anchored
    obtain ⟨bonus, anchor⟩ := tickZone_anchored fits below anchored (now ▸ before)
    rw [← now] at bonus anchor
    have set : (s.tickZone true nowMs).lastRestAccrualUtc ≠ 0 := by
      intro zero
      rw [zero] at anchor
      change 0 = _ at anchor
      have positive : s.lastRestAccrualUtc.toNat ≠ 0 :=
        fun none_yet => anchored (UInt32.toNat_inj.mp none_yet)
      omega
    have low : (⟨s.restBonusExpRate.toInt, 0⟩ : Accrued).points < 100 := below
    refine ⟨⟨fun zero => absurd zero set, fun _ => ⟨by omega, ?_⟩⟩, ?_⟩
    · have rest : a.now - (s.tickZone true nowMs).lastRestAccrualUtc.toNat =
          a.now - s.lastRestAccrualUtc.toNat -
            60 * ((a.now - s.lastRestAccrualUtc.toNat) / 60) := by omega
      rw [due, bonus, rest, Accrued.advance_settle (by decide) low]
    · rw [bonus, due, Accrued.points_advance low, Nat.zero_add]

/-- A gain finds nothing due that the cap would cut or that it would have to take as well. -/
def SpendFits (s : RestState) (now : ℕ) (exp : Int32) : Prop :=
  decay exp = 0 ∧ 0 ≤ s.restBonusExpRate.toInt ∨
    100 ≤ s.restBonusExpRate.toInt - decay exp ∨
    s.lastRestAccrualUtc ≠ 0 ∧
      (now - s.lastRestAccrualUtc.toNat : ℤ) ≤ 60 * (100 - s.restBonusExpRate.toInt) ∧
      (decay exp ≤ s.restBonusExpRate.toInt ∨ now < s.lastRestAccrualUtc.toNat + 60)

instance (s : RestState) (now : ℕ) (exp : Int32) : Decidable (SpendFits s now exp) :=
  inferInstanceAs (Decidable (_ ∨ _))

theorem Owes.points (h : Owes s a) :
    s.restBonusExpRate.toInt ≤ a.accrued.points := by
  by_cases fresh : s.lastRestAccrualUtc = 0
  · rw [(h.unset fresh).2]
  · rw [(h.anchored fresh).2]
    exact Accrued.le_points_advance _ _

theorem Owes.gain (h : Owes s a) {exp : Int32} (fits : SpendFits s a.now exp) :
    Owes (s.spend exp) ⟨⟨max (a.accrued.points - decay exp) 0, a.accrued.carried⟩, a.now⟩ := by
  have bonus := toInt_spend exp s
  have nonneg := decay_nonneg exp
  rcases fits with ⟨free, above⟩ | full | ⟨anchored, uncut, covered⟩
  · have more := h.points
    have same : (s.spend exp).restBonusExpRate.toInt = s.restBonusExpRate.toInt := by omega
    have points : max (a.accrued.points - decay exp) 0 = a.accrued.points := by omega
    rw [points]
    exact ⟨fun fresh => by rw [same]; exact h.unset fresh,
      fun anchored => by rw [same]; exact h.anchored anchored⟩
  · have still := h.full (by omega)
    have same : (s.spend exp).restBonusExpRate.toInt =
        max (s.restBonusExpRate.toInt - decay exp) 0 := bonus
    have at_cap : 100 ≤ (s.spend exp).restBonusExpRate.toInt := by omega
    have held : 100 ≤ (⟨(s.spend exp).restBonusExpRate.toInt, 0⟩ : Accrued).points := at_cap
    rw [still]
    refine ⟨fun _ => ⟨at_cap, ?_⟩, fun anchored => ⟨(h.anchored anchored).1, ?_⟩⟩
    · rw [same]
    · rw [Accrued.advance_full held, same]
  · obtain ⟨before, due⟩ := h.anchored anchored
    have elapsed : ((a.now - s.lastRestAccrualUtc.toNat : ℕ) : ℤ) =
        a.now - s.lastRestAccrualUtc.toNat := Int.ofNat_sub before
    refine ⟨fun fresh => absurd fresh anchored, fun _ => ⟨before, ?_⟩⟩
    have room : ((a.now - s.lastRestAccrualUtc.toNat : ℕ) : ℤ) ≤
        (60 : ℕ) * (100 - (s.spend exp).restBonusExpRate.toInt) := by
      rw [elapsed, bonus]
      push_cast
      omega
    have due_points := due
    rw [Accrued.advance_fits (by decide) (by rw [elapsed]; exact uncut)] at due_points
    change _ = Accrued.advance 60 100 (a.now - s.lastRestAccrualUtc.toNat) _
    rw [due_points, Accrued.advance_fits (by decide) room, bonus]
    refine congrArg (fun p => (⟨p, _⟩ : Accrued)) ?_
    dsimp only
    omega

/-! ### Whole stays -/

/-- The pass is within the range of the clock, the gain finds nothing due that it would spoil. -/
def InnEvent.Fits (s : RestState) : InnEvent → Prop
  | .pass nowMs => nowMs.toNat / 1000 < 2 ^ 32
  | .gain nowMs exp => SpendFits s (nowMs.toNat / 1000) exp

instance (s : RestState) : DecidablePred (InnEvent.Fits s)
  | .pass nowMs => inferInstanceAs (Decidable (nowMs.toNat / 1000 < 2 ^ 32))
  | .gain nowMs exp => inferInstanceAs (Decidable (SpendFits s (nowMs.toNat / 1000) exp))

def InnEvent.nowMs : InnEvent → UInt64
  | pass nowMs | gain nowMs _ => nowMs

def EntryFits (entry : UInt64) (s : RestState) : Prop :=
  entry.toNat / 1000 < 2 ^ 32 ∧ (1000 ≤ entry.toNat ∨ 100 ≤ s.restBonusExpRate.toInt)

instance (entry : UInt64) (s : RestState) : Decidable (EntryFits entry s) :=
  inferInstanceAs (Decidable (_ ∧ _))

def EventsFit : RestState → List InnEvent → Prop
  | _, [] => True
  | s, e :: events => e.Fits s ∧ EventsFit (e.apply s) events

instance EventsFit.decidable : ∀ s events, Decidable (EventsFit s events)
  | _, [] => isTrue trivial
  | s, e :: events =>
      have := EventsFit.decidable (e.apply s) events
      inferInstanceAs (Decidable (_ ∧ _))

/-- The times of a stay do not go back, and each of its events fits where it happens. -/
structure StayFits (entry : UInt64) (s : RestState) (events : List InnEvent) : Prop where
  ordered : (entry :: events.map InnEvent.nowMs).Pairwise (· ≤ ·)
  enters : EntryFits entry s
  each : EventsFit (s.tickZone true entry) events

theorem Owes.entry {entry : UInt64} (unset : s.lastRestAccrualUtc = 0) (fits : EntryFits entry s) :
    Owes (s.tickZone true entry) ⟨⟨s.restBonusExpRate.toInt, 0⟩, entry.toNat / 1000⟩ := by
  obtain ⟨inside, settable⟩ := fits
  by_cases full : 100 ≤ s.restBonusExpRate.toInt
  · rw [tickZone_full full]
    exact ⟨fun _ => ⟨full, rfl⟩, fun anchored => absurd unset anchored⟩
  · have clock := toNat_tickUtc inside
    rw [tickZone_fresh (not_le.mp full) unset]
    refine ⟨fun zero => ?_, fun _ => ?_⟩
    · have none_yet : (entry / 1000).toUInt32.toNat = 0 := congrArg UInt32.toNat zero
      omega
    · dsimp only
      rw [clock, Nat.sub_self, Accrued.advance_fits (by decide) (by push_cast; omega)]
      exact ⟨le_rfl, by simp⟩

theorem Owes.step {e : InnEvent} (h : Owes s a) (after : a.now ≤ e.clock) (fits : e.Fits s) :
    Owes (e.apply s) (a.take e) := by
  have waited := h.wait after
  cases e with
  | pass nowMs => exact (waited.pass fits rfl).1
  | gain nowMs exp => exact waited.gain fits

theorem now_take (e : InnEvent) (a : RestAccount) : (a.take e).now = e.clock := by
  cases e with
  | pass nowMs => rfl
  | gain nowMs exp => rfl

theorem clock_le {e e' : InnEvent} (order : e.nowMs ≤ e'.nowMs) : e.clock ≤ e'.clock := by
  have le := UInt64.le_iff_toNat_le.mp order
  cases e with
  | pass _ | gain _ _ =>
      cases e' with
      | pass _ | gain _ _ => exact Nat.div_le_div_right le

variable {events : List InnEvent}

theorem owes_events (h : Owes s a) (after : ∀ e ∈ events, a.now ≤ e.clock)
    (ordered : events.Pairwise fun e e' => e.nowMs ≤ e'.nowMs) (fits : EventsFit s events) :
    Owes (events.foldl (fun s e => e.apply s) s) (events.foldl (fun a e => a.take e) a) := by
  induction events generalizing s a with
  | nil => exact h
  | cons e events ih =>
      obtain ⟨earlier, later⟩ := List.pairwise_cons.mp ordered
      refine ih (h.step (after e (List.mem_cons_self ..)) fits.1) (fun e' member => ?_) later fits.2
      rw [now_take]
      exact clock_le (earlier e' member)

theorem eventsFit_append {front back : List InnEvent} (fits : EventsFit s (front ++ back)) :
    EventsFit s front ∧ EventsFit (front.foldl (fun s e => e.apply s) s) back := by
  induction front generalizing s with
  | nil => exact ⟨trivial, fits⟩
  | cons e front ih =>
      obtain ⟨here, later⟩ := ih fits.2
      exact ⟨⟨fits.1, here⟩, later⟩

theorem now_innAccount {entry : UInt64} {now : ℕ} (enters : entry.toNat / 1000 ≤ now)
    (all : ∀ e ∈ events, e.clock ≤ now) :
    (innAccount entry s events).now ≤ now := by
  rcases List.eq_nil_or_concat events with rfl | ⟨front, e, rfl⟩
  · exact enters
  · rw [innAccount, List.concat_eq_append, List.foldl_append, List.foldl_cons, List.foldl_nil,
      now_take]
    exact all e (by simp)

theorem StayFits.after {entry : UInt64} (h : StayFits entry s events) :
    (∀ e ∈ events, entry.toNat / 1000 ≤ e.clock) ∧
      events.Pairwise fun e e' => e.nowMs ≤ e'.nowMs := by
  obtain ⟨first, rest⟩ := List.pairwise_cons.mp h.ordered
  refine ⟨fun e member => ?_, List.pairwise_map.mp rest⟩
  have begins : (InnEvent.pass entry).nowMs ≤ e.nowMs := first e.nowMs (List.mem_map_of_mem member)
  exact clock_le begins

theorem stay_eq_account {entry last : UInt64} (unset : s.lastRestAccrualUtc = 0)
    (fits : StayFits entry s (events ++ [.pass last])) :
    (stay entry s (events ++ [.pass last])).restBonusExpRate.toInt =
      (innAccount entry s (events ++ [.pass last])).accrued.points := by
  obtain ⟨after, ordered⟩ := fits.after
  obtain ⟨fits_front, fits_last⟩ := eventsFit_append fits.each
  obtain ⟨front_ordered, _, front_last⟩ := List.pairwise_append.mp ordered
  have owed := owes_events (Owes.entry unset fits.enters)
    (fun e member => after e (List.mem_append_left _ member)) front_ordered fits_front
  have passes : (innAccount entry s events).now ≤ (InnEvent.pass last).clock := by
    refine now_innAccount (after _ (by simp)) fun e member => ?_
    exact clock_le (front_last e member _ (List.mem_singleton.mpr rfl))
  rw [stay, innAccount, List.foldl_append, List.foldl_append]
  exact ((owed.wait passes).pass fits_last.1 rfl).2

theorem innAccount_split {entry middle : UInt64} {front back : List InnEvent} {e : InnEvent}
    (before : ∀ d ∈ front, d.nowMs ≤ middle) (enters : entry ≤ middle) (after : middle ≤ e.nowMs) :
    innAccount entry s (front ++ .pass middle :: e :: back) =
      innAccount entry s (front ++ e :: back) := by
  have reached : (innAccount entry s front).now ≤ middle.toNat / 1000 := by
    refine now_innAccount (Nat.div_le_div_right (UInt64.le_iff_toNat_le.mp enters)) ?_
    intro d member
    have order : d.nowMs ≤ (InnEvent.pass middle).nowMs := before d member
    exact clock_le order
  have onward : (InnEvent.pass middle).nowMs ≤ e.nowMs := after
  rw [innAccount, innAccount, List.foldl_append, List.foldl_append, List.foldl_cons,
    List.foldl_cons, List.foldl_cons]
  exact congrArg (fun a => back.foldl (fun a e => a.take e) a)
    (RestAccount.take_wait (innAccount entry s front) reached (clock_le onward))

/-- Whatever was before a pass that found the player outside, a stay of which each event fits ends
with a point for each full minute below the cap, and one more pass makes no difference. -/
theorem stay_bonus (before entry last : UInt64) (s : RestState) (events : List InnEvent)
    (fits : StayFits entry (s.tickZone false before) (events ++ [.pass last])) :
    (stay entry (s.tickZone false before) (events ++ [.pass last])).restBonusExpRate.toInt =
        (innAccount entry s (events ++ [.pass last])).accrued.points ∧
      ∀ front back middle, events = front ++ back →
        StayFits entry (s.tickZone false before) (front ++ .pass middle :: (back ++ [.pass last])) →
        (stay entry (s.tickZone false before)
            (front ++ .pass middle :: (back ++ [.pass last]))).restBonusExpRate =
          (stay entry (s.tickZone false before) (events ++ [.pass last])).restBonusExpRate := by
  have outside : (s.tickZone false before).lastRestAccrualUtc = 0 := rfl
  have kept : innAccount entry (s.tickZone false before) = innAccount entry s := rfl
  have whole := stay_eq_account outside fits
  rw [kept] at whole
  refine ⟨whole, fun front back middle split fits' => Int32.toInt_inj.mp ?_⟩
  subst split
  have same : innAccount entry s (front ++ .pass middle :: (back ++ [.pass last])) =
      innAccount entry s (front ++ back ++ [.pass last]) := by
    obtain ⟨first, times⟩ := List.pairwise_cons.mp fits'.ordered
    obtain ⟨_, onward, across⟩ := List.pairwise_append.mp (List.pairwise_map.mp times)
    obtain ⟨later, _⟩ := List.pairwise_cons.mp onward
    obtain ⟨e, rest, tail⟩ := List.exists_cons_of_ne_nil
      (List.append_ne_nil_of_right_ne_nil back (List.cons_ne_nil (InnEvent.pass last) []))
    rw [List.append_assoc, tail]
    refine innAccount_split (fun d member => ?_) ?_ ?_
    · exact across d member _ (List.mem_cons_self ..)
    · exact first middle (by simp [InnEvent.nowMs])
    · exact later e (tail ▸ List.mem_cons_self ..)
  have shape : front ++ .pass middle :: (back ++ [.pass last]) =
      (front ++ InnEvent.pass middle :: back) ++ [.pass last] := by
    rw [List.append_assoc, List.cons_append]
  rw [shape] at fits' same ⊢
  rw [stay_eq_account outside fits', kept, whole, same]

theorem stay_bonus_filled :
    (stay 1000000 (RestState.tickZone false 900000 ⟨97, 500⟩)
      ([.pass 1090000, .gain 1100000 60, .pass 1130000] ++
        [.pass 1400000])).restBonusExpRate.toInt =
    (innAccount 1000000 ⟨97, 500⟩
      ([.pass 1090000, .gain 1100000 60, .pass 1130000] ++
        [.pass 1400000])).accrued.points :=
  (stay_bonus 900000 1000000 1400000 ⟨97, 500⟩
    [.pass 1090000, .gain 1100000 60, .pass 1130000]
    ⟨by decide, by decide, by decide⟩).1

/-- An hour at the cap turns into points once a gain has taken some. -/
theorem hour_at_cap_accrues :
    (stay 1000000 ⟨99, 0⟩
      [.pass 1060000, .gain 4660000 100, .pass 4661000]).restBonusExpRate = 100 ∧
    (innAccount 1000000 ⟨99, 0⟩
      [.pass 1060000, .gain 4660000 100, .pass 4661000]).accrued.points = 98 := by
  decide

end Garlemald.Quest
