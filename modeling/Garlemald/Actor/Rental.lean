import Garlemald.Battle.HitPoints
import Garlemald.Library.Runs
import Garlemald.Status.Deadlines

/-!
Rented chocobos. The end of a rental is set by the wall clock, and the passes of the ticker compare
it with the time that the server has been running.
-/

namespace Garlemald.Actor
open Library Battle Status

/-- An expire time of 0 is no rental. -/
structure Rental where
  rentalExpireTime : UInt32
  rentalMinLeft : UInt8
  mountState : UInt8
  currentMainState : UInt16
  newMainState : UInt16
deriving DecidableEq

namespace Rental

def applyStartChocoboRental (wall : UInt64) (minutes : UInt8) (c : Rental) : Rental :=
  { c with
    rentalExpireTime := unixTimestamp wall + minutes.toUInt32 * 60
    rentalMinLeft := minutes }

def expire : Rental where
  rentalExpireTime := 0
  rentalMinLeft := 0
  mountState := 0
  currentMainState := MAIN_STATE_PASSIVE
  newMainState := MAIN_STATE_PASSIVE

def tickUtc (nowMs : UInt64) : UInt32 := (nowMs / 1000).toUInt32

def tickZone (nowMs : UInt64) (c : Rental) : Rental :=
  if c.rentalExpireTime ≠ 0 then
    if c.rentalExpireTime ≤ tickUtc nowMs then expire
    else { c with rentalMinLeft := ((c.rentalExpireTime - tickUtc nowMs) / 60).toUInt8 }
  else c

end Rental

/-- With the clock of the wall in milliseconds. -/
inductive RentalEvent where
  | startChocoboRental (wall : UInt64) (minutes : UInt8)
  | pass (wall : UInt64)

/-- A player, the wall clock at the last event and the deadline, in seconds of that clock, of the
rental that no pass has found at its end. -/
structure Rider where
  chara : Rental
  wall : UInt64
  deadline : Option ℕ

namespace Rider

variable (start : UInt64) (r : Rider)

def started (wall : UInt64) (minutes : UInt8) : Rider where
  chara := r.chara.applyStartChocoboRental wall minutes
  wall := wall
  deadline := some (wall.toNat / 1000 + 60 * minutes.toNat)

def passed (wall : UInt64) : Rider where
  chara := r.chara.tickZone (serverNowMs start wall)
  wall := wall
  deadline := r.deadline.filter (wall.toNat / 1000 < ·)

/-- The clock does not go back. -/
def step : RentalEvent → Option Rider
  | .startChocoboRental wall minutes =>
      if r.wall ≤ wall then some (r.started wall minutes) else none
  | .pass wall => if r.wall ≤ wall then some (r.passed start wall) else none

/-- There is a rental exactly until the first pass from its deadline on, and it shows the minutes
that are left. -/
def Sound : Prop :=
  match r.deadline with
  | none => r.chara.rentalExpireTime = 0
  | some d => r.chara.rentalExpireTime ≠ 0 ∧
      r.chara.rentalMinLeft.toNat = (d - r.wall.toNat / 1000) / 60

/-- A pass adds no minutes, and the one that ends a rental sets the player down. -/
def Declines : RentalEvent → Prop
  | .startChocoboRental _ _ => True
  | .pass wall => ∀ d ∈ r.deadline,
      (r.passed start wall).chara.rentalMinLeft ≤ r.chara.rentalMinLeft ∧
        (d ≤ wall.toNat / 1000 → (r.passed start wall).chara = .expire)

/-- A deadline is not read as none. A pass that finds a rental comes when the clock of the ticker is
on the same side of the deadline as the wall clock, each in 32 bits, and is before it by as many
minutes, up to multiples of 256. -/
def Punctual : RentalEvent → Prop
  | .startChocoboRental wall minutes => (wall.toNat / 1000 + 60 * minutes.toNat) % 2 ^ 32 ≠ 0
  | .pass wall => ∀ d ∈ r.deadline,
      (d ≤ wall.toNat / 1000 ↔
        d % 2 ^ 32 ≤ (Rental.tickUtc (serverNowMs start wall)).toNat) ∧
      (wall.toNat / 1000 < d →
        (d % 2 ^ 32 - (Rental.tickUtc (serverNowMs start wall)).toNat) / 60 % 256 =
          (d - wall.toNat / 1000) / 60)

def Stamped : Prop :=
  ∀ d ∈ r.deadline, r.chara.rentalExpireTime.toNat = d % 2 ^ 32

variable {start r} {r' : Rider}

theorem toNat_started (wall : UInt64) (minutes : UInt8) :
    (r.started wall minutes).chara.rentalExpireTime.toNat =
      (wall.toNat / 1000 + 60 * minutes.toNat) % 2 ^ 32 := by
  have stamp := toNat_unixTimestamp wall
  simp only [started, Rental.applyStartChocoboRental, UInt32.toNat_add, UInt32.toNat_mul, stamp,
    UInt8.toNat_toUInt32]
  have sixty : (60 : UInt32).toNat = 60 := rfl
  rw [sixty]
  omega

variable (start) in
theorem passed_chara {d : ℕ} (there : r.chara.rentalExpireTime ≠ 0)
    (stamped : r.chara.rentalExpireTime.toNat = d % 2 ^ 32) (wall : UInt64) :
    (d % 2 ^ 32 ≤ (Rental.tickUtc (serverNowMs start wall)).toNat →
      (r.passed start wall).chara = .expire) ∧
    ((Rental.tickUtc (serverNowMs start wall)).toNat < d % 2 ^ 32 →
      (r.passed start wall).chara.rentalExpireTime = r.chara.rentalExpireTime ∧
        (r.passed start wall).chara.rentalMinLeft.toNat =
          (d % 2 ^ 32 - (Rental.tickUtc (serverNowMs start wall)).toNat) / 60 % 256) := by
  have sixty : (60 : UInt32).toNat = 60 := rfl
  simp only [passed, Rental.tickZone, there, if_pos, ne_eq, not_false_eq_true,
    UInt32.le_iff_toNat_le, stamped]
  constructor
  · intro due
    rw [if_pos due]
  · intro early
    rw [if_neg (by omega)]
    refine ⟨rfl, ?_⟩
    have within : Rental.tickUtc (serverNowMs start wall) ≤ r.chara.rentalExpireTime := by
      rw [UInt32.le_iff_toNat_le]
      omega
    rw [UInt32.toNat_toUInt8, UInt32.toNat_div, UInt32.toNat_sub_of_le _ _ within, stamped, sixty]

theorem passed_deadline {d : ℕ} (set : r.deadline = some d) (wall : UInt64) :
    (r.passed start wall).deadline = if wall.toNat / 1000 < d then some d else none := by
  simp [passed, set, Option.filter]

theorem exact_pass {d : ℕ} (set : r.deadline = some d) (stamped : r.Stamped) (sound : r.Sound)
    {wall : UInt64} (onward : r.wall ≤ wall) :
    (r.passed start wall).Sound ∧ r.Declines start (.pass wall) ↔
      r.Punctual start (.pass wall) := by
  have same := stamped d set
  rw [Sound, set] at sound
  obtain ⟨there, minutes⟩ := sound
  obtain ⟨ends, goes_on⟩ := passed_chara start there same wall
  rw [UInt64.le_iff_toNat_le] at onward
  have at_wall : (r.passed start wall).wall = wall := rfl
  simp only [Sound, Declines, Punctual, passed_deadline set, at_wall, set, Option.mem_some_iff,
    forall_eq']
  by_cases due : d ≤ wall.toNat / 1000
  · rw [if_neg (by omega)]
    by_cases late : d % 2 ^ 32 ≤ (Rental.tickUtc (serverNowMs start wall)).toNat
    · simp only [ends late, due, late]
      simp [Rental.expire]
      omega
    · simp only [goes_on (by omega), there, due, late]
      simp
  · rw [if_pos (by omega)]
    by_cases late : d % 2 ^ 32 ≤ (Rental.tickUtc (serverNowMs start wall)).toNat
    · simp only [ends late, due, late]
      simp [Rental.expire]
    · obtain ⟨kept, left⟩ := goes_on (by omega)
      simp only [kept, left, due, late, UInt8.le_iff_toNat_le, minutes]
      constructor
      · rintro ⟨⟨_, shown⟩, _⟩
        exact ⟨trivial, fun _ => shown⟩
      · rintro ⟨_, shown⟩
        refine ⟨⟨there, shown (by omega)⟩, ?_, False.elim⟩
        rw [shown (by omega)]
        omega

theorem exact_step (s : Rider) (e : RentalEvent) (s' : Rider) (stamped : s.Stamped)
    (sound : s.Sound) (taken : s.step start e = some s') :
    s'.Sound ∧ s.Declines start e ↔ s.Punctual start e := by
  cases e with
  | startChocoboRental wall minutes =>
      obtain ⟨_, same⟩ := Option.ite_none_right_eq_some.mp taken
      cases same
      have stamp := toNat_started (r := s) wall minutes
      simp only [Sound, Declines, Punctual, and_true, ← stamp, ne_eq, ← UInt32.toNat_inj]
      refine and_iff_left ?_
      simp [started, Rental.applyStartChocoboRental]
  | pass wall =>
      obtain ⟨onward, same⟩ := Option.ite_none_right_eq_some.mp taken
      cases same
      cases set : s.deadline with
      | some d => exact exact_pass set stamped sound onward
      | none =>
          rw [Sound, set] at sound
          simp [Sound, Declines, Punctual, passed, set, Rental.tickZone, sound]

theorem stamped_step (s : Rider) (e : RentalEvent) (s' : Rider) (stamped : s.Stamped)
    (sound : s.Sound) (punctual : s.Punctual start e) (taken : s.step start e = some s') :
    s'.Stamped := by
  cases e with
  | startChocoboRental wall minutes =>
      obtain ⟨_, same⟩ := Option.ite_none_right_eq_some.mp taken
      cases same
      intro d set
      cases set
      exact toNat_started wall minutes
  | pass wall =>
      obtain ⟨_, same⟩ := Option.ite_none_right_eq_some.mp taken
      cases same
      intro d kept
      obtain ⟨set, early⟩ := Option.filter_eq_some_iff.mp kept
      have before : wall.toNat / 1000 < d := of_decide_eq_true early
      have same := stamped d set
      rw [Sound, set] at sound
      have side := (punctual d set).1
      rw [((passed_chara start sound.1 same wall).2 (by omega)).1, same]

def atStart (start : UInt64) (chara : Rental) : Rider where
  chara := { chara with rentalExpireTime := 0 }
  wall := start
  deadline := none

/-- Rentals last exactly their time in exactly the runs in which each pass that finds one comes at a
time of which both clocks tell the same. None at a deadline does, on a server that was started a
second after 1970 or later. -/
theorem rentals_last_iff (start : UInt64) (chara : Rental) (events : List RentalEvent) :
    (Always (step start) Sound (atStart start chara) events ∧
        EachStep (step start) (Declines start) (atStart start chara) events ↔
      EachStep (step start) (Punctual start) (atStart start chara) events) ∧
    (1000 ≤ start → ∀ (r : Rider) (wall : UInt64), start ≤ wall →
      r.deadline = some (wall.toNat / 1000) → wall.toNat / 1000 < 2 ^ 32 →
      ¬r.Punctual start (.pass wall)) := by
  constructor
  · apply always_and_eachStep_iff (I := Stamped) exact_step stamped_step
    · intro d none_set
      cases none_set
    · exact rfl
  · intro late r wall running set fits punctual
    have side := (punctual _ set).1.mp (le_refl _)
    have behind : (Rental.tickUtc (serverNowMs start wall)).toNat ≤
        (wall.toNat - start.toNat) / 1000 := by
      have up := Watch.toNat_serverNowMs running
      have thousand : (1000 : UInt64).toNat = 1000 := rfl
      rw [Rental.tickUtc, UInt64.toNat_toUInt32, UInt64.toNat_div, up, thousand]
      exact Nat.mod_le _ _
    rw [Nat.mod_eq_of_lt fits] at side
    rw [UInt64.le_iff_toNat_le] at late running
    have second : (1000 : UInt64).toNat = 1000 := rfl
    omega

theorem rental_outlives_its_time :
    (run (step 1700000000000) (atStart 1700000000000 ⟨0, 0, 0, 0, 0⟩)
        [.startChocoboRental 1700000100000 10, .pass 1700003700000]).map
      (fun r => (r.chara.rentalExpireTime, r.chara.rentalMinLeft, r.deadline)) =
        some (1700000700, 227, none) ∧
    ¬(Always (step 1700000000000) Sound (atStart 1700000000000 ⟨0, 0, 0, 0, 0⟩)
        [.startChocoboRental 1700000100000 10, .pass 1700003700000]) := by
  refine ⟨by decide, fun always => ?_⟩
  have last := always_iff_reached.mp always _ List.prefix_rfl _ rfl
  have running : (1700000700 : UInt32) ≠ 0 := by decide
  exact running last

end Rider

end Garlemald.Actor
