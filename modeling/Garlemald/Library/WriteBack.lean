import Garlemald.Library.Runs
import Mathlib.Logic.Function.Basic

/-!
Two steps on one record. A step changes the record under its lock, or it takes a copy, goes on to
other things and then puts the whole copy back with what it changed in it.
-/

namespace Library

variable {ρ κ : Type*} {ν : κ → Type*}

/-- What a step does to a record; one that has nothing to write gives `none`. -/
structure SharedStep (ρ : Type*) where
  locked : Bool
  change : ρ → Option ρ

inductive Side where
  | first
  | second
deriving DecidableEq

def Side.other : Side → Side
  | .first => .second
  | .second => .first

/-- A step that is over has read a record and written another, or has written nothing. -/
inductive Phase (ρ : Type*) where
  | waiting
  | holding (copy : ρ)
  | closed (change : Option (ρ × ρ))

def Phase.isClosed : Phase ρ → Bool
  | .closed _ => true
  | _ => false

/-- A step has changed a field. -/
def Phase.Changed (get : ρ → ∀ k, ν k) (phase : Phase ρ) (k : κ) : Prop :=
  ∃ read written, phase = .closed (some (read, written)) ∧ get read k ≠ get written k

structure Shared (ρ : Type*) where
  stored : ρ
  phase : Side → Phase ρ

namespace Shared

def start (stored : ρ) : Shared ρ := ⟨stored, fun _ => .waiting⟩

def settle (s : Shared ρ) (side : Side) (read : ρ) (written : Option ρ) : Shared ρ where
  stored := written.getD s.stored
  phase := Function.update s.phase side (.closed (written.map (read, ·)))

def turn (edits : Side → SharedStep ρ) (s : Shared ρ) (side : Side) : Shared ρ :=
  match s.phase side with
  | .waiting =>
      if (edits side).locked then s.settle side s.stored ((edits side).change s.stored)
      else { s with phase := Function.update s.phase side (.holding s.stored) }
  | .holding copy => s.settle side copy ((edits side).change copy)
  | .closed _ => s

def reads (edits : Side → SharedStep ρ) (s : Shared ρ) (side : Side) : Option ρ :=
  match s.phase side with
  | .waiting => if (edits side).locked then some s.stored else none
  | .holding copy => some copy
  | .closed _ => none

variable (get : ρ → ∀ k, ν k)

def Changed (s : Shared ρ) (side : Side) (k : κ) : Prop := (s.phase side).Changed get k

/-- What the steps have written to the fields they changed is what is stored. -/
def Kept (s : Shared ρ) : Prop :=
  ∀ side read written, s.phase side = .closed (some (read, written)) →
    ∀ k, get read k ≠ get written k → get s.stored k = get written k

def Disjoint (s : Shared ρ) : Prop := ∀ k, ¬ (s.Changed get .first k ∧ s.Changed get .second k)

/-- No step changes the record while the other holds a copy that it will put back. -/
def Apart (edits : Side → SharedStep ρ) (s : Shared ρ) (side : Side) : Prop :=
  ∀ read, s.reads edits side = some read →
    ∀ written, (edits side).change read = some written → (∃ k, get read k ≠ get written k) →
      ∀ copy, s.phase side.other = .holding copy → (edits side.other).change copy = none

variable {get : ρ → ∀ k, ν k} {edits : Side → SharedStep ρ} {s : Shared ρ} {side : Side}

theorem eq_or_other (side a : Side) : a = side ∨ a = side.other := by
  cases side <;> cases a <;> simp [Side.other]

theorem other_ne (side : Side) : side.other ≠ side := by
  cases side <;> exact Side.noConfusion

theorem other_other (side : Side) : side.other.other = side := by
  cases side <;> rfl

theorem settle_self (s : Shared ρ) (side : Side) (read : ρ) (written : Option ρ) :
    (s.settle side read written).phase side = .closed (written.map (read, ·)) :=
  Function.update_self _ _ _

theorem settle_other (s : Shared ρ) (side : Side) (read : ρ) (written : Option ρ) :
    (s.settle side read written).phase side.other = s.phase side.other :=
  Function.update_of_ne (other_ne side) _ _

theorem turn_cases (edits : Side → SharedStep ρ) (s : Shared ρ) (side : Side) :
    (∃ read, s.reads edits side = some read ∧
      s.turn edits side = s.settle side read ((edits side).change read)) ∨
    (s.phase side = .waiting ∧ s.reads edits side = none ∧
      s.turn edits side = { s with phase := Function.update s.phase side (.holding s.stored) }) ∨
    (∃ change, s.phase side = .closed change ∧ s.turn edits side = s) := by
  unfold turn reads
  cases s.phase side with
  | waiting =>
      simp only
      split
      · exact .inl ⟨s.stored, rfl, rfl⟩
      · exact .inr (.inl ⟨trivial, rfl, rfl⟩)
  | holding copy => exact .inl ⟨copy, rfl, rfl⟩
  | closed change => exact .inr (.inr ⟨change, rfl, rfl⟩)

theorem Disjoint.at (apart : s.Disjoint get) (side : Side) {k : κ} (mine : s.Changed get side k)
    (others : s.Changed get side.other k) : False := by
  cases side with
  | first => exact apart k ⟨mine, others⟩
  | second => exact apart k ⟨others, mine⟩

theorem Changed.turn {a : Side} {k : κ} (changed : s.Changed get a k) :
    (s.turn edits side).Changed get a k := by
  obtain ⟨read, written, closed, differs⟩ := changed
  refine ⟨read, written, ?_, differs⟩
  by_cases same : a = side
  · subst same
    rw [Shared.turn, closed]
    exact closed
  · rcases turn_cases edits s side with ⟨_, _, taken⟩ | ⟨_, _, taken⟩ | ⟨_, _, taken⟩
    · rw [taken]
      exact (Function.update_of_ne same _ _).trans closed
    · rw [taken]
      exact (Function.update_of_ne same _ _).trans closed
    · rw [taken]
      exact closed

theorem Disjoint.of_turn (apart : (s.turn edits side).Disjoint get) : s.Disjoint get :=
  fun k both => apart k ⟨both.1.turn, both.2.turn⟩

/-- A copy that will be put back agrees with what is stored. -/
structure Steady (get : ρ → ∀ k, ν k) (edits : Side → SharedStep ρ) (s : Shared ρ) : Prop where
  current : ∀ a copy, s.phase a = .holding copy → (edits a).change copy ≠ none →
    ∀ k, get copy k = get s.stored k
  kept : s.Disjoint get → s.Kept get

theorem Steady.read (held : s.Steady get edits) {read written : ρ}
    (reading : s.reads edits side = some read) (writes : (edits side).change read = some written)
    (k : κ) : get read k = get s.stored k := by
  unfold reads at reading
  split at reading
  · split at reading
    · cases reading
      rfl
    · cases reading
  · rename_i holding
    cases reading
    exact held.current side read holding (by rw [writes]; exact Option.some_ne_none written) k
  · cases reading

theorem Steady.turn (held : s.Steady get edits) (apart : s.Apart get edits side) :
    (s.turn edits side).Steady get edits := by
  have kept : (s.turn edits side).Disjoint get → s.Kept get :=
    fun disjoint => held.kept disjoint.of_turn
  rcases turn_cases edits s side with ⟨read, reading, taken⟩ | ⟨waits, _, taken⟩ | ⟨_, _, taken⟩
  · cases writes : (edits side).change read with
    | none =>
        rw [writes] at taken
        rw [taken] at kept ⊢
        refine ⟨fun a copy holding => ?_, fun disjoint a r w closed => ?_⟩
        · rcases eq_or_other side a with rfl | rfl
          · rw [settle_self] at holding
            cases holding
          · rw [settle_other] at holding
            exact held.current _ copy holding
        · rcases eq_or_other side a with rfl | rfl
          · rw [settle_self] at closed
            cases closed
          · rw [settle_other] at closed
            exact kept disjoint _ r w closed
    | some written =>
        have base := held.read reading writes
        rw [writes] at taken
        rw [taken] at kept ⊢
        refine ⟨fun a copy holding puts k => ?_, fun disjoint a r w closed k differs => ?_⟩
        · rcases eq_or_other side a with rfl | rfl
          · rw [settle_self] at holding
            cases holding
          · -- the other step holds a copy, so this one writes no change
            rw [settle_other] at holding
            have unchanged : get read k = get written k := by
              by_contra differs
              exact puts (apart read reading written writes ⟨k, differs⟩ copy holding)
            calc get copy k = get s.stored k := held.current _ copy holding puts k
              _ = get read k := (base k).symm
              _ = get written k := unchanged
        · rcases eq_or_other side a with rfl | rfl
          · rw [settle_self] at closed
            cases closed
            rfl
          · have changed : (s.settle side read (some written)).Changed get side.other k :=
              ⟨r, w, closed, differs⟩
            have unchanged : get read k = get written k := by
              by_contra here
              exact disjoint.at side ⟨read, written, settle_self _ _ _ _, here⟩ changed
            rw [settle_other] at closed
            calc get written k = get read k := unchanged.symm
              _ = get s.stored k := base k
              _ = get w k := kept disjoint _ r w closed k differs
  · rw [taken] at kept ⊢
    refine ⟨fun a copy holding puts => ?_, fun disjoint a r w closed => ?_⟩
    · rcases eq_or_other side a with rfl | rfl
      · replace holding := (Function.update_self _ _ _).symm.trans holding
        cases holding
        exact fun _ => rfl
      · replace holding := (Function.update_of_ne (other_ne side) _ _).symm.trans holding
        exact held.current _ copy holding puts
    · rcases eq_or_other side a with rfl | rfl
      · replace closed := (Function.update_self _ _ _).symm.trans closed
        cases closed
      · exact kept disjoint _ r w ((Function.update_of_ne (other_ne side) _ _).symm.trans closed)
  · rw [taken]
    exact held

/-- A step has changed a field and the other is about to put the old value back, or has. -/
def Lost (get : ρ → ∀ k, ν k) (edits : Side → SharedStep ρ) (s : Shared ρ) : Prop :=
  ∃ side read written k, s.phase side = .closed (some (read, written)) ∧
    get read k ≠ get written k ∧ ∃ copy put, (edits side.other).change copy = some put ∧
      get copy k = get read k ∧ (s.phase side.other = .holding copy ∨
        s.phase side.other = .closed (some (copy, put)) ∧ s.stored = put)

theorem Lost.turn (lost : s.Lost get edits) : (s.turn edits side).Lost get edits := by
  obtain ⟨a, read, written, k, closed, differs, copy, put, puts, old, rest⟩ := lost
  have mine : ∀ {t}, s.turn edits a = t → t = s := by
    rintro t rfl
    rw [Shared.turn, closed]
  rcases eq_or_other a side with rfl | rfl
  · rw [mine rfl]
    exact ⟨side, read, written, k, closed, differs, copy, put, puts, old, rest⟩
  · rcases rest with holding | ⟨done, stored⟩
    · have taken : s.turn edits a.other = s.settle a.other copy (some put) := by
        rw [Shared.turn, holding]
        simp only
        rw [puts]
      rw [taken]
      refine ⟨a, read, written, k, ?_, differs, copy, put, puts, old, .inr ⟨settle_self _ _ _ _,
        rfl⟩⟩
      have still := settle_other s a.other copy (some put)
      rw [other_other] at still
      exact still.trans closed
    · have taken : s.turn edits a.other = s := by
        rw [Shared.turn, done]
      rw [taken]
      exact ⟨a, read, written, k, closed, differs, copy, put, puts, old, .inr ⟨done, stored⟩⟩

/-- Until a step is over nothing has been written. -/
def Fresh (s : Shared ρ) : Prop :=
  (∀ a change, s.phase a ≠ .closed change) → ∀ a copy, s.phase a = .holding copy → copy = s.stored

theorem Fresh.turn (fresh : s.Fresh) : (s.turn edits side).Fresh := by
  intro idle a copy holding
  rcases turn_cases edits s side with ⟨read, _, taken⟩ | ⟨waits, _, taken⟩ | ⟨_, _, taken⟩
  · rw [taken] at idle
    exact absurd (settle_self s side read _) (idle side _)
  · rw [taken] at idle holding ⊢
    rcases eq_or_other side a with rfl | rfl
    · replace holding := (Function.update_self _ _ _).symm.trans holding
      cases holding
      rfl
    · replace holding := (Function.update_of_ne (other_ne side) _ _).symm.trans holding
      refine fresh (fun b change closed => ?_) _ copy holding
      rcases eq_or_other side b with rfl | rfl
      · rw [waits] at closed
        cases closed
      · rw [holding] at closed
        cases closed
  · rw [taken] at idle holding ⊢
    exact fresh idle a copy holding

theorem Fresh.read (fresh : s.Fresh) (idle : ∀ a change, s.phase a ≠ .closed change) {read : ρ}
    (reading : s.reads edits side = some read) : read = s.stored := by
  unfold reads at reading
  split at reading
  · split at reading
    · exact (Option.some.inj reading).symm
    · cases reading
  · rename_i holding
    cases reading
    exact fresh idle side read holding
  · cases reading

theorem Fresh.lost (fresh : s.Fresh) (between : ¬ s.Apart get edits side) :
    (s.turn edits side).Lost get edits := by
  unfold Apart at between
  push Not at between
  obtain ⟨read, reading, written, writes, ⟨k, differs⟩, copy, holding, puts⟩ := between
  have idle : ∀ a change, s.phase a ≠ .closed change := by
    intro a change closed
    rcases eq_or_other side a with rfl | rfl
    · rw [reads, closed] at reading
      cases reading
    · rw [holding] at closed
      cases closed
  have base := fresh.read idle reading
  have copied := fresh idle side.other copy holding
  obtain ⟨put, puts⟩ := Option.ne_none_iff_exists'.mp puts
  rcases turn_cases edits s side with ⟨r, reading', taken⟩ | ⟨_, blind, _⟩ | ⟨change, closed, _⟩
  · have same : r = read := Option.some.inj (reading'.symm.trans reading)
    subst same
    rw [taken, writes]
    refine ⟨side, r, written, k, settle_self _ _ _ _, differs, copy, put, puts, ?_, .inl ?_⟩
    · rw [copied, base]
    · exact (settle_other _ _ _ _).trans holding
  · rw [blind] at reading
    cases reading
  · exact absurd closed (idle side change)

theorem lost_run {sides : List Side} {s' : Shared ρ} (lost : s.Lost get edits)
    (ended : run (fun s side => some (turn edits s side)) s sides = some s') :
    s'.Lost get edits := by
  induction sides generalizing s with
  | nil =>
      cases ended
      exact lost
  | cons side sides ih => exact ih lost.turn ended

theorem lost_of_not_apart {sides : List Side} {s' : Shared ρ} (fresh : s.Fresh)
    (ended : run (fun s side => some (turn edits s side)) s sides = some s')
    (between : ¬ EachStep (fun s side => some (turn edits s side)) (Apart get edits) s sides) :
    s'.Lost get edits := by
  induction sides generalizing s with
  | nil => exact absurd trivial between
  | cons side sides ih =>
      by_cases apart : s.Apart get edits side
      · refine ih fresh.turn ended fun later => between ?_
        intro t taken
        cases taken
        exact ⟨apart, later⟩
      · exact lost_run (fresh.lost apart) ended

theorem Lost.not_kept (lost : s.Lost get edits) (closed : ∀ a, (s.phase a).isClosed = true)
    (disjoint : s.Disjoint get) : ¬ s.Kept get := by
  intro kept
  obtain ⟨side, read, written, k, done, differs, copy, put, _, old, rest⟩ := lost
  rcases rest with holding | ⟨last, stored⟩
  · have ends := closed side.other
    rw [holding] at ends
    cases ends
  · have unchanged : get copy k = get put k := by
      by_contra here
      exact disjoint.at side ⟨read, written, done, differs⟩ ⟨copy, put, last, here⟩
    apply differs
    calc get read k = get copy k := old.symm
      _ = get put k := unchanged
      _ = get s.stored k := by rw [stored]
      _ = get written k := kept side read written done k differs

/-- Of two steps that change different fields nothing is lost exactly if neither writes a change
while the other holds a copy that it will put back. -/
theorem kept_iff (get : ρ → ∀ k, ν k) (edits : Side → SharedStep ρ) {stored : ρ} {sides : List Side}
    {s : Shared ρ}
    (ended : run (fun s side => some (turn edits s side)) (start stored) sides = some s)
    (closed : ∀ a, (s.phase a).isClosed = true) (disjoint : s.Disjoint get) :
    s.Kept get ↔
      EachStep (fun s side => some (turn edits s side)) (Apart get edits) (start stored) sides := by
  constructor
  · intro kept
    by_contra between
    have fresh : (start stored).Fresh := fun _ a copy holding => by cases holding
    exact (lost_of_not_apart fresh ended between).not_kept closed disjoint kept
  · intro apart
    have begins : (start stored).Steady get edits :=
      ⟨fun a copy holding => (by cases holding), fun _ a read written done => (by cases done)⟩
    have steady := always_of_eachStep (I := Steady get edits)
      (fun _ _ _ held meets taken => Option.some.inj taken ▸ held.turn meets) begins apart
    exact (always_iff_reached.mp steady sides List.prefix_rfl s ended).kept disjoint

end Shared

end Library
