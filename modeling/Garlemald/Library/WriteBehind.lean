import Garlemald.Library.Runs

/-!
A memory of cells with a store behind it. A call changes the memory and takes along the writes
of what it has made of it; the calls put their writes through one after the other, each at its
own pace.
-/

namespace Library

/-- What the calls do to the memory and the writes to the store. A call writes every cell that
it changes. -/
structure WriteBehind (M D C W : Type*) {κ : Type*} (ν : κ → Type*) where
  call : M → C → M × List W
  write : D → W → D
  held : M → ∀ k, ν k
  stored : D → ∀ k, ν k
  value : W → ∀ k, Option (ν k)
  stored_write : ∀ d w k, stored (write d w) k = (value w k).getD (stored d k)
  held_call : ∀ m c k, held (call m c).1 k = held m k ∨ ∃ w ∈ (call m c).2, (value w k).isSome

/-- A call comes in, or one that is under way makes its next write, which may fail. -/
inductive Turn (C : Type*) where
  | call (c : C)
  | land (i : ℕ) (through : Bool)

def Turn.Through {C : Type*} : Turn C → Prop
  | call _ => True
  | land _ through => through = true

structure Behind (M D W : Type*) where
  memory : M
  store : D
  pending : List (List W)

namespace WriteBehind

variable {M D C W κ : Type*} {ν : κ → Type*} (b : WriteBehind M D C W ν)

/-- A write that is not there is not made. -/
def step (s : Behind M D W) : Turn C → Option (Behind M D W)
  | .call c =>
      some { s with
        memory := (b.call s.memory c).1
        pending := s.pending ++ [(b.call s.memory c).2] }
  | .land i through =>
      match s.pending[i]? with
      | some (w :: later) =>
          some { s with
            store := if through then b.write s.store w else s.store
            pending := s.pending.set i later }
      | _ => none

def Finished (s : Behind M D W) : Prop := ∀ writes ∈ s.pending, writes = []

def lands (s : Behind M D W) : Turn C → Option W
  | .call _ => none
  | .land i _ => (s.pending[i]?).bind List.head?

def Touches (k : κ) (s : Behind M D W) (t : Turn C) : Prop :=
  ∃ w, lands s t = some w ∧ (b.value w k).isSome

/-- The last write of a cell in a run puts into it what the memory has. -/
def LastCurrent (k : κ) : Behind M D W → List (Turn C) → Prop
  | _, [] => True
  | s, t :: turns => ∀ s', b.step s t = some s' →
      (∀ w v, lands s t = some w → b.value w k = some v →
        EachStep b.step (fun s t => ¬ b.Touches k s t) s' turns → v = b.held s.memory k) ∧
      LastCurrent k s' turns

variable {b} {k : κ} {s s' : Behind M D W} {t : Turn C} {turns : List (Turn C)}

theorem step_cases (taken : b.step s t = some s') :
    (∃ c, t = .call c ∧ s' = { s with
      memory := (b.call s.memory c).1, pending := s.pending ++ [(b.call s.memory c).2] }) ∨
    ∃ i through w later, t = .land i through ∧ s.pending[i]? = some (w :: later) ∧
      lands s t = some w ∧ s' = { s with
        store := if through then b.write s.store w else s.store
        pending := s.pending.set i later } := by
  cases t with
  | call c => exact .inl ⟨c, rfl, (Option.some.inj taken).symm⟩
  | land i through =>
      rw [step] at taken
      split at taken
      · next w later here =>
          refine .inr ⟨i, through, w, later, rfl, here, ?_, (Option.some.inj taken).symm⟩
          rw [lands, here]
          rfl
      · simp at taken

theorem untouched (ended : run b.step s turns = some s') (finished : Finished s')
    (never : EachStep b.step (fun s t => ¬ b.Touches k s t) s turns) :
    (∀ writes ∈ s.pending, ∀ w ∈ writes, b.value w k = none) ∧
      b.held s'.memory k = b.held s.memory k ∧ b.stored s'.store k = b.stored s.store k := by
  induction turns generalizing s with
  | nil =>
      cases ended
      refine ⟨fun writes member w inside => ?_, rfl, rfl⟩
      rw [finished writes member] at inside
      exact absurd inside List.not_mem_nil
  | cons t turns ih =>
      obtain ⟨m, taken, rest⟩ := Option.bind_eq_some_iff.mp ended
      obtain ⟨misses, later⟩ := never m taken
      obtain ⟨idle, held, stored⟩ := ih rest later
      rcases step_cases taken with ⟨c, rfl, rfl⟩ | ⟨i, through, w, others, rfl, here, lands, rfl⟩
      · refine ⟨fun writes member => idle writes (List.mem_append_left _ member), ?_, stored⟩
        rcases b.held_call s.memory c k with same | ⟨w, inside, writes⟩
        · exact held.trans same
        · have none := idle _ (List.mem_append_right _ (List.mem_singleton.mpr rfl)) w inside
          rw [none] at writes
          simp at writes
      · have own : b.value w k = none := by
          by_contra some
          exact misses ⟨w, lands, Option.isSome_iff_ne_none.mpr some⟩
        refine ⟨fun writes member v inside => ?_, held, ?_⟩
        · obtain ⟨j, at_j⟩ := List.mem_iff_getElem?.mp member
          by_cases same : j = i
          · subst same
            rw [here] at at_j
            obtain rfl := Option.some.inj at_j
            rcases List.mem_cons.mp inside with rfl | behind
            · exact own
            · refine idle others ?_ v behind
              exact List.mem_set (List.getElem?_eq_some_iff.mp here).1 _
          · refine idle writes (List.mem_iff_getElem?.mpr ⟨j, ?_⟩) v inside
            rw [List.getElem?_set_ne (Ne.symm same)]
            exact at_j
        · rw [stored]
          dsimp only
          split
          · rw [b.stored_write, own, Option.getD_none]
          · rfl

theorem last_or_none (turns : List (Turn C)) (s : Behind M D W) :
    EachStep b.step (fun s t => ¬ b.Touches k s t) s turns ∨
      ∃ front t back m m', turns = front ++ t :: back ∧ run b.step s front = some m ∧
        b.step m t = some m' ∧ b.Touches k m t ∧
          EachStep b.step (fun s t => ¬ b.Touches k s t) m' back := by
  induction turns generalizing s with
  | nil => exact .inl trivial
  | cons t turns ih =>
      cases taken : b.step s t with
      | none => exact .inl fun s' other => by simp [taken] at other
      | some m =>
          rcases ih m with never | ⟨front, u, back, n, n', rfl, before, next, touches, never⟩
          · by_cases touches : b.Touches k s t
            · exact .inr ⟨[], t, turns, s, m, rfl, rfl, taken, touches, never⟩
            · refine .inl fun s' other => ?_
              obtain rfl := Option.some.inj (taken.symm.trans other)
              exact ⟨touches, never⟩
          · refine .inr ⟨t :: front, u, back, n, n', rfl, ?_, next, touches, never⟩
            exact Option.bind_eq_some_iff.mpr ⟨m, taken, before⟩

theorem LastCurrent.reached {m m' : Behind M D W} {back : List (Turn C)} (front : List (Turn C))
    (current : b.LastCurrent k s (front ++ t :: back)) (before : run b.step s front = some m)
    (taken : b.step m t = some m') :
    ∀ w v, lands m t = some w → b.value w k = some v →
      EachStep b.step (fun s t => ¬ b.Touches k s t) m' back → v = b.held m.memory k := by
  induction front generalizing s with
  | nil =>
      cases before
      exact (current m' taken).1
  | cons d front ih =>
      obtain ⟨n, first, rest⟩ := Option.bind_eq_some_iff.mp before
      exact ih (current n first).2 rest

theorem after_last {w : W} {v : ν k} {through : Bool} {i : ℕ} (through_all : through = true)
    (taken : b.step s (.land i through) = some s') {final : Behind M D W}
    (lands_w : lands s (.land (C := C) i through) = some w) (writes : b.value w k = some v)
    (ended : run b.step s' turns = some final) (finished : Finished final)
    (never : EachStep b.step (fun s t => ¬ b.Touches k s t) s' turns) :
    b.stored final.store k = v ∧ b.held final.memory k = b.held s.memory k := by
  obtain ⟨_, held, stored⟩ := untouched ended finished never
  rcases step_cases taken with ⟨c, same, _⟩ | ⟨j, _, w', later, same, _, other, rfl⟩
  · simp at same
  · obtain rfl := Option.some.inj (other.symm.trans lands_w)
    cases same
    refine ⟨?_, held⟩
    rw [stored, if_pos through_all, b.stored_write, writes, Option.getD_some]

/-- When all calls of a run are through with their writes, the store has in a cell what the memory
has exactly if the last write of the cell has put it there. -/
theorem settles_iff (started : b.stored s.store k = b.held s.memory k)
    (ended : run b.step s turns = some s') (through : ∀ t ∈ turns, t.Through)
    (finished : Finished s') :
    b.stored s'.store k = b.held s'.memory k ↔ b.LastCurrent k s turns := by
  constructor
  · intro settled
    clear started
    induction turns generalizing s with
    | nil => trivial
    | cons t turns ih =>
        obtain ⟨m, taken, rest⟩ := Option.bind_eq_some_iff.mp ended
        intro n other
        obtain rfl := Option.some.inj (taken.symm.trans other)
        refine ⟨fun w v lands_w writes never => ?_,
          ih rest fun u member => through u (List.mem_cons_of_mem _ member)⟩
        cases t with
        | call c => simp [lands] at lands_w
        | land i ok =>
            obtain ⟨stored, held⟩ :=
              after_last (through _ List.mem_cons_self) taken lands_w writes rest finished never
            rw [← stored, settled, held]
  · intro current
    rcases last_or_none (b := b) (k := k) turns s with
      never | ⟨front, t, back, m, m', rfl, before, taken, touches, never⟩
    · obtain ⟨_, held, stored⟩ := untouched ended finished never
      rw [held, stored, started]
    · obtain ⟨w, lands_w, writes⟩ := touches
      obtain ⟨v, writes⟩ := Option.isSome_iff_exists.mp writes
      have rest : run b.step m' back = some s' := by
        rw [run, List.foldlM_append] at ended
        obtain ⟨n, first, second⟩ := Option.bind_eq_some_iff.mp ended
        obtain rfl := Option.some.inj (before.symm.trans first)
        obtain ⟨n', next, last⟩ := Option.bind_eq_some_iff.mp second
        obtain rfl := Option.some.inj (taken.symm.trans next)
        exact last
      cases t with
      | call c => simp [lands] at lands_w
      | land i ok =>
          have ok_through : ok = true := through (.land i ok) (by simp)
          obtain ⟨stored, held⟩ := after_last ok_through taken lands_w writes rest finished never
          rw [stored, held]
          exact current.reached front before taken w v lands_w writes never

end WriteBehind

end Library
