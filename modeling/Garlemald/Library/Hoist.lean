import Mathlib.Data.List.Nodup
import Mathlib.Data.List.Perm.Basic
import Mathlib.Data.List.Range

/-!
Moving some of the entries of a list forward, each to the place before one that stays. The entries
are taken out of slots, so that one which has moved is not met again at its old place. The result
is the list read in another order of its places, and the order is what the laws are about.
-/

namespace Library.Hoist

variable {α : Type}

/-- Takes the entry out of a slot and writes it behind the others. -/
def emit (state : List (Option α) × List α) (j : ℕ) : List (Option α) × List α :=
  match state.1[j]?.join with
  | some x => (state.1.set j none, state.2 ++ [x])
  | none => state

/-- Before the slot `i` come the slots `ahead i`. -/
def drain (ahead : ℕ → List ℕ) (xs : List α) : List α :=
  ((List.range xs.length).foldl (fun state i => emit ((ahead i).foldl emit state) i)
    (xs.map some, [])).2

/-- `available` are the slots that still hold their entry. -/
def Holds (xs : List α) (available : ℕ → Prop) [DecidablePred available]
    (slots : List (Option α)) : Prop :=
  ∀ j, slots[j]?.join = if available j then xs[j]? else none

variable {state : List (Option α) × List α} {xs : List α} {p : ℕ → Prop}

theorem Holds.congr {p q : ℕ → Prop} [DecidablePred p] [DecidablePred q] {slots : List (Option α)}
    (h : Holds xs p slots) (same : ∀ j, p j ↔ q j) : Holds xs q slots := by
  intro j
  rw [h j]
  exact if_congr (same j) rfl rfl

private theorem join_set (slots : List (Option α)) (j k : ℕ) :
    (slots.set j none)[k]?.join = if k = j then none else slots[k]?.join := by
  rw [List.getElem?_set]
  by_cases same : j = k
  · subst same
    rw [if_pos rfl, if_pos rfl]
    split <;> rfl
  · rw [if_neg same, if_neg (Ne.symm same)]

theorem emit_available [DecidablePred p] (h : Holds xs p state.1) {j : ℕ} (here : p j) :
    Holds xs (fun k => p k ∧ k ≠ j) (emit state j).1 ∧
      (emit state j).2 = state.2 ++ (xs[j]?).toList := by
  have read := h j
  rw [if_pos here] at read
  unfold emit
  rw [read]
  cases entry : xs[j]? with
  | none =>
      refine ⟨fun k => ?_, (List.append_nil _).symm⟩
      rw [h k]
      by_cases same : k = j
      · subst same
        simp [here, entry]
      · simp [same]
  | some x =>
      refine ⟨fun k => ?_, rfl⟩
      rw [join_set, h k]
      by_cases same : k = j
      · simp [same]
      · simp [same]

theorem emit_gone [DecidablePred p] (h : Holds xs p state.1) {j : ℕ} (gone : ¬p j) :
    emit state j = state := by
  have read := h j
  rw [if_neg gone] at read
  unfold emit
  rw [read]

theorem emit_all {js : List ℕ} [DecidablePred p] (h : Holds xs p state.1) (here : ∀ j ∈ js, p j)
    (nodup : js.Nodup) :
    Holds xs (fun k => p k ∧ k ∉ js) (js.foldl emit state).1 ∧
      (js.foldl emit state).2 = state.2 ++ js.filterMap fun j => xs[j]? := by
  induction js generalizing p state with
  | nil => exact ⟨h.congr fun j => by simp, (List.append_nil _).symm⟩
  | cons j js ih =>
      obtain ⟨fresh, rest⟩ := List.nodup_cons.mp nodup
      obtain ⟨held, written⟩ := emit_available h (here j (List.mem_cons_self ..))
      have others : ∀ k ∈ js, p k ∧ k ≠ j := by
        intro k member
        refine ⟨here k (List.mem_cons_of_mem _ member), fun same => ?_⟩
        exact fresh (same ▸ member)
      obtain ⟨held', written'⟩ := ih held others rest
      refine ⟨held'.congr fun k => by simp [and_assoc], ?_⟩
      rw [List.foldl_cons, written', written, List.append_assoc, List.filterMap_cons]
      cases xs[j]? <;> rfl

/-- Each moved place goes to an earlier one, which stays. -/
def Forward (dest : ℕ → Option ℕ) : Prop := ∀ j w, dest j = some w → w < j ∧ dest w = none

def ahead (n : ℕ) (dest : ℕ → Option ℕ) (w : ℕ) : List ℕ :=
  (List.range n).filter fun j => decide (dest j = some w)

def block (n : ℕ) (dest : ℕ → Option ℕ) (i : ℕ) : List ℕ :=
  if dest i = none then ahead n dest i ++ [i] else []

def order (n : ℕ) (dest : ℕ → Option ℕ) : List ℕ := (List.range n).flatMap (block n dest)

variable {n : ℕ} {dest : ℕ → Option ℕ}

theorem mem_ahead {w j : ℕ} : j ∈ ahead n dest w ↔ j < n ∧ dest j = some w := by
  simp [ahead]

theorem nodup_ahead (w : ℕ) : (ahead n dest w).Nodup := List.nodup_range.filter _

theorem mem_block {i j : ℕ} :
    j ∈ block n dest i ↔ dest i = none ∧ (j = i ∨ j < n ∧ dest j = some i) := by
  unfold block
  split
  · simp [*, mem_ahead, or_comm]
  · simp [*]

/-- What is still in its slot once the places before `i` have been met. -/
def Pending (n : ℕ) (dest : ℕ → Option ℕ) (i j : ℕ) : Prop :=
  j < n ∧ i ≤ j ∧ ∀ w ∈ dest j, i ≤ w

instance (i : ℕ) : DecidablePred (Pending n dest i) := fun j =>
  inferInstanceAs (Decidable (j < n ∧ i ≤ j ∧ ∀ w ∈ dest j, i ≤ w))

theorem pending_ahead (forward : Forward dest) {i j : ℕ} (member : j ∈ ahead n dest i) :
    Pending n dest i j ∧ j ≠ i := by
  obtain ⟨inside, moved⟩ := mem_ahead.mp member
  have before := (forward j i moved).1
  refine ⟨⟨inside, before.le, fun w target => ?_⟩, before.ne'⟩
  rw [moved] at target
  cases target
  exact le_rfl

theorem pending_succ {i j : ℕ} :
    Pending n dest (i + 1) j ↔ (Pending n dest i j ∧ j ∉ ahead n dest i) ∧ j ≠ i := by
  constructor
  · intro ⟨inside, behind, target⟩
    refine ⟨⟨⟨inside, by omega, fun w moved => (Nat.le_succ i).trans (target w moved)⟩, ?_⟩,
      by omega⟩
    intro member
    have late := target i (mem_ahead.mp member).2
    omega
  · intro ⟨⟨⟨inside, behind, target⟩, out⟩, other⟩
    refine ⟨inside, by omega, fun w moved => ?_⟩
    have early := target w moved
    have different : w ≠ i := by
      intro same
      subst same
      exact out (mem_ahead.mpr ⟨inside, moved⟩)
    omega

private theorem drain_step (forward : Forward dest) {i : ℕ} (inside : i < xs.length)
    (h : Holds xs (Pending xs.length dest i) state.1) :
    Holds xs (Pending xs.length dest (i + 1))
        (emit ((ahead xs.length dest i).foldl emit state) i).1 ∧
      (emit ((ahead xs.length dest i).foldl emit state) i).2 =
        state.2 ++ (block xs.length dest i).filterMap fun j => xs[j]? := by
  obtain ⟨held, written⟩ := emit_all h (fun j member => (pending_ahead forward member).1)
    (nodup_ahead i)
  cases stays : dest i with
  | none =>
      have here : Pending xs.length dest i i ∧ i ∉ ahead xs.length dest i := by
        refine ⟨⟨inside, le_rfl, fun w moved => ?_⟩, fun member => ?_⟩
        · rw [stays] at moved
          cases moved
        · exact (pending_ahead forward member).2 rfl
      obtain ⟨held', written'⟩ := emit_available held here
      refine ⟨held'.congr fun j => pending_succ.symm, ?_⟩
      rw [written', written, block, if_pos stays, List.filterMap_append, List.append_assoc]
      cases read : xs[i]? <;> simp [read]
  | some w =>
      have empty : ahead xs.length dest i = [] := by
        apply List.eq_nil_iff_forall_not_mem.mpr
        intro j member
        have fixed := (forward j i (mem_ahead.mp member).2).2
        rw [stays] at fixed
        cases fixed
      have gone : ¬Pending xs.length dest i i := by
        intro ⟨_, _, target⟩
        have late := target w stays
        have early := (forward i w stays).1
        omega
      rw [empty, List.foldl_nil, emit_gone h gone, block, if_neg (by simp [stays])]
      refine ⟨h.congr fun j => ?_, (List.append_nil _).symm⟩
      rw [pending_succ, empty]
      constructor
      · intro pending
        refine ⟨⟨pending, List.not_mem_nil⟩, fun same => ?_⟩
        subst same
        exact gone pending
      · intro pending
        exact pending.1.1

theorem drain_eq (forward : Forward dest) :
    drain (ahead xs.length dest) xs = (order xs.length dest).filterMap fun j => xs[j]? := by
  have prefixes : ∀ i ≤ xs.length,
      Holds xs (Pending xs.length dest i) ((List.range i).foldl
          (fun state i => emit ((ahead xs.length dest i).foldl emit state) i)
          (xs.map some, [])).1 ∧
        ((List.range i).foldl (fun state i => emit ((ahead xs.length dest i).foldl emit state) i)
          (xs.map some, [])).2 =
          ((List.range i).flatMap (block xs.length dest)).filterMap fun j => xs[j]? := by
    intro i inside
    induction i with
    | zero =>
        refine ⟨fun j => ?_, rfl⟩
        by_cases low : j < xs.length
        · simp [Pending, low]
        · simp [Pending, low]
    | succ i ih =>
        obtain ⟨held, written⟩ := ih (by omega)
        obtain ⟨held', written'⟩ := drain_step forward (by omega) held
        rw [List.range_succ, List.foldl_append, List.flatMap_append, List.filterMap_append,
          ← written]
        refine ⟨held', ?_⟩
        rw [List.flatMap_cons, List.flatMap_nil, List.append_nil]
        exact written'
  exact (prefixes xs.length le_rfl).2

section Laws

theorem mem_order (forward : Forward dest) {j : ℕ} : j ∈ order n dest ↔ j < n := by
  simp only [order, List.mem_flatMap, List.mem_range, mem_block]
  constructor
  · intro ⟨i, inside, _, place⟩
    cases place with
    | inl same => exact same ▸ inside
    | inr moved => exact moved.1
  · intro inside
    cases target : dest j with
    | none => exact ⟨j, inside, target, .inl rfl⟩
    | some w =>
        obtain ⟨before, fixed⟩ := forward j w target
        exact ⟨w, by omega, fixed, .inr ⟨inside, rfl⟩⟩

/-- Two places that come out in one order do so within a block, or an earlier block has the
first. -/
theorem pairwise_order {R : ℕ → ℕ → Prop}
    (inside : ∀ w, dest w = none → (ahead n dest w).Pairwise R ∧ ∀ j ∈ ahead n dest w, R j w)
    (across : ∀ i i', i < i' → ∀ j ∈ block n dest i, ∀ j' ∈ block n dest i', R j j') :
    (order n dest).Pairwise R := by
  refine List.pairwise_flatMap.mpr ⟨fun i _ => ?_, ?_⟩
  · unfold block
    split
    · rename_i fixed
      obtain ⟨among, before⟩ := inside i fixed
      refine List.pairwise_append.mpr ⟨among, List.pairwise_singleton R i, ?_⟩
      intro j member i' last
      rw [List.mem_singleton.mp last]
      exact before j member
    · exact List.Pairwise.nil
  · exact List.pairwise_lt_range.imp fun {i i'} less => across i i' less

theorem nodup_order (forward : Forward dest) : (order n dest).Nodup := by
  refine pairwise_order (fun w _ => ⟨nodup_ahead w, fun j member => ?_⟩) ?_
  · exact (pending_ahead forward member).2
  · intro i i' less j member j' member' same
    subst same
    obtain ⟨fixed, place⟩ := mem_block.mp member
    obtain ⟨fixed', place'⟩ := mem_block.mp member'
    grind

theorem perm_order (forward : Forward dest) : (order n dest).Perm (List.range n) :=
  (List.perm_ext_iff_of_nodup (nodup_order forward) List.nodup_range).mpr fun j => by
    rw [mem_order forward, List.mem_range]

theorem order_at {w : ℕ} (inside : w < n) (fixed : dest w = none) :
    ∃ front back, order n dest = front ++ (ahead n dest w ++ w :: back) := by
  obtain ⟨front, back, split⟩ := List.append_of_mem (List.mem_range.mpr inside)
  refine ⟨front.flatMap (block n dest), back.flatMap (block n dest), ?_⟩
  rw [order, split, List.flatMap_append, List.flatMap_cons, block, if_pos fixed]
  simp

theorem order_still (still : ∀ j < n, dest j = none) : order n dest = List.range n := by
  have alone : ∀ i ∈ List.range n, block n dest i = [i] := by
    intro i member
    have none_ahead : ahead n dest i = [] := by
      apply List.eq_nil_iff_forall_not_mem.mpr
      intro j moved
      obtain ⟨inside, target⟩ := mem_ahead.mp moved
      rw [still j inside] at target
      cases target
    rw [block, if_pos (still i (List.mem_range.mp member)), none_ahead, List.nil_append]
  rw [order, List.flatMap_congr alone]
  simp

end Laws

theorem map_some_filterMap {β : Type} {f : β → Option α} {js : List β}
    (filled : ∀ j ∈ js, (f j).isSome) : (js.filterMap f).map some = js.map f := by
  induction js with
  | nil => rfl
  | cons j js ih =>
      obtain ⟨x, here⟩ := Option.isSome_iff_exists.mp (filled j (List.mem_cons_self ..))
      rw [List.filterMap_cons, here, List.map_cons, List.map_cons, here,
        ih fun k member => filled k (List.mem_cons_of_mem _ member)]

theorem filterMap_range (xs : List α) :
    ((List.range xs.length).filterMap fun j => xs[j]?) = xs := by
  induction xs with
  | nil => rfl
  | cons x xs ih =>
      rw [List.length_cons, List.range_succ_eq_map, List.filterMap_cons, List.filterMap_map]
      exact congrArg (x :: ·) ih

end Library.Hoist
