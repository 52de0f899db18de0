import Mathlib.Data.List.Nodup

/-!
Tables whose rows lie under the keys of a counter. A new row goes behind the last
key ever given out, an update leaves every row under its key, and nothing else
is done to the rows.
-/

namespace Library

structure AutoTable (ρ : Type) where
  rows : List (Nat × ρ)
  last : Nat
  sorted : rows.Pairwise fun a b => a.1 < b.1
  given : ∀ row ∈ rows, row.1 ≤ last

namespace AutoTable

variable {ρ : Type}

def empty : AutoTable ρ := ⟨[], 0, List.Pairwise.nil, fun _ inside => nomatch inside⟩

def push (t : AutoTable ρ) (r : ρ) : AutoTable ρ where
  rows := t.rows ++ [(t.last + 1, r)]
  last := t.last + 1
  sorted := by
    apply List.pairwise_append.mpr
    refine ⟨t.sorted, List.pairwise_singleton _ _, fun a old b new => ?_⟩
    obtain rfl := List.mem_singleton.mp new
    exact Nat.lt_succ_of_le (t.given a old)
  given row inside := by
    obtain old | new := List.mem_append.mp inside
    · exact Nat.le_succ_of_le (t.given row old)
    · obtain rfl := List.mem_singleton.mp new
      exact Nat.le_refl _

def update (t : AutoTable ρ) (hit : Nat → ρ → Bool) (f : ρ → ρ) : AutoTable ρ where
  rows := t.rows.map fun row => (row.1, if hit row.1 row.2 then f row.2 else row.2)
  last := t.last
  sorted := t.sorted.map _ fun _ _ less => less
  given row inside := by
    obtain ⟨old, member, rfl⟩ := List.mem_map.mp inside
    exact t.given old member

def get (t : AutoTable ρ) (key : Nat) : Option ρ :=
  (t.rows.find? fun row => row.1 = key).map Prod.snd

def any (t : AutoTable ρ) (p : Nat → ρ → Bool) : Bool := t.rows.any fun row => p row.1 row.2

def find (t : AutoTable ρ) (p : Nat → ρ → Bool) : Option (Nat × ρ) :=
  t.rows.find? fun row => p row.1 row.2

/-- The row with the greatest key among those that pass the test. -/
def findLast (t : AutoTable ρ) (p : Nat → ρ → Bool) : Option (Nat × ρ) :=
  t.rows.reverse.find? fun row => p row.1 row.2

variable {t : AutoTable ρ} {key : Nat}

theorem rows_unique {r s : ρ} (one : (key, r) ∈ t.rows) (other : (key, s) ∈ t.rows) : r = s := by
  have keys : (t.rows.map Prod.fst).Nodup :=
    List.pairwise_map.mpr (t.sorted.imp fun less => Nat.ne_of_lt less)
  have same := List.inj_on_of_nodup_map keys one other rfl
  exact (Prod.mk.inj same).2

theorem get_eq_some {r : ρ} : t.get key = some r ↔ (key, r) ∈ t.rows := by
  constructor
  · intro found
    obtain ⟨row, first, rfl⟩ := Option.map_eq_some_iff.mp found
    have same := List.find?_some first
    rw [← of_decide_eq_true same]
    exact List.mem_of_find?_eq_some first
  · intro member
    rw [get]
    cases found : t.rows.find? fun row => decide (row.1 = key) with
    | none =>
        have absent := List.find?_eq_none.mp found (key, r) member
        simp at absent
    | some row =>
        have same := List.find?_some found
        have inside := List.mem_of_find?_eq_some found
        obtain ⟨k, s⟩ := row
        obtain rfl : k = key := of_decide_eq_true same
        rw [rows_unique inside member]
        rfl

theorem get_push (t : AutoTable ρ) (r : ρ) (key : Nat) :
    (t.push r).get key = if key = t.last + 1 then some r else t.get key := by
  apply Option.ext
  intro s
  rw [get_eq_some, push, List.mem_append, List.mem_singleton, Prod.mk.injEq]
  by_cases new : key = t.last + 1
  · rw [if_pos new]
    have fresh : (key, s) ∉ t.rows := fun old => by
      have := t.given _ old
      omega
    rw [or_iff_right fresh, and_iff_right new, Option.some.injEq, eq_comm]
  · rw [if_neg new, get_eq_some]
    simp [new]

theorem get_last_succ (t : AutoTable ρ) : t.get (t.last + 1) = none := by
  rw [Option.eq_none_iff_forall_ne_some]
  intro r found
  have := t.given _ (get_eq_some.mp found)
  omega

theorem get_push_self (t : AutoTable ρ) (r : ρ) : (t.push r).get (t.last + 1) = some r := by
  rw [get_push, if_pos rfl]

theorem get_push_of_some {s : ρ} (old : t.get key = some s) (r : ρ) :
    (t.push r).get key = some s := by
  rw [get_push, if_neg, old]
  intro new
  rw [new, get_last_succ] at old
  cases old

theorem get_push_of_ne {r s : ρ} (other : s ≠ r) (key : Nat) :
    (t.push r).get key = some s ↔ t.get key = some s := by
  rw [get_push]
  by_cases new : key = t.last + 1
  · rw [if_pos new, new, get_last_succ, Option.some.injEq]
    exact iff_of_false (Ne.symm other) fun impossible => nomatch impossible
  · rw [if_neg new]

theorem get_update (t : AutoTable ρ) (hit : Nat → ρ → Bool) (f : ρ → ρ) (key : Nat) :
    (t.update hit f).get key = (t.get key).map fun r => if hit key r then f r else r := by
  apply Option.ext
  intro s
  rw [get_eq_some, update, List.mem_map, Option.map_eq_some_iff]
  constructor
  · intro mapped
    obtain ⟨⟨k, r⟩, member, equal⟩ := mapped
    obtain ⟨rfl, rfl⟩ := Prod.mk.inj equal
    exact ⟨r, get_eq_some.mpr member, rfl⟩
  · intro found
    obtain ⟨r, old, rfl⟩ := found
    exact ⟨(key, r), get_eq_some.mp old, rfl⟩

theorem get_update_hit {hit : Nat → ρ → Bool} {r : ρ} (found : t.get key = some r)
    (hits : hit key r = true) (only : ∀ k s, hit k s = true → k = key) (f : ρ → ρ) (k : Nat) :
    (t.update hit f).get k = if k = key then some (f r) else t.get k := by
  rw [get_update]
  by_cases same : k = key
  · rw [if_pos same, same, found, Option.map_some, if_pos hits]
  · have misses : ∀ s, hit k s = false := fun s => Bool.eq_false_iff.mpr fun h => same (only k s h)
    simp [same, misses]

theorem get_update_miss {hit : Nat → ρ → Bool}
    (misses : ∀ k s, t.get k = some s → hit k s = false) (f : ρ → ρ) (k : Nat) :
    (t.update hit f).get k = t.get k := by
  rw [get_update]
  cases found : t.get k with
  | none => rfl
  | some s => simp [misses k s found]

theorem any_eq_true {p : Nat → ρ → Bool} :
    t.any p = true ↔ ∃ key r, t.get key = some r ∧ p key r = true := by
  rw [any, List.any_eq_true]
  constructor
  · intro found
    obtain ⟨⟨key, r⟩, member, passes⟩ := found
    exact ⟨key, r, get_eq_some.mpr member, passes⟩
  · intro found
    obtain ⟨key, r, old, passes⟩ := found
    exact ⟨(key, r), get_eq_some.mp old, passes⟩

theorem of_find_some {p : Nat → ρ → Bool} {r : ρ} (found : t.find p = some (key, r)) :
    t.get key = some r ∧ p key r = true := by
  have passes := List.find?_some found
  exact ⟨get_eq_some.mpr (List.mem_of_find?_eq_some found), passes⟩

end AutoTable
end Library
