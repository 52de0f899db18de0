import Mathlib.Data.List.Basic
import Mathlib.Data.List.Range

/-!
Slots numbered from zero, some of them empty, and the list of what they hold in their
order. Moving an entry down over empty slots and cutting off empty slots at the end
leave the list as it is.
-/

namespace Library.Slots

variable {α : Type} {f g : ℕ → Option α}

theorem filterMap_none {is : List ℕ} (empty : ∀ i ∈ is, f i = none) : is.filterMap f = [] := by
  induction is with
  | nil => rfl
  | cons i is ih =>
      rw [List.filterMap_cons, empty i (List.mem_cons_self ..)]
      exact ih fun j member => empty j (List.mem_cons_of_mem _ member)

theorem range_at {n last : ℕ} (inside : n < last) :
    List.range last = List.range n ++ n :: List.range' (n + 1) (last - (n + 1)) := by
  have joined := @List.range'_append_1 0 n (last - n)
  have whole : n + (last - n) = last := by omega
  have size : last - n = last - (n + 1) + 1 := by omega
  rw [Nat.zero_add, whole, size, List.range'_succ] at joined
  rw [List.range_eq_range', List.range_eq_range', joined]

theorem range_split {dst n last : ℕ} (below : dst < n) (inside : n < last) :
    List.range last = List.range dst ++
      (dst :: List.range' (dst + 1) (n - (dst + 1)) ++
        n :: List.range' (n + 1) (last - (n + 1))) := by
  rw [range_at inside, range_at below, List.append_assoc]

theorem filterMap_shift {dst n last : ℕ} (below : dst < n) (inside : n < last)
    (empty : ∀ i, dst ≤ i → i < n → f i = none) (moved : g dst = f n) (left : g n = none)
    (others : ∀ i, i ≠ dst → i ≠ n → g i = f i) :
    (List.range last).filterMap g = (List.range last).filterMap f := by
  have first : (List.range dst).filterMap g = (List.range dst).filterMap f := by
    apply List.filterMap_congr
    intro i member
    have before := List.mem_range.mp member
    exact others i (by omega) (by omega)
  have between {h : ℕ → Option α} (same : ∀ i, dst < i → i < n → h i = none) :
      (List.range' (dst + 1) (n - (dst + 1))).filterMap h = [] := by
    apply filterMap_none
    intro i member
    have bounds := List.mem_range'_1.mp member
    exact same i (by omega) (by omega)
  have behind : (List.range' (n + 1) (last - (n + 1))).filterMap g =
      (List.range' (n + 1) (last - (n + 1))).filterMap f := by
    apply List.filterMap_congr
    intro i member
    have bounds := List.mem_range'_1.mp member
    exact others i (by omega) (by omega)
  rw [range_split below inside, List.filterMap_append, List.filterMap_append,
    List.filterMap_append, List.filterMap_append, List.filterMap_cons, List.filterMap_cons,
    List.filterMap_cons, List.filterMap_cons, first, behind, moved, left,
    empty dst le_rfl below,
    between fun i above before => empty i (Nat.le_of_lt above) before,
    between fun i above before => (others i (by omega) (by omega)).trans
      (empty i (Nat.le_of_lt above) before)]
  cases f n <;> rfl

theorem filterMap_trim {n last : ℕ} (le : n ≤ last) (empty : ∀ i, n ≤ i → f i = none) :
    (List.range n).filterMap f = (List.range last).filterMap f := by
  have split : List.range last = List.range n ++ List.range' n (last - n) := by
    have joined := @List.range'_append_1 0 n (last - n)
    rw [Nat.zero_add] at joined
    rw [List.range_eq_range', List.range_eq_range', joined]
    congr 1
    omega
  have rest : (List.range' n (last - n)).filterMap f = [] := by
    apply filterMap_none
    intro i member
    exact empty i (List.mem_range'_1.mp member).1
  rw [split, List.filterMap_append, rest, List.append_nil]

theorem length_filled {n : ℕ} (filled : ∀ i, i < n → (f i).isSome) :
    ((List.range n).filterMap f).length = n := by
  rw [List.length_filterMap_eq_countP, List.countP_eq_length.mpr, List.length_range]
  exact fun i member => filled i (List.mem_range.mp member)

theorem filterMap_at {n last : ℕ} {entry : α} (inside : n < last)
    (filled : ∀ i, i < n → (f i).isSome) (here : f n = some entry) :
    ((List.range last).filterMap f)[n]? = some entry := by
  have length := length_filled filled
  rw [range_at inside, List.filterMap_append, List.filterMap_cons, here,
    List.getElem?_append_right length.le, length, Nat.sub_self]
  rfl

theorem filterMap_erase {n last : ℕ} (inside : n < last) (filled : ∀ i, i < n → (f i).isSome)
    (here : (f n).isSome) (gone : g n = none) (others : ∀ i, i ≠ n → g i = f i) :
    (List.range last).filterMap g = ((List.range last).filterMap f).eraseIdx n := by
  obtain ⟨entry, found⟩ := Option.isSome_iff_exists.mp here
  have front : (List.range n).filterMap g = (List.range n).filterMap f :=
    List.filterMap_congr fun i member => others i (Nat.ne_of_lt (List.mem_range.mp member))
  have behind : (List.range' (n + 1) (last - (n + 1))).filterMap g =
      (List.range' (n + 1) (last - (n + 1))).filterMap f := by
    apply List.filterMap_congr
    intro i member
    have bounds := List.mem_range'_1.mp member
    exact others i (by omega)
  have length := length_filled filled
  rw [range_at inside, List.filterMap_append, List.filterMap_append, List.filterMap_cons,
    List.filterMap_cons, front, behind, gone, found,
    List.eraseIdx_append_of_length_le length.le, length, Nat.sub_self]
  rfl

theorem filterMap_extend {n : ℕ} {entry : α} (new : g n = some entry)
    (others : ∀ i, i < n → g i = f i) :
    (List.range (n + 1)).filterMap g = (List.range n).filterMap f ++ [entry] := by
  have front : (List.range n).filterMap g = (List.range n).filterMap f :=
    List.filterMap_congr fun i member => others i (List.mem_range.mp member)
  rw [List.range_succ, List.filterMap_append, front, List.filterMap_cons, new,
    List.filterMap_nil]

end Library.Slots
