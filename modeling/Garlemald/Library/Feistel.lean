import Mathlib.Data.List.Basic

/-!
Feistel networks whose rounds whiten the left half with the round key before they
mix it into the right half. The network is inverted by the same rounds under the
keys in reverse order, whatever the mixing function is.
-/

namespace Library.Feistel

variable {α : Type}

abbrev Halves (α : Type) := α × α

variable (add : α → α → α) (mix : α → α)

/-- Whiten the left half, mix it into the right half and swap. -/
def round (key : α) (x : Halves α) : Halves α :=
  (add x.2 (mix (add x.1 key)), add x.1 key)

def finish (right left : α) (x : Halves α) : Halves α := (add x.2 left, add x.1 right)

def rounds (key : Nat → α) (is : List Nat) (x : Halves α) : Halves α :=
  is.foldl (fun x i => round add mix (key i) x) x

/-- The rounds under the keys `0, …, n - 1`, finished with the keys `n` and `n + 1`. -/
def forward (key : Nat → α) (n : Nat) (x : Halves α) : Halves α :=
  finish add (key n) (key (n + 1)) (rounds add mix key (List.range n) x)

/-- The rounds under the keys `n + 1, …, 2`, finished with the keys `1` and `0`. -/
def backward (key : Nat → α) (n : Nat) (x : Halves α) : Halves α :=
  finish add (key 1) (key 0) (rounds add mix key (List.range' 2 n).reverse x)

variable {add mix}
variable (cancel : ∀ a b, add (add a b) b = a)

include cancel

/-- A round takes back the round before it: what is left is the block before both,
finished with the key of the round taken back. -/
theorem round_finish_round (swap : ∀ a b c, add (add a b) c = add (add a c) b) (k a b : α)
    (x : Halves α) :
    round add mix b (finish add a b (round add mix k x)) = finish add k a x := by
  simp only [round, finish, cancel, Prod.mk.injEq, and_true]
  rw [swap, cancel]

theorem finish_finish (a b : α) (x : Halves α) : finish add b a (finish add a b x) = x := by
  simp only [finish, cancel]

variable (swap : ∀ a b c, add (add a b) c = add (add a c) b)

include swap

theorem rounds_back (key : Nat → α) (n : Nat) (x : Halves α) :
    rounds add mix key (List.range' 2 n).reverse
        (finish add (key n) (key (n + 1)) (rounds add mix key (List.range n) x)) =
      finish add (key 0) (key 1) x := by
  induction n with
  | zero => rfl
  | succ n ih =>
      have last : (List.range' 2 (n + 1)).reverse = (n + 2) :: (List.range' 2 n).reverse := by
        rw [List.range'_1_concat, List.reverse_append, Nat.add_comm 2 n]
        rfl
      rw [last, List.range_succ]
      simp only [rounds, List.foldl_append, List.foldl_cons, List.foldl_nil] at ih ⊢
      rw [round_finish_round cancel swap, ih]

theorem rounds_forth (key : Nat → α) (n : Nat) (x : Halves α) :
    rounds add mix key (List.range n)
        (finish add (key 1) (key 0) (rounds add mix key (List.range' 2 n).reverse x)) =
      finish add (key (n + 1)) (key n) x := by
  induction n generalizing key with
  | zero => rfl
  | succ n ih =>
      have first : (List.range' 2 (n + 1)).reverse =
          ((List.range' 2 n).map Nat.succ).reverse ++ [2] := by
        have shift : (fun i => 1 + i) = Nat.succ := funext fun i => Nat.add_comm 1 i
        rw [List.range'_succ, List.reverse_cons, ← shift, List.map_add_range']
      have later := ih (fun i => key (i + 1))
      rw [first, List.range_succ_eq_map]
      simp only [rounds, List.foldl_append, List.foldl_cons, List.foldl_nil, List.foldl_map,
        ← List.map_reverse] at later ⊢
      rw [round_finish_round cancel swap]
      exact later

theorem backward_forward (key : Nat → α) (n : Nat) (x : Halves α) :
    backward add mix key n (forward add mix key n x) = x := by
  rw [backward, forward, rounds_back cancel swap, finish_finish cancel]

theorem forward_backward (key : Nat → α) (n : Nat) (x : Halves α) :
    forward add mix key n (backward add mix key n x) = x := by
  rw [backward, forward, rounds_forth cancel swap, finish_finish cancel]

end Library.Feistel
