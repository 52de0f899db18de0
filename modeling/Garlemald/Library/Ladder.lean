import Mathlib.Algebra.GroupWithZero.Nat
import Mathlib.Algebra.Order.BigOperators.Group.List
import Mathlib.Data.Nat.Basic

/-!
Climbing a ladder whose rungs have prices: rung after rung is paid from a purse for as long as it
lasts. What a purse buys does not depend on the parts in which it is filled.
-/

namespace Library.Ladder

/-- How many of the rungs a purse pays for, and what is left in it. -/
def climb : List ℕ → ℕ → ℕ × ℕ
  | [], purse => (0, purse)
  | price :: prices, purse =>
      if price ≤ purse then
        ((climb prices (purse - price)).1 + 1, (climb prices (purse - price)).2)
      else (0, purse)

variable (prices : List ℕ) (purse : ℕ)

theorem climb_le : (climb prices purse).1 ≤ prices.length := by
  induction prices generalizing purse with
  | nil => exact le_rfl
  | cons price prices ih =>
      rw [climb]
      split
      · exact Nat.succ_le_succ (ih (purse - price))
      · exact Nat.zero_le _

theorem climb_paid : (prices.take (climb prices purse).1).sum + (climb prices purse).2 = purse := by
  induction prices generalizing purse with
  | nil => exact Nat.zero_add purse
  | cons price prices ih =>
      rw [climb]
      split
      · next affordable =>
          have above := ih (purse - price)
          dsimp only
          rw [List.take_succ_cons, List.sum_cons]
          omega
      · exact Nat.zero_add purse

theorem climb_short {price : ℕ} (next : prices[(climb prices purse).1]? = some price) :
    (climb prices purse).2 < price := by
  induction prices generalizing purse with
  | nil => cases next
  | cons first prices ih =>
      rw [climb] at next ⊢
      by_cases affordable : first ≤ purse
      · rw [if_pos affordable] at next ⊢
        exact ih (purse - first) next
      · rw [if_neg affordable] at next ⊢
        cases next
        exact Nat.not_le.mp affordable

theorem climb_add (more : ℕ) :
    climb prices (purse + more) =
      ((climb prices purse).1 +
          (climb (prices.drop (climb prices purse).1) ((climb prices purse).2 + more)).1,
        (climb (prices.drop (climb prices purse).1) ((climb prices purse).2 + more)).2) := by
  induction prices generalizing purse with
  | nil => rfl
  | cons price prices ih =>
      by_cases affordable : price ≤ purse
      · have first : climb (price :: prices) purse =
            ((climb prices (purse - price)).1 + 1, (climb prices (purse - price)).2) := by
          rw [climb, if_pos affordable]
        have rest : purse + more - price = purse - price + more := by omega
        rw [first, climb, if_pos (Nat.le_add_right_of_le affordable), rest, ih]
        simp only [List.drop_succ_cons, Prod.mk.injEq, and_true]
        omega
      · have stays : climb (price :: prices) purse = (0, purse) := by
          rw [climb, if_neg affordable]
        simp only [stays, List.drop_zero, Nat.zero_add]

theorem climb_all (enough : prices.sum ≤ purse) :
    climb prices purse = (prices.length, purse - prices.sum) := by
  induction prices generalizing purse with
  | nil => rfl
  | cons price prices ih =>
      rw [List.sum_cons] at enough
      rw [climb, if_pos (by omega), ih (purse - price) (by omega), List.length_cons,
        List.sum_cons, Nat.sub_sub]

/-! ### A purse that is forfeited at the top -/

def settle : ℕ × ℕ :=
  if (climb prices purse).1 = prices.length then (prices.length, 0) else climb prices purse

theorem settle_fst : (settle prices purse).1 = (climb prices purse).1 := by
  rw [settle]
  split
  · next top => exact top.symm
  · rfl

variable {prices purse} in
theorem settle_all (enough : prices.sum ≤ purse) : settle prices purse = (prices.length, 0) := by
  rw [settle, climb_all prices purse enough, if_pos rfl]

variable {prices purse} in
theorem settle_of_lt (below : (settle prices purse).1 < prices.length) :
    settle prices purse = climb prices purse := by
  rw [settle_fst] at below
  rw [settle, if_neg below.ne]

variable {prices purse} in
theorem settle_top (top : (settle prices purse).1 = prices.length) :
    (settle prices purse).2 = 0 := by
  rw [settle_fst] at top
  rw [settle, if_pos top]

theorem settle_le : (settle prices purse).1 ≤ prices.length := by
  rw [settle_fst]
  exact climb_le prices purse

theorem settle_short {price : ℕ} (next : prices[(settle prices purse).1]? = some price) :
    (settle prices purse).2 < price := by
  have below : (settle prices purse).1 < prices.length := (List.getElem?_eq_some_iff.mp next).1
  rw [settle_of_lt below] at next ⊢
  exact climb_short prices purse next

theorem settle_add (more : ℕ) :
    settle prices (purse + more) =
      ((settle prices purse).1 +
          (settle (prices.drop (settle prices purse).1) ((settle prices purse).2 + more)).1,
        (settle (prices.drop (settle prices purse).1) ((settle prices purse).2 + more)).2) := by
  have both := climb_add prices purse more
  have low := climb_le prices purse
  by_cases top : (climb prices purse).1 = prices.length
  · have first : settle prices purse = (prices.length, 0) := if_pos top
    have whole : (climb prices (purse + more)).1 = prices.length := by
      rw [both, top, List.drop_length]
      rfl
    rw [first, List.drop_length, settle, if_pos whole]
    rfl
  · have first : settle prices purse = climb prices purse := if_neg top
    rw [first, settle, both, settle, List.length_drop]
    by_cases reached : (climb (prices.drop (climb prices purse).1)
        ((climb prices purse).2 + more)).1 = prices.length - (climb prices purse).1
    · rw [if_pos reached, if_pos (by dsimp only; omega)]
      simp only [Prod.mk.injEq, and_true]
      omega
    · rw [if_neg reached, if_neg (by dsimp only; omega)]

end Library.Ladder
