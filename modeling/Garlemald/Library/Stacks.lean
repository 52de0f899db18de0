import Mathlib.Algebra.BigOperators.Group.List.Basic
import Mathlib.Algebra.Ring.Int.Defs
import Mathlib.Algebra.Order.Ring.Int
import Mathlib.Tactic.Linarith
import Mathlib.Tactic.Ring

/-!
Stacks of one thing, each of at most `M`, in the order in which they are topped up.
A quantity first fills the stacks that are there and then starts new ones; where a
further quantity would start depends on the sum of what has been added alone.
-/

namespace Library.Stacks

/-- Every stack holds something, and none more than `M`. -/
def Within (M : ℤ) (as : List ℤ) : Prop := ∀ a ∈ as, 1 ≤ a ∧ a ≤ M

def room (M : ℤ) (as : List ℤ) : ℤ := (as.map (M - ·)).sum

/-- What is left of a quantity after the stacks; not positive once all of it is in them. -/
def left (M : ℤ) : List ℤ → ℤ → ℤ
  | [], q => q
  | a :: as, q => if q ≤ 0 then q else left M as (q - (M - a))

def topUp (M : ℤ) : List ℤ → ℤ → List ℤ
  | [], _ => []
  | a :: as, q => if q ≤ 0 then a :: as else min (a + q) M :: topUp M as (q - (M - a))

def pile (M : ℤ) : ℕ → ℤ → List ℤ
  | 0, _ => []
  | n + 1, q => if q ≤ 0 then [] else min q M :: pile M n (q - min q M)

/-- What is left of a quantity after at most `n` new stacks. -/
def beyond (M : ℤ) : ℕ → ℤ → ℤ
  | 0, q => q
  | n + 1, q => if q ≤ 0 then q else beyond M n (q - min q M)

/-- The stack to which the next quantity goes first, after `t` has been added: 0 if it
would be a new one. -/
def openAt (M : ℤ) : List ℤ → ℤ → ℤ
  | [], t => t % M
  | a :: as, t => if a + t < M then a + t else openAt M as (t - (M - a))

/-- No stack that is topped up on the way adds up to the limit. -/
def SumsBelow (limit M : ℤ) : List ℤ → ℤ → Prop
  | [], _ => True
  | a :: as, q => 0 < q → (a < M → a + q < limit) ∧ SumsBelow limit M as (q - (M - a))

variable {M : ℤ}

@[simp] theorem room_nil : room M [] = 0 := rfl

@[simp] theorem room_cons (a : ℤ) (as : List ℤ) : room M (a :: as) = M - a + room M as := rfl

theorem room_append (as bs : List ℤ) : room M (as ++ bs) = room M as + room M bs := by
  simp [room]

theorem room_eq (as : List ℤ) : room M as = as.length * M - as.sum := by
  induction as with
  | nil => simp
  | cons a as ih =>
      rw [room_cons, ih, List.length_cons, List.sum_cons]
      push_cast
      ring

variable {as : List ℤ} {q : ℤ}

theorem Within.head {a : ℤ} (within : Within M (a :: as)) : 1 ≤ a ∧ a ≤ M :=
  within a
    (List.mem_cons_self ..)

theorem Within.tail {a : ℤ} (within : Within M (a :: as)) : Within M as :=
  fun b member => within b
    (List.mem_cons_of_mem a member)

theorem Within.cons {a : ℤ} (bounds : 1 ≤ a ∧ a ≤ M) (within : Within M as) :
    Within M (a :: as) := by
  intro b member
  rcases List.mem_cons.mp member with rfl | later
  · exact bounds
  · exact within b later

theorem Within.append {as bs : List ℤ} (front : Within M as) (back : Within M bs) :
    Within M (as ++ bs) := by
  intro b member
  rcases List.mem_append.mp member with inFront | inBack
  · exact front b inFront
  · exact back b inBack

theorem room_nonneg (within : Within M as) : 0 ≤ room M as := by
  induction as with
  | nil => exact le_rfl
  | cons a as ih =>
      have tail := ih within.tail
      have head := within.head
      rw [room_cons]
      omega

/-! ### Topping up -/

theorem left_of_nonpos (as : List ℤ) (done : q ≤ 0) : left M as q = q := by
  cases as with
  | nil => rfl
  | cons a as => rw [left, if_pos done]

theorem topUp_of_nonpos (as : List ℤ) (done : q ≤ 0) : topUp M as q = as := by
  cases as with
  | nil => rfl
  | cons a as => rw [topUp, if_pos done]

theorem left_append (as bs : List ℤ) (q : ℤ) : left M (as ++ bs) q = left M bs (left M as q) := by
  induction as generalizing q with
  | nil => rfl
  | cons a as ih =>
      rw [List.cons_append, left, left]
      split
      · next done => rw [left_of_nonpos bs done]
      · exact ih _

theorem topUp_append (as bs : List ℤ) (q : ℤ) :
    topUp M (as ++ bs) q = topUp M as q ++ topUp M bs (left M as q) := by
  induction as generalizing q with
  | nil => rfl
  | cons a as ih =>
      rw [List.cons_append, left, topUp, topUp]
      split
      · next done => rw [topUp_of_nonpos bs done, List.cons_append]
      · rw [ih, List.cons_append]

theorem sumsBelow_append {limit : ℤ} (as bs : List ℤ) (q : ℤ) :
    SumsBelow limit M (as ++ bs) q ↔
      SumsBelow limit M as q ∧ SumsBelow limit M bs (left M as q) := by
  induction as generalizing q with
  | nil => exact (iff_of_eq (true_and _)).symm
  | cons a as ih =>
      rw [List.cons_append, SumsBelow, SumsBelow, left]
      split
      · next done =>
          have vacuous (p : Prop) : 0 < q → p := fun positive => absurd done (not_le.mpr positive)
          refine iff_of_true (vacuous _) ⟨vacuous _, ?_⟩
          cases bs with
          | nil => trivial
          | cons b bs => exact vacuous _
      · next more =>
          rw [ih]
          have positive : 0 < q := not_le.mp more
          simp only [positive, true_implies, and_assoc]

theorem left_spec (within : Within M as) (positive : 0 < q) :
    (q ≤ room M as → left M as q ≤ 0) ∧ (room M as < q → left M as q = q - room M as) := by
  induction as generalizing q with
  | nil => exact ⟨fun fits => absurd fits (not_le.mpr positive), fun _ => (sub_zero q).symm⟩
  | cons a as ih =>
      have head := within.head
      have nonneg := room_nonneg within.tail
      rw [left, if_neg (not_le.mpr positive), room_cons]
      by_cases more : 0 < q - (M - a)
      · obtain ⟨fits, exceeds⟩ := ih within.tail more
        exact ⟨fun h => fits (by omega), fun h => by rw [exceeds (by omega)]; omega⟩
      · rw [left_of_nonpos as (by omega)]
        exact ⟨fun _ => by omega, fun h => by omega⟩

theorem within_topUp (within : Within M as) (q : ℤ) : Within M (topUp M as q) := by
  induction as generalizing q with
  | nil => exact within
  | cons a as ih =>
      rw [topUp]
      split
      · exact within
      · have head := within.head
        exact (ih within.tail _).cons ⟨by omega, by omega⟩

theorem sum_topUp (as : List ℤ) (q : ℤ) :
    (topUp M as q).sum + max (left M as q) 0 = as.sum + max q 0 := by
  induction as generalizing q with
  | nil => rfl
  | cons a as ih =>
      rw [topUp, left]
      split
      · rfl
      · have rest := ih (q - (M - a))
        rw [List.sum_cons, List.sum_cons]
        omega

theorem room_topUp (as : List ℤ) (q : ℤ) :
    room M (topUp M as q) = room M as - max q 0 + max (left M as q) 0 := by
  induction as generalizing q with
  | nil => simp [topUp, left]
  | cons a as ih =>
      rw [topUp, left]
      split
      · omega
      · have rest := ih (q - (M - a))
        rw [room_cons, room_cons]
        omega

/-! ### New stacks -/

theorem pile_of_nonpos (n : ℕ) (done : q ≤ 0) : pile M n q = [] := by
  cases n with
  | zero => rfl
  | succ n => rw [pile, if_pos done]

theorem beyond_of_nonpos (n : ℕ) (done : q ≤ 0) : beyond M n q = q := by
  cases n with
  | zero => rfl
  | succ n => rw [beyond, if_pos done]

theorem beyond_nonpos_iff (n : ℕ) (positive : 0 < q) : beyond M n q ≤ 0 ↔ q ≤ n * M := by
  induction n generalizing q with
  | zero => simp [beyond]
  | succ n ih =>
      rw [beyond, if_neg (not_le.mpr positive)]
      push_cast
      by_cases last : q ≤ M
      · have done : q - min q M = 0 := by omega
        rw [done, beyond_of_nonpos n le_rfl]
        have nonneg : 0 ≤ (n : ℤ) * M := mul_nonneg (Int.natCast_nonneg n) (by omega)
        exact iff_of_true le_rfl (by linarith)
      · have more : q - min q M = q - M := by omega
        rw [more]
        have first := ih (q := q - M) (by omega)
        rw [first]
        constructor <;> intro h <;> linarith

theorem within_pile (positive : 1 ≤ M) (n : ℕ) (q : ℤ) : Within M (pile M n q) := by
  induction n generalizing q with
  | zero => exact fun _ member => by contradiction
  | succ n ih =>
      rw [pile]
      split
      · exact fun _ member => by contradiction
      · exact (ih _).cons ⟨by omega, by omega⟩

theorem sum_pile (n : ℕ) (fits : beyond M n q ≤ 0) : (pile M n q).sum = max q 0 := by
  induction n generalizing q with
  | zero =>
      have done : q ≤ 0 := fits
      simp [pile, done]
  | succ n ih =>
      rw [pile]
      rw [beyond] at fits
      split
      · next done => simp [done]
      · next more =>
          rw [if_neg more] at fits
          rw [List.sum_cons, ih fits]
          omega

theorem room_pile (n : ℕ) (fits : beyond M n q ≤ 0) :
    room M (pile M n q) = (pile M n q).length * M - max q 0 := by
  rw [room_eq, sum_pile n fits]

theorem length_pile_le (n k : ℕ) (enough : q ≤ k * M) : (pile M n q).length ≤ k := by
  induction n generalizing q k with
  | zero => exact Nat.zero_le k
  | succ n ih =>
      rw [pile]
      split
      · exact Nat.zero_le k
      · next more =>
          cases k with
          | zero => simp at enough; omega
          | succ k =>
              rw [List.length_cons]
              apply Nat.succ_le_succ
              by_cases last : q ≤ M
              · have done : q - min q M = 0 := by omega
                rw [done, pile_of_nonpos n le_rfl]
                exact Nat.zero_le k
              · apply ih
                have less : q - min q M = q - M := by omega
                rw [less]
                push_cast at enough
                linarith

/-! ### Where a quantity goes first -/

theorem openAt_lt (positive : 1 ≤ M) (as : List ℤ) (t : ℤ) : openAt M as t < M := by
  induction as generalizing t with
  | nil => exact Int.emod_lt_of_pos t (by omega)
  | cons a as ih =>
      rw [openAt]
      split
      · next below => exact below
      · exact ih _

theorem sumsBelow_iff {limit : ℤ} (within : Within M as) (positive : 0 < q) (small : q < limit) :
    SumsBelow limit M as q ↔ openAt M as 0 + q < limit := by
  induction as generalizing q with
  | nil => simpa [SumsBelow, openAt] using small
  | cons a as ih =>
      obtain ⟨low, high⟩ := within.head
      rw [SumsBelow, openAt, add_zero]
      by_cases partly : a < M
      · rw [if_pos partly]
        refine ⟨fun sums => (sums positive).1 partly, fun first _ => ⟨fun _ => first, ?_⟩⟩
        by_cases more : 0 < q - (M - a)
        · have smaller : openAt M as 0 < M := openAt_lt (by omega) as 0
          exact (ih within.tail more (by omega)).mpr (by omega)
        · cases as with
          | nil => trivial
          | cons b bs => exact fun positive => absurd positive more
      · have full : M - a = 0 := by omega
        rw [if_neg partly, full, sub_zero, sub_zero]
        have rest := ih within.tail positive small
        exact ⟨fun sums => rest.mp (sums positive).2,
          fun below _ => ⟨fun less => absurd less partly, rest.mpr below⟩⟩

theorem openAt_pile (n : ℕ) {q t : ℤ} (fits : beyond M n q ≤ 0) (nonneg : 0 ≤ q)
    (later : 0 ≤ t) : openAt M (pile M n q) t = (q + t) % M := by
  induction n generalizing q t with
  | zero =>
      have none_left : q = 0 := le_antisymm fits nonneg
      rw [none_left, zero_add]
      rfl
  | succ n ih =>
      rw [pile]
      rw [beyond] at fits
      split
      · next done =>
          have none_left : q = 0 := le_antisymm done nonneg
          rw [none_left, zero_add]
          rfl
      · next more =>
          rw [if_neg more] at fits
          rw [openAt]
          by_cases last : q ≤ M
          · have whole : min q M = q := min_eq_left last
            rw [whole] at fits ⊢
            rw [sub_self, pile_of_nonpos n le_rfl]
            split
            · next below => exact (Int.emod_eq_of_lt (by omega) below).symm
            · have shift : t - (M - q) = q + t - M := by ring
              rw [openAt, shift, Int.sub_emod_right]
          · have whole : min q M = M := min_eq_right (by omega)
            rw [whole] at fits ⊢
            rw [if_neg (by omega), sub_self, sub_zero, ih fits (by omega) later]
            have shift : q - M + t = q + t - M := by ring
            rw [shift, Int.sub_emod_right]

theorem openAt_added (within : Within M as) (n : ℕ) {q t : ℤ} (nonneg : 0 ≤ q) (later : 0 ≤ t)
    (fits : beyond M n (left M as q) ≤ 0) :
    openAt M (topUp M as q ++ pile M n (left M as q)) t = openAt M as (q + t) := by
  induction as generalizing q t with
  | nil => exact openAt_pile n fits nonneg later
  | cons a as ih =>
      obtain ⟨low, high⟩ := within.head
      by_cases done : q ≤ 0
      · have none_added : q = 0 := le_antisymm done nonneg
        rw [none_added, topUp_of_nonpos _ le_rfl, left_of_nonpos _ le_rfl,
          pile_of_nonpos n le_rfl, List.append_nil, zero_add]
      · rw [left, if_neg done] at fits ⊢
        rw [topUp, if_neg done, List.cons_append, openAt, openAt]
        by_cases inside : a + q ≤ M
        · have whole : min (a + q) M = a + q := min_eq_left inside
          have none_left : q - (M - a) ≤ 0 := by omega
          rw [whole, topUp_of_nonpos as none_left, left_of_nonpos as none_left,
            pile_of_nonpos n none_left,
            List.append_nil, add_assoc]
          have shift : t - (M - (a + q)) = q + t - (M - a) := by ring
          rw [shift]
        · have whole : min (a + q) M = M := min_eq_right (by omega)
          rw [whole, if_neg (by omega), if_neg (by omega), sub_self, sub_zero,
            ih within.tail (by omega) later fits]
          have shift : q - (M - a) + t = q + t - (M - a) := by ring
          rw [shift]

end Library.Stacks
