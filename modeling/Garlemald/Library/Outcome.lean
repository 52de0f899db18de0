import Garlemald.Library.Bytes

/-!
Results of calls that return a value, return an error value or panic. Indexing a
byte string outside its bounds is a panic, so a call that returns has been shown
to stay inside them.
-/

namespace Library

inductive Outcome (ε α : Type) where
  | ok (a : α)
  | err (e : ε)
  | panic
deriving DecidableEq, Repr

namespace Outcome

variable {ε α β : Type}

def bind (x : Outcome ε α) (f : α → Outcome ε β) : Outcome ε β :=
  match x with
  | ok a => f a
  | err e => err e
  | panic => panic

instance : Monad (Outcome ε) where
  pure := ok
  bind := bind

@[simp] theorem ok_bind (a : α) (f : α → Outcome ε β) : (ok a >>= f) = f a := rfl

@[simp] theorem err_bind (e : ε) (f : α → Outcome ε β) : (err e >>= f) = err e := rfl

@[simp] theorem panic_bind (f : α → Outcome ε β) : ((panic : Outcome ε α) >>= f) = panic := rfl

@[simp] theorem pure_eq_ok (a : α) : (pure a : Outcome ε α) = ok a := rfl

theorem bind_eq_ok {x : Outcome ε α} {f : α → Outcome ε β} {b : β} :
    (x >>= f) = ok b ↔ ∃ a, x = ok a ∧ f a = ok b := by
  cases x <;> simp

instance : LawfulMonad (Outcome ε) :=
  LawfulMonad.mk' _ (fun x => by cases x <;> rfl) (fun _ _ => rfl)
    (fun x _ _ => by cases x <;> rfl)

theorem mapM_ok {f : α → Outcome ε β} {g : α → β} {xs : List α} (h : ∀ x ∈ xs, f x = ok (g x)) :
    xs.mapM f = ok (xs.map g) := by
  induction xs with
  | nil => rfl
  | cons x xs ih =>
      rw [List.mapM_cons, h x (List.mem_cons_self ..), ok_bind,
        ih fun y member => h y (List.mem_cons_of_mem _ member), ok_bind, pure_eq_ok, List.map_cons]

def unwrap : Option α → Outcome ε α
  | some a => ok a
  | none => panic

@[simp] theorem unwrap_some (a : α) : (unwrap (some a) : Outcome ε α) = ok a := rfl

/-- `bs[low..high]`. -/
def slice (bs : Bytes) (low high : Nat) : Outcome ε Bytes :=
  if low ≤ high ∧ high ≤ bs.length then ok ((bs.drop low).take (high - low)) else panic

theorem slice_ok {bs : Bytes} {low high : Nat} (order : low ≤ high) (inside : high ≤ bs.length) :
    (slice bs low high : Outcome ε Bytes) = ok ((bs.drop low).take (high - low)) :=
  if_pos ⟨order, inside⟩

theorem slice_eq_ok {bs out : Bytes} {low high : Nat}
    (h : (slice bs low high : Outcome ε Bytes) = ok out) :
    low ≤ high ∧ high ≤ bs.length ∧ out.length = high - low := by
  rw [slice] at h
  split at h
  · next bounds =>
      cases h
      refine ⟨bounds.1, bounds.2, ?_⟩
      rw [List.length_take, List.length_drop]
      omega
  · contradiction

theorem slice_append (front bs : Bytes) (low high : Nat) :
    (slice (front ++ bs) (front.length + low) (front.length + high) : Outcome ε Bytes) =
      slice bs low high := by
  have bounds : (front.length + low ≤ front.length + high ∧
      front.length + high ≤ (front ++ bs).length) ↔ (low ≤ high ∧ high ≤ bs.length) := by
    rw [List.length_append]; omega
  have dropped : (front ++ bs).drop (front.length + low) = bs.drop low := by
    rw [List.drop_append, List.drop_eq_nil_of_le (by omega), List.nil_append]
    congr 1; omega
  simp only [slice, bounds, dropped, Nat.add_sub_add_left]

theorem slice_extend (bs more : Bytes) {low high : Nat} (inside : high ≤ bs.length) :
    (slice (bs ++ more) low high : Outcome ε Bytes) = slice bs low high := by
  by_cases order : low ≤ high
  · rw [slice_ok order (by rw [List.length_append]; omega), slice_ok order inside,
      List.drop_append_of_le_length (by omega),
      List.take_append_of_le_length (by rw [List.length_drop]; omega)]
  · simp only [slice, order, false_and, if_false]

theorem slice_middle (front bs rest : Bytes) :
    (slice (front ++ (bs ++ rest)) front.length (front.length + bs.length) : Outcome ε Bytes) =
      ok bs := by
  have whole := slice_append (ε := ε) front (bs ++ rest) 0 bs.length
  rw [Nat.add_zero] at whole
  rw [whole, slice_ok (Nat.zero_le _) (by simp)]
  simp

end Outcome
end Library
