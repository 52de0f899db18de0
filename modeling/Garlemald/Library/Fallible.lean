import Mathlib.Order.Defs.Unbundled

/-!
Programs over a state that may fail and keep what they wrote before. A relation
between the states before and after that is reflexive and transitive is checked
statement by statement.
-/

namespace Library

abbrev Fallible (ε σ : Type) := ExceptT ε (StateM σ)

namespace Fallible

variable {ε σ α β : Type}

def result (q : Fallible ε σ α) (s : σ) : Except ε α := (q.run.run s).1

def after (q : Fallible ε σ α) (s : σ) : σ := (q.run.run s).2

theorem run_bind (q : Fallible ε σ α) (f : α → Fallible ε σ β) (s : σ) :
    (q >>= f).run.run s = match result q s with
      | .ok a => (f a).run.run (after q s)
      | .error e => (.error e, after q s) := by
  rw [ExceptT.run_bind, StateT.run_bind]
  change StateT.run (match result q s with
    | .ok a => (f a).run
    | .error e => pure (.error e)) (after q s) = _
  cases result q s <;> rfl

theorem after_bind (q : Fallible ε σ α) (f : α → Fallible ε σ β) (s : σ) :
    after (q >>= f) s = match result q s with
      | .ok a => after (f a) (after q s)
      | .error _ => after q s := by
  rw [after, run_bind]
  cases result q s <;> rfl

theorem result_bind (q : Fallible ε σ α) (f : α → Fallible ε σ β) (s : σ) :
    result (q >>= f) s = match result q s with
      | .ok a => result (f a) (after q s)
      | .error e => .error e := by
  rw [result, run_bind]
  cases result q s <;> rfl

theorem ok_bind_iff {q : Fallible ε σ α} {f : α → Fallible ε σ β} {s : σ} {b : β} :
    result (q >>= f) s = .ok b ↔
      ∃ a, result q s = .ok a ∧ result (f a) (after q s) = .ok b := by
  rw [result_bind]
  cases ran : result q s with
  | ok a =>
      constructor
      · exact fun later => ⟨a, rfl, later⟩
      · intro both
        obtain ⟨a', same, later⟩ := both
        cases same
        exact later
  | error e =>
      refine iff_of_false (by simp) fun both => ?_
      obtain ⟨_, impossible, _⟩ := both
      contradiction

theorem after_bind_ok {q : Fallible ε σ α} {s : σ} {a : α} (ran : result q s = .ok a)
    (f : α → Fallible ε σ β) : after (q >>= f) s = after (f a) (after q s) := by
  rw [after_bind, ran]

theorem result_get_bind (q : σ → Fallible ε σ α) (s : σ) :
    result (get >>= q) s = result (q s) s := rfl

theorem after_get_bind (q : σ → Fallible ε σ α) (s : σ) :
    after (get >>= q) s = after (q s) s := rfl

/-- The program leads from every state to one it is related to. -/
def Within (R : σ → σ → Prop) (q : Fallible ε σ α) : Prop := ∀ s, R s (after q s)

variable {R : σ → σ → Prop}

theorem Within.get (refl : ∀ a, R a a) : Within R (get : Fallible ε σ σ) := refl

theorem Within.bind (trans : ∀ a b c, R a b → R b c → R a c) {q : Fallible ε σ α}
    {f : α → Fallible ε σ β} (first : Within R q) (later : ∀ a, Within R (f a)) :
    Within R (q >>= f) := by
  intro s
  rw [after_bind]
  cases result q s with
  | ok a => exact trans _ _ _ (first s) (later a (after q s))
  | error e => exact first s

theorem Within.forM (refl : ∀ a, R a a) (trans : ∀ a b c, R a b → R b c → R a c) {xs : List β}
    {f : β → Fallible ε σ PUnit} (each : ∀ x, Within R (f x)) : Within R (xs.forM f) := by
  induction xs with
  | nil => exact refl
  | cons x xs ih => exact Within.bind trans (each x) fun _ => ih

end Fallible
end Library
