import Mathlib.Data.List.Basic

/-!
Runs of a machine that is given one event at a time and may refuse it. A run
ends at the first refused event; a property of a run is a property of the
states it reaches or of the steps it takes.
-/

namespace Library

variable {σ ε : Type*} {step : σ → ε → Option σ}

def run (step : σ → ε → Option σ) (s : σ) (es : List ε) : Option σ :=
  es.foldlM step s

/-- `P` holds in every state the run over `es` reaches. -/
def Always (step : σ → ε → Option σ) (P : σ → Prop) : σ → List ε → Prop
  | s, [] => P s
  | s, e :: es => P s ∧ ∀ s', step s e = some s' → Always step P s' es

/-- `C` holds of every event the run over `es` takes, in the state it is taken in. -/
def EachStep (step : σ → ε → Option σ) (C : σ → ε → Prop) : σ → List ε → Prop
  | _, [] => True
  | s, e :: es => ∀ s', step s e = some s' → C s e ∧ EachStep step C s' es

instance EachStep.decidable {C : σ → ε → Prop} [∀ s e, Decidable (C s e)] :
    ∀ s es, Decidable (EachStep step C s es)
  | _, [] => isTrue trivial
  | s, e :: es =>
      match taken : step s e with
      | none => isTrue (by simp [EachStep, taken])
      | some s' =>
          have := EachStep.decidable (C := C) s' es
          decidable_of_iff (C s e ∧ EachStep step C s' es) (by simp [EachStep, taken])

variable {es : List ε} {C : σ → ε → Prop} {s : σ} {P : σ → Prop} {I : σ → Prop}

theorem Always.start (h : Always step P s es) : P s := by
  cases es with
  | nil => exact h
  | cons e es => exact h.1

theorem Always.mono {P Q : σ → Prop} (imp : ∀ s, P s → Q s) (h : Always step P s es) :
    Always step Q s es := by
  induction es generalizing s with
  | nil => exact imp s h
  | cons e es ih => exact ⟨imp s h.1, fun s' taken => ih (h.2 s' taken)⟩

theorem always_iff_reached :
    Always step P s es ↔ ∀ front, front <+: es → ∀ s', run step s front = some s' → P s' := by
  induction es generalizing s with
  | nil => simp [Always, run, List.prefix_nil]
  | cons e es ih =>
      constructor
      · intro held front pre s' reached
        obtain ⟨now, later⟩ := held
        cases front with
        | nil =>
            cases reached
            exact now
        | cons d front =>
            obtain ⟨rfl, shorter⟩ := List.cons_prefix_cons.mp pre
            obtain ⟨t, taken, rest⟩ := Option.bind_eq_some_iff.mp reached
            exact ih.mp (later t taken) front shorter s' rest
      · intro h
        refine ⟨h [] List.nil_prefix s rfl, fun t taken => ih.mpr fun front pre s' reached => ?_⟩
        apply h (e :: front) (List.cons_prefix_cons.mpr ⟨rfl, pre⟩) s'
        exact Option.bind_eq_some_iff.mpr ⟨t, taken, reached⟩

theorem EachStep.reached {s t t' : σ} (front : List ε) {back : List ε} {e : ε}
    (h : EachStep step C s (front ++ e :: back)) (before : run step s front = some t)
    (taken : step t e = some t') : C t e := by
  induction front generalizing s with
  | nil =>
      cases before
      exact (h t' taken).1
  | cons d front ih =>
      obtain ⟨u, first, rest⟩ := Option.bind_eq_some_iff.mp before
      exact ih (h u first).2 rest

theorem EachStep.congr {C D : σ → ε → Prop}
    (same : ∀ s e s', step s e = some s' → (C s e ↔ D s e)) :
    EachStep step C s es ↔ EachStep step D s es := by
  induction es generalizing s with
  | nil => exact Iff.rfl
  | cons e es ih =>
      exact forall_congr' fun s' => imp_congr_right fun taken => and_congr (same s e s' taken) ih

theorem EachStep.congr_of_inv {C D : σ → ε → Prop}
    (same : ∀ s e s', I s → step s e = some s' → (C s e ↔ D s e))
    (keep : ∀ s e s', I s → D s e → step s e = some s' → I s') (start : I s) :
    EachStep step C s es ↔ EachStep step D s es := by
  induction es generalizing s with
  | nil => exact Iff.rfl
  | cons e es ih =>
      apply forall_congr'
      intro s'
      apply imp_congr_right
      intro taken
      rw [same s e s' start taken]
      exact and_congr_right fun meets => ih (keep s e s' start meets taken)

theorem eachStep_iff_forall {D : ε → Prop} (total : ∀ s e, ∃ s', step s e = some s') : EachStep step
    (fun _ e => D e) s es ↔ ∀ e ∈ es, D e := by
  induction es generalizing s with
  | nil => simp [EachStep]
  | cons e es ih =>
      obtain ⟨s', taken⟩ := total s e
      simp [EachStep, taken, ih]

theorem always_of_eachStep (keep : ∀ s e s', I s → C s e → step s e = some s' → I s')
    (start : I s) (h : EachStep step C s es) : Always step I s es := by
  induction es generalizing s with
  | nil => exact start
  | cons e es ih =>
      refine ⟨start, fun s' taken => ?_⟩
      obtain ⟨meets, later⟩ := h s' taken
      exact ih (keep s e s' start meets taken) later

theorem always_of_step (keep : ∀ s e s', I s → step s e = some s' → I s') (start : I s)
    (es : List ε) : Always step I s es := by
  induction es generalizing s with
  | nil => exact start
  | cons e es ih => exact ⟨start, fun s' taken => ih (keep s e s' start taken)⟩

theorem eachStep_of_forall {D : σ → ε → Prop} (all : ∀ s e, D s e) (s : σ) (es : List ε) :
    EachStep step D s es := by
  induction es generalizing s with
  | nil => trivial
  | cons e es ih => exact fun s' _ => ⟨all s e, ih s'⟩

/-- When a step preserves `P` and meets `D` exactly if it meets `C`, a run does so
throughout exactly if all its steps meet `C`: the first step that does not fails one. -/
theorem always_and_eachStep_iff {I P : σ → Prop} {C D : σ → ε → Prop}
    (exact_step : ∀ s e s', I s → P s → step s e = some s' → (P s' ∧ D s e ↔ C s e))
    (keep : ∀ s e s', I s → P s → C s e → step s e = some s' → I s') (start : I s) (now : P s) :
    Always step P s es ∧ EachStep step D s es ↔ EachStep step C s es := by
  induction es generalizing s with
  | nil => exact iff_of_true ⟨now, trivial⟩ trivial
  | cons e es ih =>
      constructor
      · intro held s' taken
        obtain ⟨⟨_, later⟩, done⟩ := held
        obtain ⟨meets, rest⟩ := done s' taken
        have passes := (exact_step s e s' start now taken).mp ⟨(later s' taken).start, meets⟩
        have inside := keep s e s' start now passes taken
        exact ⟨passes, (ih inside (later s' taken).start).mp ⟨later s' taken, rest⟩⟩
      · intro h
        have onward : ∀ s', step s e = some s' →
            D s e ∧ Always step P s' es ∧ EachStep step D s' es := by
          intro s' taken
          obtain ⟨passes, later⟩ := h s' taken
          have next := (exact_step s e s' start now taken).mpr passes
          exact ⟨next.2, (ih (keep s e s' start now passes taken) next.1).mpr later⟩
        exact ⟨⟨now, fun s' taken => (onward s' taken).2.1⟩,
          fun s' taken => ⟨(onward s' taken).1, (onward s' taken).2.2⟩⟩

/-- When a step preserves `P` exactly if it meets `C`, a run keeps `P` exactly if
all its steps meet `C`: the first step that does not reaches a state without `P`. -/
theorem always_iff_eachStep {I P : σ → Prop}
    (exact_step : ∀ s e s', I s → P s → step s e = some s' → (P s' ↔ C s e))
    (keep : ∀ s e s', I s → P s → C s e → step s e = some s' → I s') (start : I s) (now : P s) :
    Always step P s es ↔ EachStep step C s es := by
  have always : EachStep step (fun _ _ => True) s es := eachStep_of_forall (fun _ _ => trivial) s es
  rw [← and_iff_left always (a := Always step P s es)]
  apply always_and_eachStep_iff _ keep start now
  intro s e s' inside held taken
  rw [and_true]
  exact exact_step s e s' inside held taken

/-- When a step that meets `C` keeps `I`, and one that does not spoils it for good, a run
ends in `I` exactly if all its steps meet `C`. -/
theorem end_iff_eachStep {I B : σ → Prop}
    (keep : ∀ s e s', I s → C s e → step s e = some s' → I s')
    (spoil : ∀ s e s', I s → ¬ C s e → step s e = some s' → B s')
    (spoilt : ∀ s e s', B s → step s e = some s' → B s') (apart : ∀ s, B s → ¬ I s) {s s' : σ}
    (start : I s) (ended : run step s es = some s') : I s' ↔ EachStep step C s es := by
  induction es generalizing s with
  | nil =>
      cases ended
      exact iff_of_true start trivial
  | cons e es ih =>
      obtain ⟨t, taken, rest⟩ := Option.bind_eq_some_iff.mp ended
      by_cases meets : C s e
      · rw [ih (keep s e t start meets taken) rest]
        refine ⟨fun later u other => ?_, fun each => (each t taken).2⟩
        obtain rfl := Option.some.inj (taken.symm.trans other)
        exact ⟨meets, later⟩
      · have bad := always_of_step spoilt (spoil s e t start meets taken) es
        exact iff_of_false (apart s' (always_iff_reached.mp bad es List.prefix_rfl s' rest))
          fun each => meets (each t taken).1

/-- No event of the run is refused, and `P` holds in every state it reaches. -/
def Completes (step : σ → ε → Option σ) (P : σ → Prop) : σ → List ε → Prop
  | s, [] => P s
  | s, e :: es => P s ∧ ∃ s', step s e = some s' ∧ Completes step P s' es

/-- `C` holds of every event of the run, also of one that is refused. -/
def EachEvent (step : σ → ε → Option σ) (C : σ → ε → Prop) : σ → List ε → Prop
  | _, [] => True
  | s, e :: es => C s e ∧ ∀ s', step s e = some s' → EachEvent step C s' es

instance EachEvent.decidable {C : σ → ε → Prop} [∀ s e, Decidable (C s e)] :
    ∀ s es, Decidable (EachEvent step C s es)
  | _, [] => isTrue trivial
  | s, e :: es =>
      match taken : step s e with
      | none => decidable_of_iff (C s e) (by simp [EachEvent, taken])
      | some s' =>
          have := EachEvent.decidable (C := C) s' es
          decidable_of_iff (C s e ∧ EachEvent step C s' es) (by simp [EachEvent, taken])

/-- When a step is taken and keeps `P` exactly if it meets `C`, a run is completed within `P`
exactly if all its events meet `C`. -/
theorem completes_iff_eachEvent
    (exact_step : ∀ s e, P s → ((∃ s', step s e = some s' ∧ P s') ↔ C s e)) (start : P s) :
    Completes step P s es ↔ EachEvent step C s es := by
  induction es generalizing s with
  | nil => exact iff_of_true start trivial
  | cons e es ih =>
      constructor
      · intro done
        obtain ⟨_, s', taken, later⟩ := done
        have kept : P s' := by
          cases es with
          | nil => exact later
          | cons _ _ => exact later.1
        refine ⟨(exact_step s e start).mp ⟨s', taken, kept⟩, fun t other => ?_⟩
        obtain rfl := Option.some.inj (taken.symm.trans other)
        exact (ih kept).mp later
      · intro each
        obtain ⟨s', taken, kept⟩ := (exact_step s e start).mpr each.1
        exact ⟨start, s', taken, (ih kept).mpr (each.2 s' taken)⟩

/-- When a step is taken exactly if it meets `C`, a run gets to its end exactly if all its events
meet `C`. -/
theorem run_isSome_iff_eachEvent (exact_step : ∀ s e, (step s e).isSome ↔ C s e) :
    (run step s es).isSome ↔ EachEvent step C s es := by
  induction es generalizing s with
  | nil => exact iff_of_true rfl trivial
  | cons e es ih =>
      rw [EachEvent, ← exact_step s e, run, List.foldlM_cons]
      cases taken : step s e with
      | none => simp
      | some s' =>
          change (run step s' es).isSome ↔ _
          rw [ih]
          simp

end Library
