import Garlemald.Library.Runs

/-!
Firings of a machine behind a clock. A step that fires finds the clock elapsed and sets it
behind the gap of its firing; the firings of a run are then at least their gaps apart.
-/

namespace Library

variable {σ ε α : Type*} {step : σ → ε → Option σ} {fires : σ → ε → List α}
variable {time gap : α → Nat}

def firings (step : σ → ε → Option σ) (fires : σ → ε → List α) : σ → List ε → List α
  | _, [] => []
  | s, e :: es =>
      match step s e with
      | none => []
      | some s' => fires s e ++ firings step fires s' es

/-- Firings of a clock that is due at `due`, each at least its gap before all that follow. -/
structure Paced (time gap : α → Nat) (due : Nat) (as : List α) : Prop where
  first : ∀ a ∈ as, due ≤ time a
  spaced : as.Pairwise fun a b => time a + gap a ≤ time b

theorem Paced.nil (due : Nat) : Paced time gap due [] :=
  ⟨nofun, List.Pairwise.nil⟩

theorem Paced.cons {due : Nat} {a : α} {as : List α} (elapsed : due ≤ time a)
    (later : Paced time gap (time a + gap a) as) : Paced time gap due (a :: as) := by
  constructor
  · intro b member
    rcases List.mem_cons.mp member with rfl | member
    · exact elapsed
    · have behind := later.first b member
      omega
  · exact List.pairwise_cons.mpr ⟨later.first, later.spaced⟩

/-- What a step that fires `as` makes of a clock that is due at `due`, where `I` reads the
clock: it fires nothing, or once with the clock elapsed and set anew. -/
def Rearms (time gap : α → Nat) (I : Nat → σ → Prop) (due : Nat) (as : List α) (s : σ) : Prop :=
  as = [] ∧ I due s ∨ ∃ a, as = [a] ∧ due ≤ time a ∧ I (time a + gap a) s

theorem Rearms.paced {I : Nat → σ → Prop} {due : Nat} {as bs : List α} {s : σ}
    (h : Rearms time gap I due as s) (later : ∀ due, I due s → Paced time gap due bs) :
    Paced time gap due (as ++ bs) := by
  rcases h with ⟨rfl, clock⟩ | ⟨a, rfl, elapsed, clock⟩
  · exact later due clock
  · exact Paced.cons elapsed (later _ clock)

theorem firings_paced_cons {I : Nat → σ → Prop} {C : σ → ε → Prop} {due : Nat} {s : σ} {e : ε}
    {es : List ε}
    (starts : ∀ s', C s e → step s e = some s' → Rearms time gap I due (fires s e) s')
    (later : ∀ due s', I due s' → EachStep step C s' es →
      Paced time gap due (firings step fires s' es))
    (meets : EachStep step C s (e :: es)) :
    Paced time gap due (firings step fires s (e :: es)) := by
  unfold firings
  cases taken : step s e with
  | none => exact Paced.nil due
  | some s' =>
      obtain ⟨now, rest⟩ := meets s' taken
      exact (starts s' now taken).paced fun due clock => later due s' clock rest

theorem firings_paced {I : Nat → σ → Prop} {C : σ → ε → Prop}
    (minds : ∀ due s e s', I due s → C s e → step s e = some s' →
      Rearms time gap I due (fires s e) s')
    {due : Nat} {s : σ} {es : List ε} (clock : I due s) (meets : EachStep step C s es) :
    Paced time gap due (firings step fires s es) := by
  induction es generalizing due s with
  | nil => exact Paced.nil due
  | cons e es ih =>
      exact firings_paced_cons (fun s' => minds due s e s' clock) (fun _ _ => ih) meets

theorem firings_all {P : α → Prop} (all : ∀ s e, ∀ a ∈ fires s e, P a) (s : σ) (es : List ε) :
    ∀ a ∈ firings step fires s es, P a := by
  induction es generalizing s with
  | nil => nofun
  | cons e es ih =>
      unfold firings
      cases step s e with
      | none => nofun
      | some s' =>
          intro a member
          rcases List.mem_append.mp member with now | later
          · exact all s e a now
          · exact ih s' a later

end Library
