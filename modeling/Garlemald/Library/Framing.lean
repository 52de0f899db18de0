import Garlemald.Library.Outcome

/-!
Length-delimited frames in a byte stream. A decoder looks at the pending bytes
and yields the frame at their front, or waits. Draining it after every read
yields the frames that draining the whole stream at once would have yielded,
provided that more bytes never change what it has decided.
-/

namespace Library

variable {ε φ : Type}

/-- The frame at the front of the pending bytes and the bytes it takes up. -/
abbrev Decoder (ε φ : Type) := Bytes → Outcome ε (Option (φ × Nat))

namespace Decoder

def drainFuel (next : Decoder ε φ) : Nat → Bytes → Outcome ε (List φ × Bytes)
  | 0, pending => .ok ([], pending)
  | fuel + 1, pending => do
      match ← next pending with
      | none => return ([], pending)
      | some (f, used) =>
          let (fs, rest) ← drainFuel next fuel (pending.drop used)
          return (f :: fs, rest)

def drain (next : Decoder ε φ) (pending : Bytes) : Outcome ε (List φ × Bytes) :=
  drainFuel next (pending.length + 1) pending

theorem drain_eq (next : Decoder ε φ) (pending : Bytes) :
    drain next pending =
      (do match ← next pending with
          | none => return ([], pending)
          | some (f, used) =>
              let (fs, rest) ← drainFuel next pending.length (pending.drop used)
              return (f :: fs, rest)) := rfl

def feed (next : Decoder ε φ) : Bytes → List Bytes → Outcome ε (List φ × Bytes)
  | pending, [] => .ok ([], pending)
  | pending, read :: reads => do
      let (fs, rest) ← drain next (pending ++ read)
      let (gs, last) ← feed next rest reads
      return (fs ++ gs, last)

/-- A frame takes up some of the pending bytes, and whatever the decoder has decided
stays decided when more bytes arrive. -/
structure Stable (next : Decoder ε φ) : Prop where
  progress : ∀ {pending f used}, next pending = .ok (some (f, used)) →
    0 < used ∧ used ≤ pending.length
  decided : ∀ {pending}, next pending ≠ .ok none → ∀ more, next (pending ++ more) = next pending

variable {next : Decoder ε φ}

variable {pending : Bytes} {fs : List φ}

theorem Stable.shorter (stable : Stable next) {f : φ} {used : Nat}
    (found : next pending = .ok (some (f, used))) :
    (pending.drop used).length < pending.length := by
  obtain ⟨positive, inside⟩ := stable.progress found
  rw [List.length_drop]
  omega

theorem Stable.drainFuel_eq (stable : Stable next) {fuel enough : Nat} (h : pending.length < fuel)
    (k : pending.length < enough) :
    drainFuel next fuel pending = drainFuel next enough pending := by
  induction fuel generalizing pending enough with
  | zero => omega
  | succ fuel ih =>
      cases enough with
      | zero => omega
      | succ enough =>
          rw [drainFuel, drainFuel]
          cases found : next pending with
          | err e => rfl
          | panic => rfl
          | ok frame =>
              cases frame with
              | none => rfl
              | some frame =>
                  obtain ⟨f, used⟩ := frame
                  have shorter := stable.shorter found
                  have same := @ih (pending.drop used) enough (by omega) (by omega)
                  simp only [Outcome.ok_bind, same]

theorem drain_wait (h : next pending = .ok none) : drain next pending = .ok ([], pending) := by
  rw [drain_eq, h]
  rfl

theorem Stable.drain_frame (stable : Stable next) {f : φ} {used : Nat}
    (h : next pending = .ok (some (f, used))) :
    drain next pending =
      (do let (fs, rest) ← drain next (pending.drop used); return (f :: fs, rest)) := by
  have shorter := stable.shorter h
  have same := stable.drainFuel_eq shorter (Nat.lt_succ_self _)
  rw [drain_eq next pending, h, Outcome.ok_bind]
  simp only [same]
  rfl

theorem drain_err {e : ε} (h : next pending = .err e) : drain next pending = .err e := by
  rw [drain_eq, h, Outcome.err_bind]

theorem drain_panic (h : next pending = .panic) : drain next pending = .panic := by
  rw [drain_eq, h, Outcome.panic_bind]

theorem Stable.drain_append (stable : Stable next) (pending more : Bytes) :
    drain next (pending ++ more) =
      (do let (fs, rest) ← drain next pending
          let (gs, last) ← drain next (rest ++ more)
          return (fs ++ gs, last)) := by
  induction size : pending.length using Nat.strong_induction_on generalizing pending with
  | _ size ih =>
      subst size
      cases found : next pending with
      | err e =>
          have later : next (pending ++ more) = .err e := by
            rw [stable.decided (by rw [found]; simp), found]
          rw [drain_err found, drain_err later, Outcome.err_bind]
      | panic =>
          have later : next (pending ++ more) = .panic := by
            rw [stable.decided (by rw [found]; simp), found]
          rw [drain_panic found, drain_panic later, Outcome.panic_bind]
      | ok frame =>
          cases frame with
          | none =>
              rw [drain_wait found, Outcome.ok_bind]
              cases whole : drain next (pending ++ more) <;> simp [whole]
          | some frame =>
              obtain ⟨f, used⟩ := frame
              have later : next (pending ++ more) = .ok (some (f, used)) := by
                rw [stable.decided (by rw [found]; simp), found]
              have inside := (stable.progress found).2
              have shorter := stable.shorter found
              have tail := ih _ shorter (pending.drop used) rfl
              rw [stable.drain_frame later, stable.drain_frame found,
                List.drop_append_of_le_length inside, tail]
              cases drain next (pending.drop used) with
              | ok first =>
                  obtain ⟨gs, rest⟩ := first
                  cases second : drain next (rest ++ more) <;> simp [second]
              | err e => rfl
              | panic => rfl

theorem Stable.rest_waits (stable : Stable next) {pending rest : Bytes}
    (h : drain next pending = .ok (fs, rest)) : next rest = .ok none := by
  induction size : pending.length using Nat.strong_induction_on generalizing pending fs with
  | _ size ih =>
      subst size
      cases found : next pending with
      | err e => rw [drain_err found] at h; contradiction
      | panic => rw [drain_panic found] at h; contradiction
      | ok frame =>
          cases frame with
          | none =>
              rw [drain_wait found] at h
              cases h
              exact found
          | some frame =>
              obtain ⟨f, used⟩ := frame
              rw [stable.drain_frame found, Outcome.bind_eq_ok] at h
              obtain ⟨⟨gs, last⟩, tail, same⟩ := h
              cases same
              have shorter := stable.shorter found
              exact ih _ shorter tail rfl

/-- However the bytes are cut into reads, what has been yielded and what is left depend
on the bytes alone. -/
theorem Stable.feed_eq_drain (stable : Stable next) (waits : next pending = .ok none)
    (reads : List Bytes) : feed next pending reads = drain next (pending ++ reads.flatten) := by
  induction reads generalizing pending with
  | nil => rw [feed, List.flatten_nil, List.append_nil, drain_wait waits]
  | cons read reads ih =>
      rw [feed, List.flatten_cons, ← List.append_assoc,
        stable.drain_append (pending ++ read) reads.flatten]
      cases first : drain next (pending ++ read) with
      | err e => rfl
      | panic => rfl
      | ok yielded =>
          have rest := stable.rest_waits first
          simp only [Outcome.ok_bind, ih rest]

/-! ### Streams of encoded frames -/

variable {encode : φ → Bytes} {need : φ → Nat}

/-- On a stream of encoded frames the decoder yields the front frame as soon as `need`
of its bytes, counted from its first, are pending. -/
structure Yields (next : Decoder ε φ) (encode : φ → Bytes) (need : φ → Nat) (f : φ) : Prop where
  positive : 0 < (encode f).length
  covers : (encode f).length ≤ need f
  next_eq : ∀ {pending rest}, pending <+: encode f ++ rest →
    next pending = .ok (if need f ≤ pending.length then some (f, (encode f).length) else none)

/-- The frames that lie whole in the first `n` bytes. -/
def whole (encode : φ → Bytes) : List φ → Nat → List φ
  | [], _ => []
  | f :: fs, n =>
      if (encode f).length ≤ n then f :: whole encode fs (n - (encode f).length) else []

/-- The bytes of the first `n` that lie behind the whole frames. -/
def partialBytes (encode : φ → Bytes) (fs : List φ) (n : Nat) : Bytes :=
  ((fs.flatMap encode).take n).drop ((whole encode fs n).flatMap encode).length

/-- The frames a decoder with these needs has yielded from the first `n` bytes. -/
def ready (encode : φ → Bytes) (need : φ → Nat) : List φ → Nat → List φ
  | [], _ => []
  | f :: fs, n =>
      if need f ≤ n then f :: ready encode need fs (n - (encode f).length) else []

/-- No frame lies whole in the first `n` bytes while the decoder still waits for it. -/
def Prompt (encode : φ → Bytes) (need : φ → Nat) (fs : List φ) (n : Nat) : Prop :=
  ∀ front f back, fs = front ++ f :: back →
    (front.flatMap encode).length + (encode f).length ≤ n →
      (front.flatMap encode).length + need f ≤ n

theorem prompt_cons {f : φ} {n : Nat} :
    Prompt encode need (f :: fs) n ↔
      ((encode f).length ≤ n → need f ≤ n ∧ Prompt encode need fs (n - (encode f).length)) := by
  constructor
  · intro h here
    refine ⟨?_, ?_⟩
    · simpa using h [] f fs rfl (by simpa using here)
    · intro front g back split whole
      have later := h (f :: front) g back (by rw [split]; rfl)
      simp only [List.flatMap_cons, List.length_append] at later
      omega
  · intro h front g back split whole
    cases front with
    | nil =>
        obtain ⟨rfl, rfl⟩ := List.cons.inj split
        simp only [List.flatMap_nil, List.length_nil, Nat.zero_add] at whole ⊢
        exact (h whole).1
    | cons d front =>
        obtain ⟨rfl, rfl⟩ := List.cons.inj split
        simp only [List.flatMap_cons, List.length_append] at whole ⊢
        have later := (h (by omega)).2 front g back rfl (by omega)
        omega

theorem ready_eq_whole_iff {n : Nat} (covers : ∀ f ∈ fs, (encode f).length ≤ need f) :
    ready encode need fs n = whole encode fs n ↔ Prompt encode need fs n := by
  induction fs generalizing n with
  | nil => simp [ready, whole, Prompt]
  | cons f fs ih =>
      have here := covers f (List.mem_cons_self ..)
      have later := ih (n := n - (encode f).length)
        fun g member => covers g (List.mem_cons_of_mem _ member)
      rw [prompt_cons, ready, whole]
      by_cases all : need f ≤ n
      · have inside : (encode f).length ≤ n := Nat.le_trans here all
        rw [if_pos all, if_pos inside, List.cons_inj_right, later]
        exact ⟨fun h _ => ⟨all, h⟩, fun h => (h inside).2⟩
      · rw [if_neg all]
        by_cases inside : (encode f).length ≤ n
        · rw [if_pos inside]
          exact iff_of_false (by simp) fun h => all (h inside).1
        · rw [if_neg inside]
          exact iff_of_true rfl fun here => absurd here inside

theorem Stable.drain_stream (stable : Stable next) (empty : next [] = .ok none)
    (yields : ∀ f ∈ fs, Yields next encode need f) {arrived : Bytes}
    (h : arrived <+: fs.flatMap encode) :
    drain next arrived = .ok (ready encode need fs arrived.length,
      arrived.drop ((ready encode need fs arrived.length).flatMap encode).length) := by
  induction fs generalizing arrived with
  | nil =>
      have nothing : arrived = [] := List.prefix_nil.mp h
      subst nothing
      exact drain_wait empty
  | cons f fs ih =>
      have here := yields f (List.mem_cons_self ..)
      rw [List.flatMap_cons] at h
      have step := here.next_eq h
      by_cases all : need f ≤ arrived.length
      · rw [if_pos all] at step
        have inside : (encode f).length ≤ arrived.length := Nat.le_trans here.covers all
        have tail : arrived.drop (encode f).length <+: fs.flatMap encode := by
          obtain ⟨missing, split⟩ := h
          refine ⟨missing, ?_⟩
          rw [← List.drop_append_of_le_length inside, split, List.drop_left]
        have later := ih (fun g member => yields g (List.mem_cons_of_mem _ member)) tail
        rw [stable.drain_frame step, later, ready, if_pos all]
        simp only [Outcome.ok_bind, Outcome.pure_eq_ok, List.length_drop, List.drop_drop,
          List.flatMap_cons, List.length_append]
      · rw [if_neg all] at step
        rw [drain_wait step, ready, if_neg all]
        rfl

/-- Cut a stream of frames anywhere: after the bytes read so far, exactly the whole
frames are out and exactly the partial one is left if and only if none is held back. -/
theorem Stable.feed_exact_iff (stable : Stable next) (empty : next [] = .ok none)
    (yields : ∀ f ∈ fs, Yields next encode need f) {reads : List Bytes}
    (h : reads.flatten <+: fs.flatMap encode) :
    feed next [] reads =
        .ok (whole encode fs reads.flatten.length, partialBytes encode fs reads.flatten.length) ↔
      Prompt encode need fs reads.flatten.length := by
  have arrived : (fs.flatMap encode).take reads.flatten.length = reads.flatten :=
    (List.prefix_iff_eq_take.mp h).symm
  rw [← ready_eq_whole_iff fun f member => (yields f member).covers,
    stable.feed_eq_drain empty, List.nil_append, stable.drain_stream empty yields h]
  constructor
  · intro same
    exact (Prod.mk.inj (Outcome.ok.inj same)).1
  · intro same
    rw [partialBytes, arrived, same]

/-! ### Serving frames as they arrive -/

section Serving

variable {σ : Type} (take : σ → φ → σ) (ended : σ → Bool) {s : σ}

/-- Every frame is taken before the next is looked at. Nothing is left to go on with once
the state has ended or the decoder has failed. -/
def serveFuel (next : Decoder ε φ) : Nat → Bytes → σ → σ × Option Bytes
  | 0, pending, s => (s, some pending)
  | fuel + 1, pending, s =>
      match next pending with
      | .ok none => (s, some pending)
      | .ok (some (f, used)) =>
          if ended (take s f) then (take s f, none)
          else serveFuel next fuel (pending.drop used) (take s f)
      | _ => (s, none)

def serve (next : Decoder ε φ) (pending : Bytes) (s : σ) : σ × Option Bytes :=
  serveFuel take ended next (pending.length + 1) pending s

theorem serve_eq (next : Decoder ε φ) (pending : Bytes) (s : σ) :
    serve take ended next pending s =
      match next pending with
      | .ok none => (s, some pending)
      | .ok (some (f, used)) =>
          if ended (take s f) then (take s f, none)
          else serveFuel take ended next pending.length (pending.drop used) (take s f)
      | _ => (s, none) := rfl

def converse (next : Decoder ε φ) : Bytes → σ → List Bytes → σ × Option Bytes
  | pending, s, [] => (s, some pending)
  | pending, s, read :: reads =>
      match serve take ended next (pending ++ read) s with
      | (s, none) => (s, none)
      | (s, some rest) => converse next rest s reads

theorem Stable.serveFuel_eq (stable : Stable next) {fuel enough : Nat}
    (h : pending.length < fuel) (k : pending.length < enough) :
    serveFuel take ended next fuel pending s = serveFuel take ended next enough pending s := by
  induction fuel generalizing pending enough s with
  | zero => omega
  | succ fuel ih =>
      cases enough with
      | zero => omega
      | succ enough =>
          rw [serveFuel, serveFuel]
          match found : next pending with
          | .err e | .panic | .ok none => rfl
          | .ok (some (f, used)) =>
              have shorter := stable.shorter found
              simp only [@ih (pending.drop used) (take s f) enough (by omega) (by omega)]

theorem Stable.serve_frame (stable : Stable next) {f : φ} {used : Nat}
    (h : next pending = .ok (some (f, used))) :
    serve take ended next pending s =
      if ended (take s f) then (take s f, none)
      else serve take ended next (pending.drop used) (take s f) := by
  have shorter := stable.shorter h
  rw [serve_eq, h]
  simp only [stable.serveFuel_eq take ended shorter (Nat.lt_succ_self _)]
  rfl

theorem Stable.serve_append (stable : Stable next) (pending more : Bytes) (s : σ) :
    serve take ended next (pending ++ more) s =
      match serve take ended next pending s with
      | (s, none) => (s, none)
      | (s, some rest) => serve take ended next (rest ++ more) s := by
  induction size : pending.length using Nat.strong_induction_on generalizing pending s with
  | _ size ih =>
      subst size
      match found : next pending with
      | .ok none => simp [serve_eq, found]
      | .err e | .panic =>
          have later := (stable.decided (by rw [found]; simp) more).trans found
          simp [serve_eq, found, later]
      | .ok (some (f, used)) =>
          have later := (stable.decided (by rw [found]; simp) more).trans found
          have inside := (stable.progress found).2
          have shorter := stable.shorter found
          rw [stable.serve_frame take ended later, stable.serve_frame take ended found,
            List.drop_append_of_le_length inside]
          by_cases past : ended (take s f) = true
          · rw [if_pos past, if_pos past]
          · rw [if_neg past, if_neg past, ih _ shorter _ _ rfl]

/-- However the bytes are cut into reads, the states that serving them goes through and what
is left depend on the bytes alone. -/
theorem Stable.converse_eq_serve (stable : Stable next)
    (waits : serve take ended next pending s = (s, some pending)) (reads : List Bytes) :
    converse take ended next pending s reads =
      serve take ended next (pending ++ reads.flatten) s := by
  induction reads generalizing pending s with
  | nil => rw [converse, List.flatten_nil, List.append_nil, waits]
  | cons read reads ih =>
      have whole := stable.serve_append take ended (pending ++ read) [] s
      rw [converse, List.flatten_cons, ← List.append_assoc,
        stable.serve_append take ended (pending ++ read) reads.flatten]
      cases first : serve take ended next (pending ++ read) s with
      | mk t left =>
          cases left with
          | none => rfl
          | some rest =>
              rw [List.append_nil, first] at whole
              simp only [List.append_nil] at whole
              exact ih whole.symm

end Serving

end Decoder
end Library
