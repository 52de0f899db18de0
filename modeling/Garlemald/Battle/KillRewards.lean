import Garlemald.Battle.HitPoints
import Garlemald.Content.Teardown

/-!
What a death pays. The look at the fallen, the turn to the dead and the rewards are apart, and the
calls of other attackers run in between: all that look before the turn are paid.
-/

namespace Garlemald.Battle

open Library Actor
open Content (ActorKindTag)

def GC_MAELSTROM : UInt8 := 1
def GC_TWIN_ADDER : UInt8 := 2
def GC_IMMORTAL_FLAMES : UInt8 := 3

def rankSealCap : UInt8 → ℕ
  | 11 => 10000
  | 13 => 15000
  | 15 => 20000
  | 17 => 25000
  | 21 => 30000
  | 23 => 35000
  | 25 => 40000
  | 27 => 45000
  | 31 | 33 | 35 => 50000
  | 41 | 43 | 45 => 60000
  | 51 | 53 | 55 | 57 => 70000
  | 100 => 100000
  | 127 => 10000
  | _ => 0

structure Enlistment where
  gcCurrent : UInt8
  gcRankLimsa : UInt8
  gcRankGridania : UInt8
  gcRankUldah : UInt8
  seals : ℕ

def Enlistment.rank (e : Enlistment) : Option UInt8 :=
  if e.gcCurrent = GC_MAELSTROM then some e.gcRankLimsa
  else if e.gcCurrent = GC_TWIN_ADDER then some e.gcRankGridania
  else if e.gcCurrent = GC_IMMORTAL_FLAMES then some e.gcRankUldah
  else none

def Enlistment.grant (e : Enlistment) (mobLevel : Int16) : Option ℕ := do
  let cap := rankSealCap (← e.rank)
  let baseReward := (max 1 (min mobLevel.toInt 100)).toNat
  if e.seals < cap then some (min baseReward (cap - e.seals)) else none

/-- What a call meets when it goes on: around it, at its own attacker, and in the tables. -/
structure Finding where
  env : Surroundings
  attackerAlive : Bool
  outcome : ActionOutcome
  registered : Bool
  enlistment : Enlistment
  persists : Bool
  mobLevel : Int16
  selfPays : Bool
  baseKillExp : ℕ

inductive Reward where
  | seals
  | expChain
  | exp
  | onKillBnpc
deriving DecidableEq

/-- Where a call waits: for the lock on the defender, for its look at the fallen, for the lock of
the death, and so on. -/
inductive Await where
  | defender
  | look
  | death
  | killGate
  | attacker
  | reward (next : Reward)
  | nothing
deriving DecidableEq

/-- A call under way; that of a scripted death has no attacker. Its blow may have felled the
defender, in one of its lives. -/
structure Call where
  attacker : Option ActorKindTag
  scripts : Bool
  db : Bool
  awaits : Await
  felled : Option ℕ

def Call.afterDeath (c : Call) : Await := if c.attacker.isSome then .attacker else .nothing

def Finding.pays (f : Finding) (c : Call) : Reward → Bool
  | .seals => (f.enlistment.grant f.mobLevel).isSome && f.persists
  | .expChain => !f.selfPays && f.baseKillExp != 0
  | .exp => true
  | .onKillBnpc => c.scripts

def Finding.next (f : Finding) (c : Call) : Reward → Await
  | .seals => .reward .expChain
  | .expChain => if f.pays c .expChain then .reward .exp else .reward .onKillBnpc
  | .exp => .reward .onKillBnpc
  | .onKillBnpc => .nothing

/-- A battle npc and the calls on it. The lives it had, and what its present life has paid so far
and to whose call, are kept beside. -/
structure Fight where
  defender : Combatant
  calls : List Call
  life : ℕ
  paid : List (Reward × ℕ)
  killGates : ℕ

/-- Calls begin and go on in any order; between two awaits each runs alone. Ticks, recalculations
and effects change the defender in between, but not its state of death. -/
inductive FightOp where
  | resolve (attacker : ActorKindTag) (scripts db : Bool)
  | die (scripts db : Bool)
  | advance (call : ℕ) (finding : Finding)
  | revive
  | affect (chara : Chara) (lostOnDeath : ℕ)

namespace Fight

def move (s : Fight) (i : ℕ) (c : Call) (awaits : Await) : Fight :=
  { s with calls := s.calls.set i { c with awaits := awaits } }

def advance (s : Fight) (i : ℕ) (c : Call) (f : Finding) : Option Fight :=
  match c.awaits with
  | .defender =>
      if f.attackerAlive && (s.defender.isAlive || f.outcome.isHeal) then do
        let d ← s.defender.undergo f.env f.outcome
        let felled := if s.defender.isAlive && !d.isAlive then some s.life else c.felled
        return { s with
          defender := d
          calls := s.calls.set i { c with awaits := .look, felled := felled } }
      else some (s.move i c .nothing)
  | .look =>
      some (s.move i c
        (if s.defender.isAlive || s.defender.isMarkedDead then .nothing else .death))
  | .death =>
      if s.defender.isMarkedDead then some (s.move i c c.afterDeath)
      else
        some { s.move i c (if c.scripts && c.db then .killGate else c.afterDeath) with
          defender := s.defender.die }
  | .killGate => some { s.move i c c.afterDeath with killGates := s.killGates + 1 }
  | .attacker =>
      some (s.move i c
        (if c.attacker = some .player ∧ f.registered = true ∧ c.db = true then .reward .seals
        else .nothing))
  | .reward r =>
      some { s.move i c (f.next c r) with
        paid := if f.pays c r then s.paid ++ [(r, i)] else s.paid }
  | .nothing => some s

def step (s : Fight) : FightOp → Option Fight
  | .resolve attacker scripts db =>
      some { s with calls := s.calls ++ [⟨some attacker, scripts, db, .defender, none⟩] }
  | .die scripts db => some { s with calls := s.calls ++ [⟨none, scripts, db, .death, none⟩] }
  | .advance i f =>
      match s.calls[i]? with
      | none => some s
      | some c => s.advance i c f
  | .revive =>
      if s.defender.isMarkedDead then do
        let d ← s.defender.applyRevive
        return { s with defender := d, life := s.life + 1, paid := [], killGates := 0 }
      else some s
  | .affect chara lostOnDeath =>
      some { s with defender := { s.defender with chara := chara, lostOnDeath := lostOnDeath } }

def fresh (defender : Combatant) : Fight := ⟨defender, [], 0, [], 0⟩

/-- Since the last revival each reward went out once at most, and to a call whose blow felled the
defender; the gate was tried once if the defender died. -/
structure PaidOnce (s : Fight) : Prop where
  once : (s.paid.map Prod.fst).Nodup
  earned : ∀ reward i, (reward, i) ∈ s.paid → ∃ c, s.calls[i]? = some c ∧ c.felled = some s.life
  gate : s.killGates ≤ 1
  gated : s.defender.isMarkedDead = true → (∀ c ∈ s.calls, c.awaits ≠ .killGate) → s.killGates = 1

end Fight

def Call.Payable (c : Call) : Prop := c.attacker = some .player ∧ c.db = true

def Await.claims : Await → Bool
  | .death | .killGate | .attacker | .reward _ => true
  | .defender | .look | .nothing => false

def Call.Claims (c : Call) : Prop := c.Payable ∧ c.awaits.claims = true

/-- The condition on an event. A call that finds the defender fallen has felled it itself, and no
other call is about to be paid; a death has scripts and a database; a revival waits for the
rewards of the death before it. -/
def Fight.Fits (s : Fight) : FightOp → Prop
  | .advance i _ => ∀ c ∈ s.calls[i]?,
      (c.awaits = .look → s.defender.isAlive = false → s.defender.isMarkedDead = false →
        c.Payable → c.felled = some s.life ∧ ∀ d ∈ s.calls, ¬ d.Claims) ∧
      (c.awaits = .death → s.defender.isMarkedDead = false → c.scripts = true ∧ c.db = true)
  | .revive => s.defender.isMarkedDead = true →
      ∀ d ∈ s.calls, ¬ d.Claims ∧ d.awaits ≠ .killGate
  | _ => True

def Reward.rank : Reward → ℕ
  | .seals => 1
  | .expChain => 2
  | .exp => 3
  | .onKillBnpc => 4

def Await.reached : Await → ℕ
  | .reward r => r.rank
  | _ => 0

theorem Finding.rank_next (f : Finding) (c : Call) (r : Reward)
    (more : (f.next c r).claims = true) : r.rank < (f.next c r).reached := by
  cases r with
  | seals => exact Nat.lt_succ_self 1
  | expChain =>
      rw [next]
      split
      · exact Nat.lt_succ_self 2
      · change 2 < 4
        omega
  | exp => exact Nat.lt_succ_self 3
  | onKillBnpc => cases more

def Call.waitsGate (c : Call) : Bool := c.awaits = .killGate

theorem countP_set_add {α : Type} (hit : α → Bool) {xs : List α} {i : ℕ} {x : α}
    (there : xs[i]? = some x) (y : α) :
    (xs.set i y).countP hit + (hit x).toNat = xs.countP hit + (hit y).toNat := by
  obtain ⟨bound, same⟩ := List.getElem?_eq_some_iff.mp there
  have replaced := List.countP_set (p := hit) (a := y) bound
  have counted : (hit x).toNat ≤ xs.countP hit := by
    cases hits : hit x with
    | false => exact Nat.zero_le _
    | true => exact List.countP_pos_iff.mpr ⟨x, List.mem_of_getElem? there, hits⟩
  rw [same, ← Bool.cond_eq_ite, ← Bool.cond_eq_ite] at replaced
  change _ = _ - (hit x).toNat + (hit y).toNat at replaced
  omega

namespace Fight

variable {s s' : Fight} {i : ℕ} {c : Call}

def Gated (s : Fight) : Prop :=
  s.killGates + s.calls.countP Call.waitsGate = s.defender.isMarkedDead.toNat

/-- Between the look at the fallen and the last reward stands at most one call, whose blow felled
the defender; and what is paid was paid to such a call, in order. -/
structure Claimed (s : Fight) : Prop where
  alone : ∀ (i j : ℕ) (c d : Call), s.calls[i]? = some c → s.calls[j]? = some d →
    c.Claims → d.Claims → i = j
  felled : ∀ (i : ℕ) (c : Call), s.calls[i]? = some c → c.Claims → c.felled = some s.life
  turned : ∀ (i : ℕ) (c : Call), s.calls[i]? = some c → c.Claims → c.awaits ≠ .death →
    s.defender.isMarkedDead = true
  order : ∀ (i : ℕ) (c : Call), s.calls[i]? = some c → c.Claims →
    ∀ entry ∈ s.paid, entry.1.rank < c.awaits.reached
  owed : ∀ (i : ℕ) (c : Call) r, s.calls[i]? = some c → c.awaits = .reward r → c.Payable
  once : (s.paid.map Prod.fst).Nodup
  earned : ∀ reward i, (reward, i) ∈ s.paid → ∃ c, s.calls[i]? = some c ∧ c.felled = some s.life
  settled : s.paid ≠ [] → s.defender.isMarkedDead = true

variable {paid : List (Reward × ℕ)} {d : Combatant} {calls : List Call} {c' : Call}

theorem countP_waitsGate (idle : ∀ c ∈ calls, c.awaits ≠ .killGate) :
    calls.countP Call.waitsGate = 0 := by
  rw [List.countP_eq_zero]
  exact fun c inside waits => idle c inside (of_decide_eq_true waits)

theorem paidOnce (gated : s.Gated) (claimed : s.Claimed) : s.PaidOnce := by
  unfold Gated at gated
  refine ⟨claimed.once, claimed.earned, ?_, fun marked idle => ?_⟩
  · have most := s.defender.isMarkedDead.toNat_le
    omega
  · rw [countP_waitsGate idle, marked] at gated
    exact gated

theorem calls_set {j : ℕ} {c' d : Call} (there : (calls.set i c')[j]? = some d) :
    j = i ∧ d = c' ∨ j ≠ i ∧ calls[j]? = some d := by
  rw [List.getElem?_set] at there
  split at there
  · rename_i same
    split at there
    · exact .inl ⟨same.symm, (Option.some.inj there).symm⟩
    · cases there
  · rename_i different
    exact .inr ⟨fun same => different same.symm, there⟩

theorem earned_set {life : ℕ}
    (held : ∀ reward j, (reward, j) ∈ paid → ∃ d, calls[j]? = some d ∧ d.felled = some life)
    (there : calls[i]? = some c) (felled : c.felled = some life → c'.felled = some life) :
    ∀ reward j, (reward, j) ∈ paid →
      ∃ d, (calls.set i c')[j]? = some d ∧ d.felled = some life := by
  intro reward j inside
  obtain ⟨d, found, hers⟩ := held reward j inside
  rw [List.getElem?_set]
  by_cases same : i = j
  · subst same
    rw [found] at there
    cases there
    rw [if_pos rfl, if_pos (List.getElem?_eq_some_iff.mp found).1]
    exact ⟨c', rfl, felled hers⟩
  · rw [if_neg same]
    exact ⟨d, found, hers⟩

theorem Claimed.set (held : s.Claimed) (there : s.calls[i]? = some c)
    {gates : ℕ} (felled : c.felled = some s.life → c'.felled = some s.life)
    (marked : s.defender.isMarkedDead = true → d.isMarkedDead = true)
    (claims : c'.Claims → c.Claims ∧ c.awaits.reached ≤ c'.awaits.reached ∧
      (c'.awaits ≠ .death → d.isMarkedDead = true))
    (owed : ∀ r, c'.awaits = .reward r → c'.Payable) :
    Claimed { s with defender := d, calls := s.calls.set i c', killGates := gates } where
  alone j k a b foundA foundB claimsA claimsB := by
    rcases calls_set foundA with ⟨rfl, rfl⟩ | ⟨_, oldA⟩
    · rcases calls_set foundB with ⟨rfl, _⟩ | ⟨_, oldB⟩
      · rfl
      · exact held.alone _ _ _ _ there oldB (claims claimsA).1 claimsB
    · rcases calls_set foundB with ⟨rfl, rfl⟩ | ⟨_, oldB⟩
      · exact held.alone _ _ _ _ oldA there claimsA (claims claimsB).1
      · exact held.alone _ _ _ _ oldA oldB claimsA claimsB
  felled j a found claimsA := by
    rcases calls_set found with ⟨rfl, rfl⟩ | ⟨_, old⟩
    · exact felled (held.felled _ _ there (claims claimsA).1)
    · exact held.felled _ _ old claimsA
  turned j a found claimsA past := by
    rcases calls_set found with ⟨rfl, rfl⟩ | ⟨_, old⟩
    · exact (claims claimsA).2.2 past
    · exact marked (held.turned _ _ old claimsA past)
  order j a found claimsA entry inside := by
    rcases calls_set found with ⟨rfl, rfl⟩ | ⟨_, old⟩
    · obtain ⟨before, further, _⟩ := claims claimsA
      exact (held.order _ _ there before entry inside).trans_le further
    · exact held.order _ _ old claimsA entry inside
  owed j a r found waits := by
    rcases calls_set found with ⟨rfl, rfl⟩ | ⟨_, old⟩
    · exact owed r waits
    · exact held.owed _ _ r old waits
  once := held.once
  earned := earned_set held.earned there felled
  settled some_ := marked (held.settled some_)

theorem Claimed.claim (held : s.Claimed) (there : s.calls[i]? = some c)
    (unmarked : s.defender.isMarkedDead = false)
    (mine : c.Payable → c.felled = some s.life ∧ ∀ d ∈ s.calls, ¬ d.Claims) :
    (s.move i c .death).Claimed := by
  have unpaid : s.paid = [] := by
    by_contra some_
    rw [held.settled some_] at unmarked
    cases unmarked
  have others : ∀ {j : ℕ} {d : Call}, s.calls[j]? = some d → c.Payable → ¬ d.Claims :=
    fun found payable => (mine payable).2 _ (List.mem_of_getElem? found)
  refine ⟨fun j k a b foundA foundB claimsA claimsB => ?_, fun j a found claimsA => ?_,
    fun j a found claimsA past => ?_, fun j a found claimsA entry inside => ?_,
    fun j a r found waits => ?_, held.once,
    earned_set held.earned there id, held.settled⟩
  · rcases calls_set foundA with ⟨rfl, rfl⟩ | ⟨_, oldA⟩
    · rcases calls_set foundB with ⟨rfl, _⟩ | ⟨_, oldB⟩
      · rfl
      · exact absurd claimsB (others oldB claimsA.1)
    · rcases calls_set foundB with ⟨rfl, rfl⟩ | ⟨_, oldB⟩
      · exact absurd claimsA (others oldA claimsB.1)
      · exact held.alone _ _ _ _ oldA oldB claimsA claimsB
  · rcases calls_set found with ⟨rfl, rfl⟩ | ⟨_, old⟩
    · exact (mine claimsA.1).1
    · exact held.felled _ _ old claimsA
  · rcases calls_set found with ⟨rfl, rfl⟩ | ⟨_, old⟩
    · exact absurd rfl past
    · exact held.turned _ _ old claimsA past
  · rw [move, unpaid] at inside
    cases inside
  · rcases calls_set found with ⟨rfl, rfl⟩ | ⟨_, old⟩
    · cases waits
    · exact held.owed _ _ r old waits

theorem Claimed.pay (held : s.Claimed) (there : s.calls[i]? = some c) {r : Reward} (f : Finding)
    (waits : c.awaits = .reward r) :
    Claimed { s.move i c (f.next c r) with
      paid := if f.pays c r then s.paid ++ [(r, i)] else s.paid } := by
  have payable := held.owed i c r there waits
  have claims : c.Claims := ⟨payable, by rw [waits]; rfl⟩
  have marked := held.turned i c there claims (by rw [waits]; exact Await.noConfusion)
  have below : ∀ entry ∈ s.paid, entry.1.rank < r.rank := by
    have order := held.order i c there claims
    rwa [waits] at order
  have moved : (s.move i c (f.next c r)).Claimed := by
    refine held.set there id id (fun after => ⟨claims, ?_, fun _ => marked⟩) fun _ _ => payable
    rw [waits]
    exact (f.rank_next c r after.2).le
  have mine : (s.move i c (f.next c r)).calls[i]? = some { c with awaits := f.next c r } := by
    rw [move, List.getElem?_set_self (List.getElem?_eq_some_iff.mp there).1]
  cases pays : f.pays c r with
  | false => exact moved
  | true =>
      refine ⟨moved.alone, moved.felled, moved.turned, fun j a found claimsA entry inside => ?_,
        moved.owed, ?_, fun reward j inside => ?_, fun _ => marked⟩
      · rcases calls_set found with ⟨rfl, rfl⟩ | ⟨different, old⟩
        · have further := f.rank_next c r claimsA.2
          rcases List.mem_append.mp inside with before | new
          · exact (below entry before).trans further
          · cases List.mem_singleton.mp new
            exact further
        · exact absurd (held.alone _ _ _ _ old there claimsA claims) different
      · rw [if_pos rfl, List.map_append, List.nodup_append]
        refine ⟨held.once, List.nodup_singleton _, fun a inA b inB same => ?_⟩
        obtain ⟨entry, inside, rfl⟩ := List.mem_map.mp inA
        cases List.mem_singleton.mp inB
        have less := below entry inside
        rw [same] at less
        exact lt_irrefl _ less
      · rcases List.mem_append.mp inside with before | new
        · exact moved.earned reward j before
        · cases List.mem_singleton.mp new
          exact ⟨_, mine, held.felled i c there claims⟩

theorem Claimed.begin (held : s.Claimed) (idle : ¬ c.Claims)
    (waits : ∀ r, c.awaits ≠ .reward r) : Claimed { s with calls := s.calls ++ [c] } := by
  have begun : ∀ {j : ℕ} {d : Call}, (s.calls ++ [c])[j]? = some d →
      s.calls[j]? = some d ∨ d = c := by
    intro j d found
    rw [List.getElem?_append] at found
    split at found
    · exact .inl found
    · exact .inr (List.mem_singleton.mp (List.mem_of_getElem? found))
  refine ⟨fun j k a b foundA foundB claimsA claimsB => ?_, fun j a found claimsA => ?_,
    fun j a found claimsA past => ?_, fun j a found claimsA entry inside => ?_,
    fun j a r found waitsA => ?_, held.once, fun reward j inside => ?_, held.settled⟩
  · rcases begun foundA with oldA | rfl
    · rcases begun foundB with oldB | rfl
      · exact held.alone _ _ _ _ oldA oldB claimsA claimsB
      · exact absurd claimsB idle
    · exact absurd claimsA idle
  · rcases begun found with old | rfl
    · exact held.felled _ _ old claimsA
    · exact absurd claimsA idle
  · rcases begun found with old | rfl
    · exact held.turned _ _ old claimsA past
    · exact absurd claimsA idle
  · rcases begun found with old | rfl
    · exact held.order _ _ old claimsA entry inside
    · exact absurd claimsA idle
  · rcases begun found with old | rfl
    · exact held.owed _ _ r old waitsA
    · exact absurd waitsA (waits r)
  · obtain ⟨d, found, hers⟩ := held.earned reward j inside
    have bound := (List.getElem?_eq_some_iff.mp found).1
    exact ⟨d, (List.getElem?_append_left bound).trans found, hers⟩

theorem Claimed.revive (held : s.Claimed) (idle : ∀ d ∈ s.calls, ¬ d.Claims) (d : Combatant) :
    Claimed { s with defender := d, life := s.life + 1, paid := [], killGates := 0 } where
  alone _ _ _ _ foundA _ claimsA := absurd claimsA (idle _ (List.mem_of_getElem? foundA))
  felled _ _ found claims := absurd claims (idle _ (List.mem_of_getElem? found))
  turned _ _ found claims := absurd claims (idle _ (List.mem_of_getElem? found))
  order _ _ found claims := absurd claims (idle _ (List.mem_of_getElem? found))
  owed := held.owed
  once := List.nodup_nil
  earned _ _ inside := by cases inside
  settled some_ := absurd rfl some_

theorem Gated.set (held : s.Gated) (there : s.calls[i]? = some c) {gates : ℕ}
    (sum : gates + c'.waitsGate.toNat + s.defender.isMarkedDead.toNat =
      s.killGates + c.waitsGate.toNat + d.isMarkedDead.toNat) :
    Gated { s with
      defender := d, calls := s.calls.set i c', paid := paid, killGates := gates } := by
  have waiting := countP_set_add Call.waitsGate there c'
  unfold Gated at held ⊢
  simp only
  omega

theorem Gated.quiet (held : s.Gated) (there : s.calls[i]? = some c)
    (before : c.awaits ≠ .killGate) (after : c'.awaits ≠ .killGate)
    (marked : d.isMarkedDead = s.defender.isMarkedDead) :
    Gated { s with defender := d, calls := s.calls.set i c', paid := paid } := by
  refine held.set there ?_
  rw [Call.waitsGate, Call.waitsGate, decide_eq_false before, decide_eq_false after, marked]

theorem Gated.begin (held : s.Gated) (waits : c.awaits ≠ .killGate) :
    Gated { s with calls := s.calls ++ [c] } := by
  unfold Gated at held ⊢
  rw [List.countP_append, List.countP_singleton, Call.waitsGate, decide_eq_false waits]
  exact held

theorem Gated.revive (idle : ∀ d ∈ s.calls, d.awaits ≠ .killGate)
    (unmarked : d.isMarkedDead = false) :
    Gated { s with defender := d, life := s.life + 1, paid := [], killGates := 0 } := by
  unfold Gated
  rw [unmarked, countP_waitsGate idle]
  rfl

end Fight

theorem Combatant.undergo_marked {env : Surroundings} {c d : Combatant} {outcome : ActionOutcome}
    (done : c.undergo env outcome = some d) : d.isMarkedDead = c.isMarkedDead := by
  cases outcome with
  | damage amount mods =>
      unfold undergo hit at done
      cases amount with
      | none =>
          cases done
          rfl
      | some amount =>
          simp only at done
          split at done
          · obtain ⟨_, _, _, rfl, _⟩ := addHp_spec done
            rfl
          · cases done
            rfl
  | heal amount =>
      obtain ⟨_, _, _, rfl, _⟩ := addHp_spec done
      rfl
  | status =>
      cases done
      rfl

theorem Combatant.applyRevive_marked {c d : Combatant} (dead : c.isMarkedDead = true)
    (done : c.applyRevive = some d) : d.isMarkedDead = false := by
  unfold applyRevive at done
  rw [if_pos dead] at done
  obtain ⟨chara, _, last⟩ := Option.bind_eq_some_iff.mp done
  cases last
  rfl

theorem Call.afterDeath_claims (c : Call) :
    c.afterDeath.reached = 0 ∧ c.afterDeath ≠ .killGate ∧ ∀ r, c.afterDeath ≠ .reward r := by
  unfold afterDeath
  split
  · exact ⟨rfl, Await.noConfusion, fun _ => Await.noConfusion⟩
  · exact ⟨rfl, Await.noConfusion, fun _ => Await.noConfusion⟩

theorem Finding.next_ne_killGate (f : Finding) (c : Call) (r : Reward) :
    f.next c r ≠ .killGate := by
  cases r with
  | expChain =>
      rw [next]
      split
      · exact Await.noConfusion
      · exact Await.noConfusion
  | seals | exp | onKillBnpc => exact Await.noConfusion

instance (c : Call) : Decidable c.Payable := inferInstanceAs (Decidable (_ ∧ _))

instance (c : Call) : Decidable c.Claims := inferInstanceAs (Decidable (_ ∧ _))

instance (s : Fight) : ∀ op, Decidable (s.Fits op)
  | .advance i _ => inferInstanceAs (Decidable (∀ c ∈ s.calls[i]?, _))
  | .revive => inferInstanceAs (Decidable (_ → _))
  | .resolve .. | .die .. | .affect .. => inferInstanceAs (Decidable True)

namespace Fight

variable {s s' : Fight} {i : ℕ} {c : Call} {f : Finding}

theorem keeps_leave (gated : s.Gated) (claimed : s.Claimed) (there : s.calls[i]? = some c)
    (open_ : c.awaits ≠ .killGate) :
    (s.move i c .nothing).Gated ∧ (s.move i c .nothing).Claimed := by
  refine ⟨gated.quiet there open_ Await.noConfusion rfl, ?_⟩
  refine claimed.set there id id (fun new => ?_) fun _ => Await.noConfusion
  cases new.2

theorem keeps_advance (gated : s.Gated) (claimed : s.Claimed) (there : s.calls[i]? = some c)
    (fits : s.Fits (.advance i f)) (done : s.advance i c f = some s') :
    s'.Gated ∧ s'.Claimed := by
  obtain ⟨looks, dies⟩ := fits c there
  unfold advance at done
  cases waits : c.awaits with
  | defender =>
      have open_ : c.awaits ≠ .killGate := by rw [waits]; exact Await.noConfusion
      rw [waits] at done
      simp only at done
      split at done
      · obtain ⟨d, struck, last⟩ := Option.bind_eq_some_iff.mp done
        cases last
        have same := Combatant.undergo_marked struck
        refine ⟨gated.quiet there open_ Await.noConfusion same, ?_⟩
        refine claimed.set there (fun hers => ?_) (fun dead => same.trans dead) (fun new => ?_)
          fun _ => Await.noConfusion
        · simp only
          split
          · rfl
          · exact hers
        · cases new.2
      · cases done
        exact keeps_leave gated claimed there open_
  | look =>
      have open_ : c.awaits ≠ .killGate := by rw [waits]; exact Await.noConfusion
      rw [waits] at done
      cases done
      split
      · exact keeps_leave gated claimed there open_
      · rename_i fallen
        obtain ⟨dead, unmarked⟩ := Bool.or_eq_false_iff.mp (Bool.eq_false_iff.mpr fallen)
        exact ⟨gated.quiet there open_ Await.noConfusion rfl,
          claimed.claim there unmarked (looks waits dead unmarked)⟩
  | death =>
      have open_ : c.awaits ≠ .killGate := by rw [waits]; exact Await.noConfusion
      have claims : ∀ {awaits}, Call.Claims { c with awaits := awaits } → c.Claims :=
        fun new => ⟨new.1, by rw [waits]; rfl⟩
      obtain ⟨reached, ungated, unowed⟩ := c.afterDeath_claims
      rw [waits] at done
      simp only at done
      split at done
      · rename_i dead
        cases done
        refine ⟨gated.quiet there open_ ungated rfl, ?_⟩
        refine claimed.set there id id (fun new => ⟨claims new, ?_, fun _ => dead⟩)
          fun r owes => absurd owes (unowed r)
        rw [waits]
        exact Nat.zero_le _
      · rename_i unmarked
        obtain ⟨scripts, db⟩ := dies waits (Bool.eq_false_iff.mpr unmarked)
        rw [scripts, db] at done
        cases done
        refine ⟨gated.set there ?_, ?_⟩
        · rw [Call.waitsGate, Call.waitsGate, decide_eq_false open_, Bool.eq_false_iff.mpr unmarked]
          rfl
        · refine claimed.set there id (fun _ => rfl) (fun new => ⟨claims new, ?_, fun _ => rfl⟩)
            fun _ => Await.noConfusion
          rw [waits]
          exact Nat.zero_le _
  | killGate =>
      obtain ⟨reached, ungated, unowed⟩ := c.afterDeath_claims
      rw [waits] at done
      cases done
      refine ⟨gated.set there ?_, ?_⟩
      · rw [Call.waitsGate, Call.waitsGate, decide_eq_true waits, decide_eq_false ungated]
        rfl
      · refine claimed.set there id id (fun new => ?_) fun r owes => absurd owes (unowed r)
        have before : c.Claims := ⟨new.1, by rw [waits]; rfl⟩
        refine ⟨before, ?_, fun _ => ?_⟩
        · rw [waits]
          exact Nat.zero_le _
        · exact claimed.turned i c there before (by rw [waits]; exact Await.noConfusion)
  | attacker =>
      have open_ : c.awaits ≠ .killGate := by rw [waits]; exact Await.noConfusion
      rw [waits] at done
      cases done
      split
      · rename_i paid
        have payable : c.Payable := ⟨paid.1, paid.2.2⟩
        have before : c.Claims := ⟨payable, by rw [waits]; rfl⟩
        refine ⟨gated.quiet there open_ Await.noConfusion rfl, ?_⟩
        refine claimed.set there id id (fun _ => ⟨before, ?_, fun _ => ?_⟩) fun _ _ => payable
        · rw [waits]
          exact Nat.zero_le _
        · exact claimed.turned i c there before (by rw [waits]; exact Await.noConfusion)
      · exact keeps_leave gated claimed there open_
  | reward r =>
      have open_ : c.awaits ≠ .killGate := by rw [waits]; exact Await.noConfusion
      rw [waits] at done
      cases done
      exact ⟨gated.quiet there open_ (f.next_ne_killGate c r) rfl, claimed.pay there f waits⟩
  | nothing =>
      rw [waits] at done
      cases done
      exact ⟨gated, claimed⟩

theorem keeps_step {op : FightOp} (gated : s.Gated) (claimed : s.Claimed) (fits : s.Fits op)
    (done : s.step op = some s') : s'.Gated ∧ s'.Claimed := by
  cases op with
  | resolve attacker scripts db =>
      cases done
      refine ⟨gated.begin Await.noConfusion, claimed.begin ?_ fun _ => Await.noConfusion⟩
      exact fun claims => Bool.false_ne_true claims.2
  | die scripts db =>
      cases done
      refine ⟨gated.begin Await.noConfusion, claimed.begin ?_ fun _ => Await.noConfusion⟩
      intro claims
      cases claims.1.1
  | advance i f =>
      simp only [step] at done
      cases there : s.calls[i]? with
      | none =>
          rw [there] at done
          cases done
          exact ⟨gated, claimed⟩
      | some c =>
          rw [there] at done
          exact keeps_advance gated claimed there fits done
  | revive =>
      simp only [step] at done
      split at done
      · rename_i dead
        obtain ⟨d, risen, last⟩ := Option.bind_eq_some_iff.mp done
        cases last
        have idle := fits dead
        have unmarked := Combatant.applyRevive_marked dead risen
        exact ⟨Gated.revive (fun c inside => (idle c inside).2) unmarked,
          claimed.revive (fun c inside => (idle c inside).1) d⟩
      · cases done
        exact ⟨gated, claimed⟩
  | affect chara lostOnDeath =>
      cases done
      exact ⟨gated, claimed.alone, claimed.felled, claimed.turned, claimed.order, claimed.owed,
        claimed.once, claimed.earned, claimed.settled⟩

theorem gated_fresh {defender : Combatant} (alive : defender.isMarkedDead = false) :
    (fresh defender).Gated := by
  rw [Gated, fresh, alive]
  rfl

theorem claimed_fresh (defender : Combatant) : (fresh defender).Claimed where
  alone _ _ _ _ found := by cases found
  felled _ _ found := by cases found
  turned _ _ found := by cases found
  order _ _ found := by cases found
  owed _ _ _ found := by cases found
  once := List.nodup_nil
  earned _ _ inside := by cases inside
  settled some_ := absurd rfl some_

/-- In a run whose events all meet their condition each death is paid once. -/
theorem deaths_paid_once {defender : Combatant} (alive : defender.isMarkedDead = false)
    {ops : List FightOp} (fits : EachStep step Fits (fresh defender) ops) :
    Always step PaidOnce (fresh defender) ops := by
  have start := And.intro (gated_fresh alive) (claimed_fresh defender)
  have held := always_of_eachStep (I := fun s => s.Gated ∧ s.Claimed)
    (fun _ _ _ kept meets done => keeps_step kept.1 kept.2 meets done) start fits
  exact held.mono fun _ kept => paidOnce kept.1 kept.2

def wolf : Combatant :=
  ⟨false, { classId := 2, level := 1, hp := 10, maxHp := 100 }, MAIN_STATE_PASSIVE, 0⟩

/-- A blow of 5 hit points by a private of the Maelstrom. -/
def blow : Finding where
  env := Combatants.wilderness
  attackerAlive := true
  outcome := .damage (some 5) {}
  registered := true
  enlistment := ⟨GC_MAELSTROM, 11, 0, 0, 0⟩
  persists := true
  mobLevel := 6
  selfPays := false
  baseKillExp := 601

def bothStrike : List FightOp :=
  [.resolve .player true true, .resolve .player true true, .advance 0 blow, .advance 1 blow]

def alone : List FightOp := List.replicate 8 (.advance 1 blow)

theorem deaths_paid_once_pair : Always step PaidOnce (fresh wolf)
    (bothStrike ++ alone ++ [.revive, .advance 0 blow]) :=
  deaths_paid_once rfl (by decide +kernel)

/-- Both look before either turns the wolf to the dead, and both are paid. -/
theorem deaths_paid_twice : wolf.isMarkedDead = false ∧ ∃ s,
    run step (fresh wolf) (bothStrike ++ .advance 0 blow :: alone ++
      List.replicate 6 (.advance 0 blow)) = some s ∧ ¬ s.PaidOnce := by
  have paid : (run step (fresh wolf) (bothStrike ++ .advance 0 blow :: alone ++
      List.replicate 6 (.advance 0 blow))).map (fun s => s.paid) = some
        [(.seals, 1), (.expChain, 1), (.exp, 1), (.onKillBnpc, 1),
          (.seals, 0), (.expChain, 0), (.exp, 0), (.onKillBnpc, 0)] := by
    decide +kernel
  obtain ⟨s, reached, both⟩ := Option.map_eq_some_iff.mp paid
  refine ⟨rfl, s, reached, fun held => ?_⟩
  have once := held.once
  rw [both] at once
  exact absurd once (by decide)

end Fight
end Garlemald.Battle
