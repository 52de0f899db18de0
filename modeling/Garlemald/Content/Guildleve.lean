import Garlemald.Content.DirectorRegistry

/-!
The life of a guildleve under its director. Every call is made under the lock of the zone, and
its events go to the players that were members before it, as far as they have a client. The
seals of a completed leve are paid where its end is dispatched.
-/

namespace Garlemald.Content

open Library

structure GuildleveWork where
  startTime : UInt32 := 0
  aimNum : Fin 4 → Int8
  aimNumNow : Fin 4 → Int8 := fun _ => 0
  uiState : Fin 4 → Int8
  signal : Int8 := 0

namespace GuildleveWork

def resetFromGamedata (aimNum : Fin 4 → Int8) : GuildleveWork where
  aimNum := aimNum
  uiState i := if aimNum i ≠ 0 then 1 else 0

def clearOnEnd (w : GuildleveWork) : GuildleveWork := { w with startTime := 0, signal := -1 }

end GuildleveWork

inductive LeveDirectorEvent where
  | base (event : DirectorEvent)
  | guildleveStarted (directorId guildleveId : UInt32) (difficulty : UInt8)
      (location timeLimitSeconds startTimeUnix : UInt32)
  | guildleveEnded (directorId guildleveId : UInt32) (wasCompleted : Bool)
      (completionTimeSeconds : UInt32) (difficulty : UInt8)
  | guildleveAbandoned (directorId guildleveId : UInt32)
  | guildleveAimUpdated (directorId : UInt32) (index : UInt8) (value : Int8)
  | guildleveUiUpdated (directorId : UInt32) (index : UInt8) (value : Int8)
  | guildleveSyncAll (directorId : UInt32)

structure LeveDirector extends GuildleveDirector where
  work : GuildleveWork
  isEnded : Bool := false
  completionTimeSeconds : UInt32 := 0

inductive LeveCall where
  | base (call : DirectorCall)
  | startGuildleve (now : UInt32)
  | endGuildleve (now : UInt32) (wasCompleted : Bool)
  | abandonGuildleve (now : UInt32)
  | updateAimNumNow (index : UInt8) (value : Int8)
  | updateUiState (index : UInt8) (value : Int8)
  | syncAll

namespace LeveDirector

def new (localId zoneId : UInt32) (args : GuildleveArgs) : LeveDirector :=
  { GuildleveDirector.new localId zoneId args with work := .resetFromGamedata args.aimNumTemplate }

variable (g : LeveDirector)

def startGuildleve (now : UInt32) : LeveDirector × List LeveDirectorEvent :=
  ({ g with work := { g.work with startTime := now } },
    [.guildleveStarted g.base.actorId g.guildleveId g.difficulty g.location g.timeLimitSeconds now,
      .guildleveSyncAll g.base.actorId])

def endGuildleve (now : UInt32) (wasCompleted : Bool) : LeveDirector × List LeveDirectorEvent :=
  if g.isEnded then (g, [])
  else
    let seconds := if g.work.startTime ≤ now then now - g.work.startTime else 0
    ({ g with isEnded := true, completionTimeSeconds := seconds, work := g.work.clearOnEnd },
      [.guildleveEnded g.base.actorId g.guildleveId wasCompleted seconds g.difficulty])

def abandonGuildleve (now : UInt32) : LeveDirector × List LeveDirectorEvent :=
  let ended := g.endGuildleve now false
  let torn := ended.1.base.endDirector
  ({ ended.1 with base := torn.1 },
    .guildleveAbandoned g.base.actorId g.guildleveId :: ended.2 ++ torn.2.map .base)

/-- The call with what it puts into the outbox; `none` is a panic. An index that is out of range
does nothing. -/
def call : LeveCall → Option (LeveDirector × List LeveDirectorEvent)
  | .base c => (g.base.call c).map fun r => ({ g with base := r.1 }, r.2.map .base)
  | .startGuildleve now => some (g.startGuildleve now)
  | .endGuildleve now wasCompleted => some (g.endGuildleve now wasCompleted)
  | .abandonGuildleve now => some (g.abandonGuildleve now)
  | .updateAimNumNow index value =>
      if h : index.toNat < 4 then
        some ({ g with work.aimNumNow := Function.update g.work.aimNumNow ⟨_, h⟩ value },
          [.guildleveAimUpdated g.base.actorId index value])
      else some (g, [])
  | .updateUiState index value =>
      if h : index.toNat < 4 then
        some ({ g with work.uiState := Function.update g.work.uiState ⟨_, h⟩ value },
          [.guildleveUiUpdated g.base.actorId index value])
      else some (g, [])
  | .syncAll => some (g, [.guildleveSyncAll g.base.actorId])

end LeveDirector

/-! ### What the players are told -/

inductive LeveNotice where
  | music (id : UInt16)
  | text (id : UInt16) (params : List UInt32)
  | removeActor (actorId : UInt32)
  | sealReward (difficulty : UInt8)
deriving DecidableEq

def pickMusic (location : UInt32) : Option UInt16 :=
  if location = 1 then some 22
  else if location = 2 then some 14
  else if location = 3 then some 26
  else if location = 4 then some 16
  else none

/-- What `dispatch_director_event` sends to a member or pays it; the rest is only logged. -/
def LeveDirectorEvent.notices : LeveDirectorEvent → List LeveNotice
  | .base (.directorEnded directorId _) => [.removeActor directorId]
  | .guildleveStarted _ guildleveId difficulty location timeLimitSeconds _ =>
      (pickMusic location).toList.map .music ++
        [.text 50022 [guildleveId, difficulty.toUInt32], .text 50026 [timeLimitSeconds]]
  | .guildleveEnded _ guildleveId true _ difficulty =>
      [.music 81, .text 50023 [guildleveId], .sealReward difficulty]
  | .guildleveAbandoned _ guildleveId => [.text 50147 [guildleveId]]
  | _ => []

/-- A director with what its members were told and paid, the latest last. -/
structure Leve where
  director : LeveDirector
  told : List (UInt32 × LeveNotice) := []

namespace Leve

def recipients (s : Leve) (online : UInt32 → Bool) : List UInt32 :=
  s.director.base.playerMembers.ids.filter online

/-- The roster is the one before the call, which may clear it. -/
def applyDirectorOutboxOp (s : Leve) (c : LeveCall × (UInt32 → Bool)) : Option Leve :=
  (s.director.call c.1).map fun r =>
    ⟨r.1, s.told ++ r.2.flatMap fun e =>
      (s.recipients c.2).flatMap fun player => e.notices.map (player, ·)⟩

def payment : UInt32 × LeveNotice → Option (UInt32 × UInt8)
  | (player, .sealReward difficulty) => some (player, difficulty)
  | _ => none

def paid (s : Leve) : List (UInt32 × UInt8) := s.told.filterMap payment

/-- What a call pays to those who are told of it. -/
def payout (s : Leve) (c : LeveCall × (UInt32 → Bool)) : List (UInt32 × UInt8) :=
  match c.1 with
  | .endGuildleve _ true => (s.recipients c.2).map (·, s.director.difficulty)
  | _ => []

end Leve

def LeveCall.ends : LeveCall → Bool
  | .endGuildleve .. | .abandonGuildleve _ => true
  | _ => false

namespace Leve

variable {s s' : Leve} {c : LeveCall × (UInt32 → Bool)}

def reward : LeveDirectorEvent → Option UInt8
  | .guildleveEnded _ _ true _ difficulty => some difficulty
  | _ => none

theorem payments (player : UInt32) (e : LeveDirectorEvent) :
    (e.notices.map (player, ·)).filterMap payment = (reward e).toList.map (player, ·) := by
  match e with
  | .guildleveStarted _ _ _ location _ _ =>
      cases found : pickMusic location <;>
        simp [LeveDirectorEvent.notices, found, payment, reward]
  | .base event => cases event <;> rfl
  | .guildleveEnded _ _ wasCompleted _ _ => cases wasCompleted <;> rfl
  | .guildleveAbandoned .. | .guildleveAimUpdated .. | .guildleveUiUpdated ..
  | .guildleveSyncAll _ => rfl

theorem isEnded_endGuildleve (g : LeveDirector) (now : UInt32) (wasCompleted : Bool) :
    (g.endGuildleve now wasCompleted).1.isEnded = true := by
  rw [LeveDirector.endGuildleve]
  split
  · next ended => exact ended
  · rfl

theorem reward_failed {g : LeveDirector} {now : UInt32} :
    ∀ e ∈ (g.endGuildleve now false).2, reward e = none := by
  rw [LeveDirector.endGuildleve]
  split
  · exact List.forall_mem_nil _
  · exact List.forall_mem_singleton.mpr rfl

/-- Only the first end is told of, and paid if the leve was completed. -/
theorem paid_call (taken : s.applyDirectorOutboxOp c = some s') :
    s'.director.isEnded = (s.director.isEnded || c.1.ends) ∧
      s'.paid = s.paid ++ if s.director.isEnded then [] else s.payout c := by
  obtain ⟨call, online⟩ := c
  obtain ⟨⟨g, events⟩, called, rfl⟩ := Option.map_eq_some_iff.mp taken
  have silent (es : List DirectorEvent) :
      (es.map LeveDirectorEvent.base).flatMap (fun e => (s.recipients online).flatMap fun player =>
        (reward e).toList.map (player, ·)) = [] := by
    simp [List.flatMap_map, reward]
  simp only [paid, List.filterMap_append, List.filterMap_flatMap, payments]
  simp only [LeveDirector.call] at called
  cases call with
  | base c =>
      obtain ⟨r, _, same⟩ := Option.map_eq_some_iff.mp called
      cases same
      simp [silent, LeveCall.ends, payout]
  | startGuildleve now =>
      cases called
      simp [reward, LeveCall.ends, payout]
  | endGuildleve now wasCompleted =>
      simp only [LeveDirector.endGuildleve] at called
      by_cases ended : s.director.isEnded = true
      · rw [if_pos ended] at called
        cases called
        simp [ended]
      · rw [if_neg ended] at called
        cases called
        cases wasCompleted <;>
          simp [ended, reward, LeveCall.ends, payout, List.map_eq_flatMap]
  | abandonGuildleve now =>
      cases called
      have abandoned (actorId guildleveId : UInt32) :
          reward (.guildleveAbandoned actorId guildleveId) = none := rfl
      refine ⟨?_, ?_⟩
      · rw [isEnded_endGuildleve, LeveCall.ends, Bool.or_true]
      · rw [List.cons_append, List.flatMap_cons, List.flatMap_append, silent, abandoned]
        simpa [payout] using fun e among _ _ => reward_failed e among
  | updateAimNumNow index value | updateUiState index value =>
      simp only at called
      split at called <;> cases called <;> simp [reward, LeveCall.ends, payout]
  | syncAll =>
      cases called
      simp [reward, LeveCall.ends, payout]

theorem paid_ended {cs : List (LeveCall × (UInt32 → Bool))} (ended : s.director.isEnded = true)
    (reached : run applyDirectorOutboxOp s cs = some s') : s'.paid = s.paid := by
  induction cs generalizing s with
  | nil =>
      cases reached
      rfl
  | cons c cs ih =>
      obtain ⟨mid, taken, later⟩ := Option.bind_eq_some_iff.mp reached
      obtain ⟨still, paid⟩ := paid_call taken
      rw [ih (by rw [still, ended, Bool.true_or]) later, paid, if_pos ended, List.append_nil]

/-- The leve has paid nothing more, or what the first of its ends pays: the seals, once to every
member that is told of a completion, and nothing for a leve that fails or is abandoned. -/
def PaysOnce (s s' : Leve) (cs : List (LeveCall × (UInt32 → Bool))) : Prop :=
  (s'.director.isEnded = false ∧ s'.paid = s.paid) ∨
    ∃ front c back before, cs = front ++ c :: back ∧
      run applyDirectorOutboxOp s front = some before ∧ before.director.isEnded = false ∧
      c.1.ends = true ∧ s'.paid = s.paid ++ before.payout c ∧
      ((before.payout c).map Prod.fst).Nodup

theorem paid_once {cs : List (LeveCall × (UInt32 → Bool))} (going : s.director.isEnded = false)
    (reached : run applyDirectorOutboxOp s cs = some s') : PaysOnce s s' cs := by
  induction cs generalizing s with
  | nil =>
      cases reached
      exact .inl ⟨going, rfl⟩
  | cons c cs ih =>
      obtain ⟨mid, taken, later⟩ := Option.bind_eq_some_iff.mp reached
      obtain ⟨state, paid⟩ := paid_call taken
      rw [going, Bool.false_or] at state
      rw [going, if_neg Bool.false_ne_true] at paid
      cases ends : c.1.ends with
      | true =>
          refine .inr ⟨[], c, cs, s, rfl, rfl, going, ends, ?_, ?_⟩
          · rw [paid_ended (state.trans ends) later, paid]
          · rw [payout]
            split
            · have once := s.director.base.playerMembers.once.filter c.2
              simpa [Function.comp_def, recipients] using once
            · exact .nil
      | false =>
          have nothing : s.payout c = [] := by
            obtain ⟨call, _⟩ := c
            cases call <;> first | rfl | cases ends
          rw [nothing, List.append_nil] at paid
          obtain same | ⟨front, d, back, before, rfl, ran, rest⟩ := ih (state.trans ends) later
          · exact .inl (paid ▸ same)
          · refine .inr ⟨c :: front, d, back, before, rfl, ?_, paid ▸ rest⟩
            rw [run, List.foldlM_cons, taken]
            exact ran

def hunt : Leve :=
  ⟨.new 1 100 ⟨123456, 3, 7, 20024, 1, 600, fun _ => 5⟩, []⟩

def hunted : List (LeveCall × (UInt32 → Bool)) :=
  [(.base (.addMember 7 true), fun _ => true), (.endGuildleve 500 true, fun _ => true)]

theorem paid_once_hunt :
    PaysOnce hunt ((run applyDirectorOutboxOp hunt hunted).getD hunt) hunted :=
  paid_once rfl rfl

end Leve
end Garlemald.Content
