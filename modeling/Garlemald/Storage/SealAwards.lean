import Garlemald.Storage.Dealings
import Garlemald.Battle.KillRewards
import Garlemald.Quest.Leves

/-!
The seals of a company that kills, completed leves and hand-ins pay. A kill and a completion read
the balance and add to it in a call of their own, with other payouts in between; a hand-in adds
without a look at the balance.
-/

namespace Garlemald.Storage

open Library
open Battle (Enlistment rankSealCap)

structure Member where
  gcCurrent : UInt8
  gcRankLimsa : UInt8
  gcRankGridania : UInt8
  gcRankUldah : UInt8

def Member.rank (m : Member) : Option UInt8 :=
  Enlistment.rank ⟨m.gcCurrent, m.gcRankLimsa, m.gcRankGridania, m.gcRankUldah, 0⟩

def isValidGc (gc : UInt8) : Bool :=
  gc == GC_MAELSTROM || gc == GC_TWIN_ADDER || gc == GC_IMMORTAL_FLAMES

def leveCompletionSealReward : UInt8 → ℤ
  | 1 => 150
  | 2 => 250
  | 3 => 350
  | 4 => 450
  | 5 => 550
  | _ => 0

inductive SealPayout where
  | kill (mobLevel : Int16)
  | completion (difficulty : UInt8)
deriving DecidableEq

def SealPayout.baseReward : SealPayout → ℤ
  | kill mobLevel => max 1 (min mobLevel.toInt 100)
  | completion difficulty => leveCompletionSealReward difficulty

namespace Database

def getSeals (db : Database) (chara : UInt32) (gc : UInt8) : Option ℤ :=
  match sealItemId gc with
  | none => some 0
  | some sealId =>
      match (db.held chara PKG_CURRENCY_CRYSTALS { itemId := sealId }).head? with
      | some (_, stack) => readI32 stack.quantity
      | none => some 0

variable {limit : UInt32 → ℤ} {db : Database} {chara : UInt32} {gc : UInt8} {sealId : UInt32}

theorem getSeals_eq (tidy : Tidy limit db chara) (company : sealItemId gc = some sealId) :
    db.getSeals chara gc = some (db.total chara PKG_CURRENCY_CRYSTALS { itemId := sealId }) := by
  rw [getSeals, company]
  cases first : (db.held chara PKG_CURRENCY_CRYSTALS { itemId := sealId }).head? with
  | none =>
      dsimp only
      rw [first, total, List.head?_eq_none_iff.mp first]
      rfl
  | some stack =>
      dsimp only
      rw [first, tidy.total_currency first]
      exact (tidy.held_fit (List.mem_of_mem_head? first)).read

end Database

structure SealAward where
  payout : SealPayout
  cap : ℤ
  current : ℤ

def SealAward.grant (a : SealAward) : ℤ := min a.payout.baseReward (a.cap - a.current)

/-- The tables with the awards that have read the balance and not yet added to it. -/
structure SealTable where
  db : Database
  pending : ℕ → Option SealAward := fun _ => none

/-- A statement on the tables may fail. -/
inductive SealStep where
  | read (call : ℕ) (payout : SealPayout) (fails : Bool)
  | add (call : ℕ) (fails : Bool)
  | handIn (data : RegionalLeveData) (band : Fin 4) (fails : Bool)

namespace SealTable

variable (chara : UInt32) (m : Member)

def addSeals (s : SealTable) (gc : UInt8) (delta : Int32) (fails : Bool) : SealTable :=
  if fails then s else { s with db := s.db.after (s.db.addSeals chara gc delta) }

/-- The first part of `award_grand_company_seals` and of `award_leve_completion_seals`. -/
def read (s : SealTable) (call : ℕ) (payout : SealPayout) (fails : Bool) : SealTable :=
  match m.rank with
  | none => s
  | some rank =>
      let cap : ℤ := rankSealCap rank
      if payout.baseReward ≤ 0 ∨ cap = 0 then s
      else
        let current := if fails then 0 else (s.db.getSeals chara m.gcCurrent).getD 0
        let award : SealAward := ⟨payout, cap, current⟩
        if current ≥ cap ∨ award.grant ≤ 0 then s
        else { s with pending := Function.update s.pending call (some award) }

/-- The last part of `apply_regional_leve_hand_in`. -/
def handIn (s : SealTable) (data : RegionalLeveData) (band : Fin 4) (fails : Bool) : SealTable :=
  if data.leveType = .battlecraft ∧ isValidGc m.gcCurrent then
    let seals := data.rewardGil band / 2
    if 0 < seals then s.addSeals chara m.gcCurrent seals fails else s
  else s

def step (s : SealTable) : SealStep → Option SealTable
  | .read call payout fails =>
      if (s.pending call).isSome then none else some (s.read chara m call payout fails)
  | .add call fails =>
      (s.pending call).map fun award =>
        addSeals chara { s with pending := Function.update s.pending call none } m.gcCurrent
          (Int32.ofInt award.grant) fails
  | .handIn data band fails => some (s.handIn chara m data band fails)

def balance (s : SealTable) : ℤ := (s.db.getSeals chara m.gcCurrent).getD 0

def room (cap : ℤ) (s : SealTable) : ℤ := max (cap - s.balance chara m) 0

/-- What a step owes: an award the lesser of its reward and the room, when it is over. -/
def owed (cap : ℤ) (s : SealTable) : SealStep → ℤ
  | .read call payout fails =>
      if ((s.read chara m call payout fails).pending call).isSome then 0
      else min (max payout.baseReward 0) (s.room chara m cap)
  | .add call _ =>
      ((s.pending call).map fun award =>
        min award.payout.baseReward (s.room chara m cap)).getD 0
  | .handIn data band _ =>
      if data.leveType = .battlecraft then
        min (max (data.rewardGil band / 2).toInt 0) (s.room chara m cap)
      else 0

/-- A step adds what it owes, takes no balance beyond the cap and ends its award. -/
structure Exact (cap : ℤ) (s : SealTable) (e : SealStep) (s' : SealTable) : Prop where
  granted : s'.balance chara m = s.balance chara m + s.owed chara m cap e
  capped : s'.balance chara m ≤ max (s.balance chara m) cap
  ended : ∀ call fails, e = .add call fails → s'.pending call = none

/-- The amount fits below the cap, or the balance is the largest and takes nothing. -/
def Fits (cap : ℤ) (s : SealTable) (amount : ℤ) : Prop :=
  amount ≤ cap - s.balance chara m ∨ s.balance chara m = 2 ^ 31 - 1

/-- The balance that an award has read is still there, or the whole reward has room; a hand-in has
room for all its seals. A write fails only where there is no room. -/
def Meets (cap : ℤ) (s : SealTable) : SealStep → Prop
  | .read _ _ _ => True
  | .add call fails => ∀ award, s.pending call = some award →
      if fails then cap ≤ s.balance chara m
      else award.current = s.balance chara m ∨ s.Fits chara m cap award.payout.baseReward
  | .handIn data band fails => data.leveType = .battlecraft → 0 < data.rewardGil band / 2 →
      if fails then cap ≤ s.balance chara m
      else s.Fits chara m cap (data.rewardGil band / 2).toInt

variable {chara m} {limit : UInt32 → ℤ} {cap : ℤ} {s s' : SealTable} {rank : UInt8}

/-- Each award under way has read a balance below the cap, and no payout has lowered it since. -/
structure Ready (chara : UInt32) (m : Member) (limit : UInt32 → ℤ) (cap : ℤ) (s : SealTable) :
    Prop where
  sound : s.db.Sound
  tidy : Database.Tidy limit s.db chara
  awards : ∀ call award, s.pending call = some award →
    award.cap = cap ∧ 0 < award.payout.baseReward ∧ 0 ≤ award.current ∧ award.current < cap ∧
      award.current ≤ s.balance chara m

theorem sealItemId_of_rank (enlisted : m.rank = some rank) :
    (∃ sealId, sealItemId m.gcCurrent = some sealId) ∧ isValidGc m.gcCurrent = true := by
  rw [Member.rank, Enlistment.rank] at enlisted
  have company : m.gcCurrent = GC_MAELSTROM ∨ m.gcCurrent = GC_TWIN_ADDER ∨
      m.gcCurrent = GC_IMMORTAL_FLAMES := by
    split at enlisted
    · next first => exact .inl first
    · split at enlisted
      · next second => exact .inr (.inl second)
      · split at enlisted
        · next third => exact .inr (.inr third)
        · cases enlisted
  rw [sealItemId, isValidGc]
  obtain current | current | current := company <;>
    · rw [current]
      exact ⟨⟨_, rfl⟩, rfl⟩

theorem rankSealCap_le (rank : UInt8) : (rankSealCap rank : ℤ) ≤ 100000 := by
  dsimp only [rankSealCap]
  split <;> decide

theorem baseReward_le (payout : SealPayout) : payout.baseReward ≤ 550 := by
  cases payout with
  | kill mobLevel =>
      rw [SealPayout.baseReward]
      omega
  | completion difficulty =>
      rw [SealPayout.baseReward, leveCompletionSealReward.eq_def]
      split <;> decide

theorem effect_addSeals {sealId : UInt32} (company : sealItemId m.gcCurrent = some sealId)
    (sound : s.db.Sound) (tidy : Database.Tidy limit s.db chara) (delta : Int32) :
    Database.Effect limit chara s.db (s.db.after (s.db.addSeals chara m.gcCurrent delta))
      (Database.only chara PKG_CURRENCY_CRYSTALS sealId
        (max (saturateI32 (s.db.total chara PKG_CURRENCY_CRYSTALS { itemId := sealId } +
          delta.toInt)) 0 - s.db.total chara PKG_CURRENCY_CRYSTALS { itemId := sealId }) chara)
      0 := by
  rw [Database.addSeals, company]
  exact Database.effect_currency sound tidy chara sealId _ delta

section Enlisted

variable (enlisted : m.rank = some rank) (tidy : Database.Tidy limit s.db chara)

include enlisted tidy

theorem balance_bounds : 0 ≤ s.balance chara m ∧ s.balance chara m < 2 ^ 31 := by
  obtain ⟨⟨sealId, company⟩, _⟩ := sealItemId_of_rank enlisted
  rw [balance, Database.getSeals_eq tidy company, Option.getD_some]
  cases first : (s.db.held chara PKG_CURRENCY_CRYSTALS { itemId := sealId }).head? with
  | none =>
      rw [Database.total, List.head?_eq_none_iff.mp first]
      decide
  | some stack =>
      rw [tidy.total_currency first]
      have fit := tidy.held_fit (List.mem_of_mem_head? first)
      exact ⟨fit.nonneg, fit.1⟩

theorem addSeals_tidy (sound : s.db.Sound) (delta : Int32) (fails : Bool) :
    (s.addSeals chara m.gcCurrent delta fails).db.Sound ∧
      Database.Tidy limit (s.addSeals chara m.gcCurrent delta fails).db chara := by
  obtain ⟨⟨sealId, company⟩, _⟩ := sealItemId_of_rank enlisted
  cases fails with
  | true => exact ⟨sound, tidy⟩
  | false =>
      have added := effect_addSeals company sound tidy delta
      exact ⟨added.sound, added.tidy⟩

theorem addSeals_balance (sound : s.db.Sound) {delta : Int32} (gain : 0 ≤ delta.toInt)
    (fails : Bool) :
    (s.addSeals chara m.gcCurrent delta fails).balance chara m =
      if fails then s.balance chara m
      else min (s.balance chara m + delta.toInt) (2 ^ 31 - 1) := by
  obtain ⟨⟨sealId, company⟩, _⟩ := sealItemId_of_rank enlisted
  obtain ⟨least, _⟩ := balance_bounds enlisted tidy
  cases fails with
  | true => rfl
  | false =>
      have added := effect_addSeals company sound tidy delta
      have after : (s.addSeals chara m.gcCurrent delta false).db =
          s.db.after (s.db.addSeals chara m.gcCurrent delta) := rfl
      rw [balance, Database.getSeals_eq tidy company, Option.getD_some] at least
      rw [if_neg Bool.false_ne_true, balance, after, Database.getSeals_eq added.tidy company,
        Option.getD_some, added.total, Database.only, if_pos ⟨rfl, rfl, rfl⟩, balance,
        Database.getSeals_eq tidy company, Option.getD_some, saturateI32]
      omega

end Enlisted

theorem owed_le_room (e : SealStep) : s.owed chara m cap e ≤ s.room chara m cap := by
  cases e with
  | read call payout fails =>
      rw [owed]
      split
      · exact le_max_right _ _
      · exact min_le_right _ _
  | add call fails =>
      rw [owed]
      cases s.pending call with
      | none => exact le_max_right _ _
      | some award => exact min_le_right _ _
  | handIn data band fails =>
      rw [owed]
      split
      · exact min_le_right _ _
      · exact le_max_right _ _

theorem Exact.of_granted {e : SealStep}
    (granted : s'.balance chara m = s.balance chara m + s.owed chara m cap e)
    (ended : ∀ call fails, e = .add call fails → s'.pending call = none) :
    Exact chara m cap s e s' := by
  refine ⟨granted, ?_, ended⟩
  have most : s.owed chara m cap e ≤ s.room chara m cap := owed_le_room e
  rw [room] at most
  omega

theorem read_cases (enlisted : m.rank = some rank) (tidy : Database.Tidy limit s.db chara)
    (call : ℕ) (payout : SealPayout) (fails : Bool) :
    (s.read chara m call payout fails = s ∧
      min (max payout.baseReward 0) (s.room chara m (rankSealCap rank)) = 0) ∨
    ∃ award : SealAward,
      s.read chara m call payout fails =
          { s with pending := Function.update s.pending call (some award) } ∧
        award.cap = rankSealCap rank ∧ 0 < award.payout.baseReward ∧ 0 ≤ award.current ∧
        award.current < rankSealCap rank ∧ award.current ≤ s.balance chara m := by
  obtain ⟨least, _⟩ := balance_bounds enlisted tidy
  rw [read, enlisted, room]
  dsimp only
  split
  · next unpaid =>
      refine .inl ⟨rfl, ?_⟩
      omega
  · next paid =>
      have seen : 0 ≤ (if fails = true then 0 else s.balance chara m) ∧
          (if fails = true then 0 else s.balance chara m) ≤ s.balance chara m := by
        split <;> omega
      rw [← balance]
      generalize (if fails = true then 0 else s.balance chara m) = current at seen
      split
      · next full =>
          refine .inl ⟨rfl, ?_⟩
          rw [SealAward.grant] at full
          dsimp only at full
          omega
      · next short =>
          refine .inr ⟨_, rfl, rfl, ?_, seen.1, ?_, seen.2⟩
          · dsimp only
            omega
          · dsimp only
            omega

theorem Ready.read (enlisted : m.rank = some rank)
    (ready : Ready chara m limit (rankSealCap rank) s) (call : ℕ) (payout : SealPayout)
    (fails : Bool) :
    Ready chara m limit (rankSealCap rank) (s.read chara m call payout fails) := by
  obtain ⟨same, _⟩ | ⟨award, same, facts⟩ := read_cases enlisted ready.tidy call payout fails
  · rw [same]
    exact ready
  · rw [same]
    refine ⟨ready.sound, ready.tidy, fun other found there => ?_⟩
    by_cases here : other = call
    · subst here
      dsimp only at there
      rw [Function.update_self] at there
      cases there
      exact facts
    · dsimp only at there
      rw [Function.update_of_ne here] at there
      exact ready.awards other found there

theorem read_exact (enlisted : m.rank = some rank)
    (ready : Ready chara m limit (rankSealCap rank) s) (call : ℕ) (payout : SealPayout)
    (fails : Bool) :
    Exact chara m (rankSealCap rank) s (.read call payout fails)
      (s.read chara m call payout fails) := by
  have same_db : (s.read chara m call payout fails).balance chara m = s.balance chara m := by
    obtain ⟨same, _⟩ | ⟨award, same, _⟩ := read_cases enlisted ready.tidy call payout fails
    · rw [same]
    · rw [same]
      rfl
  refine .of_granted ?_ fun _ _ other => SealStep.noConfusion other
  rw [same_db, owed]
  split
  · exact (add_zero _).symm
  · next beyond =>
      obtain ⟨_, nothing⟩ | ⟨award, same, _⟩ := read_cases enlisted ready.tidy call payout fails
      · omega
      · rw [same] at beyond
        dsimp only at beyond
        rw [Function.update_self] at beyond
        exact absurd rfl beyond

private theorem stale_grant {reward cap current now : ℤ} (positive : 0 < reward)
    (below : current < cap) (grown : current ≤ now) (bound : cap ≤ 100000) :
    min (now + min reward (cap - current)) (2 ^ 31 - 1) = now + min reward (max (cap - now) 0) ↔
      current = now ∨ reward ≤ cap - now ∨ now = 2 ^ 31 - 1 := by
  omega

private theorem whole_grant {seals cap now : ℤ} (positive : 0 < seals)
    (bound : cap ≤ 100000) :
    min (now + seals) (2 ^ 31 - 1) = now + min seals (max (cap - now) 0) ↔
      seals ≤ cap - now ∨ now = 2 ^ 31 - 1 := by
  omega

theorem Ready.add (enlisted : m.rank = some rank) (ready : Ready chara m limit (rankSealCap rank) s)
    {pending : ℕ → Option SealAward}
    (fewer : ∀ call award, pending call = some award → s.pending call = some award)
    {delta : Int32} (gain : 0 ≤ delta.toInt) (fails : Bool) :
    Ready chara m limit (rankSealCap rank)
      (addSeals chara { s with pending } m.gcCurrent delta fails) := by
  have tidy : Database.Tidy limit ({ s with pending } : SealTable).db chara := ready.tidy
  obtain ⟨sound_after, tidy_after⟩ := addSeals_tidy enlisted tidy ready.sound delta fails
  refine ⟨sound_after, tidy_after, fun call award there => ?_⟩
  have kept : (addSeals chara { s with pending } m.gcCurrent delta fails).pending = pending := by
    cases fails <;> rfl
  rw [kept] at there
  obtain ⟨cap, reward, low, below, grown⟩ := ready.awards call award (fewer call award there)
  refine ⟨cap, reward, low, below, grown.trans ?_⟩
  obtain ⟨_, small⟩ := balance_bounds enlisted ready.tidy
  have balance_eq : ({ s with pending } : SealTable).balance chara m = s.balance chara m := rfl
  rw [addSeals_balance enlisted tidy ready.sound gain fails, balance_eq]
  split <;> omega

theorem Ready.grant_toInt (ready : Ready chara m limit (rankSealCap rank) s) {call : ℕ}
    {award : SealAward} (there : s.pending call = some award) :
    0 < award.grant ∧ (Int32.ofInt award.grant).toInt = award.grant := by
  obtain ⟨cap, reward, low, below, _⟩ := ready.awards call award there
  have most := baseReward_le award.payout
  have bounds : 0 < award.grant ∧ award.grant ≤ 550 := by
    rw [SealAward.grant, cap]
    omega
  refine ⟨bounds.1, Int32.toInt_ofInt_of_le ?_ ?_⟩ <;> omega

theorem add_exact (enlisted : m.rank = some rank)
    (ready : Ready chara m limit (rankSealCap rank) s) {call : ℕ} {award : SealAward}
    (there : s.pending call = some award) (fails : Bool) :
    Exact chara m (rankSealCap rank) s (.add call fails)
        (addSeals chara { s with pending := Function.update s.pending call none } m.gcCurrent
          (Int32.ofInt award.grant) fails) ↔
      s.Meets chara m (rankSealCap rank) (.add call fails) := by
  obtain ⟨cap, reward, low, below, grown⟩ := ready.awards call award there
  obtain ⟨positive, grant⟩ := ready.grant_toInt there
  obtain ⟨least, small⟩ := balance_bounds enlisted ready.tidy
  have bound := rankSealCap_le rank
  set settled : SealTable := { s with pending := Function.update s.pending call none }
  have tidy : Database.Tidy limit settled.db chara := ready.tidy
  have gain : 0 ≤ (Int32.ofInt award.grant).toInt := by omega
  have added := addSeals_balance enlisted tidy ready.sound gain fails
  have before : settled.balance chara m = s.balance chara m := rfl
  have owes : s.owed chara m (rankSealCap rank) (.add call fails) =
      min award.payout.baseReward (s.room chara m (rankSealCap rank)) := by
    rw [owed, there]
    rfl
  have meets : s.Meets chara m (rankSealCap rank) (.add call fails) ↔
      if fails then (rankSealCap rank : ℤ) ≤ s.balance chara m
      else award.current = s.balance chara m ∨
        s.Fits chara m (rankSealCap rank) award.payout.baseReward := by
    rw [Meets]
    refine ⟨fun all => all award there, fun holds other found => ?_⟩
    rw [there] at found
    cases found
    exact holds
  have ended : (settled.addSeals chara m.gcCurrent (Int32.ofInt award.grant) fails).pending call =
      none := by
    have kept : (settled.addSeals chara m.gcCurrent (Int32.ofInt award.grant) fails).pending =
        settled.pending := by
      cases fails <;> rfl
    rw [kept]
    exact Function.update_self _ _ _
  rw [before, grant] at added
  rw [meets]
  have whole : (settled.addSeals chara m.gcCurrent (Int32.ofInt award.grant) fails).balance
        chara m = s.balance chara m + s.owed chara m (rankSealCap rank) (.add call fails) ↔
      if fails then (rankSealCap rank : ℤ) ≤ s.balance chara m
      else award.current = s.balance chara m ∨
        s.Fits chara m (rankSealCap rank) award.payout.baseReward := by
    rw [added, owes, room]
    cases fails with
    | true =>
        rw [if_pos rfl, if_pos rfl]
        omega
    | false =>
        rw [if_neg Bool.false_ne_true, if_neg Bool.false_ne_true, SealAward.grant, cap, Fits]
        exact stale_grant reward below grown bound
  refine ⟨fun exact => whole.mp exact.granted, fun holds => ?_⟩
  apply Exact.of_granted (whole.mpr holds)
  intro other lost same
  cases same
  exact ended

theorem handIn_cases (enlisted : m.rank = some rank) (data : RegionalLeveData) (band : Fin 4)
    (fails : Bool) :
    (s.handIn chara m data band fails = s ∧
      (data.leveType = .battlecraft → (data.rewardGil band / 2).toInt ≤ 0)) ∨
    (s.handIn chara m data band fails =
        s.addSeals chara m.gcCurrent (data.rewardGil band / 2) fails ∧
      data.leveType = .battlecraft ∧ 0 < (data.rewardGil band / 2).toInt) := by
  obtain ⟨_, company⟩ := sealItemId_of_rank enlisted
  rw [handIn]
  by_cases kind : data.leveType = .battlecraft
  · rw [if_pos ⟨kind, company⟩]
    dsimp only
    by_cases some_seals : 0 < data.rewardGil band / 2
    · rw [if_pos some_seals]
      exact .inr ⟨rfl, kind, Int32.lt_iff_toInt_lt.mp some_seals⟩
    · rw [if_neg some_seals]
      refine .inl ⟨rfl, fun _ => ?_⟩
      rw [Int32.lt_iff_toInt_lt] at some_seals
      exact Int.not_lt.mp some_seals
  · rw [if_neg fun both => kind both.1]
    exact .inl ⟨rfl, fun other => absurd other kind⟩

theorem Ready.handIn (enlisted : m.rank = some rank)
    (ready : Ready chara m limit (rankSealCap rank) s) (data : RegionalLeveData) (band : Fin 4)
    (fails : Bool) :
    Ready chara m limit (rankSealCap rank) (s.handIn chara m data band fails) := by
  obtain ⟨same, _⟩ | ⟨same, _, some_seals⟩ := handIn_cases enlisted data band fails
  · rw [same]
    exact ready
  · rw [same]
    exact Ready.add enlisted ready (fun _ _ there => there) (Int.le_of_lt some_seals) fails

theorem handIn_exact (enlisted : m.rank = some rank)
    (ready : Ready chara m limit (rankSealCap rank) s) (data : RegionalLeveData) (band : Fin 4)
    (fails : Bool) :
    Exact chara m (rankSealCap rank) s (.handIn data band fails)
        (s.handIn chara m data band fails) ↔
      s.Meets chara m (rankSealCap rank) (.handIn data band fails) := by
  obtain ⟨least, small⟩ := balance_bounds enlisted ready.tidy
  have bound := rankSealCap_le rank
  have seals : (0 : Int32) < data.rewardGil band / 2 ↔ 0 < (data.rewardGil band / 2).toInt :=
    Int32.lt_iff_toInt_lt
  obtain ⟨same, unpaid⟩ | ⟨same, kind, some_seals⟩ := handIn_cases enlisted data band fails
  · rw [same]
    refine iff_of_true ⟨?_, le_max_left _ _, fun _ _ other => SealStep.noConfusion other⟩ ?_
    · rw [owed, room]
      split
      · next kind =>
          have none := unpaid kind
          omega
      · exact (add_zero _).symm
    · intro kind some_seals
      have none := unpaid kind
      rw [seals] at some_seals
      omega
  · have added := addSeals_balance enlisted ready.tidy ready.sound (Int.le_of_lt some_seals) fails
    have meets : s.Meets chara m (rankSealCap rank) (.handIn data band fails) ↔
        if fails then (rankSealCap rank : ℤ) ≤ s.balance chara m
        else s.Fits chara m (rankSealCap rank) (data.rewardGil band / 2).toInt :=
      ⟨fun all => all kind (seals.mpr some_seals), fun holds _ _ => holds⟩
    have owes : s.owed chara m (rankSealCap rank) (.handIn data band fails) =
        min (data.rewardGil band / 2).toInt (s.room chara m (rankSealCap rank)) := by
      rw [owed, if_pos kind, max_eq_left (Int.le_of_lt some_seals)]
    rw [same, meets]
    have whole : (s.addSeals chara m.gcCurrent (data.rewardGil band / 2) fails).balance chara m =
        s.balance chara m + s.owed chara m (rankSealCap rank) (.handIn data band fails) ↔
          if fails then (rankSealCap rank : ℤ) ≤ s.balance chara m
          else s.Fits chara m (rankSealCap rank) (data.rewardGil band / 2).toInt := by
      rw [added, owes, room]
      cases fails with
      | true =>
          rw [if_pos rfl, if_pos rfl]
          omega
      | false =>
          rw [if_neg Bool.false_ne_true, if_neg Bool.false_ne_true, Fits]
          exact whole_grant some_seals bound
    refine ⟨fun exact => whole.mp exact.granted, fun holds => ?_⟩
    exact .of_granted (whole.mpr holds) fun _ _ other => SealStep.noConfusion other

theorem step_exact (enlisted : m.rank = some rank)
    (ready : Ready chara m limit (rankSealCap rank) s) {e : SealStep}
    (taken : step chara m s e = some s') :
    Ready chara m limit (rankSealCap rank) s' ∧
      (Exact chara m (rankSealCap rank) s e s' ↔ s.Meets chara m (rankSealCap rank) e) := by
  cases e with
  | read call payout fails =>
      rw [step] at taken
      split at taken
      · cases taken
      · cases taken
        exact ⟨ready.read enlisted call payout fails,
          iff_of_true (read_exact enlisted ready call payout fails) trivial⟩
  | add call fails =>
      obtain ⟨award, there, rfl⟩ := Option.map_eq_some_iff.mp taken
      refine ⟨ready.add enlisted ?_ ?_ fails, add_exact enlisted ready there fails⟩
      · intro other found kept
        by_cases here : other = call
        · subst here
          rw [Function.update_self] at kept
          cases kept
        · rw [Function.update_of_ne here] at kept
          exact kept
      · have grant := ready.grant_toInt there
        omega
  | handIn data band fails =>
      cases taken
      exact ⟨ready.handIn enlisted data band fails, handIn_exact enlisted ready data band fails⟩

/--
Over any interleaving each award grants the lesser of its reward and the room, and no balance goes
beyond the cap, exactly if each write of an award finds the balance that was read or room for the
reward, and each hand-in room for its seals.
-/
theorem seal_awards_exact_iff (enlisted : m.rank = some rank) {db : Database} (sound : db.Sound)
    (tidy : Database.Tidy limit db chara) (es : List SealStep) :
    EachStep (step chara m)
        (fun s e => ∀ s', step chara m s e = some s' →
          Exact chara m (rankSealCap rank) s e s') { db } es ↔
      EachStep (step chara m) (Meets chara m (rankSealCap rank)) { db } es := by
  have start : Ready chara m limit (rankSealCap rank) { db } :=
    ⟨sound, tidy, fun call award there => by cases there⟩
  refine EachStep.congr_of_inv ?_ ?_ start
  · intro s e s' ready taken
    have exact_iff := (step_exact enlisted ready taken).2
    refine ⟨fun all => exact_iff.mp (all s' taken), fun meets other again => ?_⟩
    rw [taken] at again
    cases again
    exact exact_iff.mpr meets
  · intro s e s' ready _ taken
    exact (step_exact enlisted ready taken).1

private def recruit : Member := ⟨GC_MAELSTROM, 11, 127, 127⟩

private def nearCap : SealTable where
  db := Database.empty.insertItem 1 PKG_CURRENCY_CRYSTALS 0 ⟨SEAL_STORM, 9990, 1⟩

private def battleLeve : RegionalLeveData where
  id := 140001
  leveType := .battlecraft
  objectiveTargetId := fun _ => 35
  objectiveQuantity := fun _ => 3
  rewardItemId := fun _ => 0
  rewardQuantity := fun _ => 0
  rewardGil := fun _ => 1200

theorem seal_awards_exact_iff_kill :
    EachStep (step 1 recruit)
      (fun s e => ∀ s', step 1 recruit s e = some s' → Exact 1 recruit 10000 s e s')
      { db := .empty } [.read 0 (.kill 10) false, .add 0 false] := by
  have member : recruit.rank = some 11 := rfl
  have tidy := Database.tidy_empty (fun _ => 99) 1
  apply (seal_awards_exact_iff member Database.sound_empty tidy _).mpr
  intro s read
  cases read
  refine ⟨trivial, fun s' added => ⟨fun award there => ?_, trivial⟩⟩
  cases there
  exact .inl rfl

/-- With room for ten seals, a hand-in takes the balance to 10590 and two kills of level twenty
that both read it first take it to 10010, where the cap is 10000. -/
theorem cap_passed :
    nearCap.balance 1 recruit = 9990 ∧ recruit.rank = some 11 ∧ rankSealCap 11 = 10000 ∧
      (run (step 1 recruit) nearCap [.handIn battleLeve 0 false]).map (balance 1 recruit) =
        some 10590 ∧
      (run (step 1 recruit) nearCap [.read 0 (.kill 20) false, .read 1 (.kill 20) false,
        .add 0 false, .add 1 false]).map (balance 1 recruit) = some 10010 := by
  decide

end SealTable

end Garlemald.Storage
