import Garlemald.Quest.Leves
import Garlemald.Quest.Persistence
import Garlemald.Storage.SealAwards

/-!
What leves pay. An acceptance, an event, a hand-in and an abandoned quest change the journal at once
and write to the database after that, one statement after another, with other calls, logouts and
logins in between. A statement may fail, and the call goes on.
-/

namespace Garlemald.Quest

open Library
open Storage (PKG_NORMAL PKG_CURRENCY_CRYSTALS GIL_ITEM_ID sealItemId isValidGc)

/-! ### The calls -/

inductive LeveReward where
  | gil (amount : Int32)
  | item (itemId : UInt32) (quantity : Int32)
  | seals (gc : UInt8) (amount : Int32)
deriving DecidableEq

namespace LeveReward

def dealing (chara : UInt32) : LeveReward → Storage.Dealing
  | gil amount => .gil chara amount
  | item itemId quantity => .harvest chara itemId quantity 1
  | seals gc amount => .seals chara gc amount

def package : LeveReward → UInt16
  | item _ _ => PKG_NORMAL
  | gil _ | seals _ _ => PKG_CURRENCY_CRYSTALS

def itemId : LeveReward → UInt32
  | gil _ => GIL_ITEM_ID
  | item itemId _ => itemId
  | seals gc _ => (sealItemId gc).getD 0

def amount : LeveReward → Int32
  | gil amount => amount
  | item _ quantity => quantity
  | seals _ amount => amount

def held (chara : UInt32) (reward : LeveReward) (store : Storage.Database) : ℤ :=
  store.total chara reward.package { itemId := reward.itemId }

end LeveReward

/-- What a hand-in owes for a band, in the order in which it is paid. -/
def handInRewards (data : RegionalLeveData) (band : Fin 4) (gcCurrent : UInt8) : List LeveReward :=
  let gil := data.rewardGil band
  let itemId := data.rewardItemId band
  let itemQty := data.rewardQuantity band
  let seals := gil / 2
  (if 0 < gil then [.gil gil] else []) ++
    (if 0 < itemId ∧ 0 < itemQty then [.item itemId.toUInt32 itemQty] else []) ++
    if data.leveType = .battlecraft ∧ isValidGc gcCurrent = true ∧ 0 < seals then
      [.seals gcCurrent seals]
    else []

/-- The acceptance of a leve, counted from the first one of the player. -/
structure LeveAcceptance where
  slot : Fin 16
  leveId : UInt32
  band : Fin 4
deriving DecidableEq

/-- A save that is still to be made, of a quest as it was. -/
structure LeveSave where
  slot : Fin 16
  quest : Quest
  acceptance : ℕ

inductive LeveTask where
  | saves (left : List LeveSave)
  | abandon (questId : UInt32)
  | handIn (leveId : UInt32) (acceptance : ℕ) (rowLeft : Bool) (owed left given : List LeveReward)

structure LevePayment where
  acceptance : ℕ
  gcCurrent : UInt8
  owed : List LeveReward
deriving DecidableEq

/-- What a hand-in that reports `applied` owed and has delivered. -/
structure LeveHandInOutcome where
  owed : List LeveReward
  given : List LeveReward
deriving DecidableEq

/-- The journal of a player who is logged in, its rows and what it holds. Kept beside are the
acceptances, those of the quests and of the rows in the slots, what the events have given each, and
the hand-ins. -/
structure LeveWorld where
  journal : Option QuestJournal
  db : Database
  store : Storage.Database
  tasks : ℕ → Option LeveTask := fun _ => none
  acceptances : List LeveAcceptance := []
  acceptance : Fin 16 → ℕ := fun _ => 0
  rowAcceptance : Fin 16 → ℕ := fun _ => 0
  gained : ℕ → ℕ := fun _ => 0
  paid : List LevePayment := []
  outcomes : List LeveHandInOutcome := []

inductive LeveStep where
  | accept (call : ℕ) (leveId : UInt32) (difficulty : UInt8)
  | event (call : ℕ) (e : LeveEvent)
  | handIn (call : ℕ) (leveId : UInt32) (gcCurrent : UInt8)
  | abandon (call : ℕ) (questId : UInt32)
  | next (call : ℕ) (fails : Bool)
  | logout
  | login

namespace LeveWorld

variable (resolver : RegionalLeveResolver) (maxStack : UInt32 → Option ℤ) (chara : UInt32)

def begin (s : LeveWorld) (call : ℕ) (task : LeveTask) : LeveWorld :=
  { s with tasks := Function.update s.tasks call (some task) }

def acceptBand (difficulty : UInt8) : Fin 4 := ⟨min difficulty.toNat 3, by omega⟩

def acceptedQuest (leveId : UInt32) (difficulty : UInt8) : Quest :=
  { actorId := questActorId leveId
    data := ((({} : QuestData).setFlag ACCEPTED_FLAG_BIT).setCounter 1
      (UInt16.ofNat (acceptBand difficulty).val)) }

/-- `apply_accept_regional_leve` up to its save. -/
def accept (s : LeveWorld) (call : ℕ) (leveId : UInt32) (difficulty : UInt8) : LeveWorld :=
  match resolver.byId.lookup leveId, s.journal with
  | some _, some journal =>
      if journal.has leveId then s
      else
        let quest := (acceptedQuest leveId difficulty).clearDirty
        match journal.add quest with
        | none => s
        | some (slot, journal) =>
            let count := s.acceptances.length
            let accepted : LeveWorld := { s with
              journal := some journal
              acceptances := s.acceptances ++ [⟨slot, leveId, acceptBand difficulty⟩]
              acceptance := Function.update s.acceptance slot count }
            accepted.begin call (.saves [⟨slot, quest, count⟩])
  | _, _ => s

def hears (s : LeveWorld) (journal : QuestJournal) (e : LeveEvent) (acceptance : ℕ) : Bool :=
  (List.finRange 16).any fun i => s.acceptance i == acceptance &&
    (journal.slots i).any fun q => (resolver.ids e).contains q.questId

def event (s : LeveWorld) (call : ℕ) (e : LeveEvent) : LeveWorld :=
  match s.journal with
  | none => s
  | some journal =>
      let advance := e.advance resolver journal
      let advanced : LeveWorld := { s with
        journal := some advance.journal
        gained := fun acceptance =>
          if s.hears resolver journal e acceptance then s.gained acceptance + e.amount.toNat
          else s.gained acceptance }
      advanced.begin call
        (.saves (advance.saves.map fun save => ⟨save.1, save.2, s.acceptance save.1⟩))

/-- `apply_regional_leve_hand_in` up to the delete of the rows. -/
def handIn (s : LeveWorld) (call : ℕ) (leveId : UInt32) (gcCurrent : UInt8) : LeveWorld :=
  match resolver.byId.lookup leveId, s.journal with
  | some data, some journal =>
      match journal.slotOf leveId with
      | none => s
      | some slot =>
          match journal.slots slot with
          | none => s
          | some quest =>
              if RegionalLeveView.isCompleted quest then
                let band := RegionalLeveView.currentDifficulty quest
                let owed := handInRewards data band gcCurrent
                let removed : LeveWorld := { s with
                  journal := some (journal.remove leveId)
                  paid := s.paid ++ [⟨s.acceptance slot, gcCurrent, owed⟩] }
                removed.begin call (.handIn leveId (s.acceptance slot) true owed owed [])
              else s
  | _, _ => s

def abandon (s : LeveWorld) (call : ℕ) (questId : UInt32) : LeveWorld :=
  match s.journal with
  | none => s
  | some journal =>
      if journal.has questId then
        begin { s with journal := some (journal.remove questId) } call (.abandon questId)
      else s

/-- The next statement of a call. -/
def next (s : LeveWorld) (call : ℕ) (fails : Bool) : LeveTask → LeveWorld
  | .saves [] => { s with tasks := Function.update s.tasks call none }
  | .saves (save :: left) =>
      if fails then s.begin call (.saves left)
      else
        let saved : LeveWorld := { s with
          db := s.db.saveQuest save.slot save.quest
          rowAcceptance := Function.update s.rowAcceptance save.slot save.acceptance }
        saved.begin call (.saves left)
  | .abandon questId =>
      { s with
        db := if fails then s.db else s.db.removeQuest questId
        tasks := Function.update s.tasks call none }
  | .handIn leveId acceptance true owed left given =>
      begin { s with db := if fails then s.db else s.db.removeQuest leveId } call
        (.handIn leveId acceptance false owed left given)
  | .handIn _ _ false owed [] given =>
      { s with
        tasks := Function.update s.tasks call none
        outcomes := s.outcomes ++ [⟨owed, given⟩] }
  | .handIn leveId acceptance false owed (reward :: left) given =>
      let store := if fails then s.store else s.store.deal maxStack (reward.dealing chara)
      let given :=
        if reward.held chara store = reward.held chara s.store + reward.amount.toInt then
          given ++ [reward]
        else given
      begin { s with store } call (.handIn leveId acceptance false owed left given)

def step (s : LeveWorld) : LeveStep → Option LeveWorld
  | .accept call leveId difficulty =>
      if (s.tasks call).isSome then none else some (s.accept resolver call leveId difficulty)
  | .event call e => if (s.tasks call).isSome then none else some (s.event resolver call e)
  | .handIn call leveId gcCurrent =>
      if (s.tasks call).isSome then none else some (s.handIn resolver call leveId gcCurrent)
  | .abandon call questId =>
      if (s.tasks call).isSome then none else some (s.abandon call questId)
  | .next call fails => (s.tasks call).map (s.next maxStack chara call fails)
  | .logout => some { s with journal := none }
  | .login =>
      if s.journal.isSome then none
      else some { s with journal := some (loadJournal s.db), acceptance := s.rowAcceptance }

/-! ### What holds of a run -/

/-- The quest of a leve has counted no more than its events gave. -/
structure Earned (data : RegionalLeveData) (gained : ℕ) (quest : Quest) : Prop where
  progress : (RegionalLeveView.progress quest).toNat ≤ gained
  reached : RegionalLeveView.isCompleted quest = true →
    RegionalLeveView.objectiveQuantity quest data ≤ 65535 →
      0 < (RegionalLeveView.objectiveQuantity quest data).toInt ∧
        (RegionalLeveView.objectiveQuantity quest data).toInt ≤ gained

/-- The quest in a slot, or a row or a save of it, is that of an acceptance. -/
structure Owned (s : LeveWorld) (slot : Fin 16) (acceptance : ℕ) (data : RegionalLeveData)
    (quest : Quest) : Prop where
  accepted : s.acceptances[acceptance]? =
    some ⟨slot, quest.questId, RegionalLeveView.currentDifficulty quest⟩
  earned : Earned data (s.gained acceptance) quest

def HandedIn (s : LeveWorld) (acceptance : ℕ) : Prop := acceptance ∈ s.paid.map (·.acceptance)

/-- A hand-in of the acceptance has still to delete the rows of the leve. -/
def AwaitsDelete (s : LeveWorld) (acceptance : ℕ) : Prop :=
  ∃ call leveId owed left given,
    s.tasks call = some (.handIn leveId acceptance true owed left given)

/-- The reward has been paid for the band that was accepted, after its quantity was reached. -/
def Due (s : LeveWorld) (payment : LevePayment) : Prop :=
  ∃ accepted data, s.acceptances[payment.acceptance]? = some accepted ∧
    resolver.byId.lookup accepted.leveId = some data ∧
    payment.owed = handInRewards data accepted.band payment.gcCurrent ∧
    0 < (data.objectiveQuantity accepted.band).toInt ∧
    (data.objectiveQuantity accepted.band).toInt ≤ s.gained payment.acceptance

/-- Each acceptance is paid at most once and when it is due, and the hand-ins that report it have
delivered what they owe. -/
structure Fair (s : LeveWorld) : Prop where
  once : (s.paid.map (·.acceptance)).Nodup
  due : ∀ payment ∈ s.paid, s.Due resolver payment
  delivered : ∀ outcome ∈ s.outcomes, outcome.given = outcome.owed

end LeveWorld

/-- A reward of some amount, of an item or a company that there is. -/
def LeveReward.Proper (reward : LeveReward) : Prop :=
  0 < reward.amount.toInt ∧
    match reward with
    | .gil _ => True
    | .item itemId _ => itemId ≠ 0
    | .seals gc _ => (sealItemId gc).isSome = true

/-- The write of a reward is made in full: a currency has room for it, and an item does not meet
a stack that cannot be read. -/
def LeveReward.Goes (maxStack : UInt32 → Option ℤ) (chara : UInt32) (store : Storage.Database)
    (reward : LeveReward) : Prop :=
  match reward with
  | .item itemId quantity => store.addHarvestItem maxStack chara itemId quantity 1 ≠ none
  | _ => reward.held chara store + reward.amount.toInt < 2 ^ 31

namespace LeveWorld

variable (resolver : RegionalLeveResolver) (maxStack : UInt32 → Option ℤ) (chara : UInt32)

/-- A leve has an id of twenty bits. A hand-in is of a quantity of 16 bits; it deletes the row of
the acceptance if there is one, and no save of it is written after that; its rewards are written in
full; and no login reads the row before it is deleted. -/
def Meets (s : LeveWorld) : LeveStep → Prop
  | .accept _ leveId _ =>
      (resolver.byId.lookup leveId).isSome = true → leveId &&& QUEST_ID_MASK = leveId
  | .handIn _ leveId _ => ∀ journal quest data, s.journal = some journal →
      journal.leve leveId = some quest → resolver.byId.lookup leveId = some data →
        RegionalLeveView.isCompleted quest = true →
          RegionalLeveView.objectiveQuantity quest data ≤ 65535
  | .next call fails => ∀ task, s.tasks call = some task →
      match task with
      | .saves (save :: _) =>
          fails = false → s.HandedIn save.acceptance → s.AwaitsDelete save.acceptance
      | .handIn leveId acceptance true _ _ _ => fails = true → ∀ (slot : Fin 16) row,
          s.db.scenario.lookup slot.val = some row → (fromDbRow row).questId = leveId →
            s.rowAcceptance slot ≠ acceptance
      | .handIn _ _ false _ (reward :: _) _ => fails = false ∧ reward.Goes maxStack chara s.store
      | _ => True
  | .login => ∀ (slot : Fin 16) row data, s.db.scenario.lookup slot.val = some row →
      resolver.byId.lookup (fromDbRow row).questId = some data →
        ¬ s.HandedIn (s.rowAcceptance slot)
  | _ => True

variable {resolver maxStack chara} {s s' : LeveWorld}

structure Inv (resolver : RegionalLeveResolver) (maxStack : UInt32 → Option ℤ) (chara : UInt32)
    (s : LeveWorld) : Prop where
  fair : s.Fair resolver
  journal : ∀ journal, s.journal = some journal → ∀ slot quest data,
    journal.slots slot = some quest → resolver.byId.lookup quest.questId = some data →
      s.Owned slot (s.acceptance slot) data quest ∧ ¬ s.HandedIn (s.acceptance slot)
  rows : ∀ (slot : Fin 16) row data, s.db.scenario.lookup slot.val = some row →
    resolver.byId.lookup (fromDbRow row).questId = some data →
      row.questId &&& QUEST_ID_MASK = row.questId ∧
      s.Owned slot (s.rowAcceptance slot) data (fromDbRow row) ∧
      (s.HandedIn (s.rowAcceptance slot) → s.AwaitsDelete (s.rowAcceptance slot))
  saves : ∀ call left, s.tasks call = some (.saves left) → ∀ save ∈ left, ∀ data,
    resolver.byId.lookup save.quest.questId = some data →
      s.Owned save.slot save.acceptance data save.quest
  handIns : ∀ call leveId acceptance rowLeft owed left given,
    s.tasks call = some (.handIn leveId acceptance rowLeft owed left given) →
      owed = given ++ left ∧ (∀ reward ∈ left, reward.Proper) ∧
      leveId &&& QUEST_ID_MASK = leveId ∧
      ∃ slot band, s.acceptances[acceptance]? = some ⟨slot, leveId, band⟩
  sound : s.store.Sound
  tidy : Storage.Database.Tidy (Storage.stackLimit maxStack) s.store chara

/-! ### What an event earns -/

variable {data : RegionalLeveData}

theorem Earned.mono {gained more : ℕ} {quest : Quest} (earned : Earned data gained quest)
    (le : gained ≤ more) : Earned data more quest where
  progress := earned.progress.trans le
  reached completed most := by
    have reached := earned.reached completed most
    omega

theorem Earned.congr {gained : ℕ} {quest other : Quest} (earned : Earned data gained quest)
    (flags : other.data.flags = quest.data.flags)
    (counters : other.data.counters = quest.data.counters) : Earned data gained other := by
  have progress : RegionalLeveView.progress other = RegionalLeveView.progress quest := by
    rw [RegionalLeveView.progress, RegionalLeveView.progress, counters]
  have completed : RegionalLeveView.isCompleted other = RegionalLeveView.isCompleted quest := by
    rw [RegionalLeveView.isCompleted, RegionalLeveView.isCompleted, QuestData.getFlag,
      QuestData.getFlag, flags]
  have quantity : RegionalLeveView.objectiveQuantity other data =
      RegionalLeveView.objectiveQuantity quest data := by
    apply RegionalLeveView.objectiveQuantity_congr
    rw [counters]
  refine ⟨?_, ?_⟩
  · rw [progress]
    exact earned.progress
  · rw [completed, quantity]
    exact earned.reached

theorem Earned.advance {gained : ℕ} {quest : Quest} (earned : Earned data gained quest)
    (delta : UInt16) :
    Earned data (gained + delta.toNat)
      (RegionalLeveView.advanceProgress quest data delta).1.clearDirty := by
  have counted := earned.progress
  have clean : Earned data (gained + delta.toNat)
      (RegionalLeveView.advanceProgress quest data delta).1 := by
    refine ⟨?_, ?_⟩
    · have more : (RegionalLeveView.progress
          (RegionalLeveView.advanceProgress quest data delta).1).toNat ≤
            (RegionalLeveView.progress quest).toNat + delta.toNat :=
        RegionalLeveView.progress_advanceProgress_le
      omega
    · intro completed most
      have quantity : RegionalLeveView.objectiveQuantity
          (RegionalLeveView.advanceProgress quest data delta).1 data =
            RegionalLeveView.objectiveQuantity quest data :=
        RegionalLeveView.objectiveQuantity_congr RegionalLeveView.advanceProgress_band
      rw [quantity] at most ⊢
      cases before : RegionalLeveView.isCompleted quest with
      | true =>
          have reached := earned.reached before most
          omega
      | false =>
          have reached := RegionalLeveView.advanceProgress_reached before most completed
          omega
  exact clean.congr rfl rfl

/-! ### What a reward gives -/

section Reward

variable {store : Storage.Database} {reward : LeveReward}

private theorem currencyGained_room
    (tidy : Storage.Database.Tidy (Storage.stackLimit maxStack) store chara) {itemId : UInt32}
    {amount : Int32} (positive : 0 < amount.toInt)
    (room : store.total chara PKG_CURRENCY_CRYSTALS { itemId } + amount.toInt < 2 ^ 31) :
    store.currencyGained chara itemId amount = amount.toInt := by
  obtain ⟨least, _⟩ := tidy.total_le PKG_CURRENCY_CRYSTALS { itemId }
  rw [Storage.Database.currencyGained, Storage.saturateI32]
  omega

theorem granted_of_goes (tidy : Storage.Database.Tidy (Storage.stackLimit maxStack) store chara)
    (proper : reward.Proper) (goes : reward.Goes maxStack chara store) :
    store.granted maxStack chara reward.package reward.itemId (reward.dealing chara) =
      reward.amount.toInt := by
  obtain ⟨positive, kind⟩ := proper
  cases reward with
  | gil amount =>
      rw [LeveReward.dealing, Storage.Database.granted, Storage.Database.only,
        if_pos ⟨rfl, rfl, rfl⟩]
      exact currencyGained_room tidy positive goes
  | item itemId quantity =>
      rw [LeveReward.dealing, Storage.Database.granted, Storage.Database.only,
        if_pos ⟨rfl, rfl, rfl⟩, Storage.Database.harvested, if_neg]
      · rfl
      · rintro (none | zero | fails)
        · have positive : 0 < quantity.toInt := positive
          rw [Int32.le_iff_toInt_le] at none
          have zero : (0 : Int32).toInt = 0 := rfl
          omega
        · exact kind zero
        · exact goes fails
  | seals gc amount =>
      obtain ⟨sealId, company⟩ := Option.isSome_iff_exists.mp kind
      have item : (LeveReward.seals gc amount).itemId = sealId := by
        rw [LeveReward.itemId, company]
        rfl
      have room : store.total chara PKG_CURRENCY_CRYSTALS { itemId := sealId } + amount.toInt <
          2 ^ 31 := by
        rw [← item]
        exact goes
      rw [item, LeveReward.dealing, Storage.Database.granted, company]
      dsimp only
      rw [Storage.Database.only, if_pos ⟨rfl, rfl, rfl⟩]
      exact currencyGained_room tidy positive room

theorem held_of_goes (sound : store.Sound)
    (tidy : Storage.Database.Tidy (Storage.stackLimit maxStack) store chara)
    (proper : reward.Proper) (goes : reward.Goes maxStack chara store) :
    reward.held chara (store.deal maxStack (reward.dealing chara)) =
      reward.held chara store + reward.amount.toInt := by
  have effect := Storage.Database.effect_deal sound tidy (reward.dealing chara)
  have taken : store.taken chara reward.package reward.itemId (reward.dealing chara) = 0 := by
    cases reward <;> rfl
  rw [LeveReward.held, effect.total, granted_of_goes tidy proper goes, taken, LeveReward.held]
  omega

end Reward
variable {data : RegionalLeveData}

theorem handInRewards_proper {band : Fin 4} {gc : UInt8} {reward : LeveReward}
    (member : reward ∈ handInRewards data band gc) : reward.Proper := by
  simp only [handInRewards, List.mem_append, List.mem_ite_nil_right, List.mem_singleton] at member
  obtain (⟨some_gil, rfl⟩ | ⟨⟨some_item, some_quantity⟩, rfl⟩) | ⟨⟨_, valid, some_seals⟩, rfl⟩ :=
    member
  · exact ⟨Int32.lt_iff_toInt_lt.mp some_gil, trivial⟩
  · refine ⟨Int32.lt_iff_toInt_lt.mp some_quantity, ?_⟩
    intro zero
    have none : data.rewardItemId band = 0 := by
      have back := congrArg UInt32.toInt32 zero
      exact back
    rw [none] at some_item
    exact absurd some_item (by decide)
  · refine ⟨Int32.lt_iff_toInt_lt.mp some_seals, ?_⟩
    rw [isValidGc] at valid
    simp only [Bool.or_eq_true, beq_iff_eq] at valid
    obtain (rfl | rfl) | rfl := valid <;> rfl

/-! ### Frames -/

theorem Owned.congr {slot : Fin 16} {acceptance : ℕ} {quest other : Quest}
    (owned : s.Owned slot acceptance data quest) (id : other.questId = quest.questId)
    (flags : other.data.flags = quest.data.flags)
    (counters : other.data.counters = quest.data.counters) :
    s.Owned slot acceptance data other := by
  refine ⟨?_, owned.earned.congr flags counters⟩
  have band : RegionalLeveView.currentDifficulty other =
      RegionalLeveView.currentDifficulty quest := by
    rw [RegionalLeveView.currentDifficulty, RegionalLeveView.currentDifficulty, Fin.mk.injEq,
      counters]
  rw [id, band]
  exact owned.accepted

structure Grows (s s' : LeveWorld) : Prop where
  acceptances : ∀ (n : ℕ) (accepted : LeveAcceptance), s.acceptances[n]? = some accepted →
    s'.acceptances[n]? = some accepted
  gained : ∀ n, s.gained n ≤ s'.gained n

theorem Owned.later (grows : Grows s s') {slot : Fin 16} {acceptance : ℕ} {quest : Quest}
    (owned : s.Owned slot acceptance data quest) : s'.Owned slot acceptance data quest :=
  ⟨grows.acceptances _ _ owned.accepted, owned.earned.mono (grows.gained acceptance)⟩

theorem Due.later (grows : Grows s s') {payment : LevePayment} (due : s.Due resolver payment) :
    s'.Due resolver payment := by
  obtain ⟨accepted, data, there, found, owed, positive, reached⟩ := due
  refine ⟨accepted, data, grows.acceptances _ _ there, found, owed, positive, ?_⟩
  have more := grows.gained payment.acceptance
  omega

theorem tasks_update {tasks : ℕ → Option LeveTask} {call other : ℕ} {task : Option LeveTask}
    {found : LeveTask} (there : Function.update tasks call task other = some found) :
    task = some found ∨ tasks other = some found := by
  by_cases here : other = call
  · subst here
    rw [Function.update_self] at there
    exact .inl there
  · rw [Function.update_of_ne here] at there
    exact .inr there

theorem AwaitsDelete.later {acceptance call : ℕ} {task : Option LeveTask}
    (awaits : s.AwaitsDelete acceptance) (tasks : s'.tasks = Function.update s.tasks call task)
    (other : ∀ leveId owed left given,
      s.tasks call ≠ some (.handIn leveId acceptance true owed left given)) :
    s'.AwaitsDelete acceptance := by
  obtain ⟨awaiting, leveId, owed, left, given, there⟩ := awaits
  refine ⟨awaiting, leveId, owed, left, given, ?_⟩
  rw [tasks, Function.update_of_ne]
  · exact there
  · rintro rfl
    exact other leveId owed left given there

theorem Fair.later (fair : s.Fair resolver) (grows : Grows s s') (paid : s'.paid = s.paid)
    (outcomes : s'.outcomes = s.outcomes) : s'.Fair resolver := by
  refine ⟨?_, ?_, ?_⟩
  · rw [paid]
    exact fair.once
  · intro payment member
    rw [paid] at member
    exact (fair.due payment member).later grows
  · rw [outcomes]
    exact fair.delivered

theorem handedIn_congr (paid : s'.paid = s.paid) (acceptance : ℕ) :
    s'.HandedIn acceptance ↔ s.HandedIn acceptance := by
  rw [HandedIn, HandedIn, paid]

section Frames

variable {call : ℕ} {task : Option LeveTask}

theorem Inv.rows_later (inv : Inv resolver maxStack chara s) (grows : Grows s s')
    (rows : s'.db = s.db) (marks : s'.rowAcceptance = s.rowAcceptance)
    (paid : s'.paid = s.paid) (tasks : s'.tasks = Function.update s.tasks call task)
    (idle : s.tasks call = none) (slot : Fin 16) (row : ScenarioRow) (data : RegionalLeveData)
    (there : s'.db.scenario.lookup slot.val = some row)
    (leve : resolver.byId.lookup (fromDbRow row).questId = some data) :
    row.questId &&& QUEST_ID_MASK = row.questId ∧
      s'.Owned slot (s'.rowAcceptance slot) data (fromDbRow row) ∧
      (s'.HandedIn (s'.rowAcceptance slot) → s'.AwaitsDelete (s'.rowAcceptance slot)) := by
  rw [rows] at there
  rw [marks]
  obtain ⟨masked, owns, awaits⟩ := inv.rows slot row data there leve
  refine ⟨masked, owns.later grows, fun handed => ?_⟩
  apply (awaits ((handedIn_congr paid _).mp handed)).later tasks
  intro _ _ _ _ busy
  rw [idle] at busy
  cases busy

theorem Inv.saves_later (inv : Inv resolver maxStack chara s) (grows : Grows s s')
    (tasks : s'.tasks = Function.update s.tasks call task)
    (new : ∀ left, task = some (.saves left) → ∀ save ∈ left, ∀ data,
      resolver.byId.lookup save.quest.questId = some data →
        s'.Owned save.slot save.acceptance data save.quest)
    (other : ℕ) (left : List LeveSave) (there : s'.tasks other = some (.saves left))
    (save : LeveSave) (member : save ∈ left) (data : RegionalLeveData)
    (leve : resolver.byId.lookup save.quest.questId = some data) :
    s'.Owned save.slot save.acceptance data save.quest := by
  rw [tasks] at there
  obtain started | old := tasks_update there
  · exact new left started save member data leve
  · exact (inv.saves other left old save member data leve).later grows

theorem Inv.handIns_later (inv : Inv resolver maxStack chara s) (grows : Grows s s')
    (tasks : s'.tasks = Function.update s.tasks call task)
    (new : ∀ leveId acceptance rowLeft owed left given,
      task = some (.handIn leveId acceptance rowLeft owed left given) →
        owed = given ++ left ∧ (∀ reward ∈ left, reward.Proper) ∧
        leveId &&& QUEST_ID_MASK = leveId ∧
        ∃ slot band, s'.acceptances[acceptance]? = some ⟨slot, leveId, band⟩)
    (other : ℕ) (leveId : UInt32) (acceptance : ℕ) (rowLeft : Bool)
    (owed left given : List LeveReward)
    (there : s'.tasks other = some (.handIn leveId acceptance rowLeft owed left given)) :
    owed = given ++ left ∧ (∀ reward ∈ left, reward.Proper) ∧
      leveId &&& QUEST_ID_MASK = leveId ∧
      ∃ slot band, s'.acceptances[acceptance]? = some ⟨slot, leveId, band⟩ := by
  rw [tasks] at there
  obtain started | old := tasks_update there
  · exact new leveId acceptance rowLeft owed left given started
  · obtain ⟨split, proper, masked, slot, band, accepted⟩ :=
      inv.handIns other leveId acceptance rowLeft owed left given old
    exact ⟨split, proper, masked, slot, band, grows.acceptances _ _ accepted⟩

end Frames

/-! ### The steps -/

variable {call : ℕ} {leveId : UInt32}

theorem acceptedQuest_questId (masked : leveId &&& QUEST_ID_MASK = leveId) (difficulty : UInt8) :
    (acceptedQuest leveId difficulty).clearDirty.questId = leveId :=
  (questIdFromActor_questActorId leveId).trans masked

theorem acceptedQuest_band (leveId : UInt32) (difficulty : UInt8) :
    RegionalLeveView.currentDifficulty (acceptedQuest leveId difficulty).clearDirty =
      acceptBand difficulty := by
  have value : ((acceptedQuest leveId difficulty).clearDirty.data.counters 1).toNat =
      min difficulty.toNat 3 := by
    have stored : (acceptedQuest leveId difficulty).clearDirty.data.counters 1 =
        UInt16.ofNat (min difficulty.toNat 3) := rfl
    rw [stored, UInt16.toNat_ofNat_of_lt']
    exact (min_le_right _ _).trans_lt (by decide)
  rw [RegionalLeveView.currentDifficulty, acceptBand, Fin.mk.injEq, value]
  omega

theorem acceptedQuest_earned (data : RegionalLeveData) (leveId : UInt32) (difficulty : UInt8)
    (gained : ℕ) : Earned data gained (acceptedQuest leveId difficulty).clearDirty where
  progress := Nat.zero_le _
  reached completed := by
    have flags : (acceptedQuest leveId difficulty).clearDirty.data.flags =
        (({} : QuestData).setFlag ACCEPTED_FLAG_BIT).flags := rfl
    rw [RegionalLeveView.isCompleted, QuestData.getFlag, flags] at completed
    exact absurd completed (by decide)

theorem accept_cases (s : LeveWorld) (call : ℕ) (leveId : UInt32) (difficulty : UInt8) :
    s.accept resolver call leveId difficulty = s ∨
    ∃ data journal slot, resolver.byId.lookup leveId = some data ∧ s.journal = some journal ∧
      journal.slots slot = none ∧
      s.accept resolver call leveId difficulty =
        begin { s with
          journal := some (journal.setSlot slot
            (some (acceptedQuest leveId difficulty).clearDirty))
          acceptances := s.acceptances ++ [⟨slot, leveId, acceptBand difficulty⟩]
          acceptance := Function.update s.acceptance slot s.acceptances.length } call
          (.saves
            [⟨slot, (acceptedQuest leveId difficulty).clearDirty, s.acceptances.length⟩]) := by
  rw [accept]
  split
  · next data journal known online =>
      split
      · exact .inl rfl
      · dsimp only
        cases added : journal.add (acceptedQuest leveId difficulty).clearDirty with
        | none => exact .inl rfl
        | some result =>
            obtain ⟨slot, journal'⟩ := result
            obtain ⟨free, rfl⟩ := QuestJournal.add_some added
            exact .inr ⟨data, journal, slot, known, online, free, rfl⟩
  · exact .inl rfl

theorem Inv.handed_lt (inv : Inv resolver maxStack chara s) {acceptance : ℕ}
    (handed : s.HandedIn acceptance) : acceptance < s.acceptances.length := by
  obtain ⟨payment, member, rfl⟩ := List.mem_map.mp handed
  obtain ⟨accepted, _, there, _⟩ := inv.fair.due payment member
  exact (List.getElem?_eq_some_iff.mp there).1

theorem Inv.accept (inv : Inv resolver maxStack chara s) (idle : s.tasks call = none)
    {difficulty : UInt8}
    (meets : s.Meets resolver maxStack chara (.accept call leveId difficulty)) :
    Inv resolver maxStack chara (s.accept resolver call leveId difficulty) := by
  obtain same | ⟨known, journal, slot, found, online, free, same⟩ :=
    accept_cases s call leveId difficulty
  · rw [same]
    exact inv
  · have masked : leveId &&& QUEST_ID_MASK = leveId := by
      apply meets
      rw [found]
      rfl
    rw [same]
    set s' := begin _ call _ with after
    have grows : Grows s s' := by
      refine ⟨fun n accepted there => ?_, fun _ => le_refl _⟩
      exact List.getElem?_append_left (List.getElem?_eq_some_iff.mp there).1 ▸ there
    have handed (n : ℕ) : s'.HandedIn n ↔ s.HandedIn n := handedIn_congr rfl n
    have owned (data : RegionalLeveData) : s'.Owned slot s.acceptances.length data
        (acceptedQuest leveId difficulty).clearDirty := by
      refine ⟨?_, acceptedQuest_earned data leveId difficulty _⟩
      rw [acceptedQuest_questId masked, acceptedQuest_band]
      exact List.getElem?_concat_length
    refine ⟨inv.fair.later grows rfl rfl, ?_, ?_, ?_, ?_, inv.sound, inv.tidy⟩
    · intro journal' here k quest data there leve
      cases here
      rw [handed]
      by_cases same_slot : k = slot
      · subst same_slot
        rw [QuestJournal.slots_setSlot, if_pos rfl] at there
        cases there
        have mark : s'.acceptance k = s.acceptances.length := Function.update_self _ _ _
        rw [mark]
        exact ⟨owned data, fun paid => Nat.lt_irrefl _ (inv.handed_lt paid)⟩
      · rw [QuestJournal.slots_setSlot, if_neg same_slot] at there
        have mark : s'.acceptance k = s.acceptance k := Function.update_of_ne same_slot _ _
        rw [mark]
        obtain ⟨owns, unpaid⟩ := inv.journal journal online k quest data there leve
        exact ⟨owns.later grows, unpaid⟩
    · exact inv.rows_later grows rfl rfl rfl rfl idle
    · refine inv.saves_later grows rfl fun left started save member data leve => ?_
      cases started
      rw [List.mem_singleton] at member
      subst member
      exact owned data
    · exact inv.handIns_later grows rfl fun _ _ _ _ _ _ started => by cases started

theorem slots_event (once : ∀ e, (resolver.ids e).Nodup) {journal : QuestJournal} (e : LeveEvent)
    {slot : Fin 16} {quest : Quest}
    (there : (e.advance resolver journal).journal.slots slot = some quest) :
    ∃ before, journal.slots slot = some before ∧ before.questId = quest.questId ∧
      (quest = before ∨
        s.hears resolver journal e (s.acceptance slot) = true ∧
          quest = LeveAdvance.advanced resolver e.amount before.questId before) := by
  rw [LeveEvent.advance_eq, advanceRegionalLeves] at there
  cases here : journal.slots slot with
  | none =>
      rw [LeveAdvance.empty_fold here] at there
      cases there
  | some before =>
      refine ⟨before, rfl, ?_⟩
      rw [LeveAdvance.slots_fold (once e) here] at there
      cases there
      split
      · next named =>
          refine ⟨(LeveAdvance.advanced_questId _ _).symm, .inr ⟨?_, rfl⟩⟩
          rw [hears, List.any_eq_true]
          refine ⟨slot, List.mem_finRange slot, ?_⟩
          rw [here, beq_self_eq_true, Bool.true_and, Option.any_some]
          exact List.contains_iff_mem.mpr named.1
      · exact ⟨rfl, .inl rfl⟩

theorem Inv.event (once : ∀ e, (resolver.ids e).Nodup) (inv : Inv resolver maxStack chara s)
    (idle : s.tasks call = none) (e : LeveEvent) :
    Inv resolver maxStack chara (s.event resolver call e) := by
  cases online : s.journal with
  | none =>
      rw [LeveWorld.event, online]
      exact inv
  | some journal =>
      rw [LeveWorld.event, online]
      dsimp only
      set s' := begin _ call _ with after
      have gained (n : ℕ) : s'.gained n =
          if s.hears resolver journal e n then s.gained n + e.amount.toNat else s.gained n := rfl
      have grows : Grows s s' := by
        refine ⟨fun _ _ there => there, fun n => ?_⟩
        rw [gained]
        split <;> omega
      have handed (n : ℕ) : s'.HandedIn n ↔ s.HandedIn n := handedIn_congr rfl n
      have owned (slot : Fin 16) (quest : Quest) (data : RegionalLeveData)
          (there : (e.advance resolver journal).journal.slots slot = some quest)
          (leve : resolver.byId.lookup quest.questId = some data) :
          s'.Owned slot (s.acceptance slot) data quest ∧ ¬ s.HandedIn (s.acceptance slot) := by
        obtain ⟨before, here, id, result⟩ := slots_event (s := s) once e there
        rw [← id] at leve
        obtain ⟨owns, unpaid⟩ := inv.journal journal online slot before data here leve
        refine ⟨?_, unpaid⟩
        obtain rfl | ⟨heard, rfl⟩ := result
        · exact owns.later grows
        · rw [LeveAdvance.advanced, leve]
          have band : RegionalLeveView.currentDifficulty
              (RegionalLeveView.advanceProgress before data e.amount).1.clearDirty =
                RegionalLeveView.currentDifficulty before := by
            have kept : (RegionalLeveView.advanceProgress before data
                e.amount).1.clearDirty.data.counters 1 = before.data.counters 1 :=
              RegionalLeveView.advanceProgress_band
            rw [RegionalLeveView.currentDifficulty, RegionalLeveView.currentDifficulty,
              Fin.mk.injEq, kept]
          have same : (RegionalLeveView.advanceProgress before data
              e.amount).1.clearDirty.questId = before.questId :=
            RegionalLeveView.advanceProgress_questId
          refine ⟨?_, ?_⟩
          · dsimp only
            rw [band, same]
            exact owns.accepted
          · dsimp only
            rw [gained, if_pos heard]
            exact owns.earned.advance e.amount
      refine ⟨inv.fair.later grows rfl rfl, ?_, ?_, ?_, ?_, inv.sound, inv.tidy⟩
      · intro journal' here slot quest data there leve
        cases here
        rw [handed]
        exact owned slot quest data there leve
      · exact inv.rows_later grows rfl rfl rfl rfl idle
      · refine inv.saves_later grows rfl fun left started save member data leve => ?_
        cases started
        obtain ⟨⟨slot, quest⟩, saved, rfl⟩ := List.mem_map.mp member
        have current : (e.advance resolver journal).journal.slots slot = some quest := by
          rw [LeveEvent.advance_eq, advanceRegionalLeves] at saved ⊢
          exact LeveAdvance.saves_fold (once e) (fun _ none => by cases none) _ saved
        exact (owned slot quest data current leve).1
      · exact inv.handIns_later grows rfl fun _ _ _ _ _ _ started => by cases started

theorem handIn_cases (s : LeveWorld) (call : ℕ) (leveId : UInt32) (gcCurrent : UInt8) :
    s.handIn resolver call leveId gcCurrent = s ∨
    ∃ data journal slot quest, resolver.byId.lookup leveId = some data ∧
      s.journal = some journal ∧ journal.slotOf leveId = some slot ∧
      journal.slots slot = some quest ∧ quest.questId = leveId ∧
      RegionalLeveView.isCompleted quest = true ∧
      s.handIn resolver call leveId gcCurrent =
        begin { s with
          journal := some (journal.setSlot slot none)
          paid := s.paid ++ [⟨s.acceptance slot, gcCurrent,
            handInRewards data (RegionalLeveView.currentDifficulty quest) gcCurrent⟩] } call
          (.handIn leveId (s.acceptance slot) true
            (handInRewards data (RegionalLeveView.currentDifficulty quest) gcCurrent)
            (handInRewards data (RegionalLeveView.currentDifficulty quest) gcCurrent) []) := by
  rw [handIn]
  split
  · next data journal known online =>
      cases found : journal.slotOf leveId with
      | none => exact .inl rfl
      | some slot =>
          obtain ⟨quest, here, same⟩ := QuestJournal.slots_of_slotOf found
          dsimp only
          rw [here]
          dsimp only
          split
          · next completed =>
              refine .inr ⟨data, journal, slot, quest, known, online, found, here, same,
                completed, ?_⟩
              rw [QuestJournal.remove_some found]
          · exact .inl rfl
  · exact .inl rfl

theorem Inv.handIn (inv : Inv resolver maxStack chara s) (idle : s.tasks call = none)
    {gcCurrent : UInt8} (meets : s.Meets resolver maxStack chara (.handIn call leveId gcCurrent)) :
    Inv resolver maxStack chara (s.handIn resolver call leveId gcCurrent) := by
  obtain same | ⟨data, journal, slot, quest, known, online, found, here, id, completed, same⟩ :=
    handIn_cases s call leveId gcCurrent
  · rw [same]
    exact inv
  · have leve : journal.leve leveId = some quest := by
      rw [QuestJournal.leve, found]
      exact here
    have most := meets journal quest data online leve known completed
    obtain ⟨owns, unpaid⟩ := inv.journal journal online slot quest data here (id ▸ known)
    have masked : leveId &&& QUEST_ID_MASK = leveId := by
      apply QuestJournal.masked_of_has
      rw [QuestJournal.has, found]
      rfl
    rw [same]
    set s' := begin _ call _ with after
    have grows : Grows s s' := ⟨fun _ _ there => there, fun _ => le_refl _⟩
    have handed (n : ℕ) : s'.HandedIn n ↔ s.HandedIn n ∨ n = s.acceptance slot := by
      have paid : s'.paid = s.paid ++ [⟨s.acceptance slot, gcCurrent,
          handInRewards data (RegionalLeveView.currentDifficulty quest) gcCurrent⟩] := rfl
      rw [HandedIn, paid, List.map_append, List.mem_append, List.map_singleton,
        List.mem_singleton, HandedIn]
    refine ⟨⟨?_, ?_, inv.fair.delivered⟩, ?_, ?_, ?_, ?_, inv.sound, inv.tidy⟩
    · have paid : s'.paid.map (·.acceptance) =
          s.paid.map (·.acceptance) ++ [s.acceptance slot] := List.map_append
      rw [paid]
      exact inv.fair.once.append (List.nodup_singleton _)
        (List.disjoint_singleton.mpr unpaid)
    · intro payment member
      obtain earlier | new := List.mem_append.mp member
      · exact (inv.fair.due payment earlier).later grows
      · rw [List.mem_singleton] at new
        subst new
        obtain ⟨positive, reached⟩ := owns.earned.reached completed most
        exact ⟨_, data, owns.accepted, id ▸ known, rfl, positive, reached⟩
    · intro journal' now k other data' there leve'
      cases now
      rw [QuestJournal.slots_setSlot] at there
      split at there
      · cases there
      · next apart =>
          obtain ⟨owns', unpaid'⟩ := inv.journal journal online k other data' there leve'
          refine ⟨owns'.later grows, fun paid => ?_⟩
          obtain before | same_one := (handed _).mp paid
          · exact unpaid' before
          · have mark : s.acceptance k = s.acceptance slot := same_one
            have one := owns'.accepted
            rw [mark, owns.accepted] at one
            exact apart (congrArg LeveAcceptance.slot (Option.some.inj one)).symm
    · intro k row data' there leve'
      obtain ⟨masked_row, owns', awaits⟩ := inv.rows k row data' there leve'
      refine ⟨masked_row, owns'.later grows, fun paid => ?_⟩
      have mark : s'.rowAcceptance k = s.rowAcceptance k := rfl
      rw [mark] at paid ⊢
      obtain before | same_one := (handed _).mp paid
      · apply (awaits before).later rfl
        intro _ _ _ _ busy
        rw [idle] at busy
        cases busy
      · rw [same_one]
        exact ⟨call, leveId, _, _, _, Function.update_self _ _ _⟩
    · exact inv.saves_later grows rfl fun _ started => by cases started
    · refine inv.handIns_later grows rfl fun _ _ _ _ _ _ started => ?_
      cases started
      refine ⟨rfl, fun reward member => handInRewards_proper member, masked, slot,
        RegionalLeveView.currentDifficulty quest, ?_⟩
      rw [← id]
      exact owns.accepted

theorem Inv.abandon (inv : Inv resolver maxStack chara s) (idle : s.tasks call = none)
    (questId : UInt32) : Inv resolver maxStack chara (s.abandon call questId) := by
  rw [LeveWorld.abandon]
  cases online : s.journal with
  | none => exact inv
  | some journal =>
      dsimp only
      split
      · set s' := begin _ call _ with after
        have grows : Grows s s' := ⟨fun _ _ there => there, fun _ => le_refl _⟩
        refine ⟨inv.fair.later grows rfl rfl, ?_, ?_, ?_, ?_, inv.sound, inv.tidy⟩
        · intro journal' now slot quest data there leve
          cases now
          have before : journal.slots slot = some quest := by
            cases found : journal.slotOf questId with
            | none => rwa [QuestJournal.remove_none found] at there
            | some taken =>
                rw [QuestJournal.remove_some found, QuestJournal.slots_setSlot] at there
                split at there
                · cases there
                · exact there
          obtain ⟨owns, unpaid⟩ := inv.journal journal online slot quest data before leve
          exact ⟨owns.later grows, unpaid⟩
        · exact inv.rows_later grows rfl rfl rfl rfl idle
        · exact inv.saves_later grows rfl fun _ started => by cases started
        · exact inv.handIns_later grows rfl fun _ _ _ _ _ _ started => by cases started
      · exact inv

theorem Inv.goOn (inv : Inv resolver maxStack chara s) {task : Option LeveTask}
    {db : Database} {store : Storage.Database} {outcomes : List LeveHandInOutcome}
    (fewer : ∀ (slot : Fin 16) row, db.scenario.lookup slot.val = some row →
      s.db.scenario.lookup slot.val = some row)
    (delivered : ∀ outcome ∈ outcomes, outcome.given = outcome.owed) (sound : store.Sound)
    (tidy : Storage.Database.Tidy (Storage.stackLimit maxStack) store chara)
    (settled : ∀ (slot : Fin 16) row data, db.scenario.lookup slot.val = some row →
      resolver.byId.lookup (fromDbRow row).questId = some data →
        ∀ leveId owed left given,
          s.tasks call ≠ some (.handIn leveId (s.rowAcceptance slot) true owed left given))
    (saves : ∀ left, task = some (.saves left) → ∀ save ∈ left, ∀ data,
      resolver.byId.lookup save.quest.questId = some data →
        s.Owned save.slot save.acceptance data save.quest)
    (handIns : ∀ leveId acceptance rowLeft owed left given,
      task = some (.handIn leveId acceptance rowLeft owed left given) →
        owed = given ++ left ∧ (∀ reward ∈ left, reward.Proper) ∧
        leveId &&& QUEST_ID_MASK = leveId ∧
        ∃ slot band, s.acceptances[acceptance]? = some ⟨slot, leveId, band⟩) :
    Inv resolver maxStack chara
      { s with db, store, tasks := Function.update s.tasks call task, outcomes } := by
  have grows : Grows s { s with db, store, tasks := Function.update s.tasks call task, outcomes } :=
    ⟨fun _ _ there => there, fun _ => le_refl _⟩
  refine ⟨⟨inv.fair.once, inv.fair.due, delivered⟩, ?_, ?_, ?_, ?_, sound, tidy⟩
  · intro journal online slot quest data there leve
    obtain ⟨owns, unpaid⟩ := inv.journal journal online slot quest data there leve
    exact ⟨owns.later grows, unpaid⟩
  · intro slot row data there leve
    obtain ⟨masked, owns, awaits⟩ := inv.rows slot row data (fewer slot row there) leve
    refine ⟨masked, owns.later grows, fun paid => ?_⟩
    exact (awaits paid).later rfl (settled slot row data there leve)
  · refine inv.saves_later grows rfl fun left started save member data leve => ?_
    exact (saves left started save member data leve).later grows
  · exact inv.handIns_later grows rfl handIns

theorem lookup_removeQuest {db : Database} {questId : UInt32} {slot : ℕ} {row : ScenarioRow}
    (there : (db.removeQuest questId).scenario.lookup slot = some row) :
    db.scenario.lookup slot = some row ∧ row.questId ≠ QUEST_ID_MASK &&& questId := by
  rw [Database.removeQuest, Table.lookup_retain, Option.filter_eq_some_iff] at there
  exact ⟨there.1, bne_iff_ne.mp there.2⟩

theorem Inv.row_of_handIn (inv : Inv resolver maxStack chara s) {slot : Fin 16}
    {row : ScenarioRow} {data : RegionalLeveData} {rowLeft : Bool}
    {owed left given : List LeveReward} (there : s.db.scenario.lookup slot.val = some row)
    (leve : resolver.byId.lookup (fromDbRow row).questId = some data)
    (busy : s.tasks call = some (.handIn leveId (s.rowAcceptance slot) rowLeft owed left given)) :
    (fromDbRow row).questId = leveId ∧ row.questId = QUEST_ID_MASK &&& leveId := by
  obtain ⟨masked, owns, _⟩ := inv.rows slot row data there leve
  obtain ⟨_, _, masked_id, _, _, accepted⟩ := inv.handIns call leveId _ rowLeft owed left given busy
  have one := owns.accepted
  rw [accepted] at one
  have id : leveId = (fromDbRow row).questId :=
    congrArg LeveAcceptance.leveId (Option.some.inj one)
  refine ⟨id.symm, ?_⟩
  have read : (fromDbRow row).questId = row.questId &&& QUEST_ID_MASK :=
    questIdFromActor_questActorId row.questId
  rw [UInt32.and_comm, masked_id, id, read, masked]

theorem Inv.write (inv : Inv resolver maxStack chara s) {save : LeveSave} {left : List LeveSave}
    (busy : s.tasks call = some (.saves (save :: left)))
    (early : s.HandedIn save.acceptance → s.AwaitsDelete save.acceptance) :
    Inv resolver maxStack chara
      { s with
        db := s.db.saveQuest save.slot save.quest
        rowAcceptance := Function.update s.rowAcceptance save.slot save.acceptance
        tasks := Function.update s.tasks call (some (.saves left)) } := by
  set s' : LeveWorld := { s with
    db := s.db.saveQuest save.slot save.quest
    rowAcceptance := Function.update s.rowAcceptance save.slot save.acceptance
    tasks := Function.update s.tasks call (some (.saves left)) } with after
  have grows : Grows s s' := ⟨fun _ _ there => there, fun _ => le_refl _⟩
  have later {n : ℕ} (awaits : s.AwaitsDelete n) : s'.AwaitsDelete n := by
    refine awaits.later rfl fun _ _ _ _ other => ?_
    rw [busy] at other
    cases other
  refine ⟨inv.fair.later grows rfl rfl, ?_, ?_, ?_, ?_, inv.sound, inv.tidy⟩
  · intro journal online slot quest data there leve
    obtain ⟨owns, unpaid⟩ := inv.journal journal online slot quest data there leve
    exact ⟨owns.later grows, unpaid⟩
  · intro slot row data there leve
    have lookup := lookup_saveQuest s.db save.slot.val slot.val save.quest
    by_cases here : slot = save.slot
    · subst here
      rw [if_pos rfl] at lookup
      have stored := there.symm.trans lookup
      cases stored
      have id := questIdFromActor_questId save.quest
      have mark : s'.rowAcceptance save.slot = save.acceptance := Function.update_self _ _ _
      rw [mark]
      refine ⟨?_, ?_, fun paid => later (early paid)⟩
      · dsimp only [saved]
        rw [Quest.questId, questIdFromActor, UInt32.and_assoc, UInt32.and_self]
      · have owns := inv.saves call _ busy save List.mem_cons_self data (id ▸ leve)
        exact (owns.later grows).congr id rfl rfl
    · rw [if_neg (Fin.val_ne_of_ne here)] at lookup
      have mark : s'.rowAcceptance slot = s.rowAcceptance slot := Function.update_of_ne here _ _
      obtain ⟨masked, owns, awaits⟩ := inv.rows slot row data (lookup.symm.trans there) leve
      rw [mark]
      exact ⟨masked, owns.later grows, fun paid => later (awaits paid)⟩
  · refine inv.saves_later grows rfl fun left' started save' member data leve => ?_
    cases started
    exact (inv.saves call _ busy save' (List.mem_cons_of_mem _ member) data leve).later grows
  · exact inv.handIns_later grows rfl fun _ _ _ _ _ _ started => by cases started

theorem Inv.next (inv : Inv resolver maxStack chara s) {fails : Bool} {task : LeveTask}
    (busy : s.tasks call = some task) (meets : s.Meets resolver maxStack chara (.next call fails)) :
    Inv resolver maxStack chara (s.next maxStack chara call fails task) := by
  have meets := meets task busy
  have settled_of (other : ∀ leveId acceptance owed left given,
      task ≠ .handIn leveId acceptance true owed left given) (slot : Fin 16) (row : ScenarioRow)
      (data : RegionalLeveData) (_ : s.db.scenario.lookup slot.val = some row)
      (_ : resolver.byId.lookup (fromDbRow row).questId = some data)
      (leveId : UInt32) (owed left given : List LeveReward) :
      s.tasks call ≠ some (.handIn leveId (s.rowAcceptance slot) true owed left given) := by
    rw [busy]
    exact fun same => other leveId _ owed left given (Option.some.inj same)
  match task with
  | .saves [] =>
      exact inv.goOn (fun _ _ there => there) inv.fair.delivered inv.sound inv.tidy
        (settled_of fun _ _ _ _ _ => LeveTask.noConfusion) (fun _ none => by cases none)
        fun _ _ _ _ _ _ none => by cases none
  | .saves (save :: left) =>
      cases fails with
      | true =>
          refine inv.goOn (fun _ _ there => there) inv.fair.delivered inv.sound inv.tidy
            (settled_of fun _ _ _ _ _ => LeveTask.noConfusion) ?_
            fun _ _ _ _ _ _ none => by cases none
          intro left' same other member data leve
          cases same
          exact inv.saves call _ busy other (List.mem_cons_of_mem _ member) data leve
      | false => exact inv.write busy (meets rfl)
  | .abandon questId =>
      refine inv.goOn ?_ inv.fair.delivered inv.sound inv.tidy ?_ (fun _ none => by cases none)
        fun _ _ _ _ _ _ none => by cases none
      · intro slot row there
        split at there
        · exact there
        · exact (lookup_removeQuest there).1
      · intro slot row data _ _ leveId owed left given same
        rw [busy] at same
        cases same
  | .handIn leveId acceptance true owed left given =>
      refine inv.goOn ?_ inv.fair.delivered inv.sound inv.tidy ?_ (fun _ none => by cases none) ?_
      · intro slot row there
        split at there
        · exact there
        · exact (lookup_removeQuest there).1
      · intro slot row data there leve leveId' owed' left' given' same
        rw [busy] at same
        cases same
        cases fails with
        | true =>
            obtain ⟨id, _⟩ := inv.row_of_handIn there leve busy
            exact meets rfl slot row there id rfl
        | false =>
            obtain ⟨before, kept⟩ := lookup_removeQuest there
            exact kept (inv.row_of_handIn before leve busy).2
      · intro leveId' acceptance' rowLeft' owed' left' given' same
        cases same
        exact inv.handIns call leveId acceptance true owed left given busy
  | .handIn leveId acceptance false owed [] given =>
      obtain ⟨split, _⟩ := inv.handIns call leveId acceptance false owed [] given busy
      refine inv.goOn (fun _ _ there => there) ?_ inv.sound inv.tidy
        (settled_of fun _ _ _ _ _ same => by cases same) (fun _ none => by cases none)
        fun _ _ _ _ _ _ none => by cases none
      intro outcome member
      obtain earlier | new := List.mem_append.mp member
      · exact inv.fair.delivered outcome earlier
      · rw [List.mem_singleton] at new
        rw [new, split, List.append_nil]
  | .handIn leveId acceptance false owed (reward :: left) given =>
      obtain ⟨works, goes⟩ := meets
      subst works
      obtain ⟨split, proper, masked, accepted⟩ :=
        inv.handIns call leveId acceptance false owed (reward :: left) given busy
      have given_all := held_of_goes inv.sound inv.tidy (proper reward List.mem_cons_self) goes
      have effect := Storage.Database.effect_deal inv.sound inv.tidy (reward.dealing chara)
      refine inv.goOn (fun _ _ there => there) inv.fair.delivered effect.sound effect.tidy
        (settled_of fun _ _ _ _ _ same => by cases same) (fun _ none => by cases none) ?_
      intro leveId' acceptance' rowLeft' owed' left' given' same
      rw [if_neg Bool.false_ne_true, if_pos given_all] at same
      cases same
      refine ⟨?_, fun other member => proper other (List.mem_cons_of_mem _ member), masked,
        accepted⟩
      rw [split, List.append_assoc, List.singleton_append]

theorem Inv.logout (inv : Inv resolver maxStack chara s) :
    Inv resolver maxStack chara { s with journal := none } := by
  have grows : Grows s { s with journal := none } := ⟨fun _ _ there => there, fun _ => le_refl _⟩
  refine ⟨inv.fair.later grows rfl rfl, ?_, ?_, ?_, inv.handIns, inv.sound, inv.tidy⟩
  · intro journal online
    cases online
  · intro slot row data there leve
    obtain ⟨masked, owns, awaits⟩ := inv.rows slot row data there leve
    exact ⟨masked, owns.later grows, awaits⟩
  · intro call left there save member data leve
    exact (inv.saves call left there save member data leve).later grows

theorem Inv.login (inv : Inv resolver maxStack chara s)
    (meets : s.Meets resolver maxStack chara .login) :
    Inv resolver maxStack chara
      { s with journal := some (loadJournal s.db), acceptance := s.rowAcceptance } := by
  set s' : LeveWorld :=
    { s with journal := some (loadJournal s.db), acceptance := s.rowAcceptance } with after
  have grows : Grows s s' := ⟨fun _ _ there => there, fun _ => le_refl _⟩
  refine ⟨inv.fair.later grows rfl rfl, ?_, ?_, ?_, inv.handIns, inv.sound, inv.tidy⟩
  · intro journal online slot quest data there leve
    cases online
    rw [loadJournal_slots] at there
    obtain ⟨row, stored, rfl⟩ := Option.map_eq_some_iff.mp there
    obtain ⟨_, owns, _⟩ := inv.rows slot row data stored leve
    exact ⟨owns.later grows, meets slot row data stored leve⟩
  · intro slot row data there leve
    obtain ⟨masked, owns, awaits⟩ := inv.rows slot row data there leve
    exact ⟨masked, owns.later grows, awaits⟩
  · intro call left there save member data leve
    exact (inv.saves call left there save member data leve).later grows

theorem Inv.step (once : ∀ e, (resolver.ids e).Nodup) (inv : Inv resolver maxStack chara s)
    {e : LeveStep} (meets : s.Meets resolver maxStack chara e)
    (taken : s.step resolver maxStack chara e = some s') : Inv resolver maxStack chara s' := by
  cases e with
  | accept call leveId difficulty =>
      obtain ⟨idle, same⟩ := Option.ite_none_left_eq_some.mp taken
      cases same
      exact inv.accept (Option.not_isSome_iff_eq_none.mp idle) meets
  | event call e =>
      obtain ⟨idle, same⟩ := Option.ite_none_left_eq_some.mp taken
      cases same
      exact inv.event once (Option.not_isSome_iff_eq_none.mp idle) e
  | handIn call leveId gcCurrent =>
      obtain ⟨idle, same⟩ := Option.ite_none_left_eq_some.mp taken
      cases same
      exact inv.handIn (Option.not_isSome_iff_eq_none.mp idle) meets
  | abandon call questId =>
      obtain ⟨idle, same⟩ := Option.ite_none_left_eq_some.mp taken
      cases same
      exact inv.abandon (Option.not_isSome_iff_eq_none.mp idle) questId
  | next call fails =>
      obtain ⟨task, busy, same⟩ := Option.map_eq_some_iff.mp taken
      cases same
      exact inv.next busy meets
  | logout =>
      cases taken
      exact inv.logout
  | login =>
      obtain ⟨_, same⟩ := Option.ite_none_left_eq_some.mp taken
      cases same
      exact inv.login meets

theorem handIn_refused {gcCurrent : UInt8}
    (taken : s.step resolver maxStack chara (.handIn call leveId gcCurrent) = some s')
    (refused : s'.tasks call = none) : s' = s := by
  obtain ⟨_, same⟩ := Option.ite_none_left_eq_some.mp taken
  cases same
  obtain same | ⟨_, _, _, _, _, _, _, _, _, _, same⟩ := handIn_cases s call leveId gcCurrent
  · exact same
  · rw [same] at refused
    have began := refused.symm.trans (Function.update_self _ _ _)
    cases began

/-- No quest of the journal and no row is of a leve. -/
structure Leveless (resolver : RegionalLeveResolver) (journal : Option QuestJournal)
    (db : Database) : Prop where
  journal : ∀ j, journal = some j → ∀ slot quest, j.slots slot = some quest →
    resolver.byId.lookup quest.questId = none
  rows : ∀ (slot : Fin 16) row, db.scenario.lookup slot.val = some row →
    resolver.byId.lookup (fromDbRow row).questId = none

/--
Over any interleaving of acceptances, events, hand-ins and abandoned quests, with logouts and logins
in between and writes that fail, each acceptance is paid at most once, after its quantity was
reached, and the hand-ins that report it have delivered all they owe, if the steps meet the
condition. A hand-in that is refused changes nothing.
-/
theorem leve_pays_once (catalog : LeveRows) (maxStack : UInt32 → Option ℤ) (chara : UInt32)
    {journal : Option QuestJournal} {db : Database} {store : Storage.Database}
    (leveless : Leveless (.fromRows catalog.rows) journal db) (sound : store.Sound)
    (tidy : Storage.Database.Tidy (Storage.stackLimit maxStack) store chara) (es : List LeveStep)
    (meets : EachStep (step (.fromRows catalog.rows) maxStack chara)
      (Meets (.fromRows catalog.rows) maxStack chara) { journal, db, store } es) :
    Always (step (.fromRows catalog.rows) maxStack chara)
        (Fair (.fromRows catalog.rows)) { journal, db, store } es ∧
      EachStep (step (.fromRows catalog.rows) maxStack chara)
        (fun s e => ∀ call leveId gcCurrent s', e = .handIn call leveId gcCurrent →
          step (.fromRows catalog.rows) maxStack chara s e = some s' →
            s'.tasks call = none → s' = s) { journal, db, store } es := by
  have start : Inv (.fromRows catalog.rows) maxStack chara { journal, db, store } := by
    have fair : Fair (.fromRows catalog.rows) { journal, db, store } := by
      refine ⟨List.nodup_nil, ?_, ?_⟩
      · intro payment none
        cases none
      · intro outcome none
        cases none
    refine ⟨fair, ?_, ?_, fun _ _ none => ?_, fun _ _ _ _ _ _ _ none => ?_, sound, tidy⟩
    · intro j online slot quest data there leve
      rw [leveless.journal j online slot quest there] at leve
      cases leve
    · intro slot row data there leve
      rw [leveless.rows slot row there] at leve
      cases leve
    · cases none
    · cases none
  refine ⟨?_, ?_⟩
  · apply Always.mono fun s (inv : Inv (.fromRows catalog.rows) maxStack chara s) => inv.fair
    apply always_of_eachStep _ start meets
    intro s e s' inv meets taken
    exact inv.step (RegionalLeveResolver.ids_nodup catalog.once) meets taken
  · apply eachStep_of_forall
    intro s e call leveId gcCurrent s' same taken refused
    subst same
    exact handIn_refused taken refused

private def killLeve : RegionalLeveData where
  id := 140001
  leveType := .battlecraft
  objectiveTargetId := fun _ => 35
  objectiveQuantity := fun _ => 1
  rewardItemId := fun _ => 0
  rewardQuantity := fun _ => 0
  rewardGil := fun _ => 400

theorem leve_pays_once_killed :
    Always (step (.fromRows [killLeve]) (fun _ => none) 1) (Fair (.fromRows [killLeve]))
      { journal := some {}, db := ⟨∅, none⟩, store := .empty }
      [.accept 0 140001 0, .event 1 (.kill 35), .handIn 2 140001 1] := by
  have leveless : Leveless (.fromRows [killLeve]) (some {}) ⟨∅, none⟩ := by
    refine ⟨fun j online slot quest there => ?_, fun slot row there => ?_⟩
    · cases online
      cases there
    · cases there
  refine (leve_pays_once ⟨[killLeve], List.nodup_singleton _⟩ (fun _ => none) 1 leveless
    Storage.Database.sound_empty (Storage.Database.tidy_empty _ 1) _ ?_).1
  intro accepted _
  refine ⟨fun _ => by decide, fun told _ => ⟨trivial, fun paid _ => ⟨?_, trivial⟩⟩⟩
  intro journal quest data _ _ known _
  have row : some killLeve = some data := known
  cases row
  have one : (1 : Int32) ≤ 65535 := by decide
  exact one

/-- A leve whose row outlives its hand-in is paid again after a login, and a hand-in of which the
gil is not written reports that it was applied. -/
theorem paid_twice :
    (run (step (.fromRows [killLeve]) (fun _ => none) 1)
        { journal := some {}, db := ⟨∅, none⟩, store := .empty }
        [.accept 0 140001 0, .next 0 false, .next 0 false, .event 0 (.kill 35), .next 0 false,
          .next 0 false, .handIn 0 140001 1, .next 0 true, .next 0 false, .next 0 false,
          .next 0 false, .logout, .login, .handIn 0 140001 1, .next 0 false, .next 0 true,
          .next 0 false, .next 0 false]).map
      (fun s => (s.acceptances.length, s.paid.map (·.acceptance), s.outcomes)) =
    some (1, [0, 0], [⟨[.gil 400, .seals 1 200], [.gil 400, .seals 1 200]⟩,
      ⟨[.gil 400, .seals 1 200], [.seals 1 200]⟩]) := by
  decide

end LeveWorld

end Garlemald.Quest
