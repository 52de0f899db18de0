import Garlemald.Inventory.Effects
import Garlemald.Library.Runs

/-!
What holds of the packages of a character in every run from stored rows: the
layout of the slots, whatever the arguments of the calls; and the bounds of the
quantities and the distinctness of the unique ids, while no addition overflows
and no removal takes a negative quantity. The rows that are not inserted yet
share the unique id 0.
-/

namespace Garlemald.Inventory
open Library ItemPackage
open Function (update)

structure SameSlots (p p' : ItemPackage) : Prop where
  list_eq : p'.list = p.list
  end_eq : p'.endOfListIndex = p.endOfListIndex
  capacity_eq : p'.capacity = p.capacity
  code_eq : p'.code = p.code
  dirty_eq : p'.isDirty.length = p.isDirty.length

section Reworked

variable (Q : UInt32 → Int32 → Prop) (F : ItemPackage → UInt64 → Prop)

structure Stable (I : ItemPackage → Prop) : Prop where
  edit : ∀ p p', Edit Q F true p p' → I p → I p'
  flags : ∀ p p', SameSlots p p' → I p → I p'

/-- Edits and changes of flags lead from one package to the other. -/
structure Reworked (p p' : ItemPackage) : Prop where
  keep : ∀ I, Stable Q F I → I p → I p'
  shape : p.Shape → p'.Shape

variable {Q F}

variable {p p' : ItemPackage}

theorem SameSlots.entryAt_eq (same : SameSlots p p') (i : Nat) : p'.entryAt i = p.entryAt i := by
  rw [entryAt, same.list_eq]
  rfl

theorem SameSlots.loose (same : SameSlots p p') (before : p.Loose) : p'.Loose := by
  have entry_eq := same.entryAt_eq
  refine ⟨?_, ?_, ?_, fun i beyond => ?_, fun i item found => ?_, fun i item found => ?_⟩
  · rw [same.list_eq, same.capacity_eq, before.length_list]
  · rw [same.dirty_eq, same.capacity_eq, before.length_dirty]
  · rw [same.end_eq, same.capacity_eq]
    exact before.end_le
  · rw [entry_eq]
    exact before.behind i (same.end_eq ▸ beyond)
  · rw [entry_eq] at found
    exact before.slot_eq i item found
  · rw [entry_eq] at found
    rw [same.code_eq]
    exact before.package_eq i item found

theorem SameSlots.shape (same : SameSlots p p') (before : p.Shape) : p'.Shape := by
  refine ⟨same.loose before.toLoose, fun i below => ?_⟩
  rw [same.entryAt_eq]
  exact before.present i (same.end_eq ▸ below)

theorem stable_every : Stable Q F fun p => p.Every Q := by
  refine ⟨fun p p' edit before => edit.every before, fun p p' same before => ?_⟩
  intro i item found
  rw [same.entryAt_eq] at found
  exact before i item found

theorem SameSlots.reworked (same : SameSlots p p') : Reworked Q F p p' :=
  ⟨fun _ stable => stable.flags p p' same, same.shape⟩

theorem Reworked.refl (p : ItemPackage) : Reworked Q F p p :=
  SameSlots.reworked ⟨rfl, rfl, rfl, rfl, rfl⟩

theorem sameSlots_clearDirty (p : ItemPackage) : SameSlots p p.clearDirty :=
  ⟨rfl, rfl, rfl, rfl, List.length_map ..⟩

theorem sameSlots_sendUpdate (l : Ledger) : SameSlots l.package l.sendUpdate.package := by
  rw [Ledger.sendUpdate]
  split
  · exact ⟨rfl, rfl, rfl, rfl, rfl⟩
  · exact sameSlots_clearDirty l.package

theorem sameSlots_bracketedSendUpdate (l : Ledger) :
    SameSlots l.package l.bracketedSendUpdate.package := by
  rw [Ledger.bracketedSendUpdate]
  split
  · exact ⟨rfl, rfl, rfl, rfl, rfl⟩
  · exact sameSlots_sendUpdate (l.push (.packetBeginChange l.package.ownerActorId))

theorem sameSlots_callUpdates (l : Ledger) (call : UpdateCall) :
    SameSlots l.package (l.callUpdates call).package := by
  cases call with
  | markDirtySlot slot => exact ⟨rfl, rfl, rfl, rfl, List.length_set ..⟩
  | markDirty item =>
      simp only [Ledger.callUpdates, markDirty]
      split
      · exact ⟨rfl, rfl, rfl, rfl, rfl⟩
      · split
        · exact ⟨rfl, rfl, rfl, rfl, List.length_set ..⟩
        · exact ⟨rfl, rfl, rfl, rfl, rfl⟩
  | sendUpdate => exact sameSlots_sendUpdate l
  | sendFull => exact ⟨rfl, rfl, rfl, rfl, rfl⟩
  | startSendUpdate => exact ⟨rfl, rfl, rfl, rfl, rfl⟩
  | doneSendUpdate =>
      have sent := sameSlots_sendUpdate
        { l with package := { l.package with holdingUpdates := false } }
      exact ⟨sent.list_eq, sent.end_eq, sent.capacity_eq, sent.code_eq,
        (List.length_map ..).trans sent.dirty_eq⟩

theorem Settles.reworked {l l' : Ledger} (settles : Settles Q F l l') :
    Reworked Q F l.package l'.package := by
  rcases settles with rfl | ⟨edited, edits, shape, rfl⟩
  · exact .refl l'.package
  · have same := sameSlots_bracketedSendUpdate edited
    exact ⟨fun _ stable before => stable.flags _ _ same (edits.keep stable.edit before),
      fun _ => same.shape shape⟩

theorem Strands.reworked {l l' : Ledger} (strands : Strands Q F l l') :
    Reworked Q F l.package l'.package :=
  ⟨fun _ stable before => strands.edits.weaken.keep stable.edit before, strands.edits.shape⟩

theorem callSlots_reworked {catalog : ItemCatalog} {l l' : Ledger} {call : SlotCall}
    (placeholder : ∀ p, F p 0)
    (lowers : ∀ id old taken, Q id old → 0 < taken → 0 < old - taken → Q id (old - taken))
    (shape : l.package.Shape) (every : l.package.Every Q)
    (permits : Permits Q F catalog l.package call)
    (returns : l.callSlots catalog call = some l') : Reworked Q F l.package l'.package := by
  obtain ⟨strands, settles⟩ := callSlots_spec placeholder lowers shape every permits returns
  by_cases overruns : OverrunsCall catalog l.package call
  · exact (strands overruns).reworked
  · exact (settles overruns).reworked

end Reworked

/-! ### The layout of the slots -/

namespace ItemPackages

variable {catalog : ItemCatalog}

def Laid (inv : ItemPackages) : Prop :=
  ∀ code, (inv.packages code).Shape ∧ (inv.packages code).code = code

theorem packages_commit (inv : ItemPackages) (code other : UInt16) (l : Ledger) :
    (inv.commit code l).packages other =
      if other = code then l.package else inv.packages other := by
  simp only [commit, Function.update_apply]

theorem Laid.commit {inv : ItemPackages} {Q : UInt32 → Int32 → Prop}
    {F : ItemPackage → UInt64 → Prop} (laid : inv.Laid) {code : UInt16} {l : Ledger}
    (reworked : Reworked Q F (inv.packages code) l.package) : (inv.commit code l).Laid := by
  intro other
  rw [packages_commit]
  split
  · next same =>
      subst same
      have stable : Stable Q F fun p => p.code = other := by
        refine ⟨fun p p' edit before => ?_, fun p p' same before => same.code_eq.trans before⟩
        have code_eq := congrArg (fun header => header.2.2.1) edit.header_eq
        exact Eq.trans code_eq before
      exact ⟨reworked.shape (laid other).1, reworked.keep _ stable (laid other).2⟩
  · exact laid other

theorem permits_any (p : ItemPackage) (call : SlotCall) :
    Permits (fun _ _ => True) (fun _ _ => True) catalog p call := by
  have stacking (itemId : UInt32) (maxStack quantity : Int32) :
      ∃ S : Int32 → Prop, Stacks (fun _ _ => True) S itemId maxStack ∧ S quantity :=
    ⟨fun _ => True, ⟨fun _ _ _ _ _ _ => ⟨trivial, trivial⟩, fun _ _ _ => ⟨trivial, trivial⟩⟩,
      trivial⟩
  cases call with
  | add itemId quantity quality => exact fun gd _ _ => stacking itemId gd.maxStack quantity
  | addExisting item =>
      exact ⟨fun _ gd _ _ => stacking item.itemId gd.maxStack item.quantity,
        fun _ => ⟨trivial, trivial⟩⟩
  | removeByUniqueId itemDbId quantity => exact fun _ _ _ _ => trivial
  | removeAtSlotQty slot quantity => exact fun _ _ _ _ => trivial
  | remove itemId quantity quality => trivial
  | removeItem item => trivial
  | removeAtSlot slot => trivial
  | clear => trivial

theorem callSlots_any {l l' : Ledger} {call : SlotCall} (shape : l.package.Shape)
    (returns : l.callSlots catalog call = some l') :
    Reworked (fun _ _ => True) (fun _ _ => True) l.package l'.package :=
  callSlots_reworked (fun _ => trivial) (fun _ _ _ _ _ _ => trivial) shape
    (fun _ _ _ => trivial) (permits_any l.package call) returns

theorem addExisting_call {l : Ledger} {item : InventoryItem} {r : InventoryResult × Ledger}
    (returns : l.addExisting catalog item = some r) :
    l.callSlots catalog (.addExisting item) = some r.2 := by
  rw [Ledger.callSlots, returns]
  rfl

variable {inv inv' : ItemPackages}

theorem step_moveTo {code slot destination : UInt16}
    (taken : inv.step catalog (.moveTo code slot destination) = some inv') :
    code ≠ destination ∧
      ((inv' = inv ∧ ∀ item, (inv.packages code).getAtSlot slot = some item →
        (inv.packages destination).isFull = true) ∨
      ∃ item l, (inv.packages code).getAtSlot slot = some item ∧
        (inv.packages destination).isFull = false ∧
        ((inv.commit code ((inv.ledger code).removeAtSlot slot)).ledger destination).callSlots
          catalog (.addExisting item) = some l ∧
        inv' = (inv.commit code ((inv.ledger code).removeAtSlot slot)).commit destination l) := by
  simp only [ItemPackages.step] at taken
  split at taken
  · contradiction
  · next apart =>
      refine ⟨apart, ?_⟩
      obtain ⟨r, returns, rfl⟩ := Option.map_eq_some_iff.mp taken
      rw [moveTo] at returns
      split at returns
      · next empty =>
          cases returns
          refine Or.inl ⟨rfl, fun item here => ?_⟩
          rw [empty] at here
          contradiction
      · next item here =>
          split at returns
          · next full =>
              cases returns
              exact Or.inl ⟨rfl, fun _ _ => by simpa [canAdd] using full⟩
          · next room =>
              obtain ⟨⟨result, l⟩, added, rfl⟩ := Option.map_eq_some_iff.mp returns
              exact Or.inr ⟨item, l, here, by simpa [canAdd] using room,
                addExisting_call added, rfl⟩

theorem step_moveItem {code destination : UInt16} {item : InventoryItem}
    (taken : inv.step catalog (.moveItem code item destination) = some inv') :
    code ≠ destination ∧
      ((inv' = inv ∧ (inv.packages destination).isFull = true) ∨
      ∃ l, (inv.packages destination).isFull = false ∧
        ((inv.commit code ((inv.ledger code).removeItem item)).ledger destination).callSlots
          catalog (.addExisting item) = some l ∧
        inv' = (inv.commit code ((inv.ledger code).removeItem item)).commit destination l) := by
  simp only [ItemPackages.step] at taken
  split at taken
  · contradiction
  · next apart =>
      refine ⟨apart, ?_⟩
      obtain ⟨r, returns, rfl⟩ := Option.map_eq_some_iff.mp taken
      rw [moveItem] at returns
      split at returns
      · next full =>
          cases returns
          exact Or.inl ⟨rfl, by simpa [canAdd] using full⟩
      · next room =>
          obtain ⟨⟨result, l⟩, added, rfl⟩ := Option.map_eq_some_iff.mp returns
          exact Or.inr ⟨l, by simpa [canAdd] using room, addExisting_call added, rfl⟩

theorem Laid.callSlots {inv : ItemPackages} (laid : inv.Laid) (catalog : ItemCatalog)
    (code : UInt16) (call : SlotCall) {l : Ledger}
    (returns : (inv.ledger code).callSlots catalog call = some l) : (inv.commit code l).Laid :=
  laid.commit (callSlots_any (laid code).1 returns)

theorem Laid.step {call : InventoryCall} (laid : inv.Laid)
    (taken : inv.step catalog call = some inv') : inv'.Laid := by
  cases call with
  | slots code call =>
      obtain ⟨l, returns, rfl⟩ := Option.map_eq_some_iff.mp taken
      exact laid.callSlots catalog code call returns
  | updates code call =>
      cases taken
      exact laid.commit (Q := fun _ _ => True) (F := fun _ _ => True)
        (sameSlots_callUpdates (inv.ledger code) call).reworked
  | moveTo code slot destination =>
      obtain ⟨-, ⟨same, -⟩ | ⟨item, l, -, -, added, moved⟩⟩ := step_moveTo taken
      · rw [same]
        exact laid
      · rw [moved]
        have removed := laid.callSlots catalog code (.removeAtSlot slot) rfl
        exact removed.callSlots catalog destination (.addExisting item) added
  | moveItem code item destination =>
      obtain ⟨-, ⟨same, -⟩ | ⟨l, -, added, moved⟩⟩ := step_moveItem taken
      · rw [same]
        exact laid
      · rw [moved]
        have removed := laid.callSlots catalog code (.removeItem item) rfl
        exact removed.callSlots catalog destination (.addExisting item) added

end ItemPackages

/-! ### Quantities -/

theorem toInt_one : (1 : Int32).toInt = 1 := rfl

theorem toInt_zero : (0 : Int32).toInt = 0 := rfl

theorem min_int32 (a b : Int32) : min a b = if a ≤ b then a else b := rfl

theorem one_le_maxStack {gd : ItemData} (small : gd.stackSize < 0x80000000) : 1 ≤ gd.maxStack := by
  have bound : max gd.stackSize 1 = if gd.stackSize ≤ 1 then 1 else gd.stackSize := rfl
  rw [ItemData.maxStack]
  rw [bound]
  split
  · decide
  · next more =>
      have low : 1 < gd.stackSize.toNat := UInt32.lt_iff_toNat_lt.mp (UInt32.not_le.mp more)
      have high : gd.stackSize.toNat < 0x80000000 := UInt32.lt_iff_toNat_lt.mp small
      have value : gd.stackSize.toInt32.toInt = gd.stackSize.toNat := by
        change gd.stackSize.toBitVec.toInt = _
        rw [BitVec.toInt_eq_toNat_bmod]
        change ((gd.stackSize.toNat : Int)).bmod (2 ^ 32) = _
        apply Int.bmod_eq_of_le
        · omega
        · omega
      rw [Int32.le_iff_toInt_le, value, toInt_one]
      omega

/-- The largest quantity that tops up a stack without leaving the 32 bits. -/
def TopsUp (maxStack quantity : Int32) : Prop := quantity.toInt + maxStack.toInt ≤ 2 ^ 31

theorem topUp_bounds {old quantity least maxStack : Int32} (low : 1 ≤ old) (less : old < maxStack)
    (positive : 0 < quantity) (below : quantity ≤ least) (fits : TopsUp maxStack least) :
    (1 ≤ min (old + quantity) maxStack ∧ min (old + quantity) maxStack ≤ maxStack) ∧
      quantity - (maxStack - old) ≤ least := by
  have sum : 1 ≤ old + quantity := by
    simp only [TopsUp, Int32.le_iff_toInt_le, Int32.lt_iff_toInt_lt, toInt_one, toInt_zero,
      Int32.toInt_add] at low less positive below fits ⊢
    rw [Int.bmod_eq_of_le]
    · omega
    · omega
    · omega
  rw [min_int32]
  grind

theorem spawn_bounds {quantity least maxStack : Int32} (low : 1 ≤ maxStack)
    (positive : 0 < quantity) (below : quantity ≤ least) :
    (1 ≤ min quantity maxStack ∧ min quantity maxStack ≤ maxStack) ∧
      quantity - min quantity maxStack ≤ least := by
  rw [min_int32]
  grind

def InBounds (catalog : ItemCatalog) (itemId : UInt32) (quantity : Int32) : Prop :=
  1 ≤ quantity ∧ quantity ≤ Ledger.existingMaxStack catalog itemId

def SmallStacks (catalog : ItemCatalog) : Prop :=
  ∀ itemId gd, catalog itemId = some gd → gd.stackSize < 0x80000000

section InBounds

variable {catalog : ItemCatalog}

variable {itemId : UInt32}

theorem existingMaxStack_eq {gd : ItemData} (known : catalog itemId = some gd) :
    Ledger.existingMaxStack catalog itemId = gd.maxStack := by
  rw [Ledger.existingMaxStack, known]
  rfl

theorem inBounds_stacks (small : SmallStacks catalog) {quantity : Int32} {gd : ItemData}
    (known : catalog itemId = some gd) (fits : TopsUp gd.maxStack quantity) :
    ∃ S, Stacks (InBounds catalog) S itemId gd.maxStack ∧ S quantity := by
  have bound := existingMaxStack_eq known
  refine ⟨fun left => left ≤ quantity, ⟨fun old left within less positive below => ?_,
    fun left positive below => ?_⟩, Int32.le_refl quantity⟩
  · rw [InBounds, bound]
    exact topUp_bounds within.1 less positive below fits
  · rw [InBounds, bound]
    exact spawn_bounds (one_le_maxStack (small itemId gd known)) positive below

theorem inBounds_lower {old taken : Int32} (within : InBounds catalog itemId old)
    (nonneg : 0 ≤ taken) (left : 0 < old - taken) : InBounds catalog itemId (old - taken) := by
  obtain ⟨low, high⟩ := within
  have less : old - taken ≤ old := by grind
  exact ⟨by grind, Int32.le_trans less high⟩

end InBounds

/-- The ids that may come in: the id of rows not inserted yet, and one that is free. -/
def Fresh (x : UInt64) (p : ItemPackage) (id : UInt64) : Prop := id = 0 ∨ (id = x ∧ ¬ p.Holds x)

namespace ItemPackages

variable {catalog : ItemCatalog}

/-- Every quantity is in bounds, and no two entries of all packages share the id of a row. -/
structure Valued (catalog : ItemCatalog) (inv : ItemPackages) : Prop where
  every : ∀ code, (inv.packages code).Every (InBounds catalog)
  distinct : ∀ code, (inv.packages code).Distinct
  apart : ∀ code other id, id ≠ 0 → (inv.packages code).Holds id →
    (inv.packages other).Holds id → code = other

theorem holds_of_reworked {Q : UInt32 → Int32 → Prop} {x : UInt64} {p p' : ItemPackage}
    (reworked : Reworked Q (Fresh x) p p') {id : UInt64} (nonzero : id ≠ 0) (held : p'.Holds id) :
    p.Holds id ∨ id = x := by
  have stable : Stable Q (Fresh x) fun q => q.Holds id → p.Holds id ∨ id = x := by
    refine ⟨fun q q' edit before held => ?_, fun q q' same before held => ?_⟩
    · rcases edit.holds held with earlier | ⟨_, zero | ⟨new, -⟩⟩
      · exact before earlier
      · exact absurd zero nonzero
      · exact Or.inr new
    · obtain ⟨i, item, found, own⟩ := held
      rw [same.entryAt_eq] at found
      exact before ⟨i, item, found, own⟩
  exact reworked.keep _ stable Or.inl held

variable {inv : ItemPackages} {item : InventoryItem} {l : Ledger}

theorem Valued.commit (valued : inv.Valued catalog) {code : UInt16} {x : UInt64}
    (reworked : Reworked (InBounds catalog) (Fresh x) (inv.packages code) l.package)
    (alone : x ≠ 0 → ∀ other, other ≠ code → ¬ (inv.packages other).Holds x) :
    (inv.commit code l).Valued catalog := by
  have every : Stable (InBounds catalog) (Fresh x) fun p => p.Every (InBounds catalog) :=
    stable_every
  have distinct : Stable (InBounds catalog) (Fresh x) fun p => p.Distinct := by
    refine ⟨fun p p' edit before => edit.distinct ?_ before, fun p p' same before => ?_⟩
    · intro p id held nonzero
      rcases held with zero | ⟨rfl, free⟩
      · exact absurd zero nonzero
      · exact free
    · intro i j a b atI atJ
      rw [same.entryAt_eq] at atI atJ
      exact before i j a b atI atJ
  have new (id : UInt64) (nonzero : id ≠ 0) (held : l.package.Holds id) :
      (inv.packages code).Holds id ∨ id = x := holds_of_reworked reworked nonzero held
  refine ⟨fun other => ?_, fun other => ?_, fun c d id nonzero atC atD => ?_⟩
  · rw [packages_commit]
    split
    · exact reworked.keep _ every (valued.every code)
    · exact valued.every other
  · rw [packages_commit]
    split
    · exact reworked.keep _ distinct (valued.distinct code)
    · exact valued.distinct other
  · rw [packages_commit] at atC atD
    split at atC
    · next here =>
        split at atD
        · next there => exact here.trans there.symm
        · next there =>
            rcases new id nonzero atC with before | rfl
            · exact here.trans (valued.apart code d id nonzero before atD)
            · exact absurd atD (alone nonzero d there)
    · next here =>
        split at atD
        · next there =>
            rcases new id nonzero atD with before | rfl
            · exact (valued.apart c code id nonzero atC before).trans there.symm
            · exact absurd atC (alone nonzero c here)
        · exact valued.apart c d id nonzero atC atD

/-- An item that may come in: it is added to the stacks without an overflow, or it is taken
as it is with a quantity in bounds and an id that no package holds. -/
def Admits (catalog : ItemCatalog) (inv : ItemPackages) (code : UInt16) (item : InventoryItem) :
    Prop :=
  if TakenAsIs catalog (inv.packages code) item then
    InBounds catalog item.itemId item.quantity ∧
      (item.uniqueId ≠ 0 → ∀ other, ¬ (inv.packages other).Holds item.uniqueId)
  else TopsUp (Ledger.existingMaxStack catalog item.itemId) item.quantity

def FairSlots (catalog : ItemCatalog) (inv : ItemPackages) (code : UInt16) : SlotCall → Prop
  | .add itemId quantity _ => TopsUp (Ledger.existingMaxStack catalog itemId) quantity
  | .addExisting item => Admits catalog inv code item
  | .removeByUniqueId _ quantity => 0 ≤ quantity
  | .removeAtSlotQty _ quantity => 0 ≤ quantity
  | _ => True

/-- No addition overflows, no removal is negative, an existing item that is taken as it is
has a quantity in bounds and a free id, and an item that is moved is in its package. -/
def Fair (catalog : ItemCatalog) (inv : ItemPackages) : InventoryCall → Prop
  | .slots code call => FairSlots catalog inv code call
  | .updates _ _ => True
  | .moveTo code slot destination => ∀ item, (inv.packages code).getAtSlot slot = some item →
      ¬ TakenAsIs catalog (inv.packages destination) item →
        TopsUp (Ledger.existingMaxStack catalog item.itemId) item.quantity
  | .moveItem code item destination => (inv.packages code).getAtSlot item.slot = some item ∧
      (¬ TakenAsIs catalog (inv.packages destination) item →
        TopsUp (Ledger.existingMaxStack catalog item.itemId) item.quantity)

theorem permits_fair (small : SmallStacks catalog) {code : UInt16} {call : SlotCall}
    (fair : FairSlots catalog inv code call) :
    ∃ x, Permits (InBounds catalog) (Fresh x) catalog (inv.packages code) call ∧
      (x ≠ 0 → ∀ other, ¬ (inv.packages other).Holds x) := by
  have no_id : (0 : UInt64) ≠ 0 → ∀ other, ¬ (inv.packages other).Holds 0 :=
    fun impossible => absurd rfl impossible
  cases call with
  | add itemId quantity quality =>
      refine ⟨0, fun gd known _ => inBounds_stacks small known ?_, no_id⟩
      rw [← existingMaxStack_eq known]
      exact fair
  | addExisting item =>
      simp only [FairSlots, Admits] at fair
      by_cases keeps : TakenAsIs catalog (inv.packages code) item
      · rw [if_pos keeps] at fair
        obtain ⟨within, free⟩ := fair
        refine ⟨item.uniqueId, ⟨fun stacked => absurd keeps stacked, fun _ => ⟨within, ?_⟩⟩, free⟩
        by_cases zero : item.uniqueId = 0
        · exact Or.inl zero
        · exact Or.inr ⟨rfl, free zero code⟩
      · rw [if_neg keeps] at fair
        refine ⟨0, ⟨fun _ gd known _ => inBounds_stacks small known ?_,
          fun impossible => absurd impossible keeps⟩, no_id⟩
        rw [← existingMaxStack_eq known]
        exact fair
  | removeByUniqueId itemDbId quantity =>
      refine ⟨0, fun id old within less => inBounds_lower within fair ?_, no_id⟩
      have nonneg : 0 ≤ quantity := fair
      have low := within.1
      grind
  | removeAtSlotQty slot quantity =>
      exact ⟨0, fun id old within left => inBounds_lower within fair left, no_id⟩
  | remove itemId quantity quality => exact ⟨0, trivial, no_id⟩
  | removeItem item => exact ⟨0, trivial, no_id⟩
  | removeAtSlot slot => exact ⟨0, trivial, no_id⟩
  | clear => exact ⟨0, trivial, no_id⟩

theorem Valued.callSlots (small : SmallStacks catalog) (laid : inv.Laid)
    (valued : inv.Valued catalog) (code : UInt16) (call : SlotCall)
    (fair : FairSlots catalog inv code call)
    (returns : (inv.ledger code).callSlots catalog call = some l) :
    (inv.commit code l).Valued catalog := by
  obtain ⟨x, permits, free⟩ := permits_fair small fair
  have lowers (id : UInt32) (old taken : Int32) (within : InBounds catalog id old)
      (positive : 0 < taken) (left : 0 < old - taken) : InBounds catalog id (old - taken) :=
    inBounds_lower within (Int32.le_of_lt positive) left
  exact valued.commit (callSlots_reworked (fun _ => Or.inl rfl) lowers (laid code).1
    (valued.every code) permits returns) fun nonzero other _ => free nonzero other

theorem removeAtSlot_forgets (shape : l.package.Shape) (distinct : l.package.Distinct)
    {slot : UInt16} (here : l.package.getAtSlot slot = some item) (nonzero : item.uniqueId ≠ 0) :
    ¬ (l.removeAtSlot slot).package.Holds item.uniqueId := by
  have entry : l.package.entryAt slot.toNat = some item := here
  have inside := shape.lt_of_entryAt entry
  have dropped : (l.dropAt slot.toNat item.uniqueId).package = l.package.put slot.toNat none :=
    Ledger.pushDb_package ..
  have loose : (l.dropAt slot.toNat item.uniqueId).package.Loose := by
    rw [dropped]
    exact shape.put_none slot.toNat
  obtain ⟨realigned, -⟩ := realign_edits (Q := fun _ _ => True) (F := fun _ _ => False) loose
  have result : l.removeAtSlot slot =
      (l.dropAt slot.toNat item.uniqueId).realign.bracketedSendUpdate := by
    rw [Ledger.removeAtSlot]
    rw [if_neg (Nat.not_le.mpr inside), entry]
  intro held
  obtain ⟨i, found, at_i, own⟩ := held
  rw [result, (sameSlots_bracketedSendUpdate _).entryAt_eq] at at_i
  rcases realigned.holds ⟨i, found, at_i, own⟩ with ⟨j, kept, at_j, same⟩ | ⟨_, impossible⟩
  · rw [dropped, entryAt_put] at at_j
    split at at_j
    · contradiction
    · next other =>
        have only := distinct slot.toNat j item kept entry at_j same.symm nonzero
        exact other ⟨only.symm, lt_length_of_entryAt entry⟩
  · exact impossible

theorem admits_moved (laid : inv.Laid) (valued : inv.Valued catalog)
    {code slot destination : UInt16} (other : code ≠ destination)
    (here : (inv.packages code).getAtSlot slot = some item)
    (fits : ¬ TakenAsIs catalog (inv.packages destination) item →
      TopsUp (Ledger.existingMaxStack catalog item.itemId) item.quantity) :
    Admits catalog (inv.commit code ((inv.ledger code).removeAtSlot slot)) destination item := by
  have there : (inv.commit code ((inv.ledger code).removeAtSlot slot)).packages destination =
      inv.packages destination := by
    rw [packages_commit, if_neg (Ne.symm other)]
  rw [Admits, there]
  split
  · refine ⟨valued.every code slot.toNat item here, fun nonzero any held => ?_⟩
    rw [packages_commit] at held
    split at held
    · exact removeAtSlot_forgets (l := inv.ledger code) (laid code).1 (valued.distinct code) here
        nonzero held
    · next elsewhere =>
        have both := valued.apart any code item.uniqueId nonzero held
          ⟨slot.toNat, item, here, rfl⟩
        exact elsewhere both
  · next stacked => exact fits stacked

theorem Valued.move (small : SmallStacks catalog) (laid : inv.Laid)
    (valued : inv.Valued catalog) {code slot destination : UInt16} (other : code ≠ destination)
    (here : (inv.packages code).getAtSlot slot = some item)
    (fits : ¬ TakenAsIs catalog (inv.packages destination) item →
      TopsUp (Ledger.existingMaxStack catalog item.itemId) item.quantity)
    (added : ((inv.commit code ((inv.ledger code).removeAtSlot slot)).ledger destination).callSlots
      catalog (.addExisting item) = some l) :
    ((inv.commit code ((inv.ledger code).removeAtSlot slot)).commit destination l).Valued
      catalog := by
  have removed := valued.callSlots small laid code (.removeAtSlot slot) trivial rfl
  have laid' := laid.callSlots catalog code (.removeAtSlot slot) rfl
  exact removed.callSlots small laid' destination (.addExisting item)
    (admits_moved laid valued other here fits) added

theorem Valued.step (small : SmallStacks catalog) {inv inv' : ItemPackages} {call : InventoryCall}
    (laid : inv.Laid) (valued : inv.Valued catalog) (fair : Fair catalog inv call)
    (taken : inv.step catalog call = some inv') : inv'.Valued catalog := by
  cases call with
  | slots code call =>
      obtain ⟨l, returns, rfl⟩ := Option.map_eq_some_iff.mp taken
      exact valued.callSlots small laid code call fair returns
  | updates code call =>
      cases taken
      apply valued.commit (x := 0)
      · exact (sameSlots_callUpdates (inv.ledger code) call).reworked
      · exact fun impossible => absurd rfl impossible
  | moveTo code slot destination =>
      obtain ⟨other, ⟨same, -⟩ | ⟨item, l, here, -, added, moved⟩⟩ := step_moveTo taken
      · rw [same]
        exact valued
      · rw [moved]
        exact valued.move small laid other here (fair item here) added
  | moveItem code item destination =>
      obtain ⟨here, fits⟩ := fair
      have own : (inv.ledger code).removeItem item = (inv.ledger code).removeAtSlot item.slot :=
        if_pos ((laid code).1.package_eq item.slot.toNat item here)
      obtain ⟨other, ⟨same, -⟩ | ⟨l, -, added, moved⟩⟩ := step_moveItem taken
      · rw [same]
        exact valued
      · rw [own] at added moved
        rw [moved]
        exact valued.move small laid other here fits added

end ItemPackages

/-! ### Stored rows -/

def placed (code : UInt16) (i : Nat) (item : InventoryItem) : InventoryItem :=
  { item with slot := UInt16.ofNat i, itemPackage := code }

theorem init_withFlags (ownerActorId : UInt32) (capacity code : UInt16) (isTemporary : Bool)
    (items : List InventoryItem) :
    let p := (ItemPackage.withFlags ownerActorId capacity code isTemporary).init items
    let rows := items.take capacity.toNat
    p.list = rows.mapIdx (fun i item => some (placed code i item)) ++
        List.replicate (capacity.toNat - rows.length) none ∧
      p.endOfListIndex = rows.length := by
  intro p rows
  have short : rows.length ≤ capacity.toNat := List.length_take_le ..
  have list_eq : p.list = rows.mapIdx (fun i item => some (placed code i item)) ++
      List.replicate (capacity.toNat - rows.length) none := by
    simp only [p, ItemPackage.init, ItemPackage.withFlags, List.drop_replicate, List.length_mapIdx]
    rfl
  have filled : (rows.mapIdx fun i item => some (placed code i item)).findIdx? (·.isNone) =
      none := by
    rw [List.findIdx?_eq_none_iff]
    intro entry member
    obtain ⟨i, inside, rfl⟩ := List.mem_mapIdx.mp member
    rfl
  refine ⟨list_eq, ?_⟩
  have end_eq : p.endOfListIndex = (p.list.findIdx? (·.isNone)).getD capacity.toNat := rfl
  rw [end_eq, list_eq, List.findIdx?_append, filled, List.findIdx?_replicate, List.length_mapIdx]
  by_cases room : rows.length < capacity.toNat
  · simp [Nat.sub_pos_of_lt room]
  · have full : rows.length = capacity.toNat := by omega
    simp [full]

theorem entryAt_init (ownerActorId : UInt32) (capacity code : UInt16) (isTemporary : Bool)
    (items : List InventoryItem) (i : Nat) :
    ((ItemPackage.withFlags ownerActorId capacity code isTemporary).init items).entryAt i =
      (items.take capacity.toNat)[i]?.map (placed code i) := by
  obtain ⟨list_eq, -⟩ := init_withFlags ownerActorId capacity code isTemporary items
  rw [entryAt, list_eq, List.getElem?_append, List.length_mapIdx]
  split
  · rw [List.getElem?_mapIdx]
    cases (items.take capacity.toNat)[i]? with
    | none => rfl
    | some item => rfl
  · next beyond =>
      rw [List.getElem?_eq_none (Nat.le_of_not_lt beyond), List.getElem?_replicate]
      split
      · rfl
      · rfl

theorem shape_init (ownerActorId : UInt32) (capacity code : UInt16) (isTemporary : Bool)
    (items : List InventoryItem) :
    ((ItemPackage.withFlags ownerActorId capacity code isTemporary).init items).Shape := by
  obtain ⟨list_eq, end_eq⟩ := init_withFlags ownerActorId capacity code isTemporary items
  have entry_eq := entryAt_init ownerActorId capacity code isTemporary items
  have short : (items.take capacity.toNat).length ≤ capacity.toNat := List.length_take_le ..
  refine ⟨⟨?_, List.length_replicate, ?_, fun i beyond => ?_, fun i item found => ?_,
    fun i item found => ?_⟩, fun i below => ?_⟩
  · rw [list_eq, List.length_append, List.length_mapIdx, List.length_replicate]
    change _ = capacity.toNat
    omega
  · rw [end_eq]
    exact short
  · rw [entry_eq, List.getElem?_eq_none (end_eq ▸ beyond)]
    rfl
  · rw [entry_eq] at found
    obtain ⟨row, -, rfl⟩ := Option.map_eq_some_iff.mp found
    rfl
  · rw [entry_eq] at found
    obtain ⟨row, -, rfl⟩ := Option.map_eq_some_iff.mp found
    rfl
  · rw [entry_eq, List.getElem?_eq_getElem (end_eq ▸ below)]
    rfl

namespace ItemPackages

variable (catalog : ItemCatalog) (ownerActorId : UInt32) (capacity : UInt16 → UInt16)
  (isTemporary : UInt16 → Bool) (stored : UInt16 → List InventoryItem)

theorem laid_load : (load ownerActorId capacity isTemporary stored).Laid :=
  fun code => ⟨shape_init ownerActorId (capacity code) code (isTemporary code) (stored code), rfl⟩

def rows (code : UInt16) : List InventoryItem := (stored code).take (capacity code).toNat

/-- The stored rows have quantities in bounds and ids of their own. -/
structure Stored : Prop where
  bounded : ∀ code item, item ∈ rows capacity stored code →
    InBounds catalog item.itemId item.quantity
  distinct : ∀ code other (i j : Nat) (a b : InventoryItem),
    (rows capacity stored code)[i]? = some a → (rows capacity stored other)[j]? = some b →
      a.uniqueId = b.uniqueId → a.uniqueId ≠ 0 → code = other ∧ i = j

variable {catalog capacity stored}

theorem valued_load (stored_ok : Stored catalog capacity stored) :
    (load ownerActorId capacity isTemporary stored).Valued catalog := by
  have row {code : UInt16} {i : Nat} {item : InventoryItem}
      (found : ((load ownerActorId capacity isTemporary stored).packages code).entryAt i =
        some item) : ∃ stored_row, (rows capacity stored code)[i]? = some stored_row ∧
          item = placed code i stored_row := by
    have entry_eq :=
      entryAt_init ownerActorId (capacity code) code (isTemporary code) (stored code) i
    obtain ⟨stored_row, here, rfl⟩ := Option.map_eq_some_iff.mp (entry_eq.symm.trans found)
    exact ⟨stored_row, here, rfl⟩
  refine ⟨fun code i item found => ?_, fun code i j a b atI atJ same nonzero => ?_,
    fun code other id nonzero held held' => ?_⟩
  · obtain ⟨stored_row, here, rfl⟩ := row found
    exact stored_ok.bounded code stored_row (List.mem_of_getElem? here)
  · obtain ⟨first, here, rfl⟩ := row atI
    obtain ⟨second, there, rfl⟩ := row atJ
    exact (stored_ok.distinct code code i j first second here there same nonzero).2
  · obtain ⟨i, a, atI, rfl⟩ := held
    obtain ⟨j, b, atJ, same⟩ := held'
    obtain ⟨first, here, rfl⟩ := row atI
    obtain ⟨second, there, rfl⟩ := row atJ
    exact (stored_ok.distinct code other i j first second here there same.symm nonzero).1

variable (catalog capacity stored)

/-- From stored rows, every call that returns leaves every package laid out in order; and in
a run of fair calls every quantity stays in bounds, and no two entries share the id of a row. -/
theorem representation_kept (calls : List InventoryCall) :
    Always (step catalog) Laid (load ownerActorId capacity isTemporary stored) calls ∧
      (SmallStacks catalog → Stored catalog capacity stored →
        EachStep (step catalog) (Fair catalog) (load ownerActorId capacity isTemporary stored)
            calls →
          Always (step catalog) (Valued catalog) (load ownerActorId capacity isTemporary stored)
            calls) := by
  have laid := laid_load ownerActorId capacity isTemporary stored
  refine ⟨always_of_step (fun _ _ _ laid taken => laid.step taken) laid calls,
    fun small stored_ok fair => ?_⟩
  have both : Always (step catalog) (fun inv => inv.Laid ∧ inv.Valued catalog)
      (load ownerActorId capacity isTemporary stored) calls := by
    apply always_of_eachStep _ ⟨laid, valued_load ownerActorId isTemporary stored_ok⟩ fair
    intro inv call inv' before fair taken
    exact ⟨before.1.step taken, before.2.step small before.1 fair taken⟩
  exact both.mono fun _ held => held.2

def potions : ItemCatalog := fun itemId => if itemId = 42 then some { stackSize := 99 } else none

theorem potions_small : SmallStacks potions := by
  intro itemId gd known
  rw [potions] at known
  split at known
  · cases known
    decide
  · contradiction

theorem representation_kept_potions :
    Always (step potions) (Valued potions) (load 1 (fun _ => 10) (fun _ => false) fun _ => [])
      [.slots pkgNormal (.add 42 50 1), .slots pkgNormal (.removeAtSlotQty 0 30)] := by
  apply (representation_kept potions 1 (fun _ => 10) (fun _ => false) (fun _ => []) _).2
  · exact potions_small
  · refine ⟨fun code item member => ?_, fun code other i j a b here => ?_⟩
    · simp [rows] at member
    · simp [rows] at here
  · intro inv taken
    refine ⟨?_, fun inv' taken' => ⟨?_, trivial⟩⟩
    · have sum : (50 : Int32).toInt + (Ledger.existingMaxStack potions 42).toInt ≤ 2 ^ 31 := by
        decide
      exact sum
    · change (0 : Int32) ≤ 30
      decide

/-- The representation, without an exception for the ids of rows that are not inserted yet. -/
def Represented (catalog : ItemCatalog) (inv : ItemPackages) : Prop :=
  inv.Laid ∧ ∀ code, (inv.packages code).Every (InBounds catalog) ∧
    ∀ i j a b, (inv.packages code).entryAt i = some a → (inv.packages code).entryAt j = some b →
      a.uniqueId = b.uniqueId → i = j

/-- 150 potions make two stacks, and neither has been given an id. -/
theorem spawned_stacks_share_id :
    ¬ Always (step potions) (Represented potions)
      (load 1 (fun _ => 10) (fun _ => false) fun _ => []) [.slots pkgNormal (.add 42 150 1)] := by
  intro always
  have facts : ((run (step potions) (load 1 (fun _ => 10) (fun _ => false) fun _ => [])
      [.slots pkgNormal (.add 42 150 1)]).map fun inv =>
        (((inv.packages pkgNormal).entryAt 0).map (·.uniqueId),
          ((inv.packages pkgNormal).entryAt 1).map (·.uniqueId))) = some (some 0, some 0) := by
    decide
  obtain ⟨inv, reached, same⟩ := Option.map_eq_some_iff.mp facts
  simp only [Prod.mk.injEq, Option.map_eq_some_iff] at same
  obtain ⟨⟨a, atZero, zero⟩, ⟨b, atOne, zero'⟩⟩ := same
  have held := always_iff_reached.mp always _ (List.prefix_refl _) inv reached
  have equal := (held.2 pkgNormal).2 0 1 a b atZero atOne (zero.trans zero'.symm)
  contradiction

end ItemPackages
end Garlemald.Inventory
