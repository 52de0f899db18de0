import Garlemald.Inventory.Referenced
import Garlemald.Inventory.Representation

/-!
When the references of the equipment designate their items. No call on a package writes to
them, so they hold as long as nothing is taken out of their own slot or a slot below it, and
a reference to an item that is gone stays.
-/

namespace Garlemald.Inventory
open Library ItemPackage

def ItemPackage.Has (p : ItemPackage) (slot : Nat) (uniqueId : UInt64) : Prop :=
  ∃ item, p.entryAt slot = some item ∧ item.uniqueId = uniqueId

/-! ### What a realign leaves alone -/

theorem realignAt_below {p : ItemPackage} {k n : Nat}
    (filled : ∀ j, j ≤ k → (p.entryAt j).isSome) {s : Ledger.Realigning}
    (holes : ∀ dst, s.lastNull = some dst → k < dst ∧ dst < n)
    (below : ∀ j, j ≤ k → s.package.entryAt j = p.entryAt j) :
    (∀ dst, (Ledger.realignAt s n).lastNull = some dst → k < dst ∧ dst < n + 1) ∧
      ∀ j, j ≤ k → (Ledger.realignAt s n).package.entryAt j = p.entryAt j := by
  rw [Ledger.realignAt]
  cases here : s.package.entryAt n with
  | none =>
      cases hole : s.lastNull with
      | none =>
          refine ⟨fun dst own => ?_, below⟩
          cases own
          refine ⟨?_, Nat.lt_succ_self n⟩
          by_contra low
          have there := filled n (Nat.le_of_not_lt low)
          rw [← below n (Nat.le_of_not_lt low), here] at there
          contradiction
      | some dst =>
          refine ⟨fun dst' same => ?_, below⟩
          have old := holes dst' same
          exact ⟨old.1, Nat.lt_succ_of_lt old.2⟩
  | some item =>
      cases hole : s.lastNull with
      | none =>
          refine ⟨fun dst' same => ?_, below⟩
          rw [hole] at same
          contradiction
      | some dst =>
          obtain ⟨above, before⟩ := holes dst hole
          refine ⟨fun dst' own => ?_, fun j low => ?_⟩
          · cases own
            omega
          · rw [entryAt_put_of_ne _ (by omega), entryAt_put_of_ne _ (by omega)]
            exact below j low

theorem realign_below {l : Ledger} {k : Nat} (filled : ∀ j, j ≤ k → (l.package.entryAt j).isSome) :
    ∀ j, j ≤ k → l.realign.package.entryAt j = l.package.entryAt j := by
  have loop (n : Nat) :
      (∀ dst, ((List.range n).foldl Ledger.realignAt { package := l.package }).lastNull =
          some dst → k < dst ∧ dst < n) ∧
        ∀ j, j ≤ k → ((List.range n).foldl Ledger.realignAt
          { package := l.package }).package.entryAt j = l.package.entryAt j := by
    induction n with
    | zero => exact ⟨fun dst impossible => by contradiction, fun j _ => rfl⟩
    | succ n ih =>
        rw [List.range_succ, List.foldl_append]
        exact realignAt_below filled ih.1 ih.2
  intro j low
  have kept := (loop l.package.endOfListIndex).2 j low
  rw [Ledger.realign]
  dsimp only
  split
  · exact kept
  · exact kept

theorem entryAt_sent (l : Ledger) (i : Nat) :
    l.bracketedSendUpdate.package.entryAt i = l.package.entryAt i :=
  (sameSlots_bracketedSendUpdate l).entryAt_eq i

theorem settled_below {l : Ledger} {k : Nat} {id : UInt64}
    (filled : ∀ j, j ≤ k → (l.package.entryAt j).isSome) (has : l.package.Has k id) :
    l.realign.bracketedSendUpdate.package.Has k id := by
  obtain ⟨item, here, same⟩ := has
  exact ⟨item, by rw [entryAt_sent, realign_below filled k (Nat.le_refl k), here], same⟩

/-! ### Calls on slots -/

def Ledger.Takes (l : Ledger) (j : Nat) : SlotCall → Prop
  | .add .. => False
  | .addExisting _ => False
  | .remove itemId quantity quality => l.package.hasItemQq itemId quantity quality = true ∧
      ((List.range l.package.endOfListIndex).reverse.foldl (takeAt itemId quality)
        (l, quantity)).1.package.entryAt j = none
  | .removeItem item => item.itemPackage = l.package.code ∧ j = item.slot.toNat
  | .removeByUniqueId itemDbId quantity =>
      (l.package.list.take l.package.endOfListIndex).findIdx? (·.any (·.uniqueId = itemDbId)) =
        some j ∧ ∃ item, l.package.entryAt j = some item ∧ item.quantity ≤ quantity
  | .removeAtSlot slot => j = slot.toNat
  | .removeAtSlotQty slot quantity => j = slot.toNat ∧
      ∃ item, l.package.entryAt j = some item ∧ item.quantity - quantity ≤ 0
  | .clear => True

variable {item : InventoryItem}

section Calls

variable {l : Ledger} {k : Nat} {id : UInt64}

theorem has_put {p : ItemPackage} {i : Nat} {item new : InventoryItem}
    (here : p.entryAt i = some item) (own : new.uniqueId = item.uniqueId) (has : p.Has k id) :
    (p.put i (some new)).Has k id := by
  obtain ⟨held, there, same⟩ := has
  by_cases equal : k = i
  · rw [equal, here] at there
    cases there
    refine ⟨new, ?_, own.trans same⟩
    rw [equal, entryAt_put_self _ (lt_length_of_entryAt here)]
  · exact ⟨held, by rw [entryAt_put_of_ne _ equal, there], same⟩

theorem has_additive (k : Nat) (id : UInt64) :
    Additive fun l => l.package.Loose ∧ l.package.Has k id where
  requantify l i item quantity both here := by
    have edit : Edit (fun _ _ => True) (fun _ _ => True) true l.package _ :=
      .requantify i item quantity here trivial
    rw [Ledger.requantifyAt, Ledger.pushDb_package]
    exact ⟨edit.loose both.1, has_put here rfl both.2⟩
  spawn l itemId quality quantity both room := by
    let item : InventoryItem :=
      { itemId, quantity, quality
        slot := UInt16.ofNat l.package.endOfListIndex
        linkSlot := 0xFFFF
        itemPackage := l.package.code }
    have edit : Edit (fun _ _ => True) (fun _ _ => True) true l.package _ :=
      .spawn item room rfl rfl trivial trivial
    obtain ⟨held, here, same⟩ := both.2
    have before := both.1.lt_of_entryAt here
    rw [Ledger.spawn, Ledger.pushDb_package]
    refine ⟨edit.loose both.1, held, ?_, same⟩
    change (l.package.put l.package.endOfListIndex _).entryAt k = some held
    rw [entryAt_put_of_ne _ (Nat.ne_of_lt before), here]
  sent l both := by
    obtain ⟨item, here, same⟩ := both.2
    exact ⟨(sameSlots_bracketedSendUpdate l).loose both.1, item, by rw [entryAt_sent, here], same⟩

theorem has_addExisting (loose : l.package.Loose) (has : l.package.Has k id) (catalog : ItemCatalog)
    {r : InventoryResult × Ledger} (returns : l.addExisting catalog item = some r) :
    r.2.package.Has k id := by
  rw [Ledger.addExisting] at returns
  dsimp only at returns
  split at returns
  · cases returns
    exact ((has_additive k id).add ⟨loose, has⟩ catalog item.itemId item.quantity item.quality).2
  · split at returns
    · cases returns
      exact has
    · split at returns
      · cases returns
        exact has
      · split at returns
        · contradiction
        · cases returns
          obtain ⟨held, here, same⟩ := has
          have before := loose.lt_of_entryAt here
          refine ⟨held, ?_, same⟩
          dsimp only
          rw [entryAt_sent, Ledger.pushDb_package]
          change (l.package.put l.package.endOfListIndex _).entryAt k = some held
          rw [entryAt_put_of_ne _ (Nat.ne_of_lt before), here]

theorem has_dropAt {i : Nat} (above : k < i) (uniqueId : UInt64)
    (filled : ∀ j, j ≤ k → (l.package.entryAt j).isSome) (has : l.package.Has k id) :
    (l.dropAt i uniqueId).realign.bracketedSendUpdate.package.Has k id := by
  have same (j : Nat) (low : j ≤ k) :
      (l.dropAt i uniqueId).package.entryAt j = l.package.entryAt j := by
    rw [Ledger.dropAt, Ledger.pushDb_package]
    exact entryAt_put_of_ne _ (by omega) _
  apply settled_below
  · intro j low
    rw [same j low]
    exact filled j low
  · obtain ⟨item, here, own⟩ := has
    exact ⟨item, by rw [same k (Nat.le_refl k), here], own⟩

theorem has_requantifyAt {i : Nat} (here : l.package.entryAt i = some item) (quantity : Int32)
    (filled : ∀ j, j ≤ k → (l.package.entryAt j).isSome) (has : l.package.Has k id) :
    (l.requantifyAt i item quantity).package.Has k id ∧
      ∀ j, j ≤ k → ((l.requantifyAt i item quantity).package.entryAt j).isSome := by
  rw [Ledger.requantifyAt, Ledger.pushDb_package]
  refine ⟨has_put here rfl has, fun j low => ?_⟩
  change ((l.package.put i _).entryAt j).isSome
  rw [entryAt_put]
  split
  · rfl
  · exact filled j low

theorem takeAt_entries (itemId : UInt32) (quality : UInt8) (s : Ledger × Int32) (i j : Nat)
    (left : (Ledger.takeAt itemId quality s i).1.package.entryAt j = some item) :
    ∃ old, s.1.package.entryAt j = some old ∧ old.uniqueId = item.uniqueId := by
  rw [Ledger.takeAt] at left
  split at left
  · exact ⟨item, left, rfl⟩
  · split at left
    · exact ⟨item, left, rfl⟩
    · next held here =>
        split at left
        · exact ⟨item, left, rfl⟩
        · split at left
          · rw [Ledger.dropAt, Ledger.pushDb_package] at left
            change (s.1.package.put i none).entryAt j = some item at left
            rw [entryAt_put] at left
            split at left
            · contradiction
            · exact ⟨item, left, rfl⟩
          · rw [Ledger.requantifyAt, Ledger.pushDb_package] at left
            change (s.1.package.put i _).entryAt j = some item at left
            rw [entryAt_put] at left
            split at left
            · next own =>
                cases left
                exact ⟨held, own.1 ▸ here, rfl⟩
            · exact ⟨item, left, rfl⟩

theorem take_entries (itemId : UInt32) (quality : UInt8) (slots : List Nat) (s : Ledger × Int32)
    (j : Nat)
    (left : (slots.foldl (Ledger.takeAt itemId quality) s).1.package.entryAt j = some item) :
    ∃ old, s.1.package.entryAt j = some old ∧ old.uniqueId = item.uniqueId := by
  induction slots generalizing s with
  | nil => exact ⟨item, left, rfl⟩
  | cons i slots ih =>
      obtain ⟨between, there, same⟩ := ih (Ledger.takeAt itemId quality s i) left
      obtain ⟨old, here, same'⟩ := takeAt_entries itemId quality s i j there
      exact ⟨old, here, same'.trans same⟩

theorem above_of_takes {call : SlotCall} (kept : ∀ j, j ≤ k → ¬ l.Takes j call) {i : Nat}
    (takes : l.Takes i call) : k < i := by
  by_contra low
  exact kept i (Nat.le_of_not_lt low) takes

theorem has_removeAtSlot {slot : UInt16} (above : k < slot.toNat)
    (filled : ∀ j, j ≤ k → (l.package.entryAt j).isSome) (has : l.package.Has k id) :
    (l.removeAtSlot slot).package.Has k id := by
  rw [Ledger.removeAtSlot]
  split
  · exact has
  · cases l.package.entryAt slot.toNat with
    | none => exact settled_below filled has
    | some held => exact has_dropAt above held.uniqueId filled has

theorem has_remove {itemId : UInt32} {quantity : Int32} {quality : UInt8}
    (kept : ∀ j, j ≤ k → ¬ l.Takes j (.remove itemId quantity quality))
    (has : l.package.Has k id) : (l.remove itemId quantity quality).package.Has k id := by
  rw [Ledger.remove]
  split
  · exact has
  · next enough =>
      apply settled_below
      · intro j low
        rw [Option.isSome_iff_ne_none]
        intro empty
        exact kept j low ⟨not_not.mp enough, empty⟩
      · obtain ⟨item, here, same⟩ := has
        cases left : ((List.range l.package.endOfListIndex).reverse.foldl
            (Ledger.takeAt itemId quality) (l, quantity)).1.package.entryAt k with
        | none => exact absurd ⟨not_not.mp enough, left⟩ (kept k (Nat.le_refl k))
        | some item' =>
            obtain ⟨old, there, own⟩ := take_entries itemId quality _ (l, quantity) k left
            rw [here] at there
            cases there
            exact ⟨item', left, own.symm.trans same⟩

theorem callSlots_has {catalog : ItemCatalog} {l' : Ledger} {call : SlotCall}
    (shape : l.package.Shape) (has : l.package.Has k id) (kept : ∀ j, j ≤ k → ¬ l.Takes j call)
    (returns : l.callSlots catalog call = some l') : l'.package.Has k id := by
  have filled (j : Nat) (low : j ≤ k) : (l.package.entryAt j).isSome := by
    obtain ⟨item, here, _⟩ := has
    exact shape.present j (Nat.lt_of_le_of_lt low (shape.lt_of_entryAt here))
  cases call with
  | add itemId quantity quality =>
      cases returns
      exact ((has_additive k id).add ⟨shape.toLoose, has⟩ catalog itemId quantity quality).2
  | addExisting item =>
      obtain ⟨r, returned, same⟩ := Option.map_eq_some_iff.mp returns
      cases same
      exact has_addExisting shape.toLoose has catalog returned
  | remove itemId quantity quality =>
      cases returns
      exact has_remove kept has
  | removeItem item =>
      cases returns
      rw [Ledger.removeItem]
      split
      · next own => exact has_removeAtSlot (above_of_takes kept ⟨own, rfl⟩) filled has
      · exact has
  | removeByUniqueId itemDbId quantity =>
      cases returns
      rw [Ledger.removeByUniqueId]
      split
      · exact has
      · next slot found =>
          cases here : l.package.entryAt slot with
          | none => exact has
          | some item =>
              dsimp only
              split
              · next all =>
                  have above : k < slot := above_of_takes kept ⟨found, item, here, all⟩
                  exact has_dropAt above item.uniqueId filled has
              · obtain ⟨has', filled'⟩ :=
                  has_requantifyAt here (item.quantity - quantity) filled has
                exact settled_below filled' has'
  | removeAtSlot slot =>
      cases returns
      exact has_removeAtSlot (above_of_takes kept rfl) filled has
  | removeAtSlotQty slot quantity =>
      cases returns
      rw [Ledger.removeAtSlotQty]
      split
      · exact has
      · cases here : l.package.entryAt slot.toNat with
        | none => exact has
        | some item =>
            dsimp only
            split
            · next all =>
                have above : k < slot.toNat := above_of_takes kept ⟨rfl, item, here, all⟩
                exact has_dropAt above item.uniqueId filled has
            · obtain ⟨item', there, same⟩ :=
                (has_requantifyAt here (item.quantity - quantity) filled has).1
              exact ⟨item', by rw [entryAt_sent, there], same⟩
  | clear => exact absurd trivial (kept k (Nat.le_refl k))

end Calls

/-! ### Calls on packages -/

namespace ItemPackages

variable {catalog : ItemCatalog} {inv inv' : ItemPackages} {code : UInt16} {k : Nat} {id : UInt64}

/-- The slots of a package that a call takes an item out of. A move to a full package is
refused. -/
def Takes (inv : ItemPackages) (code : UInt16) (j : Nat) : InventoryCall → Prop
  | .slots own call => own = code ∧ (inv.ledger own).Takes j call
  | .updates _ _ => False
  | .moveTo own slot destination =>
      own = code ∧ (inv.packages destination).isFull = false ∧ j = slot.toNat
  | .moveItem own item destination =>
      own = code ∧ (inv.packages destination).isFull = false ∧
        (inv.ledger own).Takes j (.removeItem item)

theorem has_commit {own : UInt16} {l : Ledger} (has : (inv.packages code).Has k id)
    (has' : own = code → l.package.Has k id) : ((inv.commit own l).packages code).Has k id := by
  rw [packages_commit]
  split
  · next same => exact has' same.symm
  · exact has

theorem has_slots (catalog : ItemCatalog) (laid : inv.Laid) (own : UInt16) (call : SlotCall)
    {l : Ledger}
    (has : (inv.packages code).Has k id)
    (kept : own = code → ∀ j, j ≤ k → ¬ (inv.ledger own).Takes j call)
    (returns : (inv.ledger own).callSlots catalog call = some l) :
    ((inv.commit own l).packages code).Has k id := by
  apply has_commit has
  intro same
  rw [← same] at has
  exact callSlots_has (laid own).1 has (kept same) returns

theorem has_moved {own destination : UInt16} (laid : inv.Laid) (removal : SlotCall)
    {item : InventoryItem} {removed l : Ledger} (has : (inv.packages code).Has k id)
    (kept : own = code → ∀ j, j ≤ k → ¬ (inv.ledger own).Takes j removal)
    (removes : (inv.ledger own).callSlots catalog removal = some removed)
    (added : ((inv.commit own removed).ledger destination).callSlots catalog
      (.addExisting item) = some l) :
    (((inv.commit own removed).commit destination l).packages code).Has k id := by
  have has' := has_slots catalog laid own removal has kept removes
  exact has_slots catalog (laid.callSlots catalog own removal removes) destination
    (.addExisting item) has' (fun _ _ _ takes => takes) added

theorem step_has {call : InventoryCall} (laid : inv.Laid) (has : (inv.packages code).Has k id)
    (kept : ∀ j, j ≤ k → ¬ inv.Takes code j call)
    (taken : inv.step catalog call = some inv') : (inv'.packages code).Has k id := by
  cases call with
  | slots own call =>
      obtain ⟨l, returns, same⟩ := Option.map_eq_some_iff.mp taken
      cases same
      exact has_slots catalog laid own call has
        (fun same j low takes => kept j low ⟨same, takes⟩) returns
  | updates own call =>
      cases taken
      apply has_commit has
      intro same
      obtain ⟨item, here, mine⟩ := has
      rw [← same] at here
      exact ⟨item, by rw [(sameSlots_callUpdates _ call).entryAt_eq]; exact here, mine⟩
  | moveTo own slot destination =>
      obtain ⟨-, stays | ⟨item, l, -, room, added, moved⟩⟩ := step_moveTo taken
      · rw [stays.1]
        exact has
      · rw [moved]
        exact has_moved laid (.removeAtSlot slot) has
          (fun same j low takes => kept j low ⟨same, room, takes⟩) rfl added
  | moveItem own item destination =>
      obtain ⟨-, stays | ⟨l, room, added, moved⟩⟩ := step_moveItem taken
      · rw [stays.1]
        exact has
      · rw [moved]
        exact has_moved laid (.removeItem item) has
          (fun same j low takes => kept j low ⟨same, room, takes⟩) rfl added

def Designates (inv : ItemPackages) (ref : InventoryItem) : Prop :=
  (inv.packages ref.itemPackage).Has ref.slot.toNat ref.uniqueId

end ItemPackages

/-! ### References -/

namespace ReferencedItemPackage

variable {r : ReferencedItemPackage} {ref : InventoryItem}

theorem mem_setInternal {position : UInt16} {sendSingle : Bool}
    (member : some ref ∈ (r.setInternal position item sendSingle).1.referenceList) :
    some ref ∈ r.referenceList ∨ (position.toNat < r.referenceList.length ∧ ref = item) := by
  rw [setInternal] at member
  split at member
  · exact Or.inl member
  · next inside =>
      cases List.mem_or_eq_of_mem_set member with
      | inl old => exact Or.inl old
      | inr new => exact Or.inr ⟨Nat.lt_of_not_le inside, Option.some.inj new⟩

theorem length_setInternal (position : UInt16) (item : InventoryItem) (sendSingle : Bool) :
    (r.setInternal position item sendSingle).1.referenceList.length =
      r.referenceList.length := by
  rw [setInternal]
  split
  · rfl
  · exact List.length_set ..

theorem mem_setEach (assignments : List (UInt16 × InventoryItem))
    (member : some ref ∈ (setEach assignments r).1.referenceList) :
    some ref ∈ r.referenceList ∨
      ∃ a ∈ assignments, a.1.toNat < r.referenceList.length ∧ ref = a.2 := by
  induction assignments generalizing r with
  | nil => exact Or.inl member
  | cons a rest ih =>
      have behind : some ref ∈
          (setEach rest (r.setInternal a.1 a.2 false).1).1.referenceList := member
      cases ih behind with
      | inl before =>
          cases mem_setInternal before with
          | inl old => exact Or.inl old
          | inr new => exact Or.inr ⟨a, List.mem_cons_self, new⟩
      | inr later =>
          obtain ⟨b, there, inside, same⟩ := later
          rw [length_setInternal] at inside
          exact Or.inr ⟨b, List.mem_cons_of_mem _ there, inside, same⟩

theorem mem_setList {items : List (Option InventoryItem)}
    (member : some ref ∈ (r.setList items).referenceList) :
    some ref ∈ r.referenceList ∨ some ref ∈ items.take r.referenceList.length := by
  rw [setList, List.mem_append] at member
  cases member with
  | inl new =>
      rw [Nat.min_comm, ← List.take_take, List.take_length] at new
      exact Or.inr new
  | inr old => exact Or.inl (List.mem_of_mem_drop old)

theorem mem_clear {position : UInt16}
    (member : some ref ∈ (r.clear position).1.referenceList) : some ref ∈ r.referenceList := by
  rw [clear] at member
  split at member
  · exact member
  · cases List.mem_or_eq_of_mem_set member with
    | inl old => exact old
    | inr new => contradiction

theorem mem_clearAll (member : some ref ∈ r.clearAll.1.referenceList) : False := by
  rw [clearAll] at member
  obtain ⟨_, _, impossible⟩ := List.mem_map.mp member
  contradiction

theorem sameSlots_setWithSource (position : UInt16) (item : InventoryItem) (source : Ledger) :
    SameSlots source.package (r.setWithSource position item source).2.package := by
  have marked := sameSlots_callUpdates source (.markDirty item)
  rw [setWithSource]
  dsimp only
  split
  · have sent := sameSlots_sendUpdate ((⟨source.package.markDirty item, source.outbox ++
      (r.setInternal position item false).2⟩ : Ledger).push (.packetBeginChange r.ownerActorId))
    exact ⟨sent.list_eq.trans marked.list_eq, sent.end_eq.trans marked.end_eq,
      sent.capacity_eq.trans marked.capacity_eq, sent.code_eq.trans marked.code_eq,
      sent.dirty_eq.trans marked.dirty_eq⟩
  · exact marked

end ReferencedItemPackage

/-! ### Runs -/

namespace Player

variable {catalog : ItemCatalog} {player player' : Player}

def Valid (player : Player) : Prop :=
  ∀ ref, some ref ∈ player.equipment.referenceList → player.itemPackages.Designates ref

/-- A reference that is set designates its item, and no item is taken out of the slot of a
reference or a slot below it. -/
def Steady (player : Player) : PlayerCall → Prop
  | .items call => ∀ ref, some ref ∈ player.equipment.referenceList →
      ∀ j, j ≤ ref.slot.toNat → ¬ player.itemPackages.Takes ref.itemPackage j call
  | .equipment (.set position item) =>
      position.toNat < player.equipment.referenceList.length → player.itemPackages.Designates item
  | .equipment (.setWithSource position item _) =>
      position.toNat < player.equipment.referenceList.length → player.itemPackages.Designates item
  | .equipment (.setMany assignments) => ∀ a ∈ assignments,
      a.1.toNat < player.equipment.referenceList.length → player.itemPackages.Designates a.2
  | .equipment (.setList items) => ∀ ref,
      some ref ∈ items.take player.equipment.referenceList.length →
        player.itemPackages.Designates ref
  | _ => True

/-- The packages and the references of a player are in order. -/
structure InOrder (player : Player) : Prop where
  laid : player.itemPackages.Laid
  valid : player.Valid

theorem InOrder.equip {result : ReferencedItemPackage × List InventoryEvent}
    (before : player.InOrder)
    (refs : ∀ ref, some ref ∈ result.1.referenceList → player.itemPackages.Designates ref) :
    (player.equip result).InOrder :=
  ⟨before.laid, refs⟩

theorem InOrder.callEquipment {call : EquipmentCall} (before : player.InOrder)
    (steady : player.Steady (.equipment call)) : (player.callEquipment call).InOrder := by
  cases call with
  | toggleDbWrite flag => exact before.equip before.valid
  | setList items =>
      apply before.equip
      intro ref member
      cases ReferencedItemPackage.mem_setList member with
      | inl old => exact before.valid ref old
      | inr new => exact steady ref new
  | setMany assignments =>
      apply before.equip
      intro ref member
      cases ReferencedItemPackage.mem_setEach assignments member with
      | inl old => exact before.valid ref old
      | inr new =>
          obtain ⟨a, there, inside, same⟩ := new
          rw [same]
          exact steady a there inside
  | setWithSource position item source =>
      have slots := ReferencedItemPackage.sameSlots_setWithSource (r := player.equipment) position
        item (player.itemPackages.ledger source)
      refine ⟨before.laid.commit (Q := fun _ _ => True) (F := fun _ _ => True) slots.reworked, ?_⟩
      intro ref member
      have designated : player.itemPackages.Designates ref := by
        cases ReferencedItemPackage.mem_setInternal member with
        | inl old => exact before.valid ref old
        | inr new =>
            rw [new.2]
            exact steady new.1
      apply ItemPackages.has_commit designated
      intro same
      obtain ⟨held, here, own⟩ := designated
      rw [← same] at here
      exact ⟨held, (slots.entryAt_eq ref.slot.toNat).trans here, own⟩
  | set position item =>
      apply before.equip
      intro ref member
      cases ReferencedItemPackage.mem_setInternal member with
      | inl old => exact before.valid ref old
      | inr new =>
          rw [new.2]
          exact steady new.1
  | clear position =>
      apply before.equip
      intro ref member
      exact before.valid ref (ReferencedItemPackage.mem_clear member)
  | clearAll =>
      apply before.equip
      intro ref member
      exact (ReferencedItemPackage.mem_clearAll member).elim
  | sendSingleUpdate position => exact before.equip before.valid
  | sendUpdate => exact before.equip before.valid
  | sendUpdateAsItemPackage capacity code => exact before.equip before.valid

theorem InOrder.step {call : PlayerCall} (before : player.InOrder) (steady : player.Steady call)
    (taken : player.step catalog call = some player') : player'.InOrder := by
  cases call with
  | items call =>
      obtain ⟨inv, returns, same⟩ := Option.map_eq_some_iff.mp taken
      cases same
      refine ⟨before.laid.step returns, fun ref member => ?_⟩
      exact ItemPackages.step_has before.laid (before.valid ref member) (steady ref member) returns
  | equipment call =>
      cases taken
      exact before.callEquipment steady

theorem equipment_kept {call : InventoryCall} (taken : player.step catalog (.items call) =
    some player') : player'.equipment = player.equipment := by
  obtain ⟨inv, _, same⟩ := Option.map_eq_some_iff.mp taken
  rw [← same]

/-- A player with loaded packages and nothing equipped. -/
def load (ownerActorId : UInt32) (capacity : UInt16 → UInt16) (isTemporary : UInt16 → Bool)
    (stored : UInt16 → List InventoryItem) (positions : UInt16) : Player where
  itemPackages := ItemPackages.load ownerActorId capacity isTemporary stored
  equipment := .new ownerActorId positions pkgEquipment

theorem inOrder_load (ownerActorId : UInt32) (capacity : UInt16 → UInt16)
    (isTemporary : UInt16 → Bool) (stored : UInt16 → List InventoryItem) (positions : UInt16) :
    (load ownerActorId capacity isTemporary stored positions).InOrder := by
  refine ⟨ItemPackages.laid_load ownerActorId capacity isTemporary stored, fun ref member => ?_⟩
  have impossible := List.eq_of_mem_replicate member
  contradiction

/-- No call on the packages changes a reference; and in a run of steady calls every reference
designates its item. -/
theorem references_designate (catalog : ItemCatalog) (ownerActorId : UInt32)
    (capacity : UInt16 → UInt16) (isTemporary : UInt16 → Bool)
    (stored : UInt16 → List InventoryItem) (positions : UInt16) (calls : List PlayerCall) :
    (∀ player call player', step catalog player (.items call) = some player' →
      player'.equipment = player.equipment) ∧
    (EachStep (step catalog) Steady (load ownerActorId capacity isTemporary stored positions)
        calls →
      Always (step catalog) Valid (load ownerActorId capacity isTemporary stored positions)
        calls) := by
  refine ⟨fun _ _ _ taken => equipment_kept taken, fun steady => ?_⟩
  have ordered : Always (step catalog) InOrder
      (load ownerActorId capacity isTemporary stored positions) calls := by
    apply always_of_eachStep _
      (inOrder_load ownerActorId capacity isTemporary stored positions) steady
    intro player call player' before steady taken
    exact before.step steady taken
  exact ordered.mono fun _ held => held.valid

def swords (code : UInt16) : List InventoryItem :=
  if code = pkgNormal then
    [{ uniqueId := 7, itemId := 1001, quantity := 1, quality := 1 },
      { uniqueId := 8, itemId := 1001, quantity := 1, quality := 1 }]
  else []

/-- A sword as it lies in the bag. -/
def swordAt (uniqueId : UInt64) (slot : UInt16) : InventoryItem :=
  { uniqueId, itemId := 1001, quantity := 1, quality := 1, slot, itemPackage := pkgNormal }

theorem references_designate_swords :
    Always (step fun _ => none) Valid (load 1 (fun _ => 10) (fun _ => false) swords 35)
      [.equipment (.set 5 (swordAt 7 0)), .items (.slots pkgNormal (.removeAtSlot 1))] := by
  apply (references_designate (fun _ => none) 1 (fun _ => 10) (fun _ => false) swords 35 _).2
  intro player taken
  cases taken
  refine ⟨fun _ => ⟨_, rfl, rfl⟩, fun player' taken' => ⟨?_, trivial⟩⟩
  intro ref member j low takes
  cases ReferencedItemPackage.mem_setInternal member with
  | inl old =>
      have impossible := List.eq_of_mem_replicate old
      contradiction
  | inr new =>
      have bottom : ref.slot.toNat = 0 := by
        rw [new.2]
        rfl
      have top : j = 1 := takes.2
      omega

theorem not_valid_of_empty {player : Player} (ref : InventoryItem)
    (set : some ref ∈ player.equipment.referenceList)
    (empty : (player.itemPackages.packages ref.itemPackage).entryAt ref.slot.toNat = none) :
    ¬ player.Valid := by
  intro valid
  obtain ⟨item, here, _⟩ := valid ref set
  rw [empty] at here
  contradiction

/-- The second sword is equipped. Throwing the first one away leaves the reference at the slot
that the second has left; throwing the second one away leaves it as well. -/
theorem references_stale :
    ¬ Always (step fun _ => none) Valid (load 1 (fun _ => 10) (fun _ => false) swords 35)
        [.equipment (.set 5 (swordAt 8 1)), .items (.slots pkgNormal (.removeAtSlot 0))] ∧
      ¬ Always (step fun _ => none) Valid (load 1 (fun _ => 10) (fun _ => false) swords 35)
        [.equipment (.set 5 (swordAt 8 1)), .items (.slots pkgNormal (.removeAtSlot 1))] := by
  constructor
  · intro held
    exact not_valid_of_empty (swordAt 8 1) (by decide) (by decide) ((held.2 _ rfl).2 _ rfl)
  · intro held
    exact not_valid_of_empty (swordAt 8 1) (by decide) (by decide) ((held.2 _ rfl).2 _ rfl)

end Player
end Garlemald.Inventory
