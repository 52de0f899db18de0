import Garlemald.Inventory.Contents
import Garlemald.Inventory.Requests

/-!
Moves between two packages: the item leaves its slot, and the other package takes it, as it
is or into its stacks. What can be told beforehand is told before anything is removed.
-/

namespace Garlemald.Inventory
open Library ItemPackage
open Library.Slots Library.Stacks

/-! ### What leaves and what comes -/

section Contents

variable {p : ItemPackage} {l : Ledger}

theorem present_below (shape : p.Shape) {i : ℕ} (below : i < p.endOfListIndex) :
    ∀ j, j < i → (p.contentAt j).isSome := by
  intro j before
  rw [contentAt, Option.isSome_map]
  exact shape.present j (before.trans below)

theorem contents_at (shape : p.Shape) {i : ℕ} {item : InventoryItem}
    (here : p.entryAt i = some item) : p.contents[i]? = some item.unplaced := by
  have below := shape.lt_of_entryAt here
  apply filterMap_at below (present_below shape below)
  rw [contentAt, here]
  rfl

theorem erased_contents (shape : p.Shape) {i : ℕ} {item : InventoryItem}
    (here : p.entryAt i = some item) : (p.put i none).contents = p.contents.eraseIdx i := by
  have below := shape.lt_of_entryAt here
  apply filterMap_erase below (present_below shape below)
  · rw [contentAt, here]
    rfl
  · rw [contentAt, entryAt_put_self _ (lt_length_of_entryAt here)]
    rfl
  · intro j other
    rw [contentAt, contentAt, entryAt_put_of_ne _ other]

theorem removeAtSlot_contents (shape : l.package.Shape) {slot : UInt16} {item : InventoryItem}
    (here : l.package.getAtSlot slot = some item) :
    (l.removeAtSlot slot).package.contents = l.package.contents.eraseIdx slot.toNat := by
  have entry : l.package.entryAt slot.toNat = some item := here
  have dropped : (l.dropAt slot.toNat item.uniqueId).package = l.package.put slot.toNat none :=
    Ledger.pushDb_package ..
  have loose : (l.dropAt slot.toNat item.uniqueId).package.Loose := by
    rw [dropped]
    exact shape.put_none slot.toNat
  rw [Ledger.removeAtSlot, if_neg (Nat.not_le.mpr (shape.lt_of_entryAt entry)), entry,
    bracketed_contents, realign_contents loose, dropped, erased_contents shape entry]

def ItemPackage.takes (p : ItemPackage) (item : InventoryItem) : InventoryItem :=
  { item with itemPackage := p.code }.unplaced

theorem held_takes (itemId : UInt32) (quality : UInt8) (p : ItemPackage) (item : InventoryItem) :
    held itemId quality [p.takes item] = held itemId quality [item] := by
  by_cases own : IsOf itemId quality item
  · have placed : IsOf itemId quality (p.takes item) := own
    rw [held_cons_own own, held_cons_own placed]
    rfl
  · have placed : ¬ IsOf itemId quality (p.takes item) := own
    rw [held_cons_other own, held_cons_other placed]

theorem appended_contents (room : l.package.endOfListIndex < l.package.list.length)
    (item : InventoryItem) :
    (l.appended item).bracketedSendUpdate.package.contents =
      l.package.contents ++ [l.package.takes item] := by
  rw [bracketed_contents, Ledger.appended, Ledger.pushDb_package]
  apply filterMap_extend
  · change ((l.package.put _ _).entryAt _).map _ = _
    rw [entryAt_put_self _ room]
    rfl
  · intro i before
    change ((l.package.put _ _).entryAt i).map _ = _
    rw [entryAt_put_of_ne _ (Nat.ne_of_lt before)]
    rfl

end Contents

/-! ### Leaving -/

structure Left (catalog : ItemCatalog) (slot : UInt16) (item : InventoryItem)
    (p p' : ItemPackage) : Prop where
  contents : p'.contents = p.contents.eraseIdx slot.toNat
  total : ∀ itemId quality,
    p'.totalQuantity itemId quality + held itemId quality [item] = p.totalQuantity itemId quality
  stacked : p'.Stacked catalog

theorem removeAtSlot_left {catalog : ItemCatalog} {l : Ledger}
    (stacked : l.package.Stacked catalog) {slot : UInt16} {item : InventoryItem}
    (here : l.package.getAtSlot slot = some item) :
    Left catalog slot item l.package (l.removeAtSlot slot).package := by
  have contents := removeAtSlot_contents stacked.shape here
  have settled := removeAtSlot_spec (Q := InBounds catalog) (F := fun _ _ => True)
    stacked.shape slot
  refine ⟨contents, fun itemId quality => ?_, settled.reworked.shape stacked.shape,
    settled.reworked.keep _ stable_every stacked.bounded⟩
  obtain ⟨inside, found⟩ := List.getElem?_eq_some_iff.mp (contents_at stacked.shape here)
  have taken_out := held_perm itemId quality
    (List.getElem_cons_eraseIdx_perm inside)
  have alone := held_append itemId quality [item.unplaced]
    (l.package.contents.eraseIdx slot.toNat)
  rw [found, ← List.singleton_append, alone, ← totalQuantity_held] at taken_out
  rw [totalQuantity_held, contents, ← taken_out, ← held_unplaced [item]]
  exact Int.add_comm ..

/-! ### Arriving -/

/-- The catalog knows the item; and where it goes into stacks, it is not an exclusive item of
which there is one of quality 1, and the stack that is topped up first stays within the 32
bits. -/
def MayCome (catalog : ItemCatalog) (p : ItemPackage) (item : InventoryItem) : Prop :=
  ∃ gd, catalog item.itemId = some gd ∧
    (¬ TakenAsIs catalog p item → ¬ (gd.isExclusive ∧ p.hasItem item.itemId) ∧
      openAt gd.maxStack.toInt (stock item.itemId item.quality p) 0 + item.quantity.toInt < 2 ^ 31)

/-- What a package is after an item has come: the item is the last one, or it is part of the
stacks of its kind and nothing else has changed. -/
structure Arrived (catalog : ItemCatalog) (item : InventoryItem) (p p' : ItemPackage) :
    Prop where
  asIs : TakenAsIs catalog p item → p'.contents = p.contents ++ [p.takes item]
  merged : ¬ TakenAsIs catalog p item → OthersKept item.itemId item.quality p p'
  total : ∀ itemId quality,
    p'.totalQuantity itemId quality = p.totalQuantity itemId quality + held itemId quality [item]
  stacked : p'.Stacked catalog

section Arrive

variable {catalog : ItemCatalog} {l : Ledger} {item : InventoryItem} {gd : ItemData}

theorem addExisting_asIs (stacked : l.package.Stacked catalog)
    (bounds : InBounds catalog item.itemId item.quantity)
    (asIs : TakenAsIs catalog l.package item) (known : catalog item.itemId = some gd)
    (free : l.package.isFull = false) :
    ∃ l', l.addExisting catalog item = some (.ok (), l') ∧
      Arrived catalog item l.package l'.package := by
  have below : l.package.endOfListIndex < l.package.capacity.toNat := by
    simpa [isFull] using free
  have room : l.package.endOfListIndex < l.package.list.length :=
    stacked.shape.length_list ▸ below
  have returns : l.addExisting catalog item =
      some (.ok (), (l.appended item).bracketedSendUpdate) := by
    rw [Ledger.addExisting]
    dsimp only
    rw [if_neg asIs, if_neg (not_not.mpr (isSpaceForAdd_open free)), known,
      if_neg (Nat.not_le.mpr room)]
    rfl
  have edits : Edits (InBounds catalog) (fun _ _ => True) false l (l.appended item) :=
    Edits.pushDb (.spawn _ below rfl rfl bounds trivial) rfl
  have same := sameSlots_bracketedSendUpdate (l.appended item)
  have contents := appended_contents room item
  refine ⟨_, returns, fun _ => contents, fun merges => absurd asIs merges,
    fun itemId quality => ?_, same.shape (edits.shape stacked.shape),
    stable_every.flags (F := fun _ _ => True) _ _ same (edits.every stacked.bounded)⟩
  rw [totalQuantity_held, contents, held_append, ← totalQuantity_held, held_takes]

theorem quantity_pos (bounds : InBounds catalog item.itemId item.quantity) :
    0 < item.quantity :=
  (pos_iff_toInt _).mpr (Int32.le_iff_toInt_le.mp bounds.1)

theorem oneSlot_takes {p : ItemPackage} (bounded : p.Every (InBounds catalog))
    (bounds : InBounds catalog item.itemId item.quantity) (known : catalog item.itemId = some gd)
    (free : p.isFull = false) :
    item.quantity.toInt ≤ room gd.maxStack.toInt (stock item.itemId item.quality p) +
      p.freeSlots * gd.maxStack.toInt := by
  have positive := (pos_iff_toInt _).mp (quantity_pos bounds)
  have high := Int32.le_iff_toInt_le.mp bounds.2
  rw [existingMaxStack_eq known] at high
  have nonneg := room_nonneg (within_stock item.quality bounded known)
  have one : (1 : ℤ) ≤ p.freeSlots := by
    rw [freeSlots]
    simp only [isFull, decide_eq_false_iff_not] at free
    omega
  have a_stack := Int.mul_le_mul_of_nonneg_right one (positive.le.trans high)
  omega

theorem addExisting_merged (stacked : l.package.Stacked catalog)
    (bounds : InBounds catalog item.itemId item.quantity)
    (merges : ¬ TakenAsIs catalog l.package item) (known : catalog item.itemId = some gd)
    (free : l.package.isFull = false)
    (unseen : ¬ (gd.isExclusive ∧ l.package.hasItem item.itemId))
    (fits : openAt gd.maxStack.toInt (stock item.itemId item.quality l.package) 0 +
      item.quantity.toInt < 2 ^ 31) :
    ∃ l', l.addExisting catalog item = some (.ok (), l') ∧
      Arrived catalog item l.package l'.package := by
  have positive := quantity_pos bounds
  have enough := oneSlot_takes stacked.bounded bounds known free
  have takes : TakesAll l item.itemId item.quantity item.quality gd := ⟨enough, fits⟩
  have accepted := (takesAll_accepted
    (r := ⟨item.itemId, item.quantity, item.quality⟩) takes).mpr unseen
  obtain ⟨ok, stored, _⟩ := add_takes stacked known positive accepted takes
  have took := add_took (r := ⟨item.itemId, item.quantity, item.quality⟩) stacked known positive
    unseen takes
  have returns : l.addExisting catalog item =
      some (.ok (), (l.add catalog item.itemId item.quantity item.quality).2) := by
    rw [Ledger.addExisting]
    dsimp only
    rw [if_pos (not_not.mp merges)]
    exact congrArg some (Prod.ext ok rfl)
  refine ⟨_, returns, fun asIs => absurd asIs merges, fun _ => stored.others,
    fun itemId quality => ?_, took.stacked⟩
  by_cases own : IsOf itemId quality item
  · rw [held_cons_own own, ← own.1, ← own.2]
    exact took.total.trans (congrArg _ (Int.add_zero _).symm)
  · rw [held_cons_other own, totalQuantity_eq, totalQuantity_eq, took.others itemId quality own]
    exact (Int.add_zero _).symm

theorem addExisting_arrived (stacked : l.package.Stacked catalog)
    (bounds : InBounds catalog item.itemId item.quantity)
    (mayCome : MayCome catalog l.package item) (free : l.package.isFull = false) :
    ∃ l', l.addExisting catalog item = some (.ok (), l') ∧
      Arrived catalog item l.package l'.package := by
  obtain ⟨gd, known, fitting⟩ := mayCome
  by_cases asIs : TakenAsIs catalog l.package item
  · exact addExisting_asIs stacked bounds asIs known free
  · obtain ⟨unseen, fits⟩ := fitting asIs
    exact addExisting_merged stacked bounds asIs known free unseen fits

end Arrive

/-! ### Moves -/

namespace ItemPackages

variable {catalog : ItemCatalog} {inv : ItemPackages} {code slot destination : UInt16}
  {item : InventoryItem}

/-- What a move that succeeds has done: the item has left its slot, has come into the other
package, and no item is lost or doubled. -/
structure Moved (catalog : ItemCatalog) (inv inv' : ItemPackages)
    (code slot destination : UInt16) (item : InventoryItem) : Prop where
  left : Left catalog slot item (inv.packages code) (inv'.packages code)
  arrived : Arrived catalog item (inv.packages destination) (inv'.packages destination)
  conserved : ∀ itemId quality,
    (inv'.packages code).totalQuantity itemId quality +
        (inv'.packages destination).totalQuantity itemId quality =
      (inv.packages code).totalQuantity itemId quality +
        (inv.packages destination).totalQuantity itemId quality
  elsewhere : ∀ other, other ≠ code → other ≠ destination →
    inv'.packages other = inv.packages other

theorem moveTo_full (here : (inv.packages code).getAtSlot slot = some item)
    (full : (inv.packages destination).isFull = true) :
    inv.moveTo catalog code slot destination = some (.error .full, inv) := by
  rw [moveTo, here]
  exact if_pos (by rw [canAdd, full]; decide)

theorem moveTo_moved (apart : code ≠ destination)
    (source : (inv.packages code).Stacked catalog)
    (target : (inv.packages destination).Stacked catalog)
    (here : (inv.packages code).getAtSlot slot = some item)
    (free : (inv.packages destination).isFull = false)
    (mayCome : MayCome catalog (inv.packages destination) item) :
    ∃ inv', inv.moveTo catalog code slot destination = some (.ok (), inv') ∧
      Moved catalog inv inv' code slot destination item := by
  have left : Left catalog slot item (inv.packages code)
      ((inv.ledger code).removeAtSlot slot).package :=
    removeAtSlot_left (l := inv.ledger code) source here
  generalize removed : inv.commit code ((inv.ledger code).removeAtSlot slot) = mid
  have at_source : mid.packages code = ((inv.ledger code).removeAtSlot slot).package := by
    rw [← removed, packages_commit, if_pos rfl]
  have elsewhere (other : UInt16) (away : other ≠ code) :
      mid.packages other = inv.packages other := by
    rw [← removed, packages_commit, if_neg away]
  have at_target : (mid.ledger destination).package = inv.packages destination :=
    elsewhere destination (Ne.symm apart)
  obtain ⟨l, returns, arrived⟩ := addExisting_arrived (l := mid.ledger destination)
    (at_target ▸ target) (source.bounded slot.toNat item here) (at_target ▸ mayCome)
    (at_target ▸ free)
  have moves : inv.moveTo catalog code slot destination =
      some (.ok (), mid.commit destination l) := by
    rw [moveTo, here]
    dsimp only
    rw [canAdd, free, removed, returns]
    rfl
  have arrived : Arrived catalog item (inv.packages destination) l.package := at_target ▸ arrived
  have source_after : (mid.commit destination l).packages code =
      ((inv.ledger code).removeAtSlot slot).package := by
    rw [packages_commit, if_neg apart, at_source]
  have target_after : (mid.commit destination l).packages destination = l.package := by
    rw [packages_commit, if_pos rfl]
  refine ⟨_, moves, source_after ▸ left, target_after ▸ arrived, fun itemId quality => ?_,
    fun other away away' => ?_⟩
  · have gone := left.total itemId quality
    have come := arrived.total itemId quality
    rw [source_after, target_after]
    omega
  · rw [packages_commit, if_neg away', elsewhere other away]

theorem moveItem_eq_moveTo (shape : (inv.packages code).Shape)
    (here : (inv.packages code).getAtSlot slot = some item) :
    inv.moveItem catalog code item destination = inv.moveTo catalog code slot destination := by
  have in_slot : item.slot = slot := by
    rw [shape.slot_eq slot.toNat item here]
    exact UInt16.ofNat_toNat
  have removed : (inv.ledger code).removeItem item = (inv.ledger code).removeAtSlot slot := by
    rw [Ledger.removeItem, in_slot]
    exact if_pos (shape.package_eq slot.toNat item here)
  rw [moveItem, moveTo, here, removed]

variable (inv code slot destination) in
/-- Between two packages that satisfy the invariant, a move from an empty slot or into a full
package fails and changes nothing, and a move of an item that may come into the other package
succeeds: the item leaves its slot and is taken as it is or into the stacks of its kind. -/
theorem move_conserves (apart : code ≠ destination)
    (source : (inv.packages code).Stacked catalog)
    (target : (inv.packages destination).Stacked catalog) :
    ((inv.packages code).getAtSlot slot = none →
      inv.moveTo catalog code slot destination = some (.error .system, inv)) ∧
    ∀ item, (inv.packages code).getAtSlot slot = some item →
      inv.moveItem catalog code item destination = inv.moveTo catalog code slot destination ∧
      ((inv.packages destination).isFull = true →
        inv.moveTo catalog code slot destination = some (.error .full, inv)) ∧
      ((inv.packages destination).isFull = false →
        MayCome catalog (inv.packages destination) item →
        ∃ inv', inv.moveTo catalog code slot destination = some (.ok (), inv') ∧
          Moved catalog inv inv' code slot destination item) := by
  refine ⟨fun empty => ?_, fun item here => ⟨?_, ?_, ?_⟩⟩
  · rw [moveTo, empty]
  · exact moveItem_eq_moveTo source.shape here
  · exact moveTo_full here
  · exact moveTo_moved apart source target here

def potionsToMove : ItemPackages :=
  { packages := fun code => if code = pkgNormal then sixtyPotions 5 else emptyPackage 5 }

theorem move_conserves_potions :
    ∃ inv', potionsToMove.moveTo potions pkgNormal 0 1 = some (.ok (), inv') ∧
      Moved potions potionsToMove inv' pkgNormal 0 1
        { uniqueId := 7, itemId := 42, quantity := 60, quality := 1 } := by
  have moves := move_conserves potionsToMove pkgNormal 0 1 (by decide) (sixtyPotions_stacked 5)
    (emptyPackage_stacked potions 5)
  exact (moves.2 _ rfl).2.2 rfl ⟨{ stackSize := 99 }, rfl, fun _ => ⟨by decide, by decide⟩⟩

/-- The potions that have gone into a new stack have left their unique id behind. -/
theorem merged_item_loses_id :
    (potionsToMove.packages pkgNormal).Stacked potions ∧
      (potionsToMove.packages 1).Stacked potions ∧
      ((potionsToMove.packages pkgNormal).getAtSlot 0).map (·.uniqueId) = some 7 ∧
      ∃ inv', potionsToMove.moveTo potions pkgNormal 0 1 = some (.ok (), inv') ∧
        (∀ item ∈ (inv'.packages pkgNormal).iterItems, item.uniqueId ≠ 7) ∧
        ∀ item ∈ (inv'.packages 1).iterItems, item.uniqueId ≠ 7 :=
  ⟨sixtyPotions_stacked 5, emptyPackage_stacked potions 5, by decide, _, rfl, by decide, by decide⟩

end ItemPackages
end Garlemald.Inventory
