import Garlemald.Inventory.Stacking
import Garlemald.Library.Slots

/-!
The items of a package in the order of their slots, without the slots. Realigning
changes nothing of them, and a removal takes from the last stacks first.
-/

namespace Garlemald.Inventory
open Library ItemPackage
open Library.Slots

/-! ### The items without their slots -/

/-- The item without its place in a package. -/
def InventoryItem.unplaced (item : InventoryItem) : InventoryItem := { item with slot := 0 }

namespace ItemPackage

def contentAt (p : ItemPackage) (i : ℕ) : Option InventoryItem :=
  (p.entryAt i).map InventoryItem.unplaced

def contents (p : ItemPackage) : List InventoryItem :=
  (List.range p.endOfListIndex).filterMap p.contentAt

theorem contents_eq (p : ItemPackage) :
    p.contents = p.iterItems.map InventoryItem.unplaced := by
  rw [iterItems_eq, contents, List.map_filterMap]
  rfl

theorem contents_congr {p p' : ItemPackage} (same : ∀ i, p'.entryAt i = p.entryAt i)
    (last : p'.endOfListIndex = p.endOfListIndex) : p'.contents = p.contents := by
  rw [contents, contents, last]
  exact List.filterMap_congr fun i _ => congrArg (Option.map _) (same i)

end ItemPackage

section Held

variable (itemId : UInt32) (quality : UInt8)

def held (items : List InventoryItem) : ℤ :=
  ((items.filter fun item => IsOf itemId quality item).map (·.quantity.toInt)).sum

variable {itemId quality}

theorem held_cons_own {item : InventoryItem} (own : IsOf itemId quality item)
    (items : List InventoryItem) :
    held itemId quality (item :: items) = item.quantity.toInt + held itemId quality items := by
  rw [held, List.filter_cons_of_pos (by simpa using own), List.map_cons, List.sum_cons]
  rfl

theorem held_cons_other {item : InventoryItem} (other : ¬ IsOf itemId quality item)
    (items : List InventoryItem) :
    held itemId quality (item :: items) = held itemId quality items := by
  rw [held, List.filter_cons_of_neg (by simpa using other)]
  rfl

theorem filter_unplaced (items : List InventoryItem) {own : InventoryItem → Bool}
    (same : ∀ item, own item.unplaced = own item) :
    (items.map InventoryItem.unplaced).filter own =
      (items.filter own).map InventoryItem.unplaced := by
  rw [List.filter_map]
  congr 1
  exact List.filter_congr fun item _ => same item

theorem held_unplaced (items : List InventoryItem) :
    held itemId quality (items.map InventoryItem.unplaced) = held itemId quality items := by
  rw [held, filter_unplaced items fun _ => rfl, List.map_map]
  rfl

variable (itemId quality) in
theorem held_append (front back : List InventoryItem) :
    held itemId quality (front ++ back) =
      held itemId quality front + held itemId quality back := by
  rw [held, List.filter_append, List.map_append, List.sum_append]
  rfl

variable (itemId quality) in
theorem held_perm {items items' : List InventoryItem} (perm : items.Perm items') :
    held itemId quality items = held itemId quality items' :=
  ((perm.filter _).map _).sum_eq

theorem totalQuantity_iterItems (p : ItemPackage) :
    p.totalQuantity itemId quality = held itemId quality p.iterItems := rfl

theorem totalQuantity_held (p : ItemPackage) :
    p.totalQuantity itemId quality = held itemId quality p.contents := by
  rw [contents_eq, held_unplaced]
  rfl

end Held

/-! ### Realign -/

theorem realignAt_contents {p : ItemPackage} {n : ℕ} {s : Ledger.Realigning}
    (passed : Passed (fun _ _ => True) (fun _ _ => True) p n s) (inside : n < p.endOfListIndex) :
    (Ledger.realignAt s n).package.contents = s.package.contents := by
  rw [Ledger.realignAt]
  cases here : s.package.entryAt n with
  | none => cases s.lastNull <;> rfl
  | some item =>
      cases hole : s.lastNull with
      | none => rfl
      | some dst =>
          obtain ⟨below, empty⟩ := passed.holes dst hole
          have room := lt_length_of_entryAt here
          have erased : (s.package.put n none).list.length = s.package.list.length :=
            List.length_set ..
          apply filterMap_shift below (passed.end_eq ▸ inside)
          · intro i above before
            rw [contentAt, empty i above before]
            rfl
          · rw [contentAt, contentAt, entryAt_put_self _ (by omega), here]
            rfl
          · rw [contentAt, entryAt_put_of_ne _ (Nat.ne_of_gt below), entryAt_put_self _ room]
            rfl
          · intro i apart other
            rw [contentAt, contentAt, entryAt_put_of_ne _ apart, entryAt_put_of_ne _ other]

theorem realigned_contents {p : ItemPackage} (loose : p.Loose) {n : ℕ}
    (inside : n ≤ p.endOfListIndex) :
    ((List.range n).foldl Ledger.realignAt { package := p }).package.contents = p.contents := by
  induction n with
  | zero => rfl
  | succ n ih =>
      have passed := passed_all (Q := fun _ _ => True) (F := fun _ _ => True) loose
        (Nat.le_of_succ_le inside)
      rw [List.range_succ, List.foldl_append]
      exact (realignAt_contents passed inside).trans (ih (Nat.le_of_succ_le inside))

theorem realign_contents {l : Ledger} (loose : l.package.Loose) :
    l.realign.package.contents = l.package.contents := by
  have passed := passed_all (Q := fun _ _ => True) (F := fun _ _ => True) loose
    (Nat.le_refl l.package.endOfListIndex)
  have kept := realigned_contents loose (Nat.le_refl l.package.endOfListIndex)
  generalize result : (List.range l.package.endOfListIndex).foldl Ledger.realignAt
    { package := l.package } = s at passed kept
  have package_eq : l.realign.package =
      { s.package with endOfListIndex := s.lastNull.getD s.package.endOfListIndex } := by
    simp only [Ledger.realign, result]
    split <;> rfl
  rw [package_eq, ← kept]
  cases hole : s.lastNull with
  | none => rfl
  | some dst =>
      obtain ⟨before, empty⟩ := passed.holes dst hole
      apply filterMap_trim (passed.end_eq ▸ Nat.le_of_lt before)
      intro i above
      have gone : s.package.entryAt i = none := by
        by_cases below : i < l.package.endOfListIndex
        · exact empty i above below
        · exact passed.loose.behind i (passed.end_eq ▸ Nat.le_of_not_lt below)
      change s.package.contentAt i = none
      rw [contentAt, gone]
      rfl

theorem bracketed_contents (l : Ledger) :
    l.bracketedSendUpdate.package.contents = l.package.contents :=
  have same := sameSlots_bracketedSendUpdate l
  contents_congr same.entryAt_eq same.end_eq

theorem realign_shape {l : Ledger} (shape : l.package.Shape) : l.realign = l := by
  have idle (n : ℕ) (inside : n ≤ l.package.endOfListIndex) :
      (List.range n).foldl Ledger.realignAt { package := l.package } =
        { package := l.package } := by
    induction n with
    | zero => rfl
    | succ n ih =>
        rw [List.range_succ, List.foldl_append, ih (Nat.le_of_succ_le inside), List.foldl_cons,
          List.foldl_nil, Ledger.realignAt]
        cases here : l.package.entryAt n with
        | some item => rfl
        | none =>
            have present := shape.present n inside
            rw [here] at present
            contradiction
  rw [Ledger.realign, idle _ le_rfl]
  rfl

end Garlemald.Inventory
