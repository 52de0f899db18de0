import Garlemald.Inventory.Contents
import Garlemald.Inventory.Requests

/-!
What a removal of a quantity takes. It goes through the slots from the last to the
first, drops the stacks of the item that the quantity uses up and lowers the one it
ends in; realigning then closes the holes.
-/

namespace Garlemald.Inventory
open Library ItemPackage

section Take

variable (itemId : UInt32) (quality : UInt8)

/-- The items left when a quantity is taken from the first stacks of the item. -/
def takeStacks : List InventoryItem → Int32 → List InventoryItem
  | [], _ => []
  | item :: items, remaining =>
      if remaining ≤ 0 then item :: items
      else if item.itemId ≠ itemId ∨ item.quality ≠ quality then
        item :: takeStacks items remaining
      else if item.quantity - remaining ≤ 0 then takeStacks items (remaining - item.quantity)
      else
        { item with quantity := item.quantity - remaining } ::
          takeStacks items (remaining - item.quantity)

variable {itemId quality}

theorem other_iff (item : InventoryItem) :
    (item.itemId ≠ itemId ∨ item.quality ≠ quality) ↔ ¬ IsOf itemId quality item := by
  rw [IsOf, not_and_or]

theorem takeStacks_done (items : List InventoryItem) {remaining : Int32} (done : remaining ≤ 0) :
    takeStacks itemId quality items remaining = items := by
  cases items with
  | nil => rfl
  | cons item items => rw [takeStacks, if_pos done]

theorem others_takeStacks (items : List InventoryItem) (remaining : Int32) :
    (takeStacks itemId quality items remaining).filter (fun item => ¬ IsOf itemId quality item) =
      items.filter fun item => ¬ IsOf itemId quality item := by
  induction items generalizing remaining with
  | nil => rfl
  | cons item items ih =>
      rw [takeStacks]
      split
      · rfl
      · split
        · next other =>
            have apart := (other_iff item).mp other
            rw [List.filter_cons_of_pos (by simpa using apart),
              List.filter_cons_of_pos (by simpa using apart), ih]
        · next same =>
            have own := not_not.mp (mt (other_iff item).mpr same)
            have lowered : IsOf itemId quality
                { item with quantity := item.quantity - remaining } := own
            split
            · rw [List.filter_cons_of_neg (a := item) (by simpa using own), ih]
            · rw [List.filter_cons_of_neg (by simpa using lowered),
                List.filter_cons_of_neg (a := item) (by simpa using own), ih]

variable (itemId quality) in
/-- The items as they are, but for at most one of the item, which holds less. -/
def ButOne (kept left : List InventoryItem) : Prop :=
  left = kept ∨ ∃ before own after quantity,
    kept = before ++ own :: after ∧ left = before ++ { own with quantity } :: after ∧
      IsOf itemId quality own ∧ 0 < quantity ∧ quantity < own.quantity

variable {kept left : List InventoryItem}

theorem ButOne.cons (item : InventoryItem) (butOne : ButOne itemId quality kept left) :
    ButOne itemId quality (item :: kept) (item :: left) := by
  cases butOne with
  | inl same => exact .inl (same ▸ rfl)
  | inr lowered =>
      obtain ⟨before, own, after, quantity, whole, less, rest⟩ := lowered
      exact .inr ⟨item :: before, own, after, quantity, whole ▸ rfl, less ▸ rfl, rest⟩

theorem ButOne.reverse (butOne : ButOne itemId quality kept left) :
    ButOne itemId quality kept.reverse left.reverse := by
  have flipped (before after : List InventoryItem) (own : InventoryItem) :
      (before ++ own :: after).reverse = after.reverse ++ own :: before.reverse := by simp
  cases butOne with
  | inl same => exact .inl (same ▸ rfl)
  | inr lowered =>
      obtain ⟨before, own, after, quantity, whole, less, rest⟩ := lowered
      exact .inr ⟨after.reverse, own, before.reverse, quantity, whole ▸ flipped ..,
        less ▸ flipped .., rest⟩

theorem ButOne.unplaced (butOne : ButOne itemId quality kept left) :
    ButOne itemId quality (kept.map InventoryItem.unplaced) (left.map InventoryItem.unplaced) := by
  cases butOne with
  | inl same => exact .inl (same ▸ rfl)
  | inr lowered =>
      obtain ⟨before, own, after, quantity, whole, less, rest⟩ := lowered
      refine .inr ⟨before.map InventoryItem.unplaced, own.unplaced,
        after.map InventoryItem.unplaced, quantity, ?_, ?_, rest⟩
      · rw [whole, List.map_append, List.map_cons]
      · rw [less, List.map_append, List.map_cons]
        rfl

variable (itemId quality) in
theorem butOne_takeStacks {items : List InventoryItem} (remaining : Int32)
    (positive : ∀ item ∈ items, 1 ≤ item.quantity.toInt) :
    ∃ kept, kept.Sublist items ∧
      ButOne itemId quality kept (takeStacks itemId quality items remaining) := by
  induction items generalizing remaining with
  | nil => exact ⟨[], .slnil, .inl rfl⟩
  | cons item items ih =>
      have least := positive item (List.mem_cons_self ..)
      have later := fun other member => positive other (List.mem_cons_of_mem item member)
      rw [takeStacks]
      by_cases done : remaining ≤ 0
      · rw [if_pos done]
        exact ⟨item :: items, .refl _, .inl rfl⟩
      rw [if_neg done]
      by_cases other : item.itemId ≠ itemId ∨ item.quality ≠ quality
      · obtain ⟨kept, among, butOne⟩ := ih remaining later
        rw [if_pos other]
        exact ⟨item :: kept, among.cons_cons item, butOne.cons item⟩
      have own := not_not.mp (mt (other_iff item).mpr other)
      rw [if_neg other]
      by_cases used : item.quantity - remaining ≤ 0
      · obtain ⟨kept, among, butOne⟩ := ih (remaining - item.quantity) later
        rw [if_pos used]
        exact ⟨kept, among.cons item, butOne⟩
      · have more : 0 < remaining.toInt := (pos_iff_toInt _).mp (Int32.not_le.mp done)
        have most := remaining.toInt_lt
        have top := item.quantity.toInt_lt
        have left := toInt_sub_of_fits (a := item.quantity) (b := remaining) ⟨by omega, by omega⟩
        have rest := toInt_sub_of_fits (a := remaining) (b := item.quantity) ⟨by omega, by omega⟩
        have kept : 0 < (item.quantity - remaining).toInt :=
          (pos_iff_toInt _).mp (Int32.not_le.mp used)
        have stopped : remaining - item.quantity ≤ 0 := (nonpos_iff_toInt _).mpr (by omega)
        have less : item.quantity - remaining < item.quantity :=
          Int32.lt_iff_toInt_lt.mpr (by omega)
        rw [if_neg used, takeStacks_done items stopped]
        exact ⟨item :: items, .refl _, .inr ⟨[], item, items, _, rfl, rfl, own,
          Int32.not_le.mp used, less⟩⟩

theorem held_takeStacks {items : List InventoryItem} {remaining : Int32}
    (positive : ∀ item ∈ items, 1 ≤ item.quantity.toInt) (more : 0 ≤ remaining.toInt)
    (enough : remaining.toInt ≤ held itemId quality items) :
    held itemId quality (takeStacks itemId quality items remaining) =
      held itemId quality items - remaining.toInt := by
  induction items generalizing remaining with
  | nil =>
      have none_left : remaining.toInt ≤ 0 := enough
      change (0 : ℤ) = 0 - remaining.toInt
      omega
  | cons item items ih =>
      have least := positive item (List.mem_cons_self ..)
      have later := fun other member => positive other (List.mem_cons_of_mem item member)
      rw [takeStacks]
      by_cases done : remaining ≤ 0
      · have none_left := (nonpos_iff_toInt remaining).mp done
        rw [if_pos done]
        omega
      rw [if_neg done]
      have most := remaining.toInt_lt
      have top := item.quantity.toInt_lt
      by_cases other : item.itemId ≠ itemId ∨ item.quality ≠ quality
      · have apart := (other_iff item).mp other
        rw [held_cons_other apart] at enough ⊢
        rw [if_pos other, held_cons_other apart]
        exact ih later more enough
      · have own := not_not.mp (mt (other_iff item).mpr other)
        have left := toInt_sub_of_fits (a := item.quantity) (b := remaining) ⟨by omega, by omega⟩
        have rest := toInt_sub_of_fits (a := remaining) (b := item.quantity) ⟨by omega, by omega⟩
        rw [held_cons_own own] at enough ⊢
        rw [if_neg other]
        by_cases used : item.quantity - remaining ≤ 0
        · have spent := (nonpos_iff_toInt _).mp used
          rw [if_pos used, ih later (by omega) (by omega)]
          omega
        · have kept : 0 < (item.quantity - remaining).toInt :=
            (pos_iff_toInt _).mp (Int32.not_le.mp used)
          have stopped : remaining - item.quantity ≤ 0 := (nonpos_iff_toInt _).mpr (by omega)
          have lowered : IsOf itemId quality
              { item with quantity := item.quantity - remaining } := own
          rw [if_neg used, takeStacks_done items stopped, held_cons_own lowered]
          dsimp only
          omega

/-! ### The loop -/

variable (itemId quality) in
theorem takeAt_keeps (s : Ledger × Int32) (i : ℕ) :
    (Ledger.takeAt itemId quality s i).1.package.endOfListIndex = s.1.package.endOfListIndex ∧
      ∀ j, j ≠ i →
        (Ledger.takeAt itemId quality s i).1.package.entryAt j = s.1.package.entryAt j := by
  rw [Ledger.takeAt]
  split
  · exact ⟨rfl, fun _ _ => rfl⟩
  · split
    · exact ⟨rfl, fun _ _ => rfl⟩
    · split
      · exact ⟨rfl, fun _ _ => rfl⟩
      · split
        · refine ⟨?_, fun j apart => ?_⟩
          · rw [Ledger.dropAt, Ledger.pushDb_package]
            rfl
          · rw [Ledger.dropAt, Ledger.pushDb_package]
            exact entryAt_put_of_ne _ apart _
        · refine ⟨?_, fun j apart => ?_⟩
          · rw [Ledger.requantifyAt, Ledger.pushDb_package]
            rfl
          · rw [Ledger.requantifyAt, Ledger.pushDb_package]
            exact entryAt_put_of_ne _ apart _

theorem takeAt_entry (s : Ledger × Int32) (i : ℕ) (items : List InventoryItem) :
    takeStacks itemId quality ((s.1.package.entryAt i).toList ++ items) s.2 =
      ((Ledger.takeAt itemId quality s i).1.package.entryAt i).toList ++
        takeStacks itemId quality items (Ledger.takeAt itemId quality s i).2 := by
  rw [Ledger.takeAt]
  by_cases done : s.2 ≤ 0
  · rw [if_pos done, takeStacks_done _ done, takeStacks_done _ done]
  rw [if_neg done]
  cases here : s.1.package.entryAt i with
  | none =>
      simp only [here]
      rfl
  | some item =>
      have inside := lt_length_of_entryAt here
      rw [Option.toList_some, List.singleton_append, takeStacks, if_neg done]
      dsimp only
      by_cases other : item.itemId ≠ itemId ∨ item.quality ≠ quality
      · rw [if_pos other, if_pos other, here]
        rfl
      rw [if_neg other, if_neg other]
      by_cases used : item.quantity - s.2 ≤ 0
      · rw [if_pos used, if_pos used, Ledger.dropAt, Ledger.pushDb_package]
        change _ = ((s.1.package.put i none).entryAt i).toList ++ _
        rw [entryAt_put_self _ inside]
        rfl
      · rw [if_neg used, if_neg used, Ledger.requantifyAt, Ledger.pushDb_package]
        change _ = ((s.1.package.put i _).entryAt i).toList ++ _
        rw [entryAt_put_self _ inside]
        rfl

variable (itemId quality) in
theorem foldl_takeAt_entries {slots : List ℕ} (distinct : slots.Nodup) (s : Ledger × Int32) :
    slots.filterMap (slots.foldl (Ledger.takeAt itemId quality) s).1.package.entryAt =
      takeStacks itemId quality (slots.filterMap s.1.package.entryAt) s.2 := by
  induction slots generalizing s with
  | nil => rfl
  | cons i slots ih =>
      obtain ⟨apart, distinct⟩ := List.nodup_cons.mp distinct
      obtain ⟨_, others⟩ := takeAt_keeps itemId quality s i
      obtain ⟨_, passed⟩ := foldl_keeps (takeAt_keeps itemId quality) slots
        (Ledger.takeAt itemId quality s i)
      have rest : slots.filterMap (Ledger.takeAt itemId quality s i).1.package.entryAt =
          slots.filterMap s.1.package.entryAt :=
        List.filterMap_congr fun j member => others j fun same => apart (same ▸ member)
      have head (f : ℕ → Option InventoryItem) :
          (i :: slots).filterMap f = (f i).toList ++ slots.filterMap f := by
        rw [List.filterMap_cons]
        cases f i <;> rfl
      rw [head, head, takeAt_entry, List.foldl_cons, passed i apart, ih distinct, rest]

end Take

/-! ### Remove -/

section Remove

variable {l : Ledger} {itemId : UInt32} {quality : UInt8} {quantity : Int32}

def Ledger.taken (l : Ledger) (itemId : UInt32) (quantity : Int32) (quality : UInt8) : Ledger :=
  ((List.range l.package.endOfListIndex).reverse.foldl (Ledger.takeAt itemId quality)
    (l, quantity)).1

theorem iterItems_taken : (l.taken itemId quantity quality).package.iterItems =
    (takeStacks itemId quality l.package.iterItems.reverse quantity).reverse := by
  have distinct : (List.range l.package.endOfListIndex).reverse.Nodup :=
    (List.reverse_perm _).nodup_iff.mpr List.nodup_range
  obtain ⟨last, _⟩ := foldl_keeps (takeAt_keeps itemId quality)
    (List.range l.package.endOfListIndex).reverse (l, quantity)
  have taken := foldl_takeAt_entries itemId quality distinct (l, quantity)
  rw [iterItems_eq, iterItems_eq, ← List.filterMap_reverse, ← taken, List.filterMap_reverse,
    List.reverse_reverse, Ledger.taken, last]

variable (l itemId quality quantity) in
theorem taken_edits :
    Edits (fun _ _ => True) (fun _ _ => True) true l (l.taken itemId quantity quality) := by
  have loop (slots : List ℕ) (s : Ledger × Int32) :
      Edits (fun _ _ => True) (fun _ _ => True) true s.1
        (slots.foldl (Ledger.takeAt itemId quality) s).1 := by
    induction slots generalizing s with
    | nil => exact .refl s.1
    | cons i slots ih =>
        exact (takeAt_edits (fun _ _ _ _ _ _ => trivial) itemId quality
          (fun _ _ _ => trivial) i).trans (ih _)
  exact loop _ (l, quantity)

theorem remove_contents (shape : l.package.Shape)
    (enough : l.package.hasItemQq itemId quantity quality = true) :
    (l.remove itemId quantity quality).package.contents =
      ((takeStacks itemId quality l.package.iterItems.reverse quantity).reverse).map
        InventoryItem.unplaced := by
  have loose := (taken_edits l itemId quality quantity).loose shape.toLoose
  rw [Ledger.remove, if_neg (not_not.mpr enough), bracketed_contents, ← iterItems_taken,
    ← contents_eq]
  exact realign_contents loose

/-- The items that are not of the item, in their order, and without their slots. -/
def ItemPackage.others (p : ItemPackage) (itemId : UInt32) (quality : UInt8) :
    List InventoryItem :=
  p.contents.filter fun item => ¬ IsOf itemId quality item

variable {catalog : ItemCatalog}

theorem positive_iterItems {p : ItemPackage} (stacked : p.Stacked catalog) :
    ∀ item ∈ p.iterItems, 1 ≤ item.quantity.toInt := by
  intro item member
  rw [iterItems_eq] at member
  obtain ⟨i, _, here⟩ := List.mem_filterMap.mp member
  exact Int32.le_iff_toInt_le.mp (stacked.bounded i item here).1

theorem others_iterItems (p : ItemPackage) : p.others itemId quality =
    (p.iterItems.filter fun item => ¬ IsOf itemId quality item).map InventoryItem.unplaced := by
  rw [ItemPackage.others, contents_eq]
  exact filter_unplaced p.iterItems fun _ => rfl

theorem hasItemQq_iff (p : ItemPackage) :
    p.hasItemQq itemId quantity quality = true ↔
      quantity.toInt ≤ p.totalQuantity itemId quality :=
  decide_eq_true_iff

theorem remove_refused (short : l.package.totalQuantity itemId quality < quantity.toInt) :
    l.remove itemId quantity quality = l := by
  rw [Ledger.remove, if_pos]
  intro enough
  exact absurd ((hasItemQq_iff l.package).mp enough) (not_le.mpr short)

theorem remove_total (stacked : l.package.Stacked catalog) (positive : 1 ≤ quantity.toInt)
    (enough : quantity.toInt ≤ l.package.totalQuantity itemId quality) :
    (l.remove itemId quantity quality).package.totalQuantity itemId quality =
      l.package.totalQuantity itemId quality - quantity.toInt := by
  have kept : ∀ item ∈ l.package.iterItems.reverse, 1 ≤ item.quantity.toInt :=
    fun item member => positive_iterItems stacked item (List.mem_reverse.mp member)
  have holds := (hasItemQq_iff l.package).mpr enough
  rw [totalQuantity_iterItems l.package,
    ← held_perm itemId quality (List.reverse_perm _)] at enough ⊢
  rw [totalQuantity_held, remove_contents stacked.shape holds, held_unplaced,
    held_perm itemId quality (List.reverse_perm _), held_takeStacks kept (by omega) enough]

theorem remove_others (shape : l.package.Shape)
    (enough : l.package.hasItemQq itemId quantity quality = true) :
    (l.remove itemId quantity quality).package.others itemId quality =
      l.package.others itemId quality := by
  rw [ItemPackage.others, remove_contents shape enough, filter_unplaced _ fun _ => rfl,
    List.filter_reverse, others_takeStacks, List.filter_reverse, List.reverse_reverse,
    others_iterItems]

theorem remove_butOne (stacked : l.package.Stacked catalog)
    (enough : l.package.hasItemQq itemId quantity quality = true) :
    ∃ kept, kept.Sublist l.package.contents ∧
      ButOne itemId quality kept (l.remove itemId quantity quality).package.contents := by
  obtain ⟨kept, among, butOne⟩ := butOne_takeStacks itemId quality quantity
    fun item member => positive_iterItems stacked item (List.mem_reverse.mp member)
  refine ⟨kept.reverse.map InventoryItem.unplaced, ?_, ?_⟩
  · rw [contents_eq]
    exact (List.reverse_reverse l.package.iterItems ▸ among.reverse).map _
  · rw [remove_contents stacked.shape enough]
    exact butOne.reverse.unplaced

theorem remove_stacked (stacked : l.package.Stacked catalog) :
    (l.remove itemId quantity quality).package.Stacked catalog := by
  have settled := remove_spec (Q := InBounds catalog) (F := fun _ _ => True)
    (fun _ _ _ within positive left => inBounds_lower within (Int32.le_of_lt positive) left)
    stacked.shape stacked.bounded itemId quantity quality
  exact ⟨settled.reworked.shape stacked.shape, settled.reworked.keep _ stable_every stacked.bounded⟩

theorem remove_absent (shape : l.package.Shape)
    (absent : ∀ item ∈ l.package.iterItems, ¬ IsOf itemId quality item) (i : ℕ) :
    (l.remove itemId quantity quality).package.entryAt i = l.package.entryAt i := by
  have none_held : l.package.totalQuantity itemId quality = 0 := by
    have empty : (l.package.iterItems.filter fun item => IsOf itemId quality item) = [] := by
      rw [List.filter_eq_nil_iff]
      intro item member
      simpa using absent item member
    rw [totalQuantity_iterItems, held, empty]
    rfl
  by_cases more : 0 < quantity.toInt
  · rw [remove_refused (none_held ▸ more)]
  · have done : quantity ≤ 0 := (nonpos_iff_toInt quantity).mpr (not_lt.mp more)
    have holds : l.package.hasItemQq itemId quantity quality = true :=
      (hasItemQq_iff l.package).mpr (by omega)
    have idle (slots : List ℕ) :
        slots.foldl (Ledger.takeAt itemId quality) (l, quantity) = (l, quantity) := by
      induction slots with
      | nil => rfl
      | cons i slots ih => rw [List.foldl_cons, Ledger.takeAt, if_pos done, ih]
    rw [Ledger.remove, if_neg (not_not.mpr holds), idle, realign_shape shape]
    exact (sameSlots_bracketedSendUpdate l).entryAt_eq i

/-- A removal of a positive quantity that the package holds takes exactly that quantity of
the item, leaves every other item in its order and keeps the package without a hole; a
quantity beyond what is held changes nothing, and of an item that is not there nothing is
taken. -/
theorem remove_exact {catalog : ItemCatalog} (stacked : l.package.Stacked catalog) :
    (1 ≤ quantity.toInt → quantity.toInt ≤ l.package.totalQuantity itemId quality →
      (l.remove itemId quantity quality).package.totalQuantity itemId quality =
          l.package.totalQuantity itemId quality - quantity.toInt ∧
        (l.remove itemId quantity quality).package.others itemId quality =
          l.package.others itemId quality ∧
        (∃ kept, kept.Sublist l.package.contents ∧
          ButOne itemId quality kept (l.remove itemId quantity quality).package.contents) ∧
        (l.remove itemId quantity quality).package.Stacked catalog) ∧
    (l.package.totalQuantity itemId quality < quantity.toInt →
      l.remove itemId quantity quality = l) ∧
    ((∀ item ∈ l.package.iterItems, ¬ IsOf itemId quality item) →
      ∀ i, (l.remove itemId quantity quality).package.entryAt i = l.package.entryAt i) := by
  refine ⟨fun positive enough => ?_, remove_refused, remove_absent stacked.shape⟩
  have holds := (hasItemQq_iff l.package).mpr enough
  exact ⟨remove_total stacked positive enough, remove_others stacked.shape holds,
    remove_butOne stacked holds, remove_stacked stacked⟩

theorem remove_exact_ten :
    (1 ≤ (10 : Int32).toInt → (10 : Int32).toInt ≤ (sixtyPotions 1).totalQuantity 42 1 →
      (Ledger.remove { package := sixtyPotions 1 } 42 10 1).package.totalQuantity 42 1 =
          (sixtyPotions 1).totalQuantity 42 1 - (10 : Int32).toInt ∧
        (Ledger.remove { package := sixtyPotions 1 } 42 10 1).package.others 42 1 =
          (sixtyPotions 1).others 42 1 ∧
        (∃ kept, kept.Sublist (sixtyPotions 1).contents ∧ ButOne 42 1 kept
          (Ledger.remove { package := sixtyPotions 1 } 42 10 1).package.contents) ∧
        (Ledger.remove { package := sixtyPotions 1 } 42 10 1).package.Stacked
          ItemPackages.potions) ∧
    ((sixtyPotions 1).totalQuantity 42 1 < (10 : Int32).toInt →
      Ledger.remove { package := sixtyPotions 1 } 42 10 1 = { package := sixtyPotions 1 }) ∧
    ((∀ item ∈ (sixtyPotions 1).iterItems, ¬ IsOf 42 1 item) →
      ∀ i, (Ledger.remove { package := sixtyPotions 1 } 42 10 1).package.entryAt i =
        (sixtyPotions 1).entryAt i) :=
  remove_exact (l := { package := sixtyPotions 1 }) (sixtyPotions_stacked 1)

end Remove
end Garlemald.Inventory
