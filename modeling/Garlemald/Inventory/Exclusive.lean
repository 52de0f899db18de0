import Garlemald.Inventory.Stacking

/-!
The entries of an exclusive item. A removal, a realigning and an update bring in none; an
add starts stacks of its own item, and an item that exists already is one more entry. The
lookup that turns an exclusive item away sees only the entries of quality 1.
-/

namespace Garlemald.Inventory
open Library ItemPackage

namespace ItemPackage

def isCopy (itemId : UInt32) (entry : Option InventoryItem) : Bool :=
  entry.any (·.itemId = itemId)

def copies (p : ItemPackage) (itemId : UInt32) : ℕ := p.list.countP (isCopy itemId)

/-- Of an exclusive item there is at most one entry. -/
def Exclusive (catalog : ItemCatalog) (p : ItemPackage) : Prop :=
  ∀ itemId gd, catalog itemId = some gd → gd.isExclusive → p.copies itemId ≤ 1

end ItemPackage

section Copies

variable {p p' : ItemPackage} {itemId : UInt32}

variable (itemId) in
theorem copies_put {i : ℕ} (inside : i < p.list.length) (entry : Option InventoryItem) :
    (p.put i entry).copies itemId + (isCopy itemId (p.entryAt i)).toNat =
      p.copies itemId + (isCopy itemId entry).toNat := by
  have here : p.entryAt i = p.list[i] := by
    rw [entryAt, List.getElem?_eq_getElem inside]
    rfl
  have counted : isCopy itemId p.list[i] = true → 0 < p.list.countP (isCopy itemId) :=
    fun own => List.countP_pos_iff.mpr ⟨p.list[i], List.getElem_mem inside, own⟩
  rw [copies, copies, put, List.countP_set inside, here]
  cases own : isCopy itemId p.list[i] with
  | false => cases isCopy itemId entry <;> rfl
  | true =>
      have least := counted own
      cases isCopy itemId entry with
      | false =>
          simp only [if_true, Bool.false_eq_true, if_false, Bool.toNat_true, Bool.toNat_false]
          omega
      | true =>
          simp only [if_true, Bool.toNat_true]
          omega

theorem put_outside {i : ℕ} (outside : p.list.length ≤ i) (entry : Option InventoryItem) :
    (p.put i entry).copies itemId = p.copies itemId := by
  rw [copies, put, List.set_eq_of_length_le outside]
  rfl

theorem copies_requantify {i : ℕ} {item : InventoryItem} (here : p.entryAt i = some item)
    (quantity : Int32) :
    (p.put i (some { item with quantity })).copies itemId = p.copies itemId := by
  have counted := copies_put itemId (lt_length_of_entryAt here)
    (some { item with quantity })
  rw [here] at counted
  exact Nat.add_right_cancel counted

theorem copies_erase (i : ℕ) : (p.put i none).copies itemId ≤ p.copies itemId := by
  by_cases inside : i < p.list.length
  · have counted := copies_put itemId inside none
    change _ = p.copies itemId + 0 at counted
    omega
  · exact (put_outside (Nat.le_of_not_lt inside) none).le

theorem edit_copies {Q : UInt32 → Int32 → Prop} {holes : Bool}
    (edit : Edit Q (fun _ _ => False) holes p p') : p'.copies itemId ≤ p.copies itemId := by
  cases edit with
  | requantify i item quantity here allowed => exact (copies_requantify here quantity).le
  | spawn item room slot_eq package_eq allowed fresh => exact fresh.elim
  | erase i => exact copies_erase i
  | shift i dst item here below =>
      have inside := lt_length_of_entryAt here
      have erased := copies_put itemId inside none
      rw [here] at erased
      have within : dst < (p.put i none).list.length := by
        rw [put, List.length_set]
        exact Nat.lt_trans below inside
      have moved := copies_put itemId within
        (some { item with slot := UInt16.ofNat dst })
      change _ = _ + (isCopy itemId (some item)).toNat at moved
      change _ = p.copies itemId + 0 at erased
      omega
  | trim n le behind => exact le_rfl

theorem sameSlots_copies (same : SameSlots p p') : p'.copies itemId = p.copies itemId := by
  rw [copies, same.list_eq]
  rfl

theorem stable_copies (n : ℕ) :
    Stable (fun _ _ => True) (fun _ _ => False) fun p => p.copies itemId ≤ n :=
  ⟨fun _ _ edit below => (edit_copies edit).trans below,
    fun _ _ same below => (sameSlots_copies same).le.trans below⟩

theorem reworked_copies (reworked : Reworked (fun _ _ => True) (fun _ _ => False) p p') :
    p'.copies itemId ≤ p.copies itemId :=
  reworked.keep _ (stable_copies (p.copies itemId)) le_rfl

theorem ItemPackage.Exclusive.of_le {catalog : ItemCatalog} (exclusive : p.Exclusive catalog)
    (fewer : ∀ itemId, p'.copies itemId ≤ p.copies itemId) : p'.Exclusive catalog :=
  fun itemId gd known unique => (fewer itemId).trans (exclusive itemId gd known unique)

end Copies

/-! ### What an add brings in -/

def started (maxStack : Int32) : ℕ → Int32 → ℕ
  | 0, _ => 0
  | n + 1, quantity =>
      if quantity ≤ 0 then 0 else started maxStack n (quantity - min quantity maxStack) + 1

theorem started_of_nonpos (maxStack : Int32) (n : ℕ) {quantity : Int32} (done : quantity ≤ 0) :
    started maxStack n quantity = 0 := by
  cases n with
  | zero => rfl
  | succ n => rw [started, if_pos done]

theorem started_le_one_iff (maxStack : Int32) (n : ℕ) {quantity : Int32}
    (positive : 0 < quantity) :
    started maxStack n quantity ≤ 1 ↔ n ≤ 1 ∨ quantity - min quantity maxStack ≤ 0 := by
  have more : ¬ quantity ≤ 0 := Int32.not_le.mpr positive
  cases n with
  | zero => exact iff_of_true (Nat.zero_le 1) (.inl (Nat.zero_le 1))
  | succ n =>
      rw [started, if_neg more]
      cases n with
      | zero => exact iff_of_true le_rfl (.inl le_rfl)
      | succ n =>
          rw [started]
          by_cases rest : quantity - min quantity maxStack ≤ 0
          · rw [if_pos rest]
            exact iff_of_true le_rfl (.inr rest)
          · rw [if_neg rest]
            refine iff_of_false (by omega) fun either => ?_
            cases either with
            | inl one => omega
            | inr done => exact rest done

theorem started_pos (maxStack : Int32) {n : ℕ} {quantity : Int32} (free : 0 < n)
    (positive : 0 < quantity) : 0 < started maxStack n quantity := by
  cases n with
  | zero => exact absurd free (Nat.lt_irrefl 0)
  | succ n =>
      rw [started, if_neg (Int32.not_le.mpr positive)]
      exact Nat.succ_pos _

section Add

variable {l : Ledger} {itemId other : UInt32} {quality : UInt8} {maxStack quantity : Int32}

theorem mergeAt_copies (s : Ledger × Int32) (i : ℕ) :
    (Ledger.mergeAt itemId quality maxStack s i).1.package.copies other =
      s.1.package.copies other := by
  rw [Ledger.mergeAt]
  split
  · rfl
  · split
    · rfl
    · next item here =>
        split
        · rw [Ledger.pushDb_package]
          exact copies_requantify here _
        · rfl

theorem merge_copies (slots : List ℕ) (s : Ledger × Int32) :
    (slots.foldl (Ledger.mergeAt itemId quality maxStack) s).1.package.copies other =
      s.1.package.copies other := by
  induction slots generalizing s with
  | nil => rfl
  | cons i slots ih => rw [List.foldl_cons, ih, mergeAt_copies]

theorem spawn_copies (loose : l.package.Loose)
    (room : l.package.endOfListIndex < l.package.capacity.toNat) (stackQty : Int32) :
    (l.spawn itemId quality stackQty).package.copies other =
      l.package.copies other + if other = itemId then 1 else 0 := by
  have inside : l.package.endOfListIndex < l.package.list.length := loose.length_list ▸ room
  have free := loose.behind l.package.endOfListIndex le_rfl
  have counted := copies_put other inside (some
    { itemId, quantity := stackQty, quality, slot := UInt16.ofNat l.package.endOfListIndex,
      linkSlot := 0xFFFF, itemPackage := l.package.code })
  rw [free] at counted
  rw [Ledger.spawn, Ledger.pushDb_package]
  refine Eq.trans counted ?_
  by_cases same : other = itemId
  · rw [if_pos same, same]
    simp [isCopy]
  · rw [if_neg same]
    simp [isCopy, Ne.symm same]

variable (itemId other quality maxStack) in
theorem spill_copies (fuel : ℕ) (quantity : Int32) {l : Ledger} (loose : l.package.Loose)
    (exact_fuel : fuel = l.package.freeSlots) :
    (Ledger.spill itemId quality maxStack fuel quantity l).2.package.copies other =
      l.package.copies other + if other = itemId then started maxStack fuel quantity else 0 := by
  induction fuel generalizing quantity l with
  | zero =>
      have none_started : (if other = itemId then started maxStack 0 quantity else 0) = 0 := by
        split <;> rfl
      rw [none_started, Ledger.spill]
      split <;> rfl
  | succ fuel ih =>
      rw [Ledger.spill, started]
      by_cases done : quantity ≤ 0
      · rw [if_pos done, if_pos done]
        split <;> rfl
      · have room : l.package.endOfListIndex < l.package.capacity.toNat := by
          rw [freeSlots] at exact_fuel
          omega
        have open_slot : l.package.isFull = false := by
          simpa [isFull] using room
        have edit : Edit (fun _ _ => True) (fun _ _ => True) false l.package
            (l.spawn itemId quality (min quantity maxStack)).package := by
          rw [Ledger.spawn, Ledger.pushDb_package]
          exact .spawn _ room rfl rfl trivial trivial
        have next_fuel : fuel =
            (l.spawn itemId quality (min quantity maxStack)).package.freeSlots := by
          rw [Ledger.spawn, Ledger.pushDb_package]
          simp only [freeSlots] at exact_fuel ⊢
          change fuel = l.package.capacity.toNat - (l.package.endOfListIndex + 1)
          omega
        rw [if_neg done, if_neg done, open_slot]
        simp only [Bool.false_eq_true, if_false]
        rw [ih _ (edit.loose loose) next_fuel, spawn_copies loose room]
        split
        · omega
        · rfl

theorem store_copies (loose : l.package.Loose) :
    (l.store itemId quantity quality maxStack).2.package.copies other =
      l.package.copies other + if other = itemId then
        started maxStack l.package.freeSlots
          (leftover itemId quality maxStack l.package.iterItems quantity) else 0 := by
  have additive : Additive fun l' => l'.package.Loose ∧
      l'.package.capacity = l.package.capacity := by
    refine ⟨fun l' i item quantity held here => ?_, fun l' itemId quality quantity held room => ?_,
      fun l' held => ?_⟩
    · have edit : Edit (fun _ _ => True) (fun _ _ => True) false l'.package
          (l'.requantifyAt i item quantity).package := by
        rw [Ledger.requantifyAt, Ledger.pushDb_package]
        exact .requantify i item quantity here trivial
      exact ⟨edit.loose held.1, (congrArg (·.2.1) edit.header_eq).trans held.2⟩
    · have edit : Edit (fun _ _ => True) (fun _ _ => True) false l'.package
          (l'.spawn itemId quality quantity).package := by
        rw [Ledger.spawn, Ledger.pushDb_package]
        exact .spawn _ room rfl rfl trivial trivial
      exact ⟨edit.loose held.1, (congrArg (·.2.1) edit.header_eq).trans held.2⟩
    · have same := sameSlots_bracketedSendUpdate l'
      exact ⟨same.loose held.1, same.capacity_eq.trans held.2⟩
  have merged := additive.merge (s := (l, quantity)) ⟨loose, rfl⟩ itemId quality maxStack
    (List.range l.package.endOfListIndex)
  obtain ⟨end_eq, left_eq, _⟩ :=
    merge_leftover itemId quality maxStack l quantity l.package.endOfListIndex
  have free_eq : l.package.freeSlots = ((List.range l.package.endOfListIndex).foldl
      (Ledger.mergeAt itemId quality maxStack) (l, quantity)).1.package.freeSlots := by
    rw [freeSlots, freeSlots, merged.2, end_eq]
  have spilled := spill_copies itemId other quality maxStack l.package.freeSlots
    (leftover itemId quality maxStack l.package.iterItems quantity) merged.1 free_eq
  rw [merge_copies] at spilled
  rw [← spilled, Ledger.store, left_eq]
  split
  · next stored result =>
      rw [sameSlots_copies (sameSlots_bracketedSendUpdate stored)]
      exact congrArg (·.2.package.copies other) result.symm
  · next stored result => exact congrArg (·.2.package.copies other) result.symm

/-! ### Exclusive items -/

variable (quantity) in
theorem leftover_none {items : List InventoryItem}
    (none_takes : ∀ item ∈ items, takesMore itemId quality maxStack item = false) :
    leftover itemId quality maxStack items quantity = quantity := by
  induction items with
  | nil => rfl
  | cons item items ih =>
      rw [leftover, List.foldl_cons, none_takes item (List.mem_cons_self ..)]
      have skipped : (if quantity ≤ 0 then quantity
          else if false = true then quantity - (maxStack - item.quantity) else quantity) =
          quantity := by
        split <;> rfl
      rw [skipped]
      exact ih fun other member => none_takes other (List.mem_cons_of_mem item member)

variable (quality maxStack) in
theorem not_takesMore {items : List InventoryItem}
    (none_held : items.countP (fun item => isCopy itemId (some item)) = 0) :
    ∀ item ∈ items, takesMore itemId quality maxStack item = false := by
  intro item member
  have apart := List.countP_eq_zero.mp none_held item member
  rw [takesMore, decide_eq_false_iff_not]
  intro takes
  exact apart (by simpa [isCopy] using takes.1)

variable (quality maxStack) in
theorem leftover_nonpos_iff {items : List InventoryItem}
    (single : items.countP (fun item => isCopy itemId (some item)) ≤ 1)
    (positive : 0 < quantity) :
    leftover itemId quality maxStack items quantity ≤ 0 ↔
      ∃ item ∈ items, takesMore itemId quality maxStack item ∧
        quantity - (maxStack - item.quantity) ≤ 0 := by
  have more : ¬ quantity ≤ 0 := Int32.not_le.mpr positive
  induction items with
  | nil =>
      refine iff_of_false more fun found => ?_
      obtain ⟨_, member, _⟩ := found
      exact absurd member List.not_mem_nil
  | cons item items ih =>
      rw [List.countP_cons] at single
      have unrolled : leftover itemId quality maxStack (item :: items) quantity =
          leftover itemId quality maxStack items
            (if takesMore itemId quality maxStack item then quantity - (maxStack - item.quantity)
              else quantity) := by
        rw [leftover, List.foldl_cons, if_neg more]
        rfl
      rw [unrolled]
      by_cases takes : takesMore itemId quality maxStack item = true
      · have own : isCopy itemId (some item) = true := by
          rw [takesMore, decide_eq_true_eq] at takes
          simpa [isCopy] using takes.1
        rw [own, if_pos rfl] at single
        have later := not_takesMore quality maxStack
          (Nat.le_zero.mp (Nat.le_of_succ_le_succ single))
        rw [if_pos takes, leftover_none _ later]
        constructor
        · exact fun done => ⟨item, List.mem_cons_self .., takes, done⟩
        · intro found
          obtain ⟨other, member, takes', done⟩ := found
          cases List.mem_cons.mp member with
          | inl same => exact same ▸ done
          | inr member => exact absurd takes' (by rw [later other member]; decide)
      · have rest_single := (Nat.le_add_right ..).trans single
        rw [if_neg takes]
        refine (ih rest_single).trans ⟨fun found => ?_, fun found => ?_⟩
        · obtain ⟨other, member, rest⟩ := found
          exact ⟨other, List.mem_cons_of_mem item member, rest⟩
        · obtain ⟨other, member, takes', done⟩ := found
          cases List.mem_cons.mp member with
          | inl same => exact absurd (same ▸ takes') takes
          | inr member => exact ⟨other, member, takes', done⟩

theorem iterItems_copies (p : ItemPackage) :
    p.iterItems.countP (fun item => isCopy itemId (some item)) ≤ p.copies itemId := by
  rw [iterItems, List.countP_filterMap]
  have among := (List.take_sublist p.endOfListIndex p.list).countP_le (p := isCopy itemId)
  refine (List.countP_mono_left fun entry _ own => ?_).trans among
  cases entry with
  | none => exact own
  | some item => exact own

/-- An add of an exclusive item leaves at most one entry of it exactly if it is refused at
once, or no slot is free, or the one entry held takes all of it, or none is held, of whatever
quality, and one stack or the one free slot takes all. -/
def AddsOne (catalog : ItemCatalog) (p : ItemPackage) (itemId : UInt32) (quantity : Int32)
    (quality : UInt8) : Prop :=
  ∀ gd, catalog itemId = some gd → gd.isExclusive →
    quantity ≤ 0 ∨ p.hasItem itemId ∨ p.isFull ∨
      (∃ item ∈ p.iterItems, takesMore itemId quality gd.maxStack item ∧
        quantity - (gd.maxStack - item.quantity) ≤ 0) ∨
      (p.copies itemId = 0 ∧ (p.freeSlots = 1 ∨ quantity - min quantity gd.maxStack ≤ 0))

variable {catalog : ItemCatalog} {gd : ItemData}

variable (other quality quantity) in
theorem add_copies (loose : l.package.Loose) (known : catalog itemId = some gd) :
    (l.add catalog itemId quantity quality).2.package.copies other =
      l.package.copies other +
        if other = itemId ∧ 0 < quantity ∧ ¬ (gd.isExclusive ∧ l.package.hasItem itemId) then
          started gd.maxStack l.package.freeSlots
            (leftover itemId quality gd.maxStack l.package.iterItems quantity) else 0 := by
  rw [Ledger.add]
  by_cases done : quantity ≤ 0
  · rw [if_pos done, if_neg fun all => Int32.not_le.mpr all.2.1 done]
    rfl
  have positive := Int32.not_le.mp done
  rw [if_neg done]
  by_cases space : l.package.isSpaceForAdd catalog itemId quantity quality = true
  · rw [if_neg (not_not.mpr space), known]
    dsimp only
    by_cases refused : gd.isExclusive ∧ l.package.hasItem itemId
    · rw [if_pos refused, if_neg fun all => all.2.2 refused]
      rfl
    · rw [if_neg refused, store_copies loose]
      by_cases same : other = itemId
      · rw [if_pos same, if_pos ⟨same, positive, refused⟩]
      · rw [if_neg same, if_neg fun all => same all.1]
  · have full : l.package.freeSlots = 0 := by
      have blocked := mt (isSpaceForAdd_iff known l.package positive).mpr space
      have closed : l.package.isFull = true := by
        simpa using (not_or.mp blocked).2
      exact Nat.sub_eq_zero_of_le (by simpa [isFull] using closed)
    rw [if_pos space, full]
    split <;> rfl

theorem add_copies_unknown (unknown : catalog itemId = none) :
    (l.add catalog itemId quantity quality).2 = l := by
  rw [Ledger.add]
  split
  · rfl
  · split
    · rfl
    · rw [unknown]

variable (quality maxStack) in
theorem started_single_iff {p : ItemPackage} (single : p.copies itemId ≤ 1)
    (positive : 0 < quantity) :
    p.copies itemId + started maxStack p.freeSlots
        (leftover itemId quality maxStack p.iterItems quantity) ≤ 1 ↔
      p.isFull ∨
        (∃ item ∈ p.iterItems, takesMore itemId quality maxStack item ∧
          quantity - (maxStack - item.quantity) ≤ 0) ∨
        (p.copies itemId = 0 ∧ (p.freeSlots = 1 ∨ quantity - min quantity maxStack ≤ 0)) := by
  have items_single := (iterItems_copies p).trans single
  have takes_all := leftover_nonpos_iff quality maxStack items_single positive
  by_cases full : p.isFull = true
  · have none_free : p.freeSlots = 0 := Nat.sub_eq_zero_of_le (by simpa [isFull] using full)
    rw [none_free]
    exact iff_of_true single (.inl full)
  have free : 0 < p.freeSlots := by
    rw [freeSlots]
    simp only [isFull, decide_eq_true_eq] at full
    omega
  by_cases done : leftover itemId quality maxStack p.iterItems quantity ≤ 0
  · rw [started_of_nonpos _ _ done]
    exact iff_of_true single (.inr (.inl (takes_all.mp done)))
  have more := started_pos maxStack free (Int32.not_le.mp done)
  by_cases none_held : p.copies itemId = 0
  · have no_item := Nat.le_zero.mp (none_held ▸ iterItems_copies p)
    have all_left := leftover_none quantity (not_takesMore quality maxStack no_item)
    rw [all_left] at done ⊢
    rw [none_held, zero_add, started_le_one_iff maxStack p.freeSlots positive]
    constructor
    · intro one
      exact .inr (.inr ⟨rfl, one.imp_left fun few => Nat.le_antisymm few free⟩)
    · intro either
      rcases either with closed | takes | ⟨-, one⟩
      · exact absurd closed full
      · exact absurd (all_left ▸ takes_all.mpr takes) done
      · exact one.imp_left fun few => few.le
  · refine iff_of_false (by omega) fun either => ?_
    rcases either with closed | takes | ⟨none_held', -⟩
    · exact full closed
    · exact done (takes_all.mpr takes)
    · exact none_held none_held'

theorem add_exclusive_iff (loose : l.package.Loose) (exclusive : l.package.Exclusive catalog) :
    (l.add catalog itemId quantity quality).2.package.Exclusive catalog ↔
      AddsOne catalog l.package itemId quantity quality := by
  cases known : catalog itemId with
  | none =>
      rw [add_copies_unknown known]
      refine iff_of_true exclusive fun gd found => ?_
      rw [known] at found
      contradiction
  | some gd =>
      have same_data (gd' : ItemData) (found : catalog itemId = some gd') : gd' = gd :=
        Option.some.inj (found.symm.trans known)
      by_cases asked : gd.isExclusive ∧ 0 < quantity ∧ ¬ l.package.hasItem itemId
      · obtain ⟨unique, positive, unseen⟩ := asked
        have single := exclusive itemId gd known unique
        have counted := add_copies itemId quality quantity loose known
        rw [if_pos ⟨rfl, positive, fun both => unseen both.2⟩] at counted
        have exact_count := started_single_iff quality gd.maxStack single positive
        constructor
        · intro after gd' found _
          have below := after itemId gd known unique
          rw [counted] at below
          rw [same_data gd' found]
          exact .inr (.inr (exact_count.mp below))
        · intro one other gd' found unique'
          by_cases same : other = itemId
          · rw [same, counted]
            refine exact_count.mpr ?_
            rcases one gd known unique with done | seen | rest
            · exact absurd done (Int32.not_le.mpr positive)
            · exact absurd seen unseen
            · exact rest
          · rw [add_copies _ _ _ loose known, if_neg fun all => same all.1]
            exact exclusive other gd' found unique'
      · refine iff_of_true (fun other gd' found unique => ?_) fun gd' found unique => ?_
        · rw [add_copies _ _ _ loose known, if_neg]
          · exact exclusive other gd' found unique
          · intro all
            obtain ⟨same, positive, accepted⟩ := all
            subst same
            rw [same_data gd' found] at unique
            exact asked ⟨unique, positive, fun seen => accepted ⟨unique, seen⟩⟩
        · rw [same_data gd' found] at unique
          by_cases positive : 0 < quantity
          · exact .inr (.inl (not_not.mp fun unseen => asked ⟨unique, positive, unseen⟩))
          · exact .inl (Int32.not_lt.mp positive)

/-! ### Items that exist already -/

/-- An item that exists already leaves at most one entry exactly if it is added as one that
stacks and the add leaves one, or there is no slot for it, or none is held. -/
def BringsOne (catalog : ItemCatalog) (p : ItemPackage) (item : InventoryItem) : Prop :=
  if TakenAsIs catalog p item then
    ∀ gd, catalog item.itemId = some gd → gd.isExclusive → p.isFull ∨ p.copies item.itemId = 0
  else AddsOne catalog p item.itemId item.quantity item.quality

theorem bringsOne_full {p : ItemPackage} (full : p.isFull = true) (item : InventoryItem) :
    BringsOne catalog p item := by
  rw [BringsOne]
  split
  · exact fun _ _ _ => .inl full
  · exact fun _ _ _ => .inr (.inr (.inl full))

theorem appended_copies (room : l.package.endOfListIndex < l.package.list.length)
    (behind : l.package.entryAt l.package.endOfListIndex = none) (item : InventoryItem) :
    (l.appended item).package.copies other =
      l.package.copies other + if other = item.itemId then 1 else 0 := by
  have counted := copies_put other room (some
    { item with itemPackage := l.package.code, slot := UInt16.ofNat l.package.endOfListIndex })
  rw [behind] at counted
  rw [Ledger.appended, Ledger.pushDb_package]
  refine Eq.trans counted ?_
  by_cases same : other = item.itemId
  · simp [isCopy, same]
  · simp [isCopy, same, Ne.symm same]

theorem addExisting_exclusive_iff (shape : l.package.Shape)
    (exclusive : l.package.Exclusive catalog) {item : InventoryItem}
    {r : InventoryResult × Ledger} (returns : l.addExisting catalog item = some r) :
    r.2.package.Exclusive catalog ↔ BringsOne catalog l.package item := by
  rw [BringsOne]
  cases addExisting_brings returns with
  | stacked merges =>
      rw [if_neg merges]
      exact add_exclusive_iff shape.toLoose exclusive
  | full asIs blocked =>
      rw [if_pos asIs]
      refine iff_of_true exclusive fun _ _ _ => .inl ?_
      by_contra open_slot
      exact blocked (isSpaceForAdd_open (Bool.not_eq_true _ ▸ open_slot))
  | unknown asIs unknown =>
      rw [if_pos asIs]
      refine iff_of_true exclusive fun gd known => ?_
      rw [unknown] at known
      contradiction
  | appended asIs gd known room =>
      have behind := shape.behind l.package.endOfListIndex le_rfl
      have notFull : ¬ l.package.isFull = true := by
        rw [isFull, decide_eq_true_eq, ← shape.length_list]
        exact Nat.not_le.mpr room
      have counted (other : UInt32) :
          (l.appended item).bracketedSendUpdate.package.copies other =
            l.package.copies other + if other = item.itemId then 1 else 0 :=
        (sameSlots_copies (sameSlots_bracketedSendUpdate _)).trans
          (appended_copies room behind item)
      rw [if_pos asIs]
      constructor
      · intro after gd' found unique
        have below := after item.itemId gd' found unique
        rw [counted, if_pos rfl] at below
        exact .inr (by omega)
      · intro one other gd' found unique
        rw [counted]
        by_cases same : other = item.itemId
        · rw [if_pos same, same]
          cases one gd' (same ▸ found) unique with
          | inl full => exact absurd full notFull
          | inr none_held => omega
        · rw [if_neg same]
          exact exclusive other gd' found unique

end Add

/-! ### Runs -/

namespace ItemPackages

/-- Every package of the character keeps its exclusive items apart. -/
def Exclusive (catalog : ItemCatalog) (inv : ItemPackages) : Prop :=
  ∀ code, (inv.packages code).Exclusive catalog

def KeepsOne (catalog : ItemCatalog) (inv : ItemPackages) : InventoryCall → Prop
  | .slots code (.add itemId quantity quality) =>
      AddsOne catalog (inv.packages code) itemId quantity quality
  | .slots code (.addExisting item) => BringsOne catalog (inv.packages code) item
  | .moveTo code slot destination => ∀ item, (inv.packages code).getAtSlot slot = some item →
      BringsOne catalog (inv.packages destination) item
  | .moveItem _ item destination => BringsOne catalog (inv.packages destination) item
  | _ => True

variable {catalog : ItemCatalog} {inv inv' : ItemPackages}

theorem exclusive_commit (exclusive : inv.Exclusive catalog) (code : UInt16) (l : Ledger) :
    (inv.commit code l).Exclusive catalog ↔ l.package.Exclusive catalog := by
  constructor
  · intro all
    have own := all code
    rw [packages_commit, if_pos rfl] at own
    exact own
  · intro own other
    rw [packages_commit]
    split
    · exact own
    · exact exclusive other

theorem exclusive_reworked {l : Ledger} {code : UInt16} (exclusive : inv.Exclusive catalog)
    (reworked : Reworked (fun _ _ => True) (fun _ _ => False) (inv.packages code) l.package) :
    (inv.commit code l).Exclusive catalog :=
  (exclusive_commit exclusive code l).mpr
    ((exclusive code).of_le fun _ => reworked_copies reworked)

theorem exclusive_moved {code destination : UInt16} {l l' : Ledger} {item : InventoryItem}
    (laid : inv.Laid) (exclusive : inv.Exclusive catalog) (apart : code ≠ destination)
    (removed : Reworked (fun _ _ => True) (fun _ _ => False) (inv.packages code) l.package)
    (added : ((inv.commit code l).ledger destination).callSlots catalog (.addExisting item) =
      some l') :
    ((inv.commit code l).commit destination l').Exclusive catalog ↔
      BringsOne catalog (inv.packages destination) item := by
  obtain ⟨r, returns, same⟩ := Option.map_eq_some_iff.mp added
  have before := exclusive_reworked exclusive removed
  have target : (inv.commit code l).packages destination = inv.packages destination := by
    rw [packages_commit, if_neg (Ne.symm apart)]
  have shape := (laid.commit removed destination).1
  have exact_add := addExisting_exclusive_iff shape (before destination) returns
  rw [exclusive_commit before, ← same, exact_add]
  exact iff_of_eq (congrArg (BringsOne catalog · item) target)

theorem slots_exclusive_iff (laid : inv.Laid) (exclusive : inv.Exclusive catalog) (code : UInt16)
    (call : SlotCall) {l : Ledger} (returns : (inv.ledger code).callSlots catalog call = some l) :
    (inv.commit code l).Exclusive catalog ↔ inv.KeepsOne catalog (.slots code call) := by
  have shape : (inv.ledger code).package.Shape := (laid code).1
  have any : (inv.ledger code).package.Every fun _ _ => True := fun _ _ _ => trivial
  have kept (settles : Settles (fun _ _ => True) (fun _ _ => False) (inv.ledger code) l) :
      (inv.commit code l).Exclusive catalog ↔ True :=
    iff_of_true (exclusive_reworked exclusive settles.reworked) trivial
  cases call with
  | add itemId quantity quality =>
      cases returns
      rw [exclusive_commit exclusive]
      exact add_exclusive_iff shape.toLoose (exclusive code)
  | addExisting item =>
      obtain ⟨r, returned, same⟩ := Option.map_eq_some_iff.mp returns
      rw [exclusive_commit exclusive, ← same]
      exact addExisting_exclusive_iff shape (exclusive code) returned
  | remove itemId quantity quality =>
      cases returns
      exact kept (remove_spec (fun _ _ _ _ _ _ => trivial) shape any itemId quantity quality)
  | removeItem item =>
      cases returns
      exact kept (removeItem_spec shape item)
  | removeByUniqueId itemDbId quantity =>
      cases returns
      exact kept (removeByUniqueId_spec shape any itemDbId fun _ _ _ _ => trivial)
  | removeAtSlot slot =>
      cases returns
      exact kept (removeAtSlot_spec shape slot)
  | removeAtSlotQty slot quantity =>
      cases returns
      exact kept (removeAtSlotQty_spec shape any slot fun _ _ _ _ => trivial)
  | clear =>
      cases returns
      exact kept (clear_spec shape)

theorem step_exclusive_iff {call : InventoryCall} (laid : inv.Laid)
    (exclusive : inv.Exclusive catalog) (taken : inv.step catalog call = some inv') :
    inv'.Exclusive catalog ↔ inv.KeepsOne catalog call := by
  cases call with
  | slots code call =>
      obtain ⟨l, returns, same⟩ := Option.map_eq_some_iff.mp taken
      rw [← same]
      exact slots_exclusive_iff laid exclusive code call returns
  | updates code call =>
      cases taken
      exact iff_of_true (exclusive_reworked exclusive
        (sameSlots_callUpdates (inv.ledger code) call).reworked) trivial
  | moveTo code slot destination =>
      obtain ⟨apart, idle_or_moved⟩ := step_moveTo taken
      cases idle_or_moved with
      | inl idle =>
          rw [idle.1]
          exact iff_of_true exclusive fun item here => bringsOne_full (idle.2 item here) item
      | inr moved =>
          obtain ⟨item, l, here, _, added, after⟩ := moved
          have removed := (removeAtSlot_spec (Q := fun _ _ => True) (F := fun _ _ => False)
            (laid code).1 slot).reworked (l := inv.ledger code)
          rw [after, exclusive_moved laid exclusive apart removed added]
          exact ⟨fun one other there => Option.some.inj (here.symm.trans there) ▸ one,
            fun all => all item here⟩
  | moveItem code item destination =>
      obtain ⟨apart, idle_or_moved⟩ := step_moveItem taken
      cases idle_or_moved with
      | inl idle =>
          rw [idle.1]
          exact iff_of_true exclusive (bringsOne_full idle.2 item)
      | inr moved =>
          obtain ⟨l, _, added, after⟩ := moved
          have removed := (removeItem_spec (Q := fun _ _ => True) (F := fun _ _ => False)
            (laid code).1 item).reworked (l := inv.ledger code)
          rw [after]
          exact exclusive_moved laid exclusive apart removed added

/-- In every run from packages that keep their exclusive items apart, they stay apart exactly
if every call leaves at most one entry of each. -/
theorem exclusives_stay_unique_iff (laid : inv.Laid) (exclusive : inv.Exclusive catalog)
    (calls : List InventoryCall) :
    Always (ItemPackages.step catalog) (Exclusive catalog) inv calls ↔
      EachStep (ItemPackages.step catalog) (KeepsOne catalog) inv calls :=
  always_iff_eachStep (I := Laid)
    (fun _ _ _ laid exclusive taken => step_exclusive_iff laid exclusive taken)
    (fun _ _ _ laid _ _ taken => laid.step taken) laid exclusive

def relics : ItemCatalog := fun itemId =>
  if itemId = 42 then some { stackSize := 1, isExclusive := true } else none

def unfilled : ItemPackages := load 1 (fun _ => 5) (fun _ => false) fun _ => []

theorem unfilled_laid : unfilled.Laid := laid_load _ _ _ _

theorem unfilled_exclusive : unfilled.Exclusive relics := by
  intro code itemId gd _ _
  have empty : (unfilled.packages code).list = List.replicate 5 none := rfl
  rw [copies, empty, List.countP_replicate]
  exact Nat.zero_le 1

theorem exclusives_stay_unique_refused :
    Always (ItemPackages.step relics) (Exclusive relics) unfilled
      [.slots pkgNormal (.add 42 1 1), .slots pkgNormal (.add 42 1 1)] := by
  refine (exclusives_stay_unique_iff unfilled_laid unfilled_exclusive _).mpr fun inv taken => ?_
  cases taken
  refine ⟨fun gd known _ => ?_, fun inv taken => ⟨fun gd known _ => .inr (.inl ?_), trivial⟩⟩
  · cases known
    exact .inr (.inr (.inr (.inr ⟨by decide, .inr (by decide)⟩)))
  · decide

/-- Two relics of one add, and one of each quality. -/
theorem exclusives_doubled :
    unfilled.Laid ∧ unfilled.Exclusive relics ∧
      ¬ Always (ItemPackages.step relics) (Exclusive relics) unfilled
          [.slots pkgNormal (.add 42 2 1)] ∧
        ¬ Always (ItemPackages.step relics) (Exclusive relics) unfilled
          [.slots pkgNormal (.add 42 1 2), .slots pkgNormal (.add 42 1 1)] := by
  have doubled (calls : List InventoryCall)
      (held : ((run (ItemPackages.step relics) unfilled calls).map fun inv =>
        (inv.packages pkgNormal).copies 42) = some 2) :
      ¬ Always (ItemPackages.step relics) (Exclusive relics) unfilled calls := by
    intro always
    obtain ⟨inv, reached, two⟩ := Option.map_eq_some_iff.mp held
    have one := always_iff_reached.mp always calls List.prefix_rfl inv reached pkgNormal 42
      { stackSize := 1, isExclusive := true } rfl rfl
    omega
  exact ⟨unfilled_laid, unfilled_exclusive, doubled _ (by decide), doubled _ (by decide)⟩

end ItemPackages
end Garlemald.Inventory
