import Garlemald.Inventory.Representation
import Garlemald.Library.Stacks

/-!
How much of an item an add puts into a package. The stacks of the item are read as
integers in the order of their slots: topping up and spilling are then the operations on
stacks, as long as no sum leaves the 32 bits, and an add fails halfway exactly if the
free slots are too few for what the stacks cannot take.
-/

namespace Garlemald.Inventory
open Library ItemPackage
open Library.Stacks

def Fits (n : ℤ) : Prop := -2 ^ 31 ≤ n ∧ n < 2 ^ 31

theorem toInt_add_of_fits {a b : Int32} (fits : Fits (a.toInt + b.toInt)) :
    (a + b).toInt = a.toInt + b.toInt := by
  obtain ⟨low, high⟩ := fits
  rw [Int32.toInt_add, Int.bmod_eq_of_le (by omega) (by omega)]

theorem toInt_sub_of_fits {a b : Int32} (fits : Fits (a.toInt - b.toInt)) :
    (a - b).toInt = a.toInt - b.toInt := by
  obtain ⟨low, high⟩ := fits
  rw [Int32.toInt_sub, Int.bmod_eq_of_le (by omega) (by omega)]

theorem toInt_min (a b : Int32) : (min a b).toInt = min a.toInt b.toInt := by
  rw [min_int32]
  split
  · next le => exact (min_eq_left (Int32.le_iff_toInt_le.mp le)).symm
  · next less =>
      have lt := Int32.lt_iff_toInt_lt.mp (Int32.not_le.mp less)
      exact (min_eq_right (Int.le_of_lt lt)).symm

theorem pos_iff_toInt (a : Int32) : 0 < a ↔ 0 < a.toInt := Int32.lt_iff_toInt_lt

theorem nonpos_iff_toInt (a : Int32) : a ≤ 0 ↔ a.toInt ≤ 0 := Int32.le_iff_toInt_le

/-! ### The stacks of an item -/

section Stock

variable (itemId : UInt32) (quality : UInt8)

def IsOf (item : InventoryItem) : Prop := item.itemId = itemId ∧ item.quality = quality

instance (item : InventoryItem) : Decidable (IsOf itemId quality item) :=
  inferInstanceAs (Decidable (_ ∧ _))

def stackIn (entry : Option InventoryItem) : Option ℤ :=
  (entry.filter fun item => IsOf itemId quality item).map (·.quantity.toInt)

def stockAt (p : ItemPackage) (slots : List ℕ) : List ℤ :=
  slots.filterMap fun i => stackIn itemId quality (p.entryAt i)

def stock (p : ItemPackage) : List ℤ := stockAt itemId quality p (List.range p.endOfListIndex)

variable {itemId quality}

theorem stackIn_some (item : InventoryItem) : stackIn itemId quality (some item) =
    if IsOf itemId quality item then some item.quantity.toInt else none := by
  rw [stackIn, Option.filter_some]
  by_cases own : IsOf itemId quality item
  · rw [if_pos own, if_pos (decide_eq_true own)]
    rfl
  · rw [if_neg own, if_neg (by simpa using own)]
    rfl

theorem stackIn_requantified {item : InventoryItem} (own : IsOf itemId quality item)
    (quantity : Int32) :
    stackIn itemId quality (some { item with quantity }) = some quantity.toInt := by
  rw [stackIn_some]
  exact if_pos own

theorem stockAt_cons (p : ItemPackage) (i : ℕ) (slots : List ℕ) :
    stockAt itemId quality p (i :: slots) =
      (stackIn itemId quality (p.entryAt i)).toList ++ stockAt itemId quality p slots := by
  rw [stockAt, List.filterMap_cons]
  cases stackIn itemId quality (p.entryAt i) with
  | none => rfl
  | some a => rfl

theorem stockAt_append (p : ItemPackage) (slots more : List ℕ) :
    stockAt itemId quality p (slots ++ more) =
      stockAt itemId quality p slots ++ stockAt itemId quality p more :=
  List.filterMap_append

theorem stockAt_congr {p p' : ItemPackage} {slots : List ℕ}
    (same : ∀ i ∈ slots, p'.entryAt i = p.entryAt i) :
    stockAt itemId quality p' slots = stockAt itemId quality p slots :=
  List.filterMap_congr fun i member => congrArg (stackIn itemId quality) (same i member)

theorem iterItems_eq (p : ItemPackage) :
    p.iterItems = (List.range p.endOfListIndex).filterMap p.entryAt := by
  rw [iterItems]
  induction p.endOfListIndex with
  | zero => rfl
  | succ n ih =>
      rw [List.range_succ, List.filterMap_append, ← ih, List.take_add_one,
        List.filterMap_append]
      congr 1
      simp only [entryAt, List.filterMap_cons, List.filterMap_nil]
      cases p.list[n]? with
      | none => rfl
      | some entry => cases entry <;> rfl

theorem totalQuantity_eq (p : ItemPackage) :
    p.totalQuantity itemId quality = (stock itemId quality p).sum := by
  rw [totalQuantity, iterItems_eq, stock, stockAt]
  congr 1
  induction List.range p.endOfListIndex with
  | nil => rfl
  | cons i slots ih =>
      simp only [List.filterMap_cons]
      cases p.entryAt i with
      | none => exact ih
      | some item =>
          simp only [stackIn_some]
          by_cases own : IsOf itemId quality item
          · simp only [if_pos own]
            rw [List.filter_cons_of_pos (by simpa [IsOf] using own), List.map_cons, ih]
          · simp only [if_neg own]
            rw [List.filter_cons_of_neg (by simpa [IsOf] using own), ih]

end Stock

/-! ### Topping up -/

section Merge

variable (itemId : UInt32) (quality : UInt8) (maxStack : Int32)

/-- No sum or difference in topping up a slot leaves the 32 bits. -/
def MergeFits (s : Ledger × Int32) (i : ℕ) : Prop :=
  0 < s.2 → ∀ item, s.1.package.entryAt i = some item → takesMore itemId quality maxStack item →
    Fits (item.quantity.toInt + s.2.toInt) ∧ Fits (maxStack.toInt - item.quantity.toInt) ∧
      Fits (s.2.toInt - (maxStack - item.quantity).toInt)

def MergesFit : Ledger × Int32 → List ℕ → Prop
  | _, [] => True
  | s, i :: slots => MergeFits itemId quality maxStack s i ∧
      MergesFit (Ledger.mergeAt itemId quality maxStack s i) slots

variable {itemId quality maxStack}

theorem takesMore_iff (item : InventoryItem) : takesMore itemId quality maxStack item = true ↔
    IsOf itemId quality item ∧ item.quantity.toInt < maxStack.toInt := by
  rw [takesMore, decide_eq_true_eq, IsOf, Int32.lt_iff_toInt_lt, and_assoc]

theorem differences {quantity old : Int32} (positive : 0 < quantity.toInt) (low : 1 ≤ old.toInt)
    (high : old.toInt ≤ maxStack.toInt) :
    (maxStack - old).toInt = maxStack.toInt - old.toInt ∧
      Fits (maxStack.toInt - old.toInt) ∧
        Fits (quantity.toInt - (maxStack - old).toInt) ∧
          (quantity - (maxStack - old)).toInt = quantity.toInt - (maxStack.toInt - old.toInt) := by
  have top := maxStack.toInt_lt
  have most := quantity.toInt_lt
  have fits : Fits (maxStack.toInt - old.toInt) := ⟨by omega, by omega⟩
  have value := toInt_sub_of_fits fits
  have rest : Fits (quantity.toInt - (maxStack - old).toInt) := by
    rw [value]
    exact ⟨by omega, by omega⟩
  exact ⟨value, fits, rest, by rw [toInt_sub_of_fits rest, value]⟩

theorem mergeAt_stock (s : Ledger × Int32) (i : ℕ)
    (within : Within maxStack.toInt (stockAt itemId quality s.1.package [i])) :
    (MergeFits itemId quality maxStack s i ↔
        SumsBelow (2 ^ 31) maxStack.toInt (stockAt itemId quality s.1.package [i]) s.2.toInt) ∧
      (Ledger.mergeAt itemId quality maxStack s i).2.toInt =
          left maxStack.toInt (stockAt itemId quality s.1.package [i]) s.2.toInt ∧
        (MergeFits itemId quality maxStack s i →
          stockAt itemId quality (Ledger.mergeAt itemId quality maxStack s i).1.package [i] =
            topUp maxStack.toInt (stockAt itemId quality s.1.package [i]) s.2.toInt) := by
  have single (p : ItemPackage) : stockAt itemId quality p [i] =
      (stackIn itemId quality (p.entryAt i)).toList := by
    rw [stockAt_cons]
    exact List.append_nil _
  rw [single] at within
  simp only [single]
  by_cases done : s.2 ≤ 0
  · have none_left := (nonpos_iff_toInt s.2).mp done
    rw [Ledger.mergeAt, if_pos done, topUp_of_nonpos _ none_left, left_of_nonpos _ none_left]
    refine ⟨iff_of_true (fun positive => ?_) ?_, rfl, fun _ => rfl⟩
    · exact absurd done (Int32.not_le.mpr positive)
    · cases stackIn itemId quality (s.1.package.entryAt i) with
      | none => trivial
      | some a => exact fun positive => absurd none_left (not_le.mpr positive)
  · have positive : 0 < s.2.toInt := (pos_iff_toInt s.2).mp (Int32.not_le.mp done)
    have more : ¬ s.2.toInt ≤ 0 := not_le.mpr positive
    cases here : s.1.package.entryAt i with
    | none =>
        rw [Ledger.mergeAt, if_neg done, here]
        refine ⟨iff_of_true (fun _ item found => ?_) trivial, rfl, fun _ => by rw [here]; rfl⟩
        rw [here] at found
        contradiction
    | some item =>
        rw [here, stackIn_some] at within
        rw [stackIn_some, Ledger.mergeAt, if_neg done, here]
        dsimp only
        by_cases takes : takesMore itemId quality maxStack item = true
        · obtain ⟨own, less⟩ := (takesMore_iff item).mp takes
          rw [if_pos own] at within ⊢
          obtain ⟨low, high⟩ := within.head
          obtain ⟨-, fits, fits', value⟩ := differences positive low high
          rw [if_pos takes]
          simp only [Option.toList_some, SumsBelow, left, topUp, if_neg more]
          refine ⟨⟨fun all _ => ⟨fun _ => (all ?_ item here takes).1.2, trivial⟩,
            fun sums _ other found _ => ?_⟩, value, fun all => ?_⟩
          · exact (pos_iff_toInt s.2).mpr positive
          · obtain rfl := Option.some.inj (here.symm.trans found)
            have below := (sums positive).1 less
            exact ⟨⟨by omega, below⟩, fits, fits'⟩
          · have sum := (all ((pos_iff_toInt s.2).mpr positive) item here takes).1
            have inside := lt_length_of_entryAt here
            rw [Ledger.pushDb_package]
            change (stackIn itemId quality ((s.1.package.put i _).entryAt i)).toList = _
            rw [entryAt_put_self _ inside, stackIn_requantified own, toInt_min,
              toInt_add_of_fits sum]
            rfl
        · rw [if_neg takes, here, stackIn_some]
          have skipped : MergeFits itemId quality maxStack s i := by
            intro _ other found takes'
            obtain rfl := Option.some.inj (here.symm.trans found)
            exact absurd takes' takes
          by_cases own : IsOf itemId quality item
          · rw [if_pos own] at within ⊢
            obtain ⟨low, high⟩ := within.head
            have full : item.quantity.toInt = maxStack.toInt := by
              have notLess : ¬ item.quantity.toInt < maxStack.toInt :=
                fun less => takes ((takesMore_iff item).mpr ⟨own, less⟩)
              omega
            simp only [Option.toList_some, SumsBelow, left, topUp, if_neg more]
            refine ⟨iff_of_true skipped fun _ => ⟨fun less => ?_, trivial⟩, by omega, fun _ => ?_⟩
            · omega
            · rw [full, min_eq_right (by omega)]
          · rw [if_neg own]
            exact ⟨iff_of_true skipped trivial, rfl, fun _ => rfl⟩

theorem foldl_keeps {f : Ledger × Int32 → ℕ → Ledger × Int32}
    (one : ∀ s i, (f s i).1.package.endOfListIndex = s.1.package.endOfListIndex ∧
      ∀ j, j ≠ i → (f s i).1.package.entryAt j = s.1.package.entryAt j)
    (slots : List ℕ) (s : Ledger × Int32) :
    (slots.foldl f s).1.package.endOfListIndex = s.1.package.endOfListIndex ∧
      ∀ j, j ∉ slots → (slots.foldl f s).1.package.entryAt j = s.1.package.entryAt j := by
  induction slots generalizing s with
  | nil => exact ⟨rfl, fun _ _ => rfl⟩
  | cons i slots ih =>
      obtain ⟨last, others⟩ := one s i
      obtain ⟨last', others'⟩ := ih (f s i)
      refine ⟨last'.trans last, fun j outside => ?_⟩
      obtain ⟨apart, later⟩ := not_or.mp (mt List.mem_cons.mpr outside)
      exact (others' j later).trans (others j apart)

theorem merge_stock {slots : List ℕ} (distinct : slots.Nodup) (s : Ledger × Int32)
    (within : Within maxStack.toInt (stockAt itemId quality s.1.package slots)) :
    (MergesFit itemId quality maxStack s slots ↔
        SumsBelow (2 ^ 31) maxStack.toInt (stockAt itemId quality s.1.package slots) s.2.toInt) ∧
      (slots.foldl (Ledger.mergeAt itemId quality maxStack) s).2.toInt =
          left maxStack.toInt (stockAt itemId quality s.1.package slots) s.2.toInt ∧
        (MergesFit itemId quality maxStack s slots →
          stockAt itemId quality (slots.foldl (Ledger.mergeAt itemId quality maxStack) s).1.package
              slots =
            topUp maxStack.toInt (stockAt itemId quality s.1.package slots) s.2.toInt) := by
  induction slots generalizing s with
  | nil => exact ⟨Iff.rfl, rfl, fun _ => rfl⟩
  | cons i slots ih =>
      obtain ⟨apart, distinct⟩ := List.nodup_cons.mp distinct
      have split (p : ItemPackage) : stockAt itemId quality p (i :: slots) =
          stockAt itemId quality p [i] ++ stockAt itemId quality p slots :=
        stockAt_append p [i] slots
      rw [split] at within
      have first := mergeAt_stock s i fun a member => within a (List.mem_append_left _ member)
      have others := (mergeAt_keeps itemId quality maxStack s i).2
      have rest_same : stockAt itemId quality (Ledger.mergeAt itemId quality maxStack s i).1.package
          slots = stockAt itemId quality s.1.package slots :=
        stockAt_congr fun j member => others j fun same => apart (same ▸ member)
      have rest := ih distinct (Ledger.mergeAt itemId quality maxStack s i) (by
        rw [rest_same]
        exact fun a member => within a (List.mem_append_right _ member))
      rw [rest_same, first.2.1] at rest
      rw [List.foldl_cons, split, split, MergesFit, sumsBelow_append, left_append, topUp_append]
      refine ⟨and_congr first.1 rest.1, rest.2.1, fun fits => ?_⟩
      rw [← rest.2.2 fits.2, ← first.2.2 fits.1]
      congr 1
      apply stockAt_congr
      intro j member
      obtain rfl := List.mem_singleton.mp member
      exact (foldl_keeps (mergeAt_keeps itemId quality maxStack) slots _).2 j apart

end Merge

/-! ### New stacks -/

section Spill

variable {maxStack : Int32}

/-- No difference in spilling into new slots leaves the 32 bits. -/
def SpillFits (maxStack : Int32) : ℕ → Int32 → Prop
  | 0, _ => True
  | fuel + 1, quantity => 0 < quantity → Fits (quantity.toInt - (min quantity maxStack).toInt) ∧
      SpillFits maxStack fuel (quantity - min quantity maxStack)

theorem spillFits_of_pos (positive : 1 ≤ maxStack.toInt) (fuel : ℕ) (quantity : Int32) :
    SpillFits maxStack fuel quantity := by
  induction fuel generalizing quantity with
  | zero => trivial
  | succ fuel ih =>
      intro more
      have more := (pos_iff_toInt quantity).mp more
      have most := quantity.toInt_lt
      rw [toInt_min]
      exact ⟨⟨by omega, by omega⟩, ih _⟩

section Spawn

variable (itemId : UInt32) (quality : UInt8)

theorem spawn_package (l : Ledger) (quantity : Int32) :
    ∃ item : InventoryItem, item.itemId = itemId ∧ item.quality = quality ∧
      item.quantity = quantity ∧
      (l.spawn itemId quality quantity).package =
        { l.package.put l.package.endOfListIndex (some item) with
          endOfListIndex := l.package.endOfListIndex + 1 } :=
  ⟨_, rfl, rfl, rfl, Ledger.pushDb_package ..⟩

theorem spawn_end (l : Ledger) (quantity : Int32) :
    (l.spawn itemId quality quantity).package.endOfListIndex =
      l.package.endOfListIndex + 1 := by
  obtain ⟨item, -, -, -, spawned⟩ :=
    spawn_package itemId quality l quantity
  rw [spawned]

theorem spawn_keeps (l : Ledger) (quantity : Int32) {j : ℕ}
    (other : j ≠ l.package.endOfListIndex) :
    (l.spawn itemId quality quantity).package.entryAt j = l.package.entryAt j := by
  obtain ⟨item, -, -, -, spawned⟩ :=
    spawn_package itemId quality l quantity
  rw [spawned]
  exact entryAt_put_of_ne l.package other (some item)

variable {itemId quality}

theorem spawn_stock {l : Ledger} (inside : l.package.endOfListIndex < l.package.list.length)
    (quantity : Int32) : stock itemId quality (l.spawn itemId quality quantity).package =
      stock itemId quality l.package ++ [quantity.toInt] := by
  obtain ⟨item, sameId, sameQuality, sameQuantity, spawned⟩ :=
    spawn_package itemId quality l quantity
  have last : stockAt itemId quality (l.spawn itemId quality quantity).package
      [l.package.endOfListIndex] = [quantity.toInt] := by
    rw [stockAt_cons, spawned]
    change (stackIn itemId quality ((l.package.put l.package.endOfListIndex
      (some item)).entryAt l.package.endOfListIndex)).toList ++ [] = _
    rw [entryAt_put_self _ inside, stackIn_some, if_pos ⟨sameId, sameQuality⟩, sameQuantity]
    rfl
  rw [stock, spawn_end, List.range_succ, stockAt_append, last, stock]
  congr 1
  apply stockAt_congr
  intro i member
  exact spawn_keeps itemId quality l quantity (Nat.ne_of_lt (List.mem_range.mp member))

end Spawn

variable (itemId : UInt32) (quality : UInt8)

theorem spill_stock (fuel : ℕ) {quantity : Int32} {l : Ledger}
    (length : l.package.list.length = l.package.capacity.toNat)
    (end_le : l.package.endOfListIndex ≤ l.package.capacity.toNat)
    (exact_fuel : fuel = l.package.freeSlots) (fits : SpillFits maxStack fuel quantity) :
    let r := Ledger.spill itemId quality maxStack fuel quantity l
    (beyond maxStack.toInt fuel quantity.toInt ≤ 0 → r.1 = .ok ()) ∧
      (¬ beyond maxStack.toInt fuel quantity.toInt ≤ 0 → r.1 = .error .full) ∧
      stock itemId quality r.2.package =
        stock itemId quality l.package ++ pile maxStack.toInt fuel quantity.toInt ∧
      r.2.package.endOfListIndex = l.package.endOfListIndex +
        (pile maxStack.toInt fuel quantity.toInt).length ∧
      ∀ j, j < l.package.endOfListIndex → r.2.package.entryAt j = l.package.entryAt j := by
  induction fuel generalizing quantity l with
  | zero =>
      simp only [Ledger.spill, nonpos_iff_toInt]
      split
      · next done =>
          exact ⟨fun _ => rfl, fun more => absurd done more, (List.append_nil _).symm, rfl,
            fun _ _ => rfl⟩
      · next more =>
          exact ⟨fun done => absurd done more, fun _ => rfl, (List.append_nil _).symm, rfl,
            fun _ _ => rfl⟩
  | succ fuel ih =>
      have free : l.package.endOfListIndex < l.package.capacity.toNat := by
        rw [freeSlots] at exact_fuel
        omega
      have room : l.package.isFull = false := by
        simpa [isFull] using free
      simp only [Ledger.spill, beyond, pile, nonpos_iff_toInt]
      by_cases done : quantity.toInt ≤ 0
      · simp only [if_pos done]
        exact ⟨fun _ => trivial, fun more => absurd done more, (List.append_nil _).symm, rfl,
          fun _ _ => trivial⟩
      · simp only [if_neg done, room, Bool.false_eq_true, if_false]
        obtain ⟨fit, fits⟩ := fits ((pos_iff_toInt quantity).mpr (not_le.mp done))
        have value : (quantity - min quantity maxStack).toInt =
            quantity.toInt - min quantity.toInt maxStack.toInt := by
          rw [toInt_sub_of_fits fit, toInt_min]
        obtain ⟨item, -, -, -, spawned⟩ :=
          spawn_package itemId quality l (min quantity maxStack)
        have end_eq := spawn_end itemId quality l (min quantity maxStack)
        have capacity_eq : (l.spawn itemId quality (min quantity maxStack)).package.capacity =
            l.package.capacity := congrArg (·.capacity) spawned
        have length' : (l.spawn itemId quality (min quantity maxStack)).package.list.length =
            (l.spawn itemId quality (min quantity maxStack)).package.capacity.toNat := by
          rw [capacity_eq, spawned]
          simpa [put] using length
        have rest := ih length' (by rw [capacity_eq, end_eq]; exact free)
          (by rw [freeSlots, capacity_eq, end_eq]; rw [freeSlots] at exact_fuel; omega) fits
        rw [value] at rest
        obtain ⟨ok, full, stock_eq, last, kept⟩ := rest
        refine ⟨ok, full, ?_, ?_, fun j below => ?_⟩
        · rw [stock_eq, spawn_stock (length ▸ free), toInt_min, List.append_assoc]
          rfl
        · rw [last, end_eq, List.length_cons]
          omega
        · rw [kept j (by omega)]
          exact spawn_keeps itemId quality l _ (Nat.ne_of_lt below)

end Spill

/-! ### The other items -/

section Others

variable (itemId : UInt32) (quality : UInt8) in
/-- Every entry that is not a stack of the item is where it was, and there is no new one. -/
def OthersKept (p p' : ItemPackage) : Prop :=
  ∀ i item, ¬ IsOf itemId quality item → (p'.entryAt i = some item ↔ p.entryAt i = some item)

variable {itemId : UInt32} {quality : UInt8} {maxStack : Int32}

theorem OthersKept.refl (p : ItemPackage) : OthersKept itemId quality p p :=
  fun _ _ _ => Iff.rfl

theorem OthersKept.trans {p p' p'' : ItemPackage} (first : OthersKept itemId quality p p')
    (second : OthersKept itemId quality p' p'') : OthersKept itemId quality p p'' :=
  fun i item other => (second i item other).trans (first i item other)

theorem OthersKept.put {p : ItemPackage} {i : ℕ} {new : InventoryItem}
    (own : IsOf itemId quality new)
    (before : ∀ item, p.entryAt i = some item → IsOf itemId quality item) :
    OthersKept itemId quality p (p.put i (some new)) := by
  intro j item other
  rw [entryAt_put]
  split
  · next here =>
      refine iff_of_false (fun same => ?_) fun found => ?_
      · exact other (Option.some.inj same ▸ own)
      · exact other (before item (here.1 ▸ found))
  · exact Iff.rfl

variable (itemId quality maxStack) in
theorem merge_othersKept (slots : List ℕ) (s : Ledger × Int32) :
    OthersKept itemId quality s.1.package
      (slots.foldl (Ledger.mergeAt itemId quality maxStack) s).1.package := by
  induction slots generalizing s with
  | nil => exact .refl _
  | cons i slots ih =>
      refine OthersKept.trans ?_ (ih (Ledger.mergeAt itemId quality maxStack s i))
      rw [Ledger.mergeAt]
      split
      · exact .refl _
      · split
        · exact .refl _
        · next item here =>
            split
            · next takes =>
                have own := ((takesMore_iff item).mp takes).1
                rw [Ledger.pushDb_package]
                refine .put own fun other found => ?_
                exact Option.some.inj (here.symm.trans found) ▸ own
            · exact .refl _

variable (itemId quality maxStack) in
theorem spill_othersKept (fuel : ℕ) (quantity : Int32) {l : Ledger}
    (behind : ∀ i, l.package.endOfListIndex ≤ i → l.package.entryAt i = none) :
    OthersKept itemId quality l.package
      (Ledger.spill itemId quality maxStack fuel quantity l).2.package := by
  induction fuel generalizing quantity l with
  | zero =>
      rw [Ledger.spill]
      split
      · exact .refl _
      · exact .refl _
  | succ fuel ih =>
      rw [Ledger.spill]
      split
      · exact .refl _
      · split
        · exact .refl _
        · obtain ⟨item, sameId, sameQuality, -, spawned⟩ :=
            spawn_package itemId quality l (min quantity maxStack)
          have first : OthersKept itemId quality l.package
              (l.spawn itemId quality (min quantity maxStack)).package := by
            rw [spawned]
            refine OthersKept.put (p := l.package) ⟨sameId, sameQuality⟩ fun other found => ?_
            rw [behind l.package.endOfListIndex le_rfl] at found
            contradiction
          refine first.trans (ih _ fun i beyond => ?_)
          rw [spawn_end] at beyond
          rw [spawn_keeps itemId quality l _ (Nat.ne_of_gt beyond)]
          exact behind i (Nat.le_of_succ_le beyond)

end Others

/-! ### Add -/

/-- The part of the representation invariant that an add relies on: the layout of the slots, and
quantities from 1 to the stack size. -/
structure ItemPackage.Stacked (catalog : ItemCatalog) (p : ItemPackage) : Prop where
  shape : p.Shape
  bounded : p.Every (InBounds catalog)

section Store

variable {catalog : ItemCatalog} {itemId : UInt32} {quality : UInt8} {gd : ItemData}

variable (quality) in
theorem within_stockAt {p : ItemPackage} (bounded : p.Every (InBounds catalog))
    (known : catalog itemId = some gd) (slots : List ℕ) :
    Within gd.maxStack.toInt (stockAt itemId quality p slots) := by
  intro a member
  obtain ⟨i, -, found⟩ := List.mem_filterMap.mp member
  cases here : p.entryAt i with
  | none => rw [here] at found; contradiction
  | some item =>
      rw [here, stackIn_some] at found
      split at found
      · next own =>
          obtain rfl := Option.some.inj found
          obtain ⟨low, high⟩ := bounded i item here
          rw [own.1, existingMaxStack_eq known] at high
          exact ⟨Int32.le_iff_toInt_le.mp low, Int32.le_iff_toInt_le.mp high⟩
      · contradiction

variable (quality) in
theorem within_stock {p : ItemPackage} (bounded : p.Every (InBounds catalog))
    (known : catalog itemId = some gd) : Within gd.maxStack.toInt (stock itemId quality p) :=
  within_stockAt quality bounded known _

theorem leftover_toInt {p : ItemPackage} (bounded : p.Every (InBounds catalog))
    (known : catalog itemId = some gd) (quantity : Int32) :
    (leftover itemId quality gd.maxStack p.iterItems quantity).toInt =
      left gd.maxStack.toInt (stock itemId quality p) quantity.toInt := by
  obtain ⟨-, left_eq, -⟩ :=
    merge_leftover itemId quality gd.maxStack { package := p } quantity p.endOfListIndex
  have merged := (merge_stock (List.nodup_range (n := p.endOfListIndex))
    (({ package := p } : Ledger), quantity)
    (within_stockAt quality bounded known _)).2.1
  rw [iterItems, ← left_eq]
  exact merged

theorem left_nonpos_iff {as : List ℤ} {M q : ℤ} (within : Within M as) (positive : 0 < q) :
    left M as q ≤ 0 ↔ q ≤ room M as := by
  obtain ⟨fits, exceeds⟩ := left_spec within positive
  by_cases inside : q ≤ room M as
  · exact iff_of_true (fits inside) inside
  · have value := exceeds (not_le.mp inside)
    exact iff_of_false (by omega) inside

variable (quality) in
theorem isSpaceForAdd_room {p : ItemPackage} (bounded : p.Every (InBounds catalog))
    (known : catalog itemId = some gd) {quantity : Int32} (positive : 0 < quantity) :
    p.isSpaceForAdd catalog itemId quantity quality = true ↔
      quantity.toInt ≤ room gd.maxStack.toInt (stock itemId quality p) ∨ p.isFull = false := by
  rw [isSpaceForAdd_iff known p positive, nonpos_iff_toInt, leftover_toInt bounded known,
    left_nonpos_iff (within_stock quality bounded known) ((pos_iff_toInt quantity).mp positive)]

theorem sameSlots_stock {p p' : ItemPackage} (same : SameSlots p p') :
    stock itemId quality p' = stock itemId quality p := by
  rw [stock, same.end_eq]
  exact stockAt_congr fun i _ => same.entryAt_eq i

theorem sameSlots_othersKept {p p' : ItemPackage} (same : SameSlots p p') :
    OthersKept itemId quality p p' := by
  intro i item _
  rw [same.entryAt_eq]

/-- What is topped up and spilled when nothing leaves the 32 bits. -/
structure Stored (itemId : UInt32) (quality : UInt8) (M q : ℤ) (l : Ledger)
    (r : InventoryResult × Ledger) : Prop where
  ok : beyond M l.package.freeSlots (left M (stock itemId quality l.package) q) ≤ 0 → r.1 = .ok ()
  full : ¬ beyond M l.package.freeSlots (left M (stock itemId quality l.package) q) ≤ 0 →
    r.1 = .error .full
  stock_eq : stock itemId quality r.2.package = topUp M (stock itemId quality l.package) q ++
    pile M l.package.freeSlots (left M (stock itemId quality l.package) q)
  end_eq : r.2.package.endOfListIndex = l.package.endOfListIndex +
    (pile M l.package.freeSlots (left M (stock itemId quality l.package) q)).length
  others : OthersKept itemId quality l.package r.2.package

theorem store_stored {l : Ledger} (stacked : l.package.Stacked catalog)
    (known : catalog itemId = some gd) {quantity : Int32}
    (merges : MergesFit itemId quality gd.maxStack (l, quantity)
      (List.range l.package.endOfListIndex))
    (spills : SpillFits gd.maxStack l.package.freeSlots
      ((List.range l.package.endOfListIndex).foldl (Ledger.mergeAt itemId quality gd.maxStack)
        (l, quantity)).2) :
    Stored itemId quality gd.maxStack.toInt quantity.toInt l
      (l.store itemId quantity quality gd.maxStack) := by
  have within := within_stockAt quality stacked.bounded known
    (List.range l.package.endOfListIndex)
  obtain ⟨-, left_eq, topped⟩ := merge_stock List.nodup_range (l, quantity) within
  obtain ⟨end_same, kept⟩ := foldl_keeps (mergeAt_keeps itemId quality gd.maxStack)
    (List.range l.package.endOfListIndex) (l, quantity)
  have others := merge_othersKept itemId quality gd.maxStack
    (List.range l.package.endOfListIndex) (l, quantity)
  have topped := topped merges
  have any : Stacks (fun _ _ => True) (fun _ => True) itemId gd.maxStack :=
    ⟨fun _ _ _ _ _ _ => ⟨trivial, trivial⟩, fun _ _ _ => ⟨trivial, trivial⟩⟩
  obtain ⟨merged, -⟩ := merge_edits (F := fun _ _ => True) quality any (s := (l, quantity))
    (fun _ _ _ => trivial) trivial (List.range l.package.endOfListIndex)
  have shape := merged.shape stacked.shape
  have capacity_eq := congrArg (fun header => header.2.1) merged.header_eq
  unfold Ledger.store
  dsimp only
  generalize (List.range l.package.endOfListIndex).foldl
    (Ledger.mergeAt itemId quality gd.maxStack) (l, quantity) = s at *
  dsimp only at left_eq topped end_same kept others capacity_eq
  have free_eq : l.package.freeSlots = s.1.package.freeSlots := by
    rw [freeSlots, freeSlots, end_same]
    exact congrArg (fun c : UInt16 => c.toNat - _) capacity_eq.symm
  have before : stock itemId quality s.1.package =
      topUp gd.maxStack.toInt (stock itemId quality l.package) quantity.toInt := by
    rw [stock, end_same]
    exact topped
  have spilled := spill_stock itemId quality l.package.freeSlots shape.length_list shape.end_le
    free_eq spills
  have others' := spill_othersKept itemId quality gd.maxStack l.package.freeSlots s.2 shape.behind
  dsimp only at spilled
  rw [left_eq, before, end_same] at spilled
  obtain ⟨ok, full, stock_eq, end_eq, -⟩ := spilled
  generalize Ledger.spill itemId quality gd.maxStack l.package.freeSlots s.2 s.1 = r at *
  obtain ⟨result, edited⟩ := r
  cases result with
  | ok _ =>
      have same := sameSlots_bracketedSendUpdate edited
      exact ⟨fun _ => rfl, full, (sameSlots_stock same).trans stock_eq, same.end_eq.trans end_eq,
        (others.trans others').trans (sameSlots_othersKept same)⟩
  | error e => exact ⟨ok, full, stock_eq, end_eq, others.trans others'⟩

end Store

/-! ### All or nothing -/

section Add

variable (catalog : ItemCatalog) (l : Ledger) (itemId : UInt32) (quantity : Int32)
  (quality : UInt8)

/-- No difference in the room check leaves the 32 bits. -/
def RemainingFits (itemId : UInt32) (quality : UInt8) (maxStack : Int32) :
    List InventoryItem → Int32 → Prop
  | [], _ => True
  | item :: items, remaining =>
      if takesMore itemId quality maxStack item then
        Fits (maxStack.toInt - item.quantity.toInt) ∧
          Fits (remaining.toInt - (maxStack - item.quantity).toInt) ∧
            (0 < remaining - (maxStack - item.quantity) →
              RemainingFits itemId quality maxStack items (remaining - (maxStack - item.quantity)))
      else RemainingFits itemId quality maxStack items remaining

/-- No arithmetic of an add leaves the 32 bits, as far as the add gets. -/
def AddFits : Prop :=
  0 < quantity → ∀ gd, catalog itemId = some gd →
    RemainingFits itemId quality gd.maxStack l.package.iterItems quantity ∧
      (l.package.isSpaceForAdd catalog itemId quantity quality →
        ¬ (gd.isExclusive ∧ l.package.hasItem itemId) →
          let slots := List.range l.package.endOfListIndex
          MergesFit itemId quality gd.maxStack (l, quantity) slots ∧
            SpillFits gd.maxStack l.package.freeSlots
              (slots.foldl (Ledger.mergeAt itemId quality gd.maxStack) (l, quantity)).2)

/-- An add either succeeds, and the total of its item rises by the quantity and every other
item is as before; or it fails, and the package and the outbox are as before. -/
def AllOrNothing : Prop :=
  let r := l.add catalog itemId quantity quality
  (r.1 = .ok () ∧
      r.2.package.totalQuantity itemId quality =
        l.package.totalQuantity itemId quality + quantity.toInt ∧
      OthersKept itemId quality l.package r.2.package) ∨
    ((∃ e, r.1 = .error e) ∧ (∀ i, r.2.package.entryAt i = l.package.entryAt i) ∧
      r.2.outbox = l.outbox)

variable (gd : ItemData)

/-- The add is refused at once: the package is full and the stacks of the item cannot take the
quantity, or the item is exclusive and there is one of quality 1. -/
def Refused : Prop :=
  (l.package.isFull ∧ room gd.maxStack.toInt (stock itemId quality l.package) < quantity.toInt) ∨
    (gd.isExclusive ∧ l.package.hasItem itemId)

/-- The stacks and the free slots take the quantity, and the first stack that is topped up
with it stays within the 32 bits. -/
def TakesAll : Prop :=
  quantity.toInt ≤ room gd.maxStack.toInt (stock itemId quality l.package) +
      l.package.freeSlots * gd.maxStack.toInt ∧
    openAt gd.maxStack.toInt (stock itemId quality l.package) 0 + quantity.toInt < 2 ^ 31

variable {catalog l itemId quantity quality gd}

theorem remainingFits_of_bounded {items : List InventoryItem}
    (bounded : ∀ item ∈ items, InBounds catalog item.itemId item.quantity)
    (known : catalog itemId = some gd) (positive : 0 < quantity) :
    RemainingFits itemId quality gd.maxStack items quantity := by
  induction items generalizing quantity with
  | nil => trivial
  | cons item items ih =>
      have later := fun item member => bounded item (List.mem_cons_of_mem _ member)
      rw [RemainingFits]
      split
      · next takes =>
          obtain ⟨own, -⟩ := (takesMore_iff item).mp takes
          obtain ⟨low, high⟩ := bounded item (List.mem_cons_self ..)
          rw [own.1, existingMaxStack_eq known] at high
          obtain ⟨-, fits, fits', -⟩ := differences ((pos_iff_toInt quantity).mp positive)
            (Int32.le_iff_toInt_le.mp low) (Int32.le_iff_toInt_le.mp high)
          exact ⟨fits, fits', fun more => ih later more⟩
      · exact ih later positive

theorem bounded_iterItems {p : ItemPackage} (bounded : p.Every (InBounds catalog)) :
    ∀ item ∈ p.iterItems, InBounds catalog item.itemId item.quantity := by
  intro item member
  rw [iterItems_eq] at member
  obtain ⟨i, -, here⟩ := List.mem_filterMap.mp member
  exact bounded i item here

theorem add_refused (bounded : l.package.Every (InBounds catalog))
    (known : catalog itemId = some gd) (positive : 0 < quantity)
    (refused : Refused l itemId quantity quality gd) :
    (∃ e, (l.add catalog itemId quantity quality).1 = .error e) ∧
      (l.add catalog itemId quantity quality).2 = l ∧
        ¬ (l.package.isSpaceForAdd catalog itemId quantity quality ∧
          ¬ (gd.isExclusive ∧ l.package.hasItem itemId)) := by
  rw [Ledger.add, if_neg (Int32.not_le.mpr positive)]
  have space := isSpaceForAdd_room quality bounded known positive
  by_cases noSpace : l.package.isSpaceForAdd catalog itemId quantity quality = true
  · rw [if_neg (not_not.mpr noSpace), known]
    dsimp only
    rcases refused with ⟨full, short⟩ | unique
    · rcases space.mp noSpace with fits | free
      · omega
      · rw [free] at full
        contradiction
    · rw [if_pos unique]
      exact ⟨⟨_, rfl⟩, rfl, fun both => both.2 unique⟩
  · rw [if_pos noSpace]
    exact ⟨⟨_, rfl⟩, rfl, fun both => noSpace both.1⟩

theorem add_stores (bounded : l.package.Every (InBounds catalog))
    (known : catalog itemId = some gd) (positive : 0 < quantity)
    (accepted : ¬ Refused l itemId quantity quality gd) :
    l.add catalog itemId quantity quality = l.store itemId quantity quality gd.maxStack ∧
      l.package.isSpaceForAdd catalog itemId quantity quality ∧
        ¬ (gd.isExclusive ∧ l.package.hasItem itemId) := by
  obtain ⟨roomy, notUnique⟩ := not_or.mp accepted
  have space : l.package.isSpaceForAdd catalog itemId quantity quality = true := by
    rw [isSpaceForAdd_room quality bounded known positive]
    by_cases full : l.package.isFull = true
    · exact Or.inl (not_lt.mp fun short => roomy ⟨full, short⟩)
    · exact Or.inr (by simpa using full)
  rw [Ledger.add, if_neg (Int32.not_le.mpr positive), if_neg (not_not.mpr space), known]
  exact ⟨if_neg notUnique, space, notUnique⟩

theorem maxStack_pos_of_takesAll
    (within : Within gd.maxStack.toInt (stock itemId quality l.package))
    (positive : 0 < quantity) (takes : TakesAll l itemId quantity quality gd) :
    1 ≤ gd.maxStack.toInt := by
  have positive := (pos_iff_toInt quantity).mp positive
  cases held : stock itemId quality l.package with
  | nil =>
      have enough := takes.1
      rw [held, room_nil, zero_add] at enough
      by_contra negative
      have none : (l.package.freeSlots : ℤ) * gd.maxStack.toInt ≤ 0 :=
        mul_nonpos_of_nonneg_of_nonpos (Int.natCast_nonneg _) (by omega)
      omega
  | cons a as =>
      rw [held] at within
      have head := within.head
      omega

theorem TakesAll.beyond_nonpos (within : Within gd.maxStack.toInt (stock itemId quality l.package))
    (positive : 0 < quantity) (takes : TakesAll l itemId quantity quality gd) :
    beyond gd.maxStack.toInt l.package.freeSlots
      (left gd.maxStack.toInt (stock itemId quality l.package) quantity.toInt) ≤ 0 := by
  obtain ⟨fits, exceeds⟩ := left_spec within ((pos_iff_toInt quantity).mp positive)
  by_cases inside : quantity.toInt ≤ room gd.maxStack.toInt (stock itemId quality l.package)
  · rw [beyond_of_nonpos _ (fits inside)]
    exact fits inside
  · have more := not_le.mp inside
    rw [exceeds more, beyond_nonpos_iff _ (by omega)]
    have enough := takes.1
    omega

theorem takesAll_fits (stacked : l.package.Stacked catalog) (known : catalog itemId = some gd)
    (positive : 0 < quantity) (takes : TakesAll l itemId quantity quality gd) :
    MergesFit itemId quality gd.maxStack (l, quantity) (List.range l.package.endOfListIndex) ∧
      ∀ fuel left, SpillFits gd.maxStack fuel left := by
  have within := within_stock quality stacked.bounded known
  refine ⟨?_, spillFits_of_pos (maxStack_pos_of_takesAll within positive takes)⟩
  rw [(merge_stock List.nodup_range (l, quantity) within).1]
  exact (sumsBelow_iff within ((pos_iff_toInt quantity).mp positive) quantity.toInt_lt).mpr takes.2

theorem add_takes (stacked : l.package.Stacked catalog) (known : catalog itemId = some gd)
    (positive : 0 < quantity) (accepted : ¬ Refused l itemId quantity quality gd)
    (takes : TakesAll l itemId quantity quality gd) :
    (l.add catalog itemId quantity quality).1 = .ok () ∧
      Stored itemId quality gd.maxStack.toInt quantity.toInt l
        (l.add catalog itemId quantity quality) ∧
      AddFits catalog l itemId quantity quality := by
  obtain ⟨merges, spills⟩ := takesAll_fits stacked known positive takes
  have within := within_stock quality stacked.bounded known
  rw [(add_stores stacked.bounded known positive accepted).1]
  have stored := store_stored stacked known merges (spills _ _)
  refine ⟨stored.ok (takes.beyond_nonpos within positive), stored, fun _ gd' known' => ?_⟩
  obtain rfl := Option.some.inj (known.symm.trans known')
  exact ⟨remainingFits_of_bounded (bounded_iterItems stacked.bounded) known positive,
    fun _ _ => ⟨merges, spills _ _⟩⟩

theorem Stored.total {M q : ℤ} {r : InventoryResult × Ledger}
    (stored : Stored itemId quality M q l r) (positive : 0 < q)
    (fits : beyond M l.package.freeSlots (left M (stock itemId quality l.package) q) ≤ 0) :
    r.2.package.totalQuantity itemId quality = l.package.totalQuantity itemId quality + q := by
  have topped := sum_topUp (M := M) (stock itemId quality l.package) q
  rw [totalQuantity_eq, totalQuantity_eq, stored.stock_eq, List.sum_append, sum_pile _ fits]
  omega

theorem Stored.stranded {M q : ℤ} {r : InventoryResult × Ledger}
    (stored : Stored itemId quality M q l r) (free : 0 < l.package.freeSlots)
    (more : 0 < left M (stock itemId quality l.package) q) :
    l.package.endOfListIndex < r.2.package.endOfListIndex := by
  have started : 0 < (pile M l.package.freeSlots
      (left M (stock itemId quality l.package) q)).length := by
    cases slots : l.package.freeSlots with
    | zero => omega
    | succ n =>
        rw [pile, if_neg (not_le.mpr more)]
        exact Nat.succ_pos _
  rw [stored.end_eq]
  omega

theorem overrun_strands (stacked : l.package.Stacked catalog) (known : catalog itemId = some gd)
    (positive : 0 < quantity) (accepted : ¬ Refused l itemId quantity quality gd)
    (fits : AddFits catalog l itemId quantity quality)
    (tooMuch : room gd.maxStack.toInt (stock itemId quality l.package) +
      l.package.freeSlots * gd.maxStack.toInt < quantity.toInt) :
    (l.add catalog itemId quantity quality).1 = .error .full ∧
      l.package.endOfListIndex <
        (l.add catalog itemId quantity quality).2.package.endOfListIndex := by
  obtain ⟨stores, space, notUnique⟩ := add_stores stacked.bounded known positive accepted
  obtain ⟨merges, spills⟩ := (fits positive gd known).2 space notUnique
  have within := within_stock quality stacked.bounded known
  have positive' := (pos_iff_toInt quantity).mp positive
  have short : room gd.maxStack.toInt (stock itemId quality l.package) < quantity.toInt := by
    cases held : stock itemId quality l.package with
    | nil => exact positive'
    | cons a as =>
        rw [held] at within tooMuch
        have head := within.head
        have nonneg : 0 ≤ (l.package.freeSlots : ℤ) * gd.maxStack.toInt :=
          mul_nonneg (Int.natCast_nonneg _) (by omega)
        omega
  have left_eq := (left_spec within positive').2 short
  have stored := store_stored stacked known merges spills
  rw [stores]
  refine ⟨stored.full ?_, stored.stranded ?_ (by omega)⟩
  · rw [left_eq, beyond_nonpos_iff _ (by omega)]
    omega
  · have notFull : ¬ l.package.isFull = true := fun full => accepted (Or.inl ⟨full, short⟩)
    simp only [isFull, decide_eq_true_eq, not_le] at notFull
    rw [freeSlots]
    omega

/-- From any package that satisfies the invariant, an add of a positive quantity of an item of
the catalog is all or nothing and stays within the 32 bits exactly if it is refused at once or
the package takes all of it. -/
theorem add_all_or_nothing_iff (stacked : l.package.Stacked catalog)
    (known : catalog itemId = some gd) (positive : 0 < quantity) :
    AllOrNothing catalog l itemId quantity quality ∧ AddFits catalog l itemId quantity quality ↔
      Refused l itemId quantity quality gd ∨ TakesAll l itemId quantity quality gd := by
  have within := within_stock quality stacked.bounded known
  have positive' := (pos_iff_toInt quantity).mp positive
  by_cases refused : Refused l itemId quantity quality gd
  · obtain ⟨failed, same, notStored⟩ := add_refused stacked.bounded known positive refused
    refine iff_of_true ⟨Or.inr ⟨failed, fun i => ?_, ?_⟩, fun _ gd' known' => ?_⟩ (Or.inl refused)
    · rw [same]
    · rw [same]
    · obtain rfl := Option.some.inj (known.symm.trans known')
      exact ⟨remainingFits_of_bounded (bounded_iterItems stacked.bounded) known positive,
        fun space notUnique => absurd ⟨space, notUnique⟩ notStored⟩
  · constructor
    · rintro ⟨whole, fits⟩
      right
      obtain ⟨-, space, notUnique⟩ := add_stores stacked.bounded known positive refused
      have merges := ((fits positive gd known).2 space notUnique).1
      rw [(merge_stock List.nodup_range (l, quantity) within).1] at merges
      refine ⟨not_lt.mp fun tooMuch => ?_,
        (sumsBelow_iff within positive' quantity.toInt_lt).mp merges⟩
      obtain ⟨failed, grown⟩ := overrun_strands stacked known positive refused fits tooMuch
      rcases whole with ⟨ok, -⟩ | ⟨-, same, -⟩
      · rw [failed] at ok
        contradiction
      · have called : l.callSlots catalog (.add itemId quantity quality) =
            some (l.add catalog itemId quantity quality).2 := rfl
        have shape := (ItemPackages.callSlots_any stacked.shape called).shape stacked.shape
        have filled := shape.present l.package.endOfListIndex grown
        rw [same, stacked.shape.behind _ le_rfl] at filled
        contradiction
    · rintro (impossible | takes)
      · exact absurd impossible refused
      · obtain ⟨ok, stored, fits⟩ := add_takes stacked known positive refused takes
        exact ⟨Or.inl ⟨ok, stored.total positive' (takes.beyond_nonpos within positive),
          stored.others⟩, fits⟩

end Add

def emptyPackage (capacity : UInt16) : ItemPackage :=
  (ItemPackage.withFlags 1 capacity pkgNormal false).init []

theorem emptyPackage_stacked (catalog : ItemCatalog) (capacity : UInt16) :
    (emptyPackage capacity).Stacked catalog := by
  have none_held (i : ℕ) : (emptyPackage capacity).entryAt i = none := by
    rw [emptyPackage, entryAt_init, List.take_nil]
    rfl
  refine ⟨shape_init .., fun i item found => ?_⟩
  rw [none_held] at found
  contradiction

theorem add_all_or_nothing_fifty :
    AllOrNothing ItemPackages.potions { package := emptyPackage 10 } 42 50 1 ∧
      AddFits ItemPackages.potions { package := emptyPackage 10 } 42 50 1 := by
  have known : ItemPackages.potions 42 = some { stackSize := 99 } := rfl
  apply (add_all_or_nothing_iff (emptyPackage_stacked _ 10) known (by decide)).mpr
  right
  exact ⟨by decide, by decide⟩

/-- 150 potions for a package with one free slot: 99 are put into it, and the add fails. -/
theorem add_not_all_or_nothing :
    (emptyPackage 1).Stacked ItemPackages.potions ∧
      ¬ AllOrNothing ItemPackages.potions { package := emptyPackage 1 } 42 150 1 := by
  refine ⟨emptyPackage_stacked _ 1, fun whole => ?_⟩
  have failed : (Ledger.add { package := emptyPackage 1 } ItemPackages.potions 42 150 1).1 =
      .error .full := by decide
  have stored : ((Ledger.add { package := emptyPackage 1 } ItemPackages.potions 42 150 1
      ).2.package.entryAt 0).map (·.quantity) = some 99 := by decide
  rcases whole with ⟨ok, -⟩ | ⟨-, same, -⟩
  · rw [failed] at ok
    contradiction
  · rw [same] at stored
    contradiction

end Garlemald.Inventory
