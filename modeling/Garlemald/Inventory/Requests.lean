import Garlemald.Inventory.Stacking
import Mathlib.Algebra.Order.BigOperators.Group.List
import Mathlib.Data.Multiset.Count
import Mathlib.Data.Multiset.AddSub
import Mathlib.Data.Multiset.Replicate

/-!
The check that a list of requests fits into a package, and the adds it is made for. The
check measures every request against the package as it is; the adds find the stacks that
the earlier ones have topped up and the items they have brought in.
-/

namespace Garlemald.Inventory
open Library ItemPackage
open Library.Stacks

structure Request where
  itemId : UInt32
  quantity : Int32 := 1
  quality : UInt8 := 1
deriving DecidableEq, Repr

/-- The parallel slices of a batch; what a slice lacks is 1. -/
def requests (itemIds : List UInt32) (quantity : Option (List UInt32))
    (quality : Option (List UInt8)) : List Request :=
  itemIds.mapIdx fun i itemId =>
    { itemId
      quantity := ((quantity.bind (·[i]?)).getD 1).toInt32
      quality := (quality.bind (·[i]?)).getD 1 }

/-- The new stacks that a remaining quantity is counted for. A positive quantity reaches zero or
overflows within 2 ^ 31 passes, whatever the stack size. -/
def newSlots (maxStack : Int32) : ℕ → Int32 → ℕ
  | 0, _ => 0
  | fuel + 1, remaining =>
      if remaining ≤ 0 then 0 else newSlots maxStack fuel (remaining - maxStack) + 1

namespace ItemPackage

def slotsFor (p : ItemPackage) (maxStack : Int32) (r : Request) : ℕ :=
  match remainingAfter r.itemId r.quality maxStack p.iterItems r.quantity with
  | none => 0
  | some remaining => newSlots maxStack (2 ^ 31) remaining

def canAddFrom (p : ItemPackage) (catalog : ItemCatalog) : ℕ → List Request → Bool
  | _, [] => true
  | tempSize, r :: rs =>
      match catalog r.itemId with
      | none => false
      | some gd =>
          let tempSize := tempSize + p.slotsFor gd.maxStack r
          if p.capacity.toNat < tempSize then false else canAddFrom p catalog tempSize rs

def canAddMany (p : ItemPackage) (catalog : ItemCatalog) (itemIds : List UInt32)
    (quantity : Option (List UInt32)) (quality : Option (List UInt8)) : Bool :=
  p.canAddFrom catalog p.endOfListIndex (requests itemIds quantity quality)

end ItemPackage

/-- One add after another in the order of the list, none of which fails or overflows. -/
def AddsAll (catalog : ItemCatalog) : Ledger → List Request → Prop
  | _, [] => True
  | l, r :: rs =>
      (l.add catalog r.itemId r.quantity r.quality).1 = .ok () ∧
        AddFits catalog l r.itemId r.quantity r.quality ∧
          AddsAll catalog (l.add catalog r.itemId r.quantity r.quality).2 rs

def requested (itemId : UInt32) (quality : UInt8) : List Request → ℤ
  | [] => 0
  | r :: rs =>
      (if r.itemId = itemId ∧ r.quality = quality then max r.quantity.toInt 0 else 0) +
        requested itemId quality rs

def Request.Exclusive (catalog : ItemCatalog) (r : Request) : Prop :=
  0 < r.quantity ∧ ∃ gd, catalog r.itemId = some gd ∧ gd.isExclusive = true

structure FitsTogether (catalog : ItemCatalog) (p : ItemPackage) (rs : List Request) : Prop where
  /-- No exclusive item is asked for that the package has. -/
  unowned : ∀ r ∈ rs, r.Exclusive catalog → p.hasItem r.itemId = false
  /-- No exclusive item is asked for after one of its own at quality 1. -/
  once : rs.Pairwise fun earlier later => 0 < earlier.quantity → later.Exclusive catalog →
    ¬ (earlier.itemId = later.itemId ∧ earlier.quality = 1)
  /-- The free slots can be shared out among the items so that each has room for its total. -/
  shared : ∃ slots : Multiset (UInt32 × UInt8), slots.card ≤ p.freeSlots ∧
    ∀ itemId quality gd, catalog itemId = some gd →
      requested itemId quality rs ≤ room gd.maxStack.toInt (stock itemId quality p) +
        slots.count (itemId, quality) * gd.maxStack.toInt
  /-- No request overflows the stack that is open when its turn comes. -/
  sums : ∀ before r after gd, rs = before ++ r :: after → 0 < r.quantity →
    catalog r.itemId = some gd →
      openAt gd.maxStack.toInt (stock r.itemId r.quality p) (requested r.itemId r.quality before) +
        r.quantity.toInt < 2 ^ 31

section Requested

variable {itemId : UInt32} {quality : UInt8}

variable (itemId quality) in
theorem requested_cons (r : Request) (rs : List Request) :
    requested itemId quality (r :: rs) =
      (if r.itemId = itemId ∧ r.quality = quality then max r.quantity.toInt 0 else 0) +
        requested itemId quality rs := rfl

variable (itemId quality) in
theorem requested_nonneg (rs : List Request) : 0 ≤ requested itemId quality rs := by
  induction rs with
  | nil => exact le_rfl
  | cons r rs ih =>
      rw [requested_cons]
      split
      · omega
      · omega

theorem requested_own (r : Request) (rs : List Request) (positive : 0 < r.quantity) :
    requested r.itemId r.quality (r :: rs) =
      r.quantity.toInt + requested r.itemId r.quality rs := by
  have positive := (pos_iff_toInt r.quantity).mp positive
  rw [requested_cons, if_pos ⟨rfl, rfl⟩, max_eq_left positive.le]

theorem requested_other (r : Request) (rs : List Request)
    (other : ¬ (r.itemId = itemId ∧ r.quality = quality)) :
    requested itemId quality (r :: rs) = requested itemId quality rs := by
  rw [requested_cons, if_neg other, zero_add]

theorem requested_nothing (r : Request) (rs : List Request) (nothing : ¬ 0 < r.quantity) :
    requested itemId quality (r :: rs) = requested itemId quality rs := by
  have nonpos : r.quantity.toInt ≤ 0 := (nonpos_iff_toInt r.quantity).mp (Int32.not_lt.mp nothing)
  rw [requested_cons, max_eq_right nonpos, ite_self, zero_add]

end Requested

/-! ### One add -/

section Added

variable {catalog : ItemCatalog} {l : Ledger} {r : Request} {gd : ItemData}

theorem takesAll_accepted (takes : TakesAll l r.itemId r.quantity r.quality gd) :
    ¬ Refused l r.itemId r.quantity r.quality gd ↔
      ¬ (gd.isExclusive ∧ l.package.hasItem r.itemId) := by
  have notFull : ¬ (l.package.isFull ∧
      room gd.maxStack.toInt (stock r.itemId r.quality l.package) < r.quantity.toInt) := by
    rintro ⟨full, short⟩
    have none_free : l.package.freeSlots = 0 := by
      simp only [isFull, decide_eq_true_eq] at full
      exact Nat.sub_eq_zero_of_le full
    have enough := takes.1
    rw [none_free] at enough
    simp only [Nat.cast_zero, zero_mul, add_zero] at enough
    omega
  rw [Refused, not_or]
  exact and_iff_right notFull

theorem added_iff (stacked : l.package.Stacked catalog) (known : catalog r.itemId = some gd)
    (positive : 0 < r.quantity) :
    (l.add catalog r.itemId r.quantity r.quality).1 = .ok () ∧
        AddFits catalog l r.itemId r.quantity r.quality ↔
      ¬ (gd.isExclusive ∧ l.package.hasItem r.itemId) ∧
        TakesAll l r.itemId r.quantity r.quality gd := by
  constructor
  · rintro ⟨ok, fits⟩
    have accepted : ¬ Refused l r.itemId r.quantity r.quality gd := by
      intro refused
      obtain ⟨⟨e, failed⟩, -⟩ := add_refused stacked.bounded known positive refused
      rw [failed] at ok
      contradiction
    obtain ⟨-, space, notUnique⟩ := add_stores stacked.bounded known positive accepted
    have within := within_stock r.quality stacked.bounded known
    have merges := ((fits positive gd known).2 space notUnique).1
    rw [(merge_stock List.nodup_range (l, r.quantity) within).1] at merges
    refine ⟨notUnique, not_lt.mp fun tooMuch => ?_, (sumsBelow_iff within
      ((pos_iff_toInt r.quantity).mp positive) r.quantity.toInt_lt).mp merges⟩
    obtain ⟨failed, -⟩ := overrun_strands stacked known positive accepted fits tooMuch
    rw [failed] at ok
    contradiction
  · rintro ⟨mayCome, takes⟩
    obtain ⟨ok, -, fits⟩ := add_takes stacked known positive
      ((takesAll_accepted takes).mpr mayCome) takes
    exact ⟨ok, fits⟩

/-- What an add that takes all leaves of the package: the stacks of the other items, and its own
stacks as if the quantity had been there. -/
structure Took (catalog : ItemCatalog) (r : Request) (M : ℤ) (p p' : ItemPackage) : Prop where
  stacked : p'.Stacked catalog
  others : ∀ itemId quality, ¬ (r.itemId = itemId ∧ r.quality = quality) →
    stock itemId quality p' = stock itemId quality p
  total : p'.totalQuantity r.itemId r.quality =
    p.totalQuantity r.itemId r.quality + r.quantity.toInt
  later : ∀ t, 0 ≤ t → openAt M (stock r.itemId r.quality p') t =
    openAt M (stock r.itemId r.quality p) (r.quantity.toInt + t)
  started : ∃ n : ℕ, p.freeSlots = p'.freeSlots + n ∧
    room M (stock r.itemId r.quality p') =
      room M (stock r.itemId r.quality p) - r.quantity.toInt + n * M ∧
    ∀ k : ℕ, r.quantity.toInt ≤ room M (stock r.itemId r.quality p) + k * M → n ≤ k

theorem othersKept_stock {itemId : UInt32} {quality : UInt8} {p p' : ItemPackage}
    (others : OthersKept r.itemId r.quality p p') (shape : p.Shape)
    (grown : p.endOfListIndex ≤ p'.endOfListIndex)
    (other : ¬ (r.itemId = itemId ∧ r.quality = quality)) :
    stock itemId quality p' = stock itemId quality p := by
  have same (i : ℕ) : stackIn itemId quality (p'.entryAt i) =
      stackIn itemId quality (p.entryAt i) := by
    -- A stack of another item is in both or in neither.
    have one_way (e e' : Option InventoryItem) (keeps : ∀ item,
        ¬ IsOf r.itemId r.quality item → (e' = some item → e = some item)) (a : ℤ)
        (found : stackIn itemId quality e' = some a) : stackIn itemId quality e = some a := by
      cases e' with
      | none => contradiction
      | some item =>
          have own : IsOf itemId quality item := by
            rw [stackIn_some] at found
            by_contra foreign
            rw [if_neg foreign] at found
            contradiction
          have apart : ¬ IsOf r.itemId r.quality item := fun both =>
            other ⟨both.1.symm.trans own.1, both.2.symm.trans own.2⟩
          rw [keeps item apart rfl]
          exact found
    apply Option.ext
    intro a
    exact ⟨one_way _ _ (fun item apart => (others i item apart).mp) a,
      one_way _ _ (fun item apart => (others i item apart).mpr) a⟩
  obtain ⟨more, end_eq⟩ := Nat.exists_eq_add_of_le grown
  have nothing : stockAt itemId quality p
      ((List.range more).map (p.endOfListIndex + ·)) = [] := by
    rw [stockAt, List.filterMap_eq_nil_iff]
    intro i member
    obtain ⟨j, -, rfl⟩ := List.mem_map.mp member
    rw [shape.behind _ (Nat.le_add_right _ _)]
    rfl
  calc stock itemId quality p'
      = stockAt itemId quality p (List.range p'.endOfListIndex) :=
        List.filterMap_congr fun i _ => same i
    _ = stock itemId quality p := by
        rw [end_eq, List.range_add, stockAt_append, nothing, List.append_nil]
        rfl

theorem mem_stock {p : ItemPackage} (shape : p.Shape) {i : ℕ} {item : InventoryItem}
    (here : p.entryAt i = some item) :
    item.quantity.toInt ∈ stock item.itemId item.quality p := by
  refine List.mem_filterMap.mpr ⟨i, List.mem_range.mpr (shape.lt_of_entryAt here), ?_⟩
  rw [here, stackIn_some, if_pos ⟨rfl, rfl⟩]

theorem add_took (stacked : l.package.Stacked catalog) (known : catalog r.itemId = some gd)
    (positive : 0 < r.quantity) (mayCome : ¬ (gd.isExclusive ∧ l.package.hasItem r.itemId))
    (takes : TakesAll l r.itemId r.quantity r.quality gd) :
    Took catalog r gd.maxStack.toInt l.package
      (l.add catalog r.itemId r.quantity r.quality).2.package := by
  obtain ⟨-, stored, -⟩ := add_takes stacked known positive
    ((takesAll_accepted takes).mpr mayCome) takes
  have within := within_stock r.quality stacked.bounded known
  have positive' := (pos_iff_toInt r.quantity).mp positive
  have none_left := takes.beyond_nonpos within positive
  have called : l.callSlots catalog (.add r.itemId r.quantity r.quality) =
      some (l.add catalog r.itemId r.quantity r.quality).2 := rfl
  have reworked := ItemPackages.callSlots_any stacked.shape called
  have low := maxStack_pos_of_takesAll within positive takes
  have grown : l.package.endOfListIndex ≤
      (l.add catalog r.itemId r.quantity r.quality).2.package.endOfListIndex := by
    rw [stored.end_eq]
    exact Nat.le_add_right _ _
  refine ⟨⟨reworked.shape stacked.shape, fun i item here => ?_⟩,
    fun itemId quality => othersKept_stock stored.others stacked.shape grown,
    stored.total positive' none_left, fun t later => ?_, ?_⟩
  · by_cases own : IsOf r.itemId r.quality item
    · have member := mem_stock (reworked.shape stacked.shape) here
      rw [own.1, own.2, stored.stock_eq] at member
      have bounds := (within_topUp within r.quantity.toInt).append (within_pile low _ _) _ member
      rw [InBounds, own.1, existingMaxStack_eq known]
      exact ⟨Int32.le_iff_toInt_le.mpr bounds.1, Int32.le_iff_toInt_le.mpr bounds.2⟩
    · exact stacked.bounded i item ((stored.others i item own).mp here)
  · rw [stored.stock_eq]
    exact openAt_added within _ positive'.le later none_left
  · refine ⟨(pile gd.maxStack.toInt l.package.freeSlots (left gd.maxStack.toInt
      (stock r.itemId r.quality l.package) r.quantity.toInt)).length, ?_, ?_,
      fun k enough => length_pile_le _ k ?_⟩
    · have capacity_eq := reworked.keep (fun p => p.capacity = l.package.capacity)
        ⟨fun p p' edit same => (congrArg (fun header => header.2.1) edit.header_eq).trans same,
          fun p p' flags same => flags.capacity_eq.trans same⟩ rfl
      have inside := (reworked.shape stacked.shape).end_le
      have end_eq := stored.end_eq
      generalize (pile gd.maxStack.toInt l.package.freeSlots (left gd.maxStack.toInt
        (stock r.itemId r.quality l.package) r.quantity.toInt)).length = n at end_eq ⊢
      rw [end_eq, capacity_eq] at inside
      rw [freeSlots, freeSlots, end_eq, capacity_eq]
      omega
    · rw [stored.stock_eq, room_append, room_topUp, room_pile _ none_left]
      omega
    · obtain ⟨fits, exceeds⟩ := left_spec within positive'
      by_cases inside : r.quantity.toInt ≤
          room gd.maxStack.toInt (stock r.itemId r.quality l.package)
      · have nonneg : 0 ≤ (k : ℤ) * gd.maxStack.toInt :=
          mul_nonneg (Int.natCast_nonneg k) (by omega)
        exact (fits inside).trans nonneg
      · rw [exceeds (not_le.mp inside)]
        omega

theorem hasItem_iff (p : ItemPackage) (itemId : UInt32) :
    p.hasItem itemId = true ↔ 1 ≤ p.totalQuantity itemId 1 := by
  rw [hasItem, hasItemQq, decide_eq_true_eq]
  exact Iff.rfl

theorem totalQuantity_nonneg {p : ItemPackage} (stacked : p.Stacked catalog) (itemId : UInt32)
    (quality : UInt8) : 0 ≤ p.totalQuantity itemId quality := by
  rw [totalQuantity_eq]
  apply List.sum_nonneg
  intro a member
  obtain ⟨i, -, found⟩ := List.mem_filterMap.mp member
  cases here : p.entryAt i with
  | none =>
      rw [here] at found
      contradiction
  | some item =>
      rw [here, stackIn_some] at found
      split at found
      · obtain rfl := Option.some.inj found
        have low := Int32.le_iff_toInt_le.mp (stacked.bounded i item here).1
        rw [toInt_one] at low
        omega
      · contradiction

theorem Took.hasItem {M : ℤ} {p p' : ItemPackage} (took : Took catalog r M p p')
    (stacked : p.Stacked catalog) (positive : 0 < r.quantity) (itemId : UInt32) :
    p'.hasItem itemId = true ↔
      p.hasItem itemId = true ∨ (r.itemId = itemId ∧ r.quality = 1) := by
  have positive := (pos_iff_toInt r.quantity).mp positive
  rw [hasItem_iff, hasItem_iff]
  by_cases own : r.itemId = itemId ∧ r.quality = 1
  · have nonneg := totalQuantity_nonneg stacked r.itemId r.quality
    have total := took.total
    rw [own.1, own.2] at nonneg total
    exact iff_of_true (by omega) (Or.inr own)
  · rw [totalQuantity_eq, totalQuantity_eq, took.others itemId 1 own]
    exact (or_iff_left own).symm

end Added

/-! ### The whole list -/

section Lists

variable {catalog : ItemCatalog}

variable {rs : List Request} {r : Request} {p : ItemPackage}

theorem fitsTogether_skip (rs : List Request) (nothing : ¬ 0 < r.quantity) :
    FitsTogether catalog p (r :: rs) ↔ FitsTogether catalog p rs := by
  constructor
  · intro fits
    obtain ⟨slots, few, enough⟩ := fits.shared
    refine ⟨fun r' member => fits.unowned r' (List.mem_cons_of_mem r member),
      (List.pairwise_cons.mp fits.once).2, ⟨slots, few, fun itemId quality gd known => ?_⟩,
      fun before r' after gd split positive known => ?_⟩
    · rw [← requested_nothing r rs nothing]
      exact enough itemId quality gd known
    · rw [← requested_nothing r before nothing]
      exact fits.sums (r :: before) r' after gd (congrArg (r :: ·) split) positive known
  · intro fits
    obtain ⟨slots, few, enough⟩ := fits.shared
    refine ⟨fun r' member exclusive => ?_, List.pairwise_cons.mpr ⟨?_, fits.once⟩,
      ⟨slots, few, fun itemId quality gd known => ?_⟩,
      fun before r' after gd split positive known => ?_⟩
    · rcases List.mem_cons.mp member with rfl | later
      · exact absurd exclusive.1 nothing
      · exact fits.unowned r' later exclusive
    · exact fun _ _ positive => absurd positive nothing
    · rw [requested_nothing r rs nothing]
      exact enough itemId quality gd known
    · cases before with
      | nil =>
          obtain ⟨rfl, -⟩ := List.cons.inj split
          exact absurd positive nothing
      | cons first before =>
          obtain ⟨rfl, rest⟩ := List.cons.inj split
          rw [requested_nothing r before nothing]
          exact fits.sums before r' after gd rest positive known

theorem count_sub_replicate (slots : Multiset (UInt32 × UInt8)) (key other : UInt32 × UInt8)
    (n : ℕ) : (slots - Multiset.replicate n key).count other =
      slots.count other - if other = key then n else 0 := by
  rw [Multiset.count_sub, Multiset.count_replicate]
  by_cases same : other = key
  · rw [if_pos same, if_pos same.symm]
  · rw [if_neg same, if_neg fun same' => same same'.symm]

theorem FitsTogether.rest {p p' : ItemPackage} {gd : ItemData}
    (fits : FitsTogether catalog p (r :: rs)) (stacked : p.Stacked catalog)
    (known : catalog r.itemId = some gd) (positive : 0 < r.quantity)
    (took : Took catalog r gd.maxStack.toInt p p') : FitsTogether catalog p' rs := by
  obtain ⟨slots, few, enough⟩ := fits.shared
  obtain ⟨n, free_eq, room_eq, least⟩ := took.started
  have inside : n ≤ slots.count (r.itemId, r.quality) := by
    apply least
    have mine := enough r.itemId r.quality gd known
    rw [requested_own r rs positive] at mine
    have nonneg := requested_nonneg r.itemId r.quality rs
    omega
  refine ⟨fun r' member exclusive => ?_, (List.pairwise_cons.mp fits.once).2,
    ⟨slots - Multiset.replicate n (r.itemId, r.quality), ?_, fun itemId quality gd' known' => ?_⟩,
    fun before r' after gd' split positive' known' => ?_⟩
  · have absent := fits.unowned r' (List.mem_cons_of_mem r member) exclusive
    have once := (List.pairwise_cons.mp fits.once).1 r' member positive exclusive
    have iff := took.hasItem stacked positive r'.itemId
    rw [absent] at iff
    simpa [once] using iff
  · rw [Multiset.card_sub (Multiset.le_count_iff_replicate_le.mp inside),
      Multiset.card_replicate]
    omega
  · have mine := enough itemId quality gd' known'
    rw [count_sub_replicate]
    by_cases own : r.itemId = itemId ∧ r.quality = quality
    · obtain ⟨rfl, rfl⟩ := own
      obtain rfl := Option.some.inj (known.symm.trans known')
      rw [requested_own r rs positive] at mine
      rw [if_pos rfl, room_eq, Nat.cast_sub inside, sub_mul]
      omega
    · have other : ¬ (itemId, quality) = (r.itemId, r.quality) := by
        intro same
        exact own ⟨(congrArg Prod.fst same).symm, (congrArg Prod.snd same).symm⟩
      rw [requested_other r rs own] at mine
      rw [if_neg other, Nat.sub_zero, took.others itemId quality own]
      exact mine
  · have sum := fits.sums (r :: before) r' after gd' (congrArg (r :: ·) split) positive' known'
    by_cases own : r.itemId = r'.itemId ∧ r.quality = r'.quality
    · obtain rfl := Option.some.inj (known.symm.trans (own.1 ▸ known'))
      rw [← own.1, ← own.2, requested_own r before positive] at sum
      rw [← own.1, ← own.2, took.later _ (requested_nonneg _ _ before)]
      exact sum
    · rw [requested_other r before own] at sum
      rw [took.others _ _ own]
      exact sum

theorem FitsTogether.first {l : Ledger} {gd : ItemData}
    (fits : FitsTogether catalog l.package (r :: rs)) (stacked : l.package.Stacked catalog)
    (known : catalog r.itemId = some gd) (positive : 0 < r.quantity) :
    ¬ (gd.isExclusive ∧ l.package.hasItem r.itemId) ∧
      TakesAll l r.itemId r.quantity r.quality gd := by
  obtain ⟨slots, few, enough⟩ := fits.shared
  refine ⟨fun both => ?_, ?_, fits.sums [] r rs gd rfl positive known⟩
  · have absent := fits.unowned r (List.mem_cons_self ..) ⟨positive, gd, known, both.1⟩
    rw [absent] at both
    simp at both
  · have mine := enough r.itemId r.quality gd known
    rw [requested_own r rs positive] at mine
    have nonneg := requested_nonneg r.itemId r.quality rs
    have positive := (pos_iff_toInt r.quantity).mp positive
    have held := Multiset.count_le_card (r.itemId, r.quality) slots
    have most : (slots.count (r.itemId, r.quality) : ℤ) ≤ l.package.freeSlots := by
      exact_mod_cast held.trans few
    by_cases size : 0 ≤ gd.maxStack.toInt
    · have scaled := mul_le_mul_of_nonneg_right most size
      omega
    · have none_new : (slots.count (r.itemId, r.quality) : ℤ) * gd.maxStack.toInt ≤ 0 :=
        mul_nonpos_of_nonneg_of_nonpos (Int.natCast_nonneg _) (by omega)
      have within := within_stock r.quality stacked.bounded known
      cases held : stock r.itemId r.quality l.package with
      | nil =>
          rw [held, room_nil] at mine
          omega
      | cons a as =>
          rw [held] at within
          have head := within.head
          omega

theorem FitsTogether.cons {l : Ledger} {p' : ItemPackage} {gd : ItemData}
    (stacked : l.package.Stacked catalog) (known : catalog r.itemId = some gd)
    (positive : 0 < r.quantity) (mayCome : ¬ (gd.isExclusive ∧ l.package.hasItem r.itemId))
    (takes : TakesAll l r.itemId r.quantity r.quality gd)
    (took : Took catalog r gd.maxStack.toInt l.package p') (fits : FitsTogether catalog p' rs) :
    FitsTogether catalog l.package (r :: rs) := by
  obtain ⟨slots, few, enough⟩ := fits.shared
  obtain ⟨n, free_eq, room_eq, -⟩ := took.started
  refine ⟨fun r' member exclusive => ?_,
    List.pairwise_cons.mpr ⟨fun r' member _ exclusive own => ?_, fits.once⟩,
    ⟨slots + Multiset.replicate n (r.itemId, r.quality), ?_,
    fun itemId quality gd' known' => ?_⟩, fun before r' after gd' split positive' known' => ?_⟩
  · rcases List.mem_cons.mp member with rfl | later
    · obtain ⟨-, gd', known', exclusive⟩ := exclusive
      obtain rfl := Option.some.inj (known.symm.trans known')
      by_contra held
      exact mayCome ⟨exclusive, by simpa using held⟩
    · have absent := fits.unowned r' later exclusive
      by_contra held
      have kept := (took.hasItem stacked positive r'.itemId).mpr (Or.inl (by simpa using held))
      rw [absent] at kept
      contradiction
  · have absent := fits.unowned r' member exclusive
    have kept := (took.hasItem stacked positive r'.itemId).mpr (Or.inr own)
    rw [absent] at kept
    contradiction
  · rw [Multiset.card_add, Multiset.card_replicate]
    omega
  · have mine := enough itemId quality gd' known'
    rw [Multiset.count_add, Multiset.count_replicate]
    by_cases own : r.itemId = itemId ∧ r.quality = quality
    · obtain ⟨rfl, rfl⟩ := own
      obtain rfl := Option.some.inj (known.symm.trans known')
      rw [room_eq] at mine
      rw [requested_own r rs positive, if_pos rfl, Nat.cast_add, add_mul]
      omega
    · have other : ¬ (r.itemId, r.quality) = (itemId, quality) := by
        intro same
        exact own ⟨congrArg Prod.fst same, congrArg Prod.snd same⟩
      rw [requested_other r rs own, if_neg other, Nat.add_zero,
        ← took.others itemId quality own]
      exact mine
  · cases before with
    | nil =>
        obtain ⟨rfl, -⟩ := List.cons.inj split
        obtain rfl := Option.some.inj (known.symm.trans known')
        exact takes.2
    | cons first before =>
        obtain ⟨rfl, rest⟩ := List.cons.inj split
        have sum := fits.sums before r' after gd' rest positive' known'
        by_cases own : r.itemId = r'.itemId ∧ r.quality = r'.quality
        · obtain rfl := Option.some.inj (known.symm.trans (own.1 ▸ known'))
          rw [← own.1, ← own.2, took.later _ (requested_nonneg _ _ before)] at sum
          rw [← own.1, ← own.2, requested_own r before positive]
          exact sum
        · rw [took.others _ _ own] at sum
          rw [requested_other r before own]
          exact sum

theorem fitsTogether_nil (stacked : p.Stacked catalog) : FitsTogether catalog p [] := by
  refine ⟨fun _ member => by contradiction, List.Pairwise.nil, ⟨0, Nat.zero_le _, ?_⟩, ?_⟩
  · intro itemId quality gd known
    have nonneg := room_nonneg (within_stock quality stacked.bounded known)
    simpa [requested] using nonneg
  · intro before r after gd split
    simp at split

theorem addsAll_iff {l : Ledger} (stacked : l.package.Stacked catalog) (rs : List Request)
    (known : ∀ r ∈ rs, (catalog r.itemId).isSome) :
    AddsAll catalog l rs ↔ FitsTogether catalog l.package rs := by
  induction rs generalizing l with
  | nil => exact iff_of_true trivial (fitsTogether_nil stacked)
  | cons r rs ih =>
      have later := fun r' member => known r' (List.mem_cons_of_mem r member)
      obtain ⟨gd, known⟩ := Option.isSome_iff_exists.mp (known r (List.mem_cons_self ..))
      rw [AddsAll]
      by_cases positive : 0 < r.quantity
      · rw [← and_assoc, added_iff stacked known positive]
        constructor
        · rintro ⟨⟨mayCome, takes⟩, rest⟩
          have took := add_took stacked known positive mayCome takes
          exact .cons stacked known positive mayCome takes took
            ((ih took.stacked later).mp rest)
        · intro fits
          obtain ⟨mayCome, takes⟩ := fits.first stacked known positive
          have took := add_took stacked known positive mayCome takes
          exact ⟨⟨mayCome, takes⟩, (ih took.stacked later).mpr
            (fits.rest stacked known positive took)⟩
      · have skipped : l.add catalog r.itemId r.quantity r.quality = (.ok (), l) :=
          if_pos (Int32.not_lt.mp positive)
        rw [skipped, fitsTogether_skip rs positive, ih stacked later]
        have fits : AddFits catalog l r.itemId r.quantity r.quality :=
          fun impossible => absurd impossible positive
        exact ⟨fun all => all.2.2, fun rest => ⟨rfl, fits, rest⟩⟩

theorem known_of_canAddFrom {tempSize : ℕ} (can : p.canAddFrom catalog tempSize rs = true) :
    ∀ r ∈ rs, (catalog r.itemId).isSome := by
  induction rs generalizing tempSize with
  | nil => exact fun _ member => by contradiction
  | cons r rs ih =>
      rw [canAddFrom] at can
      cases known : catalog r.itemId with
      | none =>
          rw [known] at can
          contradiction
      | some gd =>
          rw [known] at can
          dsimp only at can
          split at can
          · contradiction
          · intro r' member
            rcases List.mem_cons.mp member with rfl | later
            · rw [known]
              rfl
            · exact ih can r' later

/-- A list that passes the check is added without a failure exactly if it fits when its requests
are counted item by item. -/
theorem canAddMany_sound_iff {l : Ledger} (stacked : l.package.Stacked catalog)
    (itemIds : List UInt32) (quantity : Option (List UInt32)) (quality : Option (List UInt8))
    (can : l.package.canAddMany catalog itemIds quantity quality = true) :
    AddsAll catalog l (requests itemIds quantity quality) ↔
      FitsTogether catalog l.package (requests itemIds quantity quality) :=
  addsAll_iff stacked _ (known_of_canAddFrom can)

end Lists

def sixtyPotions (capacity : UInt16) : ItemPackage :=
  (ItemPackage.withFlags 1 capacity pkgNormal false).init
    [{ uniqueId := 7, itemId := 42, quantity := 60, quality := 1 }]

theorem sixtyPotions_stacked (capacity : UInt16) :
    (sixtyPotions capacity).Stacked ItemPackages.potions := by
  refine ⟨shape_init .., fun i item found => ?_⟩
  rw [sixtyPotions, entryAt_init] at found
  obtain ⟨row, member, rfl⟩ := Option.map_eq_some_iff.mp found
  obtain rfl := List.mem_singleton.mp (List.mem_of_mem_take (List.mem_of_getElem? member))
  have bounds : (1 : Int32) ≤ 60 ∧
      (60 : Int32) ≤ Ledger.existingMaxStack ItemPackages.potions 42 := by decide
  exact bounds

theorem canAddMany_fifty_more :
    AddsAll ItemPackages.potions { package := sixtyPotions 2 }
      (requests [42, 42] (some [20, 30]) none) := by
  have can : (sixtyPotions 2).canAddMany ItemPackages.potions [42, 42] (some [20, 30]) none =
      true := by decide
  apply (canAddMany_sound_iff (l := { package := sixtyPotions 2 }) (sixtyPotions_stacked 2)
    [42, 42] (some [20, 30]) none can).mpr
  have common (itemId : UInt32) (gd : ItemData)
      (known : ItemPackages.potions itemId = some gd) : itemId = 42 ∧ gd = { stackSize := 99 } := by
    rw [ItemPackages.potions] at known
    split at known
    · next own => exact ⟨own, (Option.some.inj known).symm⟩
    · contradiction
  refine ⟨fun r _ exclusive => ?_, ?_, ⟨{(42, 1)}, by decide, ?_⟩, ?_⟩
  · obtain ⟨-, gd, known, exclusive⟩ := exclusive
    rw [(common _ gd known).2] at exclusive
    simp at exclusive
  · refine List.pairwise_of_forall fun _ r _ exclusive => ?_
    obtain ⟨-, gd, known, exclusive⟩ := exclusive
    rw [(common _ gd known).2] at exclusive
    simp at exclusive
  · intro itemId quality gd known
    obtain ⟨rfl, rfl⟩ := common itemId gd known
    by_cases plain : quality = 1
    · subst plain
      decide
    · have other : ¬ ((42 : UInt32) = 42 ∧ 1 = quality) := fun same => plain same.2.symm
      have nonneg := room_nonneg (within_stock quality (sixtyPotions_stacked 2).bounded known)
      have none_asked :
          requested 42 quality (requests [42, 42] (some [20, 30]) none) = 0 := by
        rw [requests, List.mapIdx_cons, requested_other _ _ other]
        exact requested_other _ _ other
      rw [none_asked]
      exact Int.add_nonneg nonneg (Int.mul_nonneg (Int.natCast_nonneg _) (by decide))
  · intro before r after gd split _ known
    obtain ⟨-, rfl⟩ := common _ gd known
    cases before with
    | nil =>
        obtain ⟨rfl, -⟩ := List.cons.inj split
        decide
    | cons first before =>
        obtain ⟨rfl, rest⟩ := List.cons.inj split
        cases before with
        | nil =>
            obtain ⟨rfl, -⟩ := List.cons.inj rest
            decide
        | cons second before =>
            have lengths := congrArg List.length rest
            simp at lengths

/-- Two requests for 39 potions each, and room for 39 in all: each is measured against the same
stack, and the second add fails. -/
theorem canAddMany_unsound :
    (sixtyPotions 1).Stacked ItemPackages.potions ∧
      (sixtyPotions 1).canAddMany ItemPackages.potions [42, 42] (some [39, 39]) none = true ∧
        ¬ AddsAll ItemPackages.potions { package := sixtyPotions 1 }
          (requests [42, 42] (some [39, 39]) none) := by
  refine ⟨sixtyPotions_stacked 1, by decide, fun all => ?_⟩
  have second := all.2.2.1
  have failed : ((Ledger.add { package := sixtyPotions 1 } ItemPackages.potions 42 39 1).2.add
      ItemPackages.potions 42 39 1).1 = .error .full := by decide
  exact absurd (second.symm.trans failed) (by decide)

end Garlemald.Inventory
