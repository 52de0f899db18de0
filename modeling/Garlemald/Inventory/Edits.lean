import Garlemald.Inventory.Operations
import Mathlib.Logic.Relation

/-!
The edits that operations make to the slots of a package, and what every edit
keeps. Which quantities an item may have and which unique ids may come in are
parameters of an edit. Items are counted from slot 0 without a gap, but for the
holes that a removal makes and the following realign closes.
-/

namespace Garlemald.Inventory
open Relation (ReflTransGen)

namespace ItemPackage

theorem entryAt_put (p : ItemPackage) (i j : Nat) (entry : Option InventoryItem) :
    (p.put i entry).entryAt j = if j = i ∧ i < p.list.length then entry else p.entryAt j := by
  by_cases same : j = i
  · subst same
    by_cases inside : j < p.list.length
    · simp [entryAt, put, inside]
    · simp [entryAt, put, inside]
  · simp [entryAt, put, same, List.getElem?_set_ne (Ne.symm same)]

theorem entryAt_put_of_ne (p : ItemPackage) {i j : Nat} (other : j ≠ i)
    (entry : Option InventoryItem) : (p.put i entry).entryAt j = p.entryAt j := by
  rw [entryAt_put, if_neg fun h => other h.1]

variable {p : ItemPackage} {item : InventoryItem} {i : Nat}

theorem entryAt_put_self (p : ItemPackage) (inside : i < p.list.length)
    (entry : Option InventoryItem) : (p.put i entry).entryAt i = entry := by
  rw [entryAt_put, if_pos ⟨rfl, inside⟩]

theorem dirtyAt_put_of_ne (p : ItemPackage) {i j : Nat} (other : j ≠ i)
    (entry : Option InventoryItem) : (p.put i entry).dirtyAt j = p.dirtyAt j := by
  simp [dirtyAt, put, List.getElem?_set_ne (Ne.symm other)]

theorem dirtyAt_put_self (p : ItemPackage) (inside : i < p.isDirty.length)
    (entry : Option InventoryItem) : (p.put i entry).dirtyAt i = true := by
  simp [dirtyAt, put, inside]

theorem lt_length_of_entryAt (here : p.entryAt i = some item) : i < p.list.length := by
  by_contra outside
  simp [entryAt, List.getElem?_eq_none (Nat.le_of_not_lt outside)] at here

def header (p : ItemPackage) : UInt32 × UInt16 × UInt16 × Bool × Bool :=
  (p.ownerActorId, p.capacity, p.code, p.isTemporary, p.holdingUpdates)

/-- The slots are in order but for holes below the end. -/
structure Loose (p : ItemPackage) : Prop where
  length_list : p.list.length = p.capacity.toNat
  length_dirty : p.isDirty.length = p.capacity.toNat
  end_le : p.endOfListIndex ≤ p.capacity.toNat
  behind : ∀ i, p.endOfListIndex ≤ i → p.entryAt i = none
  slot_eq : ∀ i item, p.entryAt i = some item → item.slot = UInt16.ofNat i
  package_eq : ∀ i item, p.entryAt i = some item → item.itemPackage = p.code

/-- The items fill the slots up to the end, and each knows its slot and its package. -/
structure Shape (p : ItemPackage) : Prop extends p.Loose where
  present : ∀ i, i < p.endOfListIndex → (p.entryAt i).isSome

theorem Loose.lt_of_entryAt (loose : p.Loose) (here : p.entryAt i = some item) :
    i < p.endOfListIndex := by
  by_contra beyond
  rw [loose.behind i (Nat.le_of_not_lt beyond)] at here
  contradiction

theorem Loose.put_none (loose : p.Loose) (i : Nat) : (p.put i none).Loose := by
  have kept (j : Nat) (entry : InventoryItem) (found : (p.put i none).entryAt j = some entry) :
      p.entryAt j = some entry := by
    rw [entryAt_put] at found
    split at found
    · contradiction
    · exact found
  refine ⟨?_, ?_, loose.end_le, fun j beyond => ?_,
    fun j entry found => loose.slot_eq j entry (kept j entry found),
    fun j entry found => loose.package_eq j entry (kept j entry found)⟩
  · simpa [put] using loose.length_list
  · simpa [put] using loose.length_dirty
  · rw [entryAt_put]
    split
    · rfl
    · exact loose.behind j beyond

theorem Loose.put_some (loose : p.Loose) (inside : i < p.endOfListIndex)
    (slot_eq : item.slot = UInt16.ofNat i) (package_eq : item.itemPackage = p.code) :
    (p.put i (some item)).Loose := by
  have found (j : Nat) (entry : InventoryItem)
      (h : (p.put i (some item)).entryAt j = some entry) :
      (j = i ∧ entry = item) ∨ p.entryAt j = some entry := by
    rw [entryAt_put] at h
    split at h
    · next here => exact Or.inl ⟨here.1, (Option.some.inj h).symm⟩
    · exact Or.inr h
  refine ⟨?_, ?_, loose.end_le, fun j beyond => ?_, fun j entry h => ?_, fun j entry h => ?_⟩
  · simpa [put] using loose.length_list
  · simpa [put] using loose.length_dirty
  · have other : j ≠ i := by
      intro own
      subst own
      exact Nat.not_lt.mpr beyond inside
    rw [entryAt_put_of_ne p other]
    exact loose.behind j beyond
  · rcases found j entry h with ⟨rfl, rfl⟩ | before
    · exact slot_eq
    · exact loose.slot_eq j entry before
  · rcases found j entry h with ⟨rfl, rfl⟩ | before
    · exact package_eq
    · exact loose.package_eq j entry before

theorem Loose.extend (loose : p.Loose) (room : p.endOfListIndex < p.capacity.toNat) :
    ({ p with endOfListIndex := p.endOfListIndex + 1 } : ItemPackage).Loose :=
  ⟨loose.length_list, loose.length_dirty, room,
    fun i beyond => loose.behind i (Nat.le_of_succ_le beyond), loose.slot_eq, loose.package_eq⟩

def Every (Q : UInt32 → Int32 → Prop) (p : ItemPackage) : Prop :=
  ∀ i item, p.entryAt i = some item → Q item.itemId item.quantity

theorem Every.put {Q : UInt32 → Int32 → Prop} (every : p.Every Q) (i : Nat)
    {entry : Option InventoryItem}
    (allowed : ∀ item, entry = some item → Q item.itemId item.quantity) :
    (p.put i entry).Every Q := by
  intro j item found
  rw [entryAt_put] at found
  split at found
  · exact allowed item found
  · exact every j item found

def Holds (p : ItemPackage) (uniqueId : UInt64) : Prop :=
  ∃ i item, p.entryAt i = some item ∧ item.uniqueId = uniqueId

/-- No two entries have the same unique id, unless it is the id of a row not inserted yet. -/
def Distinct (p : ItemPackage) : Prop :=
  ∀ i j a b, p.entryAt i = some a → p.entryAt j = some b → a.uniqueId = b.uniqueId →
    a.uniqueId ≠ 0 → i = j

theorem Distinct.put (distinct : p.Distinct) (i : Nat) {entry : Option InventoryItem}
    (apart : ∀ item j b, entry = some item → p.entryAt j = some b →
      item.uniqueId = b.uniqueId → item.uniqueId ≠ 0 → j = i) : (p.put i entry).Distinct := by
  intro j k a b atJ atK same nonzero
  rw [entryAt_put] at atJ atK
  split at atJ
  · next here =>
      split at atK
      · next there => exact here.1.trans there.1.symm
      · exact here.1.trans (apart a k b atJ atK same nonzero).symm
  · split at atK
    · next there => exact (apart b j a atK atJ same.symm (same ▸ nonzero)).trans there.1.symm
    · exact distinct j k a b atJ atK same nonzero

/-- Every slot that is not dirty has the entry the client shows. -/
def Covers (shown : Nat → Option InventoryItem) (p : ItemPackage) : Prop :=
  ∀ i, p.dirtyAt i = false → shown i = p.entryAt i

theorem Covers.put {shown : Nat → Option InventoryItem} (covers : p.Covers shown)
    (loose : p.Loose) (i : Nat) (entry : Option InventoryItem) : (p.put i entry).Covers shown := by
  intro j clean
  by_cases same : j = i
  · subst same
    by_cases inside : j < p.capacity.toNat
    · rw [dirtyAt_put_self p (loose.length_dirty ▸ inside)] at clean
      contradiction
    · have outside : ¬ j < p.list.length := loose.length_list ▸ inside
      have clean' : p.dirtyAt j = false := by
        simp [dirtyAt, List.getElem?_eq_none (loose.length_dirty ▸ Nat.le_of_not_lt inside)]
      rw [entryAt_put, if_neg fun h => outside h.2]
      exact covers j clean'
  · rw [dirtyAt_put_of_ne p same] at clean
    rw [entryAt_put_of_ne p same]
    exact covers j clean

end ItemPackage

open ItemPackage

/-- One change to a package. Only an edit that makes holes erases, shifts or trims. -/
inductive Edit (Q : UInt32 → Int32 → Prop) (F : ItemPackage → UInt64 → Prop) :
    Bool → ItemPackage → ItemPackage → Prop where
  | requantify {holes p} (i : Nat) (item : InventoryItem) (quantity : Int32)
      (here : p.entryAt i = some item) (allowed : Q item.itemId quantity) :
      Edit Q F holes p (p.put i (some { item with quantity }))
  | spawn {holes p} (item : InventoryItem) (room : p.endOfListIndex < p.capacity.toNat)
      (slot_eq : item.slot = UInt16.ofNat p.endOfListIndex) (package_eq : item.itemPackage = p.code)
      (allowed : Q item.itemId item.quantity) (fresh : F p item.uniqueId) :
      Edit Q F holes p { p.put p.endOfListIndex (some item) with
        endOfListIndex := p.endOfListIndex + 1 }
  | erase {p} (i : Nat) : Edit Q F true p (p.put i none)
  | shift {p} (i dst : Nat) (item : InventoryItem) (here : p.entryAt i = some item)
      (below : dst < i) :
      Edit Q F true p ((p.put i none).put dst (some { item with slot := UInt16.ofNat dst }))
  | trim {p} (n : Nat) (le : n ≤ p.endOfListIndex) (behind : ∀ i, n ≤ i → p.entryAt i = none) :
      Edit Q F true p { p with endOfListIndex := n }

namespace Edit

variable {Q : UInt32 → Int32 → Prop} {F : ItemPackage → UInt64 → Prop} {holes : Bool}
  {p p' : ItemPackage}

theorem header_eq (edit : Edit Q F holes p p') : p'.header = p.header := by
  cases edit <;> rfl

theorem weaken (edit : Edit Q F holes p p') : Edit Q F true p p' := by
  cases edit with
  | requantify i item quantity here allowed => exact .requantify i item quantity here allowed
  | spawn item room slot_eq package_eq allowed fresh =>
      exact .spawn item room slot_eq package_eq allowed fresh
  | erase i => exact .erase i
  | shift i dst item here below => exact .shift i dst item here below
  | trim n le behind => exact .trim n le behind

theorem loose (edit : Edit Q F holes p p') (before : p.Loose) : p'.Loose := by
  cases edit with
  | requantify i item quantity here allowed =>
      exact before.put_some (before.lt_of_entryAt here) (before.slot_eq i item here)
        (before.package_eq i item here)
  | spawn item room slot_eq package_eq allowed fresh =>
      exact (before.extend room).put_some (Nat.lt_succ_self _) slot_eq package_eq
  | erase i => exact before.put_none i
  | shift i dst item here below =>
      exact (before.put_none i).put_some (Nat.lt_trans below (before.lt_of_entryAt here)) rfl
        (before.package_eq i item here)
  | trim n le behind =>
      exact ⟨before.length_list, before.length_dirty, Nat.le_trans le before.end_le, behind,
        before.slot_eq, before.package_eq⟩

theorem shape (edit : Edit Q F false p p') (before : p.Shape) : p'.Shape where
  toLoose := edit.loose before.toLoose
  present := by
    cases edit with
    | requantify i item quantity here allowed =>
        intro j inside
        rw [entryAt_put]
        split
        · rfl
        · exact before.present j inside
    | spawn item room slot_eq package_eq allowed fresh =>
        intro j inside
        change ((p.put p.endOfListIndex (some item)).entryAt j).isSome
        rw [entryAt_put]
        split
        · rfl
        · next other =>
            have filled : p.endOfListIndex < p.list.length := before.length_list ▸ room
            have apart : j ≠ p.endOfListIndex := fun same => other ⟨same, filled⟩
            exact before.present j (Nat.lt_of_le_of_ne (Nat.le_of_lt_succ inside) apart)

theorem every (edit : Edit Q F holes p p') (before : p.Every Q) : p'.Every Q := by
  cases edit with
  | requantify i item quantity here allowed =>
      exact before.put i fun _ same => Option.some.inj same ▸ allowed
  | spawn item room slot_eq package_eq allowed fresh =>
      exact before.put p.endOfListIndex fun _ same => Option.some.inj same ▸ allowed
  | erase i => exact before.put i fun _ impossible => by contradiction
  | shift i dst item here below =>
      have erased : (p.put i none).Every Q := before.put i fun _ impossible => by contradiction
      exact erased.put dst fun _ same => Option.some.inj same ▸ before i item here
  | trim n le behind => exact before

theorem covers {shown : Nat → Option InventoryItem} (edit : Edit Q F holes p p')
    (loose : p.Loose) (before : p.Covers shown) : p'.Covers shown := by
  cases edit with
  | requantify i item quantity here allowed => exact before.put loose i _
  | spawn item room slot_eq package_eq allowed fresh => exact before.put loose p.endOfListIndex _
  | erase i => exact before.put loose i none
  | shift i dst item here below => exact (before.put loose i none).put (loose.put_none i) dst _
  | trim n le behind => exact before

theorem distinct (free : ∀ p id, F p id → id ≠ 0 → ¬ p.Holds id)
    (edit : Edit Q F holes p p') (before : p.Distinct) : p'.Distinct := by
  cases edit with
  | requantify i item quantity here allowed =>
      apply before.put i
      intro _ j b own atJ same nonzero
      cases own
      exact (before i j item b here atJ same nonzero).symm
  | spawn item room slot_eq package_eq allowed fresh =>
      apply before.put p.endOfListIndex
      intro _ j b own atJ same nonzero
      cases own
      exact absurd ⟨j, b, atJ, same.symm⟩ (free p item.uniqueId fresh nonzero)
  | erase i =>
      apply before.put i
      intro _ j b own
      cases own
  | shift i dst item here below =>
      have erased : (p.put i none).Distinct := by
        apply before.put i
        intro _ j b own
        cases own
      apply erased.put dst
      intro _ j b own atJ same nonzero
      cases own
      rw [entryAt_put] at atJ
      split at atJ
      · contradiction
      · next other =>
          have at_i := before i j item b here atJ same nonzero
          exact absurd ⟨at_i.symm, lt_length_of_entryAt here⟩ other
  | trim n le behind => exact before

theorem holds (edit : Edit Q F holes p p') {id : UInt64} (held : p'.Holds id) :
    p.Holds id ∨ ∃ q, F q id := by
  obtain ⟨j, entry, found, rfl⟩ := held
  cases edit with
  | requantify i item quantity here allowed =>
      rw [entryAt_put] at found
      split at found
      · cases found
        exact Or.inl ⟨i, item, here, rfl⟩
      · exact Or.inl ⟨j, entry, found, rfl⟩
  | spawn item room slot_eq package_eq allowed fresh =>
      change (p.put p.endOfListIndex (some item)).entryAt j = some entry at found
      rw [entryAt_put] at found
      split at found
      · cases found
        exact Or.inr ⟨p, fresh⟩
      · exact Or.inl ⟨j, entry, found, rfl⟩
  | erase i =>
      rw [entryAt_put] at found
      split at found
      · contradiction
      · exact Or.inl ⟨j, entry, found, rfl⟩
  | shift i dst item here below =>
      rw [entryAt_put] at found
      split at found
      · cases found
        exact Or.inl ⟨i, item, here, rfl⟩
      · rw [entryAt_put] at found
        split at found
        · contradiction
        · exact Or.inl ⟨j, entry, found, rfl⟩
  | trim n le behind => exact Or.inl ⟨j, entry, found, rfl⟩

end Edit
end Garlemald.Inventory
