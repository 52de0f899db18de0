import Garlemald.Inventory.Effects

/-!
The rows of a character's items in the database, and a package as they record it. The rows
are keyed by unique id, so the events about stacks whose row is not inserted yet all go to
the id 0, and what is said here is about the other ids.
-/

namespace Garlemald.Inventory
open Function (update update_self update_of_ne)
open ItemPackage

structure Row where
  itemPackage : UInt16
  slot : UInt16
  quantity : Int32
deriving DecidableEq, Repr

abbrev Rows := UInt64 → Option Row

namespace Rows

variable (rows : Rows)

/-- An insert under a key that is taken fails, and the failure is only logged. -/
def addItem (uniqueId : UInt64) (row : Row) : Rows :=
  if (rows uniqueId).isSome then rows else update rows uniqueId (some row)

def removeItem (uniqueId : UInt64) : Rows := update rows uniqueId none

def setQuantity (uniqueId : UInt64) (quantity : Int32) : Rows :=
  update rows uniqueId ((rows uniqueId).map fun row => { row with quantity })

def updatePosition (item : InventoryItem) : Rows :=
  update rows item.uniqueId ((rows item.uniqueId).map fun row => { row with slot := item.slot })

def updateItemPositions (updates : List InventoryItem) : Rows := updates.foldl updatePosition rows

def receive : InventoryEvent → Rows
  | .dbAdd _ item itemPackage slot =>
      rows.addItem item.uniqueId ⟨itemPackage, slot, item.quantity⟩
  | .dbRemove _ serverItemId => rows.removeItem serverItemId
  | .dbQuantity serverItemId quantity => rows.setQuantity serverItemId quantity
  | .dbPositions updates => rows.updateItemPositions updates
  | _ => rows

def replay (events : List InventoryEvent) : Rows := events.foldl receive rows

@[simp] theorem replay_append (first second : List InventoryEvent) :
    rows.replay (first ++ second) = (rows.replay first).replay second :=
  List.foldl_append

theorem replay_packets {events : List InventoryEvent} (packets : ∀ e ∈ events, e.isDb = false) :
    rows.replay events = rows := by
  induction events with
  | nil => rfl
  | cons e events ih =>
      have first : rows.receive e = rows := by
        have packet := packets e List.mem_cons_self
        cases e with
        | dbAdd => contradiction
        | dbRemove => contradiction
        | dbQuantity => contradiction
        | dbPositions => contradiction
        | _ => rfl
      have rest := ih fun e member => packets e (List.mem_cons_of_mem _ member)
      rw [replay, List.foldl_cons, first]
      exact rest

end Rows

/-! ### A package and its rows -/

def rowAt (p : ItemPackage) (i : Nat) (item : InventoryItem) : Row :=
  ⟨p.code, UInt16.ofNat i, item.quantity⟩

structure Records (p : ItemPackage) (rows : Rows) : Prop where
  present : ∀ i item, p.entryAt i = some item → item.uniqueId ≠ 0 →
    rows item.uniqueId = some (rowAt p i item)
  recorded : ∀ id row, id ≠ 0 → rows id = some row → row.itemPackage = p.code → p.Holds id

def Elsewhere (code : UInt16) (rows rows' : Rows) : Prop :=
  ∀ id row, id ≠ 0 → row.itemPackage ≠ code → (rows' id = some row ↔ rows id = some row)

theorem Elsewhere.refl (code : UInt16) (rows : Rows) : Elsewhere code rows rows :=
  fun _ _ _ _ => Iff.rfl

theorem Elsewhere.trans {code : UInt16} {rows rows' rows'' : Rows}
    (first : Elsewhere code rows rows') (second : Elsewhere code rows' rows'') :
    Elsewhere code rows rows'' :=
  fun id row proper other => (second id row proper other).trans (first id row proper other)

variable {item : InventoryItem}

theorem ItemPackage.Loose.lt_size {p : ItemPackage} (loose : p.Loose) {i : Nat}
    (here : p.entryAt i = some item) : i < 65536 := by
  have inside := lt_length_of_entryAt here
  rw [loose.length_list] at inside
  have bound := p.capacity.toNat_lt
  omega

section

variable {p : ItemPackage} {rows rows' : Rows}

theorem Records.distinct (records : Records p rows) (loose : p.Loose) : p.Distinct := by
  intro i j a b atI atJ same proper
  have first := records.present i a atI proper
  have second := records.present j b atJ (same ▸ proper)
  rw [same, second] at first
  have slots : UInt16.ofNat j = UInt16.ofNat i := congrArg Row.slot (Option.some.inj first)
  have small := loose.lt_size atI
  have small' := loose.lt_size atJ
  have equal := congrArg UInt16.toNat slots
  rw [UInt16.toNat_ofNat', UInt16.toNat_ofNat'] at equal
  omega

theorem Records.put (records : Records p rows) (loose : p.Loose) {i : Nat}
    {entry : Option InventoryItem}
    (own : ∀ item, entry = some item → item.uniqueId ≠ 0 →
      rows' item.uniqueId = some (rowAt p i item) ∧ i < p.list.length)
    (fresh : ∀ item, entry = some item → item.uniqueId ≠ 0 →
      ∀ j other, p.entryAt j = some other → other.uniqueId = item.uniqueId → j = i)
    (gone : ∀ item, p.entryAt i = some item → item.uniqueId ≠ 0 →
      rows' item.uniqueId = none ∨ ∃ new, entry = some new ∧ new.uniqueId = item.uniqueId)
    (others : ∀ id, id ≠ 0 → (∀ item, p.entryAt i = some item → item.uniqueId ≠ id) →
      (∀ item, entry = some item → item.uniqueId ≠ id) → rows' id = rows id) :
    Records (p.put i entry) rows' := by
  constructor
  · intro j item found proper
    rw [entryAt_put] at found
    split at found
    · next here =>
        rw [here.1]
        exact (own item found proper).1
    · next apart =>
        have away (old : InventoryItem) (here : p.entryAt i = some old) :
            old.uniqueId ≠ item.uniqueId := by
          intro same
          have equal := records.distinct loose i j old item here found same (same ▸ proper)
          exact apart ⟨equal.symm, lt_length_of_entryAt here⟩
        have new (item' : InventoryItem) (is_new : entry = some item') :
            item'.uniqueId ≠ item.uniqueId := by
          intro same
          have proper' : item'.uniqueId ≠ 0 := same ▸ proper
          have equal := fresh item' is_new proper' j item found same.symm
          exact apart ⟨equal, (own item' is_new proper').2⟩
        rw [others item.uniqueId proper away new]
        exact records.present j item found proper
  · intro id row proper found mine
    by_cases new : ∃ item, entry = some item ∧ item.uniqueId = id
    · obtain ⟨item, is_new, same⟩ := new
      have inside := (own item is_new (same ▸ proper)).2
      exact ⟨i, item, by rw [entryAt_put_self _ inside, is_new], same⟩
    · by_cases old : ∃ item, p.entryAt i = some item ∧ item.uniqueId = id
      · obtain ⟨item, here, same⟩ := old
        cases gone item here (same ▸ proper) with
        | inl absent =>
            rw [same, found] at absent
            contradiction
        | inr kept =>
            obtain ⟨item', is_new, same'⟩ := kept
            exact absurd ⟨item', is_new, same'.trans same⟩ new
      · rw [others id proper (fun item here same => old ⟨item, here, same⟩)
          fun item here same => new ⟨item, here, same⟩] at found
        obtain ⟨j, item, there, same⟩ := records.recorded id row proper found mine
        have apart : j ≠ i := by
          intro equal
          rw [equal] at there
          exact old ⟨item, there, same⟩
        exact ⟨j, item, by rw [entryAt_put_of_ne _ apart, there], same⟩

theorem Records.congr {p' : ItemPackage} (records : Records p rows)
    (entries : ∀ i, p'.entryAt i = p.entryAt i) (code : p'.code = p.code) : Records p' rows := by
  constructor
  · intro i item found proper
    rw [entries] at found
    rw [rowAt, code]
    exact records.present i item found proper
  · intro id row proper found mine
    rw [code] at mine
    obtain ⟨i, item, here, same⟩ := records.recorded id row proper found mine
    exact ⟨i, item, by rw [entries, here], same⟩

theorem elsewhere_of {code : UInt16}
    (written : ∀ id, id ≠ 0 → rows' id = rows id ∨
      (∀ row, rows id = some row → row.itemPackage = code) ∧
        ∀ row, rows' id = some row → row.itemPackage = code) :
    Elsewhere code rows rows' := by
  intro id row proper other
  cases written id proper with
  | inl same => rw [same]
  | inr mine =>
      constructor
      · intro found
        exact absurd (mine.2 row found) other
      · intro found
        exact absurd (mine.1 row found) other

end

/-! ### One write -/

section Writes

variable {p : ItemPackage} {rows : Rows}

theorem records_requantify (records : Records p rows) (loose : p.Loose) {i : Nat}
    (here : p.entryAt i = some item) (quantity : Int32) :
    Records (p.put i (some { item with quantity })) (rows.setQuantity item.uniqueId quantity) ∧
      Elsewhere p.code rows (rows.setQuantity item.uniqueId quantity) := by
  constructor
  · apply records.put loose
    · intro _ own proper
      cases own
      refine ⟨?_, lt_length_of_entryAt here⟩
      rw [Rows.setQuantity, update_self, records.present i item here proper]
      rfl
    · intro _ own proper j other there same
      cases own
      exact records.distinct loose j i other item there here same (same ▸ proper)
    · intro _ old _
      rw [here] at old
      cases old
      exact Or.inr ⟨_, rfl, rfl⟩
    · intro id _ old _
      exact update_of_ne (old item here).symm _ _
  · apply elsewhere_of
    intro id proper
    by_cases own : id = item.uniqueId
    · rw [own] at proper
      have row := records.present i item here proper
      right
      rw [own, Rows.setQuantity, update_self, row]
      constructor
      · intro _ found
        cases found
        rfl
      · intro _ found
        cases found
        rfl
    · exact Or.inl (update_of_ne own _ _)

theorem records_drop (records : Records p rows) (loose : p.Loose) {i : Nat}
    (here : p.entryAt i = some item) :
    Records (p.put i none) (rows.removeItem item.uniqueId) ∧
      Elsewhere p.code rows (rows.removeItem item.uniqueId) := by
  constructor
  · apply records.put loose
    · intro _ impossible
      contradiction
    · intro _ impossible
      contradiction
    · intro _ old _
      rw [here] at old
      cases old
      exact Or.inl (update_self _ _ _)
    · intro id _ old _
      exact update_of_ne (old item here).symm _ _
  · apply elsewhere_of
    intro id proper
    by_cases own : id = item.uniqueId
    · rw [own] at proper
      have row := records.present i item here proper
      right
      rw [own, Rows.removeItem, update_self, row]
      constructor
      · intro _ found
        cases found
        rfl
      · intro _ impossible
        contradiction
    · exact Or.inl (update_of_ne own _ _)

theorem records_spawn (records : Records p rows) (loose : p.Loose) {i : Nat}
    (inside : i < p.list.length) (empty : p.entryAt i = none) (item : InventoryItem)
    (free : item.uniqueId ≠ 0 → rows item.uniqueId = none) :
    Records (p.put i (some item)) (rows.addItem item.uniqueId (rowAt p i item)) ∧
      Elsewhere p.code rows (rows.addItem item.uniqueId (rowAt p i item)) := by
  have written (proper : item.uniqueId ≠ 0) :
      rows.addItem item.uniqueId (rowAt p i item) =
        update rows item.uniqueId (some (rowAt p i item)) := by
    rw [Rows.addItem, free proper]
    rfl
  have kept (id : UInt64) (other : id ≠ item.uniqueId) :
      rows.addItem item.uniqueId (rowAt p i item) id = rows id := by
    rw [Rows.addItem]
    split
    · rfl
    · exact update_of_ne other _ _
  constructor
  · apply records.put loose
    · intro _ own proper
      cases own
      rw [written proper, update_self]
      exact ⟨rfl, inside⟩
    · intro _ own proper j other there same
      cases own
      have row := records.present j other there (same ▸ proper)
      rw [same, free proper] at row
      contradiction
    · intro _ old _
      rw [empty] at old
      contradiction
    · intro id _ _ new
      exact kept id (new item rfl).symm
  · apply elsewhere_of
    intro id proper
    by_cases own : id = item.uniqueId
    · rw [own] at proper
      right
      rw [own, written proper, update_self, free proper]
      constructor
      · intro _ impossible
        contradiction
      · intro _ found
        cases found
        rfl
    · exact Or.inl (kept id own)

theorem records_shift (records : Records p rows) (loose : p.Loose) {i dst : Nat}
    (here : p.entryAt i = some item) (empty : p.entryAt dst = none) (inside : dst < p.list.length) :
    let moved := { item with slot := UInt16.ofNat dst }
    Records ((p.put i none).put dst (some moved)) (rows.updatePosition moved) ∧
      Elsewhere p.code rows (rows.updatePosition moved) := by
  have cleared := (records_drop records loose here).1
  have holeless : (p.put i none).entryAt dst = none := by
    rw [entryAt_put]
    split
    · rfl
    · exact empty
  constructor
  · apply cleared.put (loose.put_none i)
    · intro _ own proper
      cases own
      rw [Rows.updatePosition, update_self, records.present i item here proper]
      refine ⟨rfl, ?_⟩
      rw [ItemPackage.put, List.length_set]
      exact inside
    · intro _ own proper j other there same
      cases own
      have row := cleared.present j other there (same ▸ proper)
      rw [same, Rows.removeItem, update_self] at row
      contradiction
    · intro _ old _
      rw [holeless] at old
      contradiction
    · intro id _ _ new
      have other : id ≠ item.uniqueId := (new _ rfl).symm
      rw [Rows.updatePosition, Rows.removeItem, update_of_ne other, update_of_ne other]
  · apply elsewhere_of
    intro id proper
    by_cases own : id = item.uniqueId
    · rw [own] at proper
      have row := records.present i item here proper
      right
      rw [own, Rows.updatePosition, update_self, row]
      constructor
      · intro _ found
        cases found
        rfl
      · intro _ found
        cases found
        rfl
    · exact Or.inl (update_of_ne own _ _)

end Writes

/-! ### Realign -/

theorem records_realignAt {p : ItemPackage} {rows base : Rows} {n : Nat}
    {s : Ledger.Realigning} (passed : Passed (fun _ _ => True) (fun _ _ => True) p n s)
    (code : s.package.code = p.code)
    (records : Records s.package (rows.updateItemPositions s.updates))
    (elsewhere : Elsewhere p.code base (rows.updateItemPositions s.updates)) :
    (Ledger.realignAt s n).package.code = p.code ∧
      Records (Ledger.realignAt s n).package
        (rows.updateItemPositions (Ledger.realignAt s n).updates) ∧
      Elsewhere p.code base (rows.updateItemPositions (Ledger.realignAt s n).updates) := by
  rw [Ledger.realignAt]
  cases here : s.package.entryAt n with
  | none => cases s.lastNull <;> exact ⟨code, records, elsewhere⟩
  | some item =>
      cases hole : s.lastNull with
      | none => exact ⟨code, records, elsewhere⟩
      | some dst =>
          obtain ⟨before, empty⟩ := passed.holes dst hole
          have room : n < s.package.list.length := lt_length_of_entryAt here
          obtain ⟨moved, apart⟩ := records_shift records passed.loose here
            (empty dst (Nat.le_refl dst) before) (Nat.lt_trans before room)
          rw [code] at apart
          have positions : rows.updateItemPositions
                (s.updates ++ [{ item with slot := UInt16.ofNat dst }]) =
              (rows.updateItemPositions s.updates).updatePosition
                { item with slot := UInt16.ofNat dst } :=
            List.foldl_append
          simp only [positions]
          exact ⟨code, moved, elsewhere.trans apart⟩

theorem records_realigned {p : ItemPackage} {rows : Rows} (loose : p.Loose)
    (records : Records p rows) {n : Nat} (inside : n ≤ p.endOfListIndex) :
    let s := (List.range n).foldl Ledger.realignAt { package := p }
    s.package.code = p.code ∧ Records s.package (rows.updateItemPositions s.updates) ∧
      Elsewhere p.code rows (rows.updateItemPositions s.updates) := by
  induction n with
  | zero => exact ⟨rfl, records, .refl p.code rows⟩
  | succ n ih =>
      rw [List.range_succ, List.foldl_append]
      obtain ⟨code, records, elsewhere⟩ := ih (Nat.le_of_succ_le inside)
      exact records_realignAt (passed_all loose (Nat.le_of_succ_le inside)) code records elsewhere

end Garlemald.Inventory
