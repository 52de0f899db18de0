import Mathlib.Algebra.BigOperators.Group.List.Basic
import Mathlib.Algebra.Order.Ring.Int
import Mathlib.Data.List.Nodup
import Mathlib.Logic.Function.Basic

/-!
The stored items of characters and retainers. An item is a row of its own under a number that
is given out once; the bag of a character, the bag of a retainer and its bazaar are lists of
references to such rows, in the order in which the database goes through them.
-/

namespace Garlemald.Storage

def PKG_NORMAL : UInt16 := 0
def PKG_CURRENCY_CRYSTALS : UInt16 := 99
def PKG_KEYITEMS : UInt16 := 100
def GIL_ITEM_ID : UInt32 := 1000001

structure ServerItem where
  itemId : UInt32
  quantity : ℤ
  quality : UInt8
deriving DecidableEq

structure InventoryRow where
  characterId : UInt32
  itemPackage : UInt16
  serverItemId : ℕ
  slot : ℤ
deriving DecidableEq

structure BazaarRow where
  retainerId : UInt32
  serverItemId : ℕ
  slot : ℤ
  priceGil : Int32
deriving DecidableEq

structure RetainerRow where
  retainerId : UInt32
  itemPackage : UInt16
  serverItemId : ℕ
  slot : ℤ
deriving DecidableEq

/-- `retainers` are the hires, a character with the template of its retainer. -/
structure Database where
  items : ℕ → Option ServerItem
  lastId : ℕ
  inventory : List InventoryRow
  retainers : List (UInt32 × UInt32)
  bazaar : List BazaarRow
  retainerInventory : List RetainerRow

def readI32 (n : ℤ) : Option ℤ := if -2 ^ 31 ≤ n ∧ n < 2 ^ 31 then some n else none

theorem eq_of_readI32 {n m : ℤ} (read : readI32 n = some m) : m = n := by
  rw [readI32] at read
  split at read
  · exact (Option.some.inj read).symm
  · cases read

def saturateI32 (n : ℤ) : ℤ := max (-2 ^ 31) (min n (2 ^ 31 - 1))

/-- Which items a query asks for: those of an id, and of a quality if it names one. -/
structure Kind where
  itemId : UInt32
  quality : Option UInt8 := none

def Kind.matches (kind : Kind) (item : ServerItem) : Bool :=
  item.itemId = kind.itemId && kind.quality.all (item.quality = ·)

def Kind.gil : Kind := { itemId := GIL_ITEM_ID }

theorem Kind.matches_quantity (kind : Kind) (item : ServerItem) (quantity : ℤ) :
    kind.matches { item with quantity } = kind.matches item := rfl

theorem sum_map_change {α κ : Type} {key : α → κ} {rows : List α} (keys : (rows.map key).Nodup)
    {row : α} (present : row ∈ rows) {f g : α → ℤ}
    (same : ∀ x ∈ rows, key x ≠ key row → g x = f x) :
    (rows.map g).sum = (rows.map f).sum + (g row - f row) := by
  induction rows with
  | nil => cases present
  | cons x rows ih =>
      obtain ⟨fresh, later⟩ := List.nodup_cons.mp keys
      simp only [List.map_cons, List.sum_cons]
      obtain rfl | behind := List.mem_cons.mp present
      · have rest : rows.map g = rows.map f := by
          apply List.map_congr_left
          intro y inside
          apply same y (List.mem_cons_of_mem _ inside)
          intro equal
          exact fresh (equal ▸ List.mem_map_of_mem inside)
        rw [rest]
        omega
      · have differ : key x ≠ key row := by
          intro equal
          exact fresh (equal ▸ List.mem_map_of_mem behind)
        rw [same x List.mem_cons_self differ,
          ih later behind fun y inside => same y (List.mem_cons_of_mem _ inside)]
        omega

namespace Database

variable (db : Database)

def references : List ℕ :=
  db.inventory.map (·.serverItemId) ++ db.bazaar.map (·.serverItemId) ++
    db.retainerInventory.map (·.serverItemId)

/-- A number is given out once, every reference has its item and no item is in two places. -/
structure Sound : Prop where
  given : ∀ id item, db.items id = some item → id ≤ db.lastId
  resolved : ∀ id ∈ db.references, (db.items id).isSome = true
  once : db.references.Nodup

def stackOf (chara : UInt32) (package : UInt16) (kind : Kind) (row : InventoryRow) :
    Option (ℕ × ServerItem) :=
  if row.characterId = chara ∧ row.itemPackage = package then
    ((db.items row.serverItemId).filter kind.matches).map (row.serverItemId, ·)
  else none

def held (chara : UInt32) (package : UInt16) (kind : Kind) : List (ℕ × ServerItem) :=
  db.inventory.filterMap (db.stackOf chara package kind)

def total (chara : UInt32) (package : UInt16) (kind : Kind) : ℤ :=
  ((db.held chara package kind).map (·.2.quantity)).sum

/-- `COALESCE(MAX(slot), -1) + 1` -/
def nextSlot (chara : UInt32) (package : UInt16) : ℤ :=
  (((db.inventory.filter fun row => row.characterId = chara ∧ row.itemPackage = package).map
    (·.slot)).max?).getD (-1) + 1

/-- `UPDATE server_items SET quantity` -/
def changeQuantity (id : ℕ) (f : ℤ → ℤ) : Database :=
  { db with
    items := Function.update db.items id
      ((db.items id).map fun item => { item with quantity := f item.quantity }) }

def setQuantity (id : ℕ) (quantity : ℤ) : Database := db.changeQuantity id fun _ => quantity

def addQuantity (id : ℕ) (delta : ℤ) : Database := db.changeQuantity id (· + delta)

def insertItem (chara : UInt32) (package : UInt16) (slot : ℤ) (item : ServerItem) : Database :=
  { db with
    items := Function.update db.items (db.lastId + 1) (some item)
    lastId := db.lastId + 1
    inventory := db.inventory ++ [⟨chara, package, db.lastId + 1, slot⟩] }

/-- What the database is after a call: a call that fails leaves it as it is. -/
def after {α : Type} (result : Option (α × Database)) : Database := (result.map Prod.snd).getD db

variable {db : Database}

variable {row : InventoryRow} {item : ServerItem} {package : UInt16} {chara : UInt32}
  {db' : Database}

theorem mem_held {kind : Kind} {id : ℕ} :
    (id, item) ∈ db.held chara package kind ↔
      ∃ row ∈ db.inventory, row.characterId = chara ∧ row.itemPackage = package ∧
        row.serverItemId = id ∧ db.items id = some item ∧ kind.matches item = true := by
  rw [held, List.mem_filterMap]
  apply exists_congr
  intro row
  apply and_congr_right
  intro _
  rw [stackOf]
  split
  · next here =>
      simp only [Option.map_eq_some_iff, Option.filter_eq_some_iff, Prod.mk.injEq, here, true_and]
      constructor
      · rintro ⟨stored, ⟨found, fits⟩, same, rfl⟩
        exact ⟨same, same ▸ found, fits⟩
      · rintro ⟨rfl, found, fits⟩
        exact ⟨item, ⟨found, fits⟩, rfl, rfl⟩
  · next elsewhere =>
      constructor
      · intro impossible
        cases impossible
      · rintro ⟨inside, stored, _⟩
        exact absurd ⟨inside, stored⟩ elsewhere

def amount (db : Database) (chara : UInt32) (package : UInt16) (kind : Kind)
    (row : InventoryRow) : ℤ :=
  ((db.stackOf chara package kind row).map (·.2.quantity)).getD 0

theorem total_eq_sum (chara : UInt32) (package : UInt16) (kind : Kind) :
    db.total chara package kind = (db.inventory.map (db.amount chara package kind)).sum := by
  rw [total, held]
  induction db.inventory with
  | nil => rfl
  | cons row rows ih =>
      rw [List.filterMap_cons, List.map_cons, List.sum_cons, ← ih, amount]
      cases db.stackOf chara package kind row <;> simp

theorem stackOf_congr (same : db'.items row.serverItemId = db.items row.serverItemId)
    (chara : UInt32) (package : UInt16) (kind : Kind) :
    db'.stackOf chara package kind row = db.stackOf chara package kind row := by
  rw [stackOf, stackOf, same]

theorem amount_congr (same : db'.items row.serverItemId = db.items row.serverItemId)
    (chara : UInt32) (package : UInt16) (kind : Kind) :
    db'.amount chara package kind row = db.amount chara package kind row := by
  rw [amount, amount, stackOf_congr same]

theorem amount_of_items (found : db.items row.serverItemId = some item) (chara : UInt32)
    (package : UInt16) (kind : Kind) :
    db.amount chara package kind row =
      if row.characterId = chara ∧ row.itemPackage = package ∧ kind.matches item = true then
        item.quantity
      else 0 := by
  rw [amount, stackOf, found]
  simp only [← and_assoc]
  by_cases here : row.characterId = chara ∧ row.itemPackage = package
  · by_cases fits : kind.matches item = true
    · simp [here, fits, Option.filter]
    · simp [here, fits, Option.filter]
  · simp [here]

theorem Sound.keys (sound : db.Sound) : (db.inventory.map (·.serverItemId)).Nodup := by
  have once := sound.once
  rw [references, List.append_assoc] at once
  exact (List.nodup_append.mp once).1

theorem changeQuantity_items (id : ℕ) (f : ℤ → ℤ) (found : db.items id = some item) :
    (db.changeQuantity id f).items =
      Function.update db.items id (some { item with quantity := f item.quantity }) := by
  rw [changeQuantity, found]
  rfl

theorem total_changeQuantity (sound : db.Sound) (present : row ∈ db.inventory)
    (found : db.items row.serverItemId = some item) (f : ℤ → ℤ) (chara : UInt32)
    (package : UInt16) (kind : Kind) :
    (db.changeQuantity row.serverItemId f).total chara package kind =
      db.total chara package kind +
        if row.characterId = chara ∧ row.itemPackage = package ∧ kind.matches item = true then
          f item.quantity - item.quantity
        else 0 := by
  have after := changeQuantity_items row.serverItemId f found
  have here : (db.changeQuantity row.serverItemId f).items row.serverItemId =
      some { item with quantity := f item.quantity } := by
    rw [after, Function.update_self]
  rw [total_eq_sum, total_eq_sum]
  have changed := sum_map_change (f := db.amount chara package kind)
    (g := (db.changeQuantity row.serverItemId f).amount chara package kind) sound.keys present
    (by
      intro x _ other
      apply amount_congr
      rw [after, Function.update_of_ne other])
  rw [amount_of_items here, amount_of_items found, Kind.matches_quantity] at changed
  refine changed.trans ?_
  split
  · rfl
  · omega

theorem Sound.changeQuantity (sound : db.Sound) (id : ℕ) (f : ℤ → ℤ) :
    (db.changeQuantity id f).Sound := by
  have some_iff (k : ℕ) :
      ((db.changeQuantity id f).items k).isSome = (db.items k).isSome := by
    simp only [Database.changeQuantity, Function.update_apply]
    split
    · next here => rw [here, Option.isSome_map]
    · rfl
  refine ⟨?_, ?_, sound.once⟩
  · intro k item stored
    have present : (db.items k).isSome = true := by
      rw [← some_iff, stored]
      rfl
    obtain ⟨old, found⟩ := Option.isSome_iff_exists.mp present
    exact sound.given k old found
  · intro k referenced
    rw [some_iff]
    exact sound.resolved k referenced

theorem Sound.items_later (sound : db.Sound) {id : ℕ} (later : db.lastId < id) :
    db.items id = none := by
  rw [Option.eq_none_iff_forall_ne_some]
  intro item found
  have := sound.given id item found
  omega

theorem Sound.fresh (sound : db.Sound) : db.items (db.lastId + 1) = none :=
  sound.items_later (Nat.lt_succ_self _)

theorem Sound.unreferenced (sound : db.Sound) : db.lastId + 1 ∉ db.references := by
  intro referenced
  have present := sound.resolved _ referenced
  rw [sound.fresh] at present
  cases present

theorem references_insertItem (chara : UInt32) (package : UInt16) (slot : ℤ) (item : ServerItem) :
    (db.insertItem chara package slot item).references.Perm
      ((db.lastId + 1) :: db.references) := by
  rw [references, references, insertItem]
  simp only [List.map_append, List.map_cons, List.map_nil, List.append_assoc]
  exact List.perm_middle

theorem insertItem_items_of_ne {slot : ℤ} {id : ℕ} (old : id ≠ db.lastId + 1) :
    (db.insertItem chara package slot item).items id = db.items id :=
  Function.update_of_ne old _ _

theorem insertItem_items_self (chara : UInt32) (package : UInt16) (slot : ℤ) (item : ServerItem) :
    (db.insertItem chara package slot item).items (db.lastId + 1) = some item :=
  Function.update_self _ _ _

theorem Sound.insert (sound : db.Sound)
    (items : db'.items = Function.update db.items (db.lastId + 1) (some item))
    (last : db'.lastId = db.lastId + 1)
    (rows : db'.references.Perm ((db.lastId + 1) :: db.references)) : db'.Sound := by
  refine ⟨?_, ?_, ?_⟩
  · intro id stored found
    rw [last]
    by_cases new : id = db.lastId + 1
    · exact new.le
    · rw [items, Function.update_of_ne new] at found
      exact (sound.given id stored found).trans (Nat.le_succ _)
  · intro id referenced
    rw [items]
    obtain rfl | old := List.mem_cons.mp (rows.mem_iff.mp referenced)
    · rw [Function.update_self]
      rfl
    · have other : id ≠ db.lastId + 1 := fun new => sound.unreferenced (new ▸ old)
      rw [Function.update_of_ne other]
      exact sound.resolved id old
  · exact rows.nodup_iff.mpr (List.nodup_cons.mpr ⟨sound.unreferenced, sound.once⟩)

theorem Sound.insertItem (sound : db.Sound) (chara : UInt32) (package : UInt16) (slot : ℤ)
    (item : ServerItem) : (db.insertItem chara package slot item).Sound :=
  sound.insert rfl rfl (references_insertItem chara package slot item)

theorem mem_references (present : row ∈ db.inventory) : row.serverItemId ∈ db.references := by
  rw [references, List.append_assoc]
  exact List.mem_append_left _ (List.mem_map_of_mem present)

theorem total_insertItem (sound : db.Sound) (owner : UInt32) (stored : UInt16) (slot : ℤ)
    (item : ServerItem) (chara : UInt32) (package : UInt16) (kind : Kind) :
    (db.insertItem owner stored slot item).total chara package kind =
      db.total chara package kind +
        if owner = chara ∧ stored = package ∧ kind.matches item = true then item.quantity
        else 0 := by
  rw [total_eq_sum, total_eq_sum]
  have rows : (db.insertItem owner stored slot item).inventory =
      db.inventory ++ [⟨owner, stored, db.lastId + 1, slot⟩] := rfl
  rw [rows, List.map_append, List.sum_append, List.map_singleton, List.sum_singleton,
    amount_of_items (insertItem_items_self owner stored slot item)]
  congr 2
  apply List.map_congr_left
  intro row present
  apply amount_congr
  apply insertItem_items_of_ne
  intro new
  exact sound.unreferenced (new ▸ mem_references present)

theorem held_congr (rows : db'.inventory = db.inventory)
    (same : ∀ row ∈ db.inventory, row.characterId = chara → row.itemPackage = package →
      db'.items row.serverItemId = db.items row.serverItemId) (kind : Kind) :
    db'.held chara package kind = db.held chara package kind := by
  rw [held, held, rows]
  apply List.filterMap_congr
  intro row inside
  rw [stackOf, stackOf]
  split
  · next here => rw [same row inside here.1 here.2]
  · rfl

theorem row_unique (sound : db.Sound) {row other : InventoryRow} (one : row ∈ db.inventory)
    (two : other ∈ db.inventory) (same : row.serverItemId = other.serverItemId) : row = other :=
  List.inj_on_of_nodup_map sound.keys one two same

theorem held_changeQuantity (sound : db.Sound) (present : row ∈ db.inventory) (f : ℤ → ℤ)
    (elsewhere : ¬ (row.characterId = chara ∧ row.itemPackage = package)) (kind : Kind) :
    (db.changeQuantity row.serverItemId f).held chara package kind =
      db.held chara package kind := by
  have rows : (db.changeQuantity row.serverItemId f).inventory = db.inventory := rfl
  apply held_congr rows
  intro other inside owned stored
  apply Function.update_of_ne
  intro same
  rw [row_unique sound inside present same] at owned stored
  exact elsewhere ⟨owned, stored⟩

theorem held_insertItem (sound : db.Sound) {owner : UInt32} {stored : UInt16} (slot : ℤ)
    (item : ServerItem) (elsewhere : ¬ (owner = chara ∧ stored = package)) (kind : Kind) :
    (db.insertItem owner stored slot item).held chara package kind =
      db.held chara package kind := by
  have rows : (db.insertItem owner stored slot item).inventory =
      db.inventory ++ [⟨owner, stored, db.lastId + 1, slot⟩] := rfl
  rw [held, held, rows, List.filterMap_append, List.filterMap_cons, List.filterMap_nil]
  simp only [stackOf, elsewhere, if_false, List.append_nil]
  apply List.filterMap_congr
  intro row inside
  apply stackOf_congr
  exact insertItem_items_of_ne fun new => sound.unreferenced (new ▸ mem_references inside)

theorem not_mem_bazaar (sound : db.Sound) (present : row ∈ db.inventory) {listed : BazaarRow}
    (offered : listed ∈ db.bazaar) : listed.serverItemId ≠ row.serverItemId := by
  have once := sound.once
  rw [references, List.append_assoc] at once
  have apart := (List.nodup_append.mp once).2.2 row.serverItemId (List.mem_map_of_mem present)
    listed.serverItemId (List.mem_append_left _ (List.mem_map_of_mem offered))
  exact apart.symm

def empty : Database := ⟨fun _ => none, 0, [], [], [], []⟩

theorem sound_empty : empty.Sound where
  given _ _ found := by cases found
  resolved _ referenced := by cases referenced
  once := List.nodup_nil

end Database
end Garlemald.Storage
