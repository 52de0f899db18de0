import Garlemald.Storage.Bazaar
import Mathlib.Data.List.Sort

/-!
What a character is given and what is taken from it. Items of the bag are topped up in the order
of their slots and go on in stacks of their own, key items are held once, and gil and seals are
one stack each.
-/

namespace Garlemald.Storage

def GC_MAELSTROM : UInt8 := 1
def GC_TWIN_ADDER : UInt8 := 2
def GC_IMMORTAL_FLAMES : UInt8 := 3
def SEAL_STORM : UInt32 := 1000201
def SEAL_SERPENT : UInt32 := 1000202
def SEAL_FLAME : UInt32 := 1000203

def sealItemId (gc : UInt8) : Option UInt32 :=
  if gc = GC_MAELSTROM then some SEAL_STORM
  else if gc = GC_TWIN_ADDER then some SEAL_SERPENT
  else if gc = GC_IMMORTAL_FLAMES then some SEAL_FLAME
  else none

/-- `COALESCE(NULLIF(maxStack, 0), 99)`, where an item without a row has none. -/
def maxStackColumn (maxStack : UInt32 → Option ℤ) (itemId : UInt32) : ℤ :=
  match maxStack itemId with
  | none | some 0 => 99
  | some n => n

def stackLimit (maxStack : UInt32 → Option ℤ) (itemId : UInt32) : ℤ :=
  max (maxStackColumn maxStack itemId) 1

def stackMax (maxStack : UInt32 → Option ℤ) (itemId : UInt32) : Option { m : ℤ // 1 ≤ m } :=
  (readI32 (maxStackColumn maxStack itemId)).map fun n => ⟨max n 1, le_max_right _ _⟩

namespace Database

variable (db : Database)

def slots (chara : UInt32) (package : UInt16) : List ℤ :=
  (db.inventory.filter fun row => row.characterId = chara ∧ row.itemPackage = package).map (·.slot)

/-- `ORDER BY slot` -/
def getItemPackage (chara : UInt32) (package : UInt16) : List (ℕ × ServerItem) :=
  (db.inventory.mergeSort fun a b => a.slot ≤ b.slot).filterMap fun row =>
    if row.characterId = chara ∧ row.itemPackage = package then
      (db.items row.serverItemId).map (row.serverItemId, ·)
    else none

/-- Fills up the stacks that are there; what is left over comes back with the database. -/
def topUp (stackMax : ℤ) : ℤ → List (ℕ × ℤ) → Database → ℤ × Database
  | remaining, [], db => (remaining, db)
  | remaining, (id, quantity) :: existing, db =>
      if remaining = 0 then (remaining, db)
      else if quantity ≥ stackMax then topUp stackMax remaining existing db
      else
        let take := min remaining (stackMax - quantity)
        if take > 0 then topUp stackMax (remaining - take) existing (db.addQuantity id take)
        else topUp stackMax remaining existing db

variable {db} in
theorem topUp_keeps {P : Database → Prop} (m : ℤ) (existing : List (ℕ × ℤ)) (remaining : ℤ)
    (kept : ∀ db, ∀ stack ∈ existing, ∀ amount, P db → P (db.addQuantity stack.1 amount))
    (start : P db) : P (topUp m remaining existing db).2 := by
  induction existing generalizing db remaining with
  | nil => exact start
  | cons stack existing ih =>
      obtain ⟨id, quantity⟩ := stack
      have behind := fun db stack inside => kept db stack (List.mem_cons_of_mem _ inside)
      rw [topUp]
      split
      · exact start
      · split
        · exact ih remaining behind start
        · dsimp only
          split
          · exact ih _ behind (kept db (id, quantity) List.mem_cons_self _ start)
          · exact ih remaining behind start

theorem inventory_topUp (m : ℤ) (existing : List (ℕ × ℤ)) (remaining : ℤ) :
    (topUp m remaining existing db).2.inventory = db.inventory :=
  topUp_keeps (P := fun after => after.inventory = db.inventory) m existing remaining
    (fun _ _ _ _ same => same) rfl

def spill (stackMax : { m : ℤ // 1 ≤ m }) (chara itemCatalogId : UInt32) (quality : UInt8)
    (remaining : ℤ) (db : Database) : Option Database :=
  if 0 < remaining then
    (readI32 (db.nextSlot chara PKG_NORMAL)).bind fun slot =>
      spill stackMax chara itemCatalogId quality (remaining - min remaining stackMax)
        (db.insertItem chara PKG_NORMAL slot ⟨itemCatalogId, min remaining stackMax, quality⟩)
  else some db
termination_by remaining.toNat
decreasing_by
  have := stackMax.2
  omega

variable {db} in
@[elab_as_elim]
theorem spill_run {m : { m : ℤ // 1 ≤ m }} {chara itemId : UInt32} {quality : UInt8}
    {db' : Database} {motive : ℤ → Database → Prop}
    (opened : ∀ (remaining : ℤ) db slot, 0 < remaining →
      readI32 (db.nextSlot chara PKG_NORMAL) = some slot →
        motive (remaining - min remaining m)
          (db.insertItem chara PKG_NORMAL slot ⟨itemId, min remaining m, quality⟩) →
            motive remaining db)
    (filled : ∀ remaining, remaining ≤ 0 → motive remaining db') {remaining : ℤ}
    (done : db.spill m chara itemId quality remaining = some db') : motive remaining db := by
  induction remaining, db using spill.induct m chara itemId quality with
  | case1 remaining db left ih =>
      rw [spill, if_pos left] at done
      obtain ⟨slot, read, later⟩ := Option.bind_eq_some_iff.mp done
      exact opened remaining db slot left read (ih slot later)
  | case2 remaining db none_left =>
      rw [spill, if_neg none_left] at done
      cases done
      exact filled remaining (not_lt.mp none_left)

def addHarvestItem (maxStack : UInt32 → Option ℤ) (chara itemCatalogId : UInt32) (delta : Int32)
    (quality : UInt8) : Option (ℤ × Database) :=
  if delta ≤ 0 ∨ itemCatalogId = 0 then some (0, db)
  else do
    let kind : Kind := { itemId := itemCatalogId, quality }
    let stackMax ← stackMax maxStack itemCatalogId
    let existing ← ((db.getItemPackage chara PKG_NORMAL).filter (kind.matches ·.2)).mapM
      fun stack => (readI32 stack.2.quantity).map (stack.1, ·)
    let (remaining, topped) := topUp stackMax delta.toInt existing db
    let spilled ← topped.spill stackMax chara itemCatalogId quality remaining
    let newTotal ← readI32 (spilled.total chara PKG_NORMAL kind)
    some (newTotal, spilled)

def addKeyItem (chara keyItemId : UInt32) : Bool × Database :=
  if keyItemId = 0 then (false, db)
  else
    match (db.held chara PKG_KEYITEMS { itemId := keyItemId }).head? with
    | some _ => (false, db)
    | none =>
        let slot := (readI32 (db.nextSlot chara PKG_KEYITEMS)).getD 0
        (true, db.insertItem chara PKG_KEYITEMS slot ⟨keyItemId, 1, 1⟩)

/-- Changes the first stack of a currency, or makes one. -/
def addCurrency (chara itemId : UInt32) (slot : ℤ) (delta : Int32) : Option (ℤ × Database) :=
  match (db.held chara PKG_CURRENCY_CRYSTALS { itemId }).head? with
  | some (id, stack) => do
      let quantity ← readI32 stack.quantity
      let updated := max (saturateI32 (quantity + delta.toInt)) 0
      some (updated, db.setQuantity id updated)
  | none =>
      let seed := max delta.toInt 0
      some (seed, db.insertItem chara PKG_CURRENCY_CRYSTALS slot ⟨itemId, seed, 1⟩)

def addGil (chara : UInt32) (delta : Int32) : Option (ℤ × Database) :=
  db.addCurrency chara GIL_ITEM_ID 0 delta

def addSeals (chara : UInt32) (gc : UInt8) (delta : Int32) : Option (ℤ × Database) :=
  match sealItemId gc with
  | none => some (0, db)
  | some sealId =>
      db.addCurrency chara sealId
        ((readI32 (db.nextSlot chara PKG_CURRENCY_CRYSTALS)).getD 0) delta

/-- `DELETE FROM characters_inventory`; the item itself stays. -/
def removeItem (chara : UInt32) (id : ℕ) : Database :=
  { db with
    inventory := db.inventory.filter fun row =>
      !(row.characterId = chara ∧ row.serverItemId = id) }

def applyAddGil (chara : UInt32) (amount : Int32) : Database :=
  if amount = 0 then db else db.after (db.addGil chara amount)

def applyAddItem (maxStack : UInt32 → Option ℤ) (chara : UInt32) (itemPackage : UInt16)
    (itemId : UInt32) (quantity : Int32) : Database :=
  if quantity ≤ 0 ∨ itemId = 0 then db
  else if itemPackage = PKG_CURRENCY_CRYSTALS then db.applyAddGil chara quantity
  else if itemPackage = PKG_KEYITEMS then (db.addKeyItem chara itemId).2
  else if itemPackage ≠ PKG_NORMAL then db
  else db.after (db.addHarvestItem maxStack chara itemId quantity 1)

/-- Goes through the stacks from the last slot to the first. -/
def removeLoop (chara catalogId : UInt32) : ℤ → List (ℕ × ServerItem) → Database → Database
  | _, [], db => db
  | remaining, (id, item) :: rows, db =>
      if remaining ≤ 0 then db
      else if item.itemId ≠ catalogId then removeLoop chara catalogId remaining rows db
      else
        let quantity := (readI32 item.quantity).getD 1
        if quantity > remaining then
          removeLoop chara catalogId 0 rows (db.setQuantity id (quantity - remaining))
        else removeLoop chara catalogId (remaining - quantity) rows (db.removeItem chara id)

def applyRemoveItem (chara : UInt32) (itemPackage : UInt16) (catalogId : UInt32)
    (quantity : Int32) : Database :=
  if quantity ≤ 0 ∨ catalogId = 0 then db
  else
    removeLoop chara catalogId quantity.toInt (db.getItemPackage chara itemPackage).reverse db

end Database
end Garlemald.Storage
