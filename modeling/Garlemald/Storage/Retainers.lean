import Garlemald.Library.Join
import Garlemald.Storage.Purchase
import Mathlib.Data.List.Sort

/-!
What retainers keep and offer. A hire is a row of a character and a template; the goods are rows
of the template, whoever has hired it. A book is what is to be seen of the goods of a template:
the numbers that the database gives to the items are not in it.
-/

namespace Garlemald.Storage

open Library

/-- A stack on a shelf: `key` is its price in a bazaar and its package in an inventory. -/
structure Entry (κ : Type) where
  key : κ
  slot : ℤ
  item : ServerItem
deriving DecidableEq

/-- `COALESCE(MAX(slot), -1) + 1`, and 0 if that is not a number of 32 bits -/
def slotAfter (slots : List ℤ) : ℤ := (readI32 (slots.max?.getD (-1) + 1)).getD 0

namespace Entry

variable {κ : Type}

def fits [DecidableEq κ] (key : κ) (itemId : UInt32) (quality : UInt8) (entry : Entry κ) : Bool :=
  entry.key = key && entry.item.itemId = itemId && entry.item.quality = quality

def updated (delta : Int32) (entry : Entry κ) : Option ℤ := do
  let quantity ← readI32 entry.item.quantity
  let _ ← readI32 entry.slot
  some (max (saturateI32 (quantity + delta.toInt)) 0)

def alter (f : ℤ → ℤ) (entry : Entry κ) : Entry κ :=
  { entry with item := { entry.item with quantity := f entry.item.quantity } }

def readable (entry : Entry κ) : Option (Entry κ) := do
  let _ ← readI32 entry.item.quantity
  let _ ← readI32 entry.slot
  some entry

end Entry

namespace Database

variable (db : Database)

def bazaarStock (retainer : UInt32) : List (ℕ × Entry Int32) :=
  join db.items BazaarRow.serverItemId (fun row item => ⟨row.priceGil, row.slot, item⟩)
    (db.bazaar.filter (·.retainerId = retainer))

def retainerStock (retainer : UInt32) : List (ℕ × Entry UInt16) :=
  join db.items RetainerRow.serverItemId (fun row item => ⟨row.itemPackage, row.slot, item⟩)
    (db.retainerInventory.filter (·.retainerId = retainer))

def insertStored (retainer : UInt32) (package : UInt16) (slot : ℤ) (item : ServerItem) :
    Database :=
  { db with
    items := Function.update db.items (db.lastId + 1) (some item)
    lastId := db.lastId + 1
    retainerInventory := db.retainerInventory ++ [⟨retainer, package, db.lastId + 1, slot⟩] }

/-- Adds to the first stack that fits, or makes a new one. -/
def addStack {κ : Type} [DecidableEq κ] (stock : List (ℕ × Entry κ)) (slots : List ℤ)
    (insert : ℤ → ServerItem → Database) (key : κ) (itemCatalogId : UInt32) (delta : Int32)
    (quality : UInt8) : Option (ℤ × Database) :=
  if delta ≤ 0 ∨ itemCatalogId = 0 then some (0, db)
  else
    match stock.find? fun entry => entry.2.fits key itemCatalogId quality with
    | some (id, entry) =>
        (entry.updated delta).map fun updated => (updated, db.setQuantity id updated)
    | none =>
        let seed := max delta.toInt 0
        some (seed, insert (slotAfter slots) ⟨itemCatalogId, seed, quality⟩)

def addRetainerInventoryItem (retainer itemCatalogId : UInt32) (delta : Int32) (quality : UInt8)
    (itemPackage : UInt16) : Option (ℤ × Database) :=
  db.addStack (db.retainerStock retainer)
    ((db.retainerInventory.filter fun row =>
      row.retainerId = retainer ∧ row.itemPackage = itemPackage).map (·.slot))
    (db.insertStored retainer itemPackage) itemPackage itemCatalogId delta quality

def addRetainerBazaarItem (retainer itemCatalogId : UInt32) (delta : Int32) (quality : UInt8)
    (priceGil : Int32) : Option (ℤ × Database) :=
  db.addStack (db.bazaarStock retainer)
    ((db.bazaar.filter (·.retainerId = retainer)).map (·.slot))
    (fun slot => db.insertListing retainer slot priceGil) priceGil itemCatalogId delta quality

def removeRetainerBazaarItem (retainer : UInt32) (id : ℕ) : Bool × Database :=
  if db.bazaar.any fun row => row.retainerId = retainer ∧ row.serverItemId = id then
    (true, db.removeListing retainer id)
  else (false, db)

/-- `ORDER BY slot`; a listing that cannot be read fails the query. -/
def listRetainerBazaar (retainer : UInt32) : Option (List (ℕ × Entry Int32)) :=
  ((db.bazaarStock retainer).mergeSort fun a b => a.2.slot ≤ b.2.slot).mapM fun entry =>
    entry.2.readable.map (entry.1, ·)

/-- `INSERT OR IGNORE`; the hires are gone through in the order of their index, which goes by
the character. -/
def hireRetainer (chara retainer : UInt32) : Bool × Database :=
  if (chara, retainer) ∈ db.retainers then (false, db)
  else
    (true,
      { db with retainers := db.retainers.orderedInsert (·.1 ≤ ·.1) (chara, retainer) })

def dismissRetainer (chara retainer : UInt32) : Bool × Database :=
  ((chara, retainer) ∈ db.retainers,
    { db with retainers := db.retainers.filter (· ≠ (chara, retainer)) })

end Database

structure Book where
  bazaar : List (Entry Int32) := []
  inventory : List (Entry UInt16) := []
deriving DecidableEq

inductive Book.Op where
  | store (itemId : UInt32) (delta : Int32) (quality : UInt8) (package : UInt16)
  | list (itemId : UInt32) (delta : Int32) (quality : UInt8) (priceGil : Int32)
  | delist (place : ℕ)
  | sold (place : ℕ)

def shelve {κ : Type} [DecidableEq κ] (key : κ) (itemId : UInt32) (delta : Int32)
    (quality : UInt8) (slots : List ℤ) (entries : List (Entry κ)) : List (Entry κ) :=
  if delta ≤ 0 ∨ itemId = 0 then entries
  else
    upsertFirst (Entry.fits key itemId quality)
      (fun entry => ((entry.updated delta).map fun updated => entry.alter fun _ => updated).getD
        entry)
      ⟨key, slotAfter slots, ⟨itemId, max delta.toInt 0, quality⟩⟩ entries

namespace Book

def apply (book : Book) : Op → Book
  | .store itemId delta quality package =>
      { book with
        inventory := shelve package itemId delta quality
          ((book.inventory.filter (·.key = package)).map (·.slot)) book.inventory }
  | .list itemId delta quality priceGil =>
      { book with
        bazaar := shelve priceGil itemId delta quality (book.bazaar.map (·.slot)) book.bazaar }
  | .delist place => { book with bazaar := book.bazaar.eraseIdx place }
  | .sold place => { book with bazaar := book.bazaar.eraseIdx place }

def seen (book : Book) : Option (List (Entry Int32)) × List (Entry UInt16) :=
  ((book.bazaar.mergeSort fun a b => a.slot ≤ b.slot).mapM Entry.readable, book.inventory)

end Book

namespace Database

def book (db : Database) (retainer : UInt32) : Book :=
  { bazaar := (db.bazaarStock retainer).map Prod.snd
    inventory := (db.retainerStock retainer).map Prod.snd }

variable {db : Database}

theorem addStack_after {κ : Type} [DecidableEq κ] {P : Database → Prop}
    {stock : List (ℕ × Entry κ)} {slots : List ℤ} {insert : ℤ → ServerItem → Database}
    (same : P db) (changed : ∀ id ∈ stock.map Prod.fst, ∀ quantity, P (db.setQuantity id quantity))
    (inserted : ∀ slot item, P (insert slot item)) (key : κ) (itemCatalogId : UInt32)
    (delta : Int32) (quality : UInt8) :
    P (db.after (db.addStack stock slots insert key itemCatalogId delta quality)) := by
  rw [addStack]
  split
  · exact same
  · cases found : stock.find? fun entry => entry.2.fits key itemCatalogId quality with
    | none => exact inserted _ _
    | some entry =>
        dsimp only
        cases entry.2.updated delta with
        | none => exact same
        | some updated =>
            have present := List.mem_map_of_mem (f := Prod.fst) (List.mem_of_find?_eq_some found)
            exact changed _ present _

theorem addStack_shelve {κ : Type} [DecidableEq κ] (stock : Database → List (ℕ × Entry κ))
    {slots : List ℤ} {insert : ℤ → ServerItem → Database} {key : κ}
    (keys : ((stock db).map Prod.fst).Nodup)
    (changed : ∀ id f, stock (db.changeQuantity id f) =
      (stock db).map fun entry => if entry.1 = id then (entry.1, entry.2.alter f) else entry)
    (inserted : ∀ slot item,
      stock (insert slot item) = stock db ++ [(db.lastId + 1, ⟨key, slot, item⟩)])
    (itemCatalogId : UInt32) (delta : Int32) (quality : UInt8) :
    (stock (db.after (db.addStack (stock db) slots insert key itemCatalogId delta quality))).map
        Prod.snd = shelve key itemCatalogId delta quality slots ((stock db).map Prod.snd) := by
  rw [addStack, shelve]
  split
  · rfl
  · cases found : (stock db).find? fun entry => entry.2.fits key itemCatalogId quality with
    | none => exact (congrArg _ (inserted _ _)).trans (map_upsertFirst_fresh _ found)
    | some entry =>
        obtain ⟨id, entry⟩ := entry
        dsimp only
        cases merged : entry.updated delta with
        | none => exact (upsertFirst_kept found (by simp [merged])).symm
        | some updated =>
            refine (congrArg _ (changed id fun _ => updated)).trans ?_
            apply map_upsertFirst_found keys found
            simp [merged]

section Stock

theorem bazaarStock_changeQuantity (id : ℕ) (f : ℤ → ℤ) (retainer : UInt32) :
    (db.changeQuantity id f).bazaarStock retainer =
      (db.bazaarStock retainer).map fun entry =>
        if entry.1 = id then (entry.1, entry.2.alter f) else entry :=
  join_update fun _ _ => rfl

theorem retainerStock_changeQuantity (id : ℕ) (f : ℤ → ℤ) (retainer : UInt32) :
    (db.changeQuantity id f).retainerStock retainer =
      (db.retainerStock retainer).map fun entry =>
        if entry.1 = id then (entry.1, entry.2.alter f) else entry :=
  join_update fun _ _ => rfl

theorem bazaarStock_sub (retainer : UInt32) :
    ((db.bazaarStock retainer).map Prod.fst).Sublist (db.bazaar.map (·.serverItemId)) :=
  (join_keys _ _ _ _).trans (List.filter_sublist.map _)

theorem retainerStock_sub (retainer : UInt32) :
    ((db.retainerStock retainer).map Prod.fst).Sublist
      (db.retainerInventory.map (·.serverItemId)) :=
  (join_keys _ _ _ _).trans (List.filter_sublist.map _)

theorem Sound.bazaar_keys (sound : db.Sound) : (db.bazaar.map (·.serverItemId)).Nodup := by
  obtain ⟨front, _, _⟩ := List.nodup_append.mp sound.once
  exact (List.nodup_append.mp front).2.1

theorem Sound.stored_keys (sound : db.Sound) :
    (db.retainerInventory.map (·.serverItemId)).Nodup :=
  (List.nodup_append.mp sound.once).2.1

theorem Sound.offered_or_stored (sound : db.Sound) {id : ℕ}
    (offered : id ∈ db.bazaar.map (·.serverItemId)) :
    id ∉ db.retainerInventory.map (·.serverItemId) := by
  intro stored
  have apart := (List.nodup_append.mp sound.once).2.2
  exact apart id (List.mem_append_right _ offered) id stored rfl

theorem keys_apart {ρ γ : Type} [DecidableEq γ] {key : ρ → ℕ} {group : ρ → γ} {rows : List ρ}
    (keys : (rows.map key).Nodup) {one two : γ} (other : one ≠ two) {id : ℕ}
    (inside : id ∈ (rows.filter (group · = one)).map key) :
    id ∉ (rows.filter (group · = two)).map key := by
  intro also
  obtain ⟨row, kept, rfl⟩ := List.mem_map.mp inside
  obtain ⟨row', kept', same⟩ := List.mem_map.mp also
  obtain ⟨present, here⟩ := List.mem_filter.mp kept
  obtain ⟨present', here'⟩ := List.mem_filter.mp kept'
  obtain rfl := List.inj_on_of_nodup_map keys present' present same
  exact other ((of_decide_eq_true here).symm.trans (of_decide_eq_true here'))

theorem Sound.unoffered (sound : db.Sound) {row : BazaarRow} (offered : row ∈ db.bazaar) :
    row.serverItemId ≠ db.lastId + 1 := by
  intro new
  apply sound.unreferenced
  rw [← new, references, List.append_assoc]
  exact List.mem_append_right _ (List.mem_append_left _ (List.mem_map_of_mem offered))

theorem Sound.unstored (sound : db.Sound) {row : RetainerRow}
    (stored : row ∈ db.retainerInventory) : row.serverItemId ≠ db.lastId + 1 := by
  intro new
  apply sound.unreferenced
  rw [← new, references]
  exact List.mem_append_right _ (List.mem_map_of_mem stored)

theorem bazaarStock_congr {db' : Database} (rows : db'.bazaar = db.bazaar)
    (same : ∀ row ∈ db.bazaar, db'.items row.serverItemId = db.items row.serverItemId)
    (retainer : UInt32) : db'.bazaarStock retainer = db.bazaarStock retainer := by
  rw [bazaarStock, bazaarStock, rows]
  exact join_congr fun row inside => same row (List.mem_of_mem_filter inside)

theorem retainerStock_congr {db' : Database} (rows : db'.retainerInventory = db.retainerInventory)
    (same : ∀ row ∈ db.retainerInventory, db'.items row.serverItemId = db.items row.serverItemId)
    (retainer : UInt32) : db'.retainerStock retainer = db.retainerStock retainer := by
  rw [retainerStock, retainerStock, rows]
  exact join_congr fun row inside => same row (List.mem_of_mem_filter inside)

theorem Sound.insertStored (sound : db.Sound) (retainer : UInt32) (package : UInt16) (slot : ℤ)
    (item : ServerItem) : (db.insertStored retainer package slot item).Sound := by
  apply sound.insert rfl rfl
  rw [references, references, Database.insertStored]
  simp only [List.map_append, List.map_cons, List.map_nil]
  rw [← List.append_assoc]
  exact List.perm_append_singleton _ _

section Inserted

variable (sound : db.Sound) (retainer : UInt32) (slot : ℤ) (item : ServerItem)
include sound

theorem retainerStock_insertListing (priceGil : Int32) (other : UInt32) :
    (db.insertListing retainer slot priceGil item).retainerStock other =
      db.retainerStock other := by
  apply retainerStock_congr
  · rfl
  · intro row stored
    exact Function.update_of_ne (sound.unstored stored) _ _

theorem bazaarStock_insertStored (package : UInt16) (other : UInt32) :
    (db.insertStored retainer package slot item).bazaarStock other = db.bazaarStock other := by
  apply bazaarStock_congr
  · rfl
  · intro row offered
    exact Function.update_of_ne (sound.unoffered offered) _ _

theorem bazaarStock_insertListing (priceGil : Int32) (other : UInt32) :
    (db.insertListing retainer slot priceGil item).bazaarStock other =
      db.bazaarStock other ++
        if retainer = other then [(db.lastId + 1, ⟨priceGil, slot, item⟩)] else [] := by
  have fresh : ∀ row ∈ db.bazaar, row.serverItemId ≠ db.lastId + 1 := fun _ => sound.unoffered
  refine Eq.trans (join_insert (k := db.lastId + 1) (by rfl) fresh _) (congrArg (_ ++ ·) ?_)
  simp only [decide_eq_true_eq]

theorem retainerStock_insertStored (package : UInt16) (other : UInt32) :
    (db.insertStored retainer package slot item).retainerStock other =
      db.retainerStock other ++
        if retainer = other then [(db.lastId + 1, ⟨package, slot, item⟩)] else [] := by
  have fresh : ∀ row ∈ db.retainerInventory, row.serverItemId ≠ db.lastId + 1 :=
    fun _ => sound.unstored
  refine Eq.trans (join_insert (k := db.lastId + 1) (by rfl) fresh _) (congrArg (_ ++ ·) ?_)
  simp only [decide_eq_true_eq]

end Inserted

theorem bazaar_slots (sound : db.Sound) (retainer : UInt32) :
    ((db.bazaarStock retainer).map Prod.snd).map (·.slot) =
      (db.bazaar.filter (·.retainerId = retainer)).map (·.slot) := by
  rw [List.map_map]
  refine join_map (fun entry : Entry Int32 => entry.slot) (fun _ _ => rfl) ?_
  intro row inside
  apply sound.resolved
  rw [references, List.append_assoc]
  have offered := List.mem_map_of_mem (f := BazaarRow.serverItemId) (List.mem_of_mem_filter inside)
  exact List.mem_append_right _ (List.mem_append_left _ offered)

theorem stored_slots (sound : db.Sound) (retainer : UInt32) (package : UInt16) :
    (((db.retainerStock retainer).map Prod.snd).filter (·.key = package)).map (·.slot) =
      (db.retainerInventory.filter fun row =>
        row.retainerId = retainer ∧ row.itemPackage = package).map (·.slot) := by
  have pairs : ((db.retainerStock retainer).map fun entry => (entry.2.key, entry.2.slot)) =
      (db.retainerInventory.filter (·.retainerId = retainer)).map
        fun row => (row.itemPackage, row.slot) := by
    refine join_map (fun entry : Entry UInt16 => (entry.key, entry.slot)) (fun _ _ => rfl) ?_
    intro row inside
    apply sound.resolved
    rw [references]
    exact List.mem_append_right _ (List.mem_map_of_mem (List.mem_of_mem_filter inside))
  have chosen := congrArg
    (fun pairs : List (UInt16 × ℤ) => (pairs.filter (·.1 = package)).map (·.2)) pairs
  simp only [List.filter_map, List.map_map, List.filter_filter] at chosen ⊢
  refine chosen.trans (congrArg (List.map _) (List.filter_congr ?_))
  intro row _
  simp [and_comm]

end Stock

section Books

variable {retainer other : UInt32}

theorem book_eq {db' : Database} (offers : db'.bazaarStock retainer = db.bazaarStock retainer)
    (stored : db'.retainerStock retainer = db.retainerStock retainer) :
    db'.book retainer = db.book retainer := by
  rw [book, book, offers, stored]

theorem bazaarStock_setQuantity {id : ℕ} (sound : db.Sound)
    (stored : id ∈ (db.retainerStock retainer).map Prod.fst) (quantity : ℤ) :
    (db.setQuantity id quantity).bazaarStock other = db.bazaarStock other := by
  refine (bazaarStock_changeQuantity id _ other).trans (map_absent ?_)
  intro offered
  exact sound.offered_or_stored ((bazaarStock_sub other).subset offered)
    ((retainerStock_sub retainer).subset stored)

theorem retainerStock_setQuantity {id : ℕ} (sound : db.Sound)
    (offered : id ∈ (db.bazaarStock retainer).map Prod.fst) (quantity : ℤ) :
    (db.setQuantity id quantity).retainerStock other = db.retainerStock other := by
  refine (retainerStock_changeQuantity id _ other).trans (map_absent ?_)
  intro stored
  exact sound.offered_or_stored ((bazaarStock_sub retainer).subset offered)
    ((retainerStock_sub other).subset stored)

theorem bazaarStock_setQuantity_other {id : ℕ} (sound : db.Sound) (apart : retainer ≠ other)
    (offered : id ∈ (db.bazaarStock retainer).map Prod.fst) (quantity : ℤ) :
    (db.setQuantity id quantity).bazaarStock other = db.bazaarStock other := by
  refine (bazaarStock_changeQuantity id _ other).trans (map_absent ?_)
  intro also
  exact keys_apart sound.bazaar_keys apart ((join_keys _ _ _ _).subset offered)
    ((join_keys _ _ _ _).subset also)

theorem retainerStock_setQuantity_other {id : ℕ} (sound : db.Sound) (apart : retainer ≠ other)
    (stored : id ∈ (db.retainerStock retainer).map Prod.fst) (quantity : ℤ) :
    (db.setQuantity id quantity).retainerStock other = db.retainerStock other := by
  refine (retainerStock_changeQuantity id _ other).trans (map_absent ?_)
  intro also
  exact keys_apart sound.stored_keys apart ((join_keys _ _ _ _).subset stored)
    ((join_keys _ _ _ _).subset also)

variable (sound : db.Sound) (itemCatalogId : UInt32) (delta : Int32) (quality : UInt8)
include sound

theorem Sound.addRetainerInventoryItem (retainer : UInt32) (itemPackage : UInt16) :
    (db.after (db.addRetainerInventoryItem retainer itemCatalogId delta quality
      itemPackage)).Sound := by
  apply addStack_after sound
  · intro id _ quantity
    exact sound.changeQuantity id _
  · intro slot item
    exact sound.insertStored retainer itemPackage slot item

theorem Sound.addRetainerBazaarItem (retainer : UInt32) (priceGil : Int32) :
    (db.after (db.addRetainerBazaarItem retainer itemCatalogId delta quality priceGil)).Sound := by
  apply addStack_after sound
  · intro id _ quantity
    exact sound.changeQuantity id _
  · intro slot item
    exact sound.insertListing retainer slot priceGil item

theorem book_store_self (retainer : UInt32) (itemPackage : UInt16) :
    (db.after (db.addRetainerInventoryItem retainer itemCatalogId delta quality
        itemPackage)).book retainer =
      (db.book retainer).apply (.store itemCatalogId delta quality itemPackage) := by
  have offers : (db.after (db.addRetainerInventoryItem retainer itemCatalogId delta quality
      itemPackage)).bazaarStock retainer = db.bazaarStock retainer := by
    apply addStack_after (P := fun after => after.bazaarStock retainer = db.bazaarStock retainer)
    · rfl
    · exact fun id stored quantity => bazaarStock_setQuantity sound stored quantity
    · exact fun slot item => bazaarStock_insertStored sound retainer slot item itemPackage retainer
  have stored : ((db.after (db.addRetainerInventoryItem retainer itemCatalogId delta quality
      itemPackage)).retainerStock retainer).map Prod.snd =
        ((db.book retainer).apply (.store itemCatalogId delta quality itemPackage)).inventory := by
    refine Eq.trans (addStack_shelve (·.retainerStock retainer) ?_ ?_ ?_ _ _ _)
      (congrArg (fun slots => shelve itemPackage itemCatalogId delta quality slots _)
        (stored_slots sound retainer itemPackage).symm)
    · exact sound.stored_keys.sublist (retainerStock_sub retainer)
    · exact fun id f => retainerStock_changeQuantity id f retainer
    · intro slot item
      exact (retainerStock_insertStored sound retainer slot item itemPackage retainer).trans
        (by rw [if_pos rfl])
  exact congrArg₂ Book.mk (congrArg (List.map Prod.snd) offers) stored

theorem book_list_self (retainer : UInt32) (priceGil : Int32) :
    (db.after (db.addRetainerBazaarItem retainer itemCatalogId delta quality
        priceGil)).book retainer =
      (db.book retainer).apply (.list itemCatalogId delta quality priceGil) := by
  have stored : (db.after (db.addRetainerBazaarItem retainer itemCatalogId delta quality
      priceGil)).retainerStock retainer = db.retainerStock retainer := by
    apply addStack_after
      (P := fun after => after.retainerStock retainer = db.retainerStock retainer)
    · rfl
    · exact fun id offered quantity => retainerStock_setQuantity sound offered quantity
    · exact fun slot item => retainerStock_insertListing sound retainer slot item priceGil retainer
  have offers : ((db.after (db.addRetainerBazaarItem retainer itemCatalogId delta quality
      priceGil)).bazaarStock retainer).map Prod.snd =
        ((db.book retainer).apply (.list itemCatalogId delta quality priceGil)).bazaar := by
    refine Eq.trans (addStack_shelve (·.bazaarStock retainer) ?_ ?_ ?_ _ _ _)
      (congrArg (fun slots => shelve priceGil itemCatalogId delta quality slots _)
        (bazaar_slots sound retainer).symm)
    · exact sound.bazaar_keys.sublist (bazaarStock_sub retainer)
    · exact fun id f => bazaarStock_changeQuantity id f retainer
    · intro slot item
      exact (bazaarStock_insertListing sound retainer slot item priceGil retainer).trans
        (by rw [if_pos rfl])
  exact congrArg₂ Book.mk offers (congrArg (List.map Prod.snd) stored)

theorem book_store_other (apart : retainer ≠ other) (itemPackage : UInt16) :
    (db.after (db.addRetainerInventoryItem retainer itemCatalogId delta quality
      itemPackage)).book other = db.book other := by
  apply addStack_after (P := fun after => after.book other = db.book other)
  · rfl
  · intro id stored quantity
    exact book_eq (bazaarStock_setQuantity sound stored quantity)
      (retainerStock_setQuantity_other sound apart stored quantity)
  · intro slot item
    apply book_eq (bazaarStock_insertStored sound retainer slot item itemPackage other)
    rw [retainerStock_insertStored sound, if_neg apart, List.append_nil]

theorem book_list_other (apart : retainer ≠ other) (priceGil : Int32) :
    (db.after (db.addRetainerBazaarItem retainer itemCatalogId delta quality
      priceGil)).book other = db.book other := by
  apply addStack_after (P := fun after => after.book other = db.book other)
  · rfl
  · intro id offered quantity
    exact book_eq (bazaarStock_setQuantity_other sound apart offered quantity)
      (retainerStock_setQuantity sound offered quantity)
  · intro slot item
    refine book_eq ?_ (retainerStock_insertListing sound retainer slot item priceGil other)
    rw [bazaarStock_insertListing sound, if_neg apart, List.append_nil]

end Books

end Database
end Garlemald.Storage
