import Garlemald.Storage.HarvestRoom
import Garlemald.Storage.Isolation

/-!
The places where items are: the packages of characters and the storages of retainers. What is
given to a place or taken from it leaves the rows of all other places as they are.
-/

namespace Garlemald.Storage

inductive Place where
  | bag (chara : UInt32) (package : UInt16)
  | storage (retainer : UInt32)

namespace Database

variable (db : Database)

def applyAddItemToRetainer (retainer : UInt32) (itemPackage : UInt16) (itemId : UInt32)
    (quantity : Int32) : Database :=
  if quantity ≤ 0 ∨ itemId = 0 then db
  else if itemPackage ≠ PKG_NORMAL then db
  else db.after (db.addRetainerInventoryItem retainer itemId quantity 1 itemPackage)

def storedTotal (retainer itemId : UInt32) : ℤ :=
  (((db.retainerStock retainer).filter (·.2.item.itemId = itemId)).map
    (·.2.item.quantity)).sum

end Database

namespace Place

def carries : Place → InventoryRow → Bool
  | .bag chara package, row => row.characterId = chara && row.itemPackage = package
  | .storage _, _ => false

def stores : Place → RetainerRow → Bool
  | .bag _ _, _ => false
  | .storage retainer, row => row.retainerId = retainer

def total (db : Database) (itemId : UInt32) : Place → ℤ
  | .bag chara package => db.total chara package { itemId }
  | .storage retainer => db.storedTotal retainer itemId

variable (place : Place)

def away (db : Database) : List ℕ :=
  (db.inventory.filter fun row => !place.carries row).map (·.serverItemId) ++
    db.bazaar.map (·.serverItemId) ++
      (db.retainerInventory.filter fun row => !place.stores row).map (·.serverItemId)

structure Confined (db db' : Database) : Prop where
  bags : (db'.inventory.filter fun row => !place.carries row) =
    db.inventory.filter fun row => !place.carries row
  bazaar : db'.bazaar = db.bazaar
  stored : (db'.retainerInventory.filter fun row => !place.stores row) =
    db.retainerInventory.filter fun row => !place.stores row
  retainers : db'.retainers = db.retainers
  items : ∀ id ∈ place.away db, db'.items id = db.items id

variable {place : Place} {db db' db'' : Database}

theorem Confined.refl (place : Place) (db : Database) : place.Confined db db :=
  ⟨rfl, rfl, rfl, rfl, fun _ _ => rfl⟩

theorem Confined.away (confined : place.Confined db db') : place.away db' = place.away db := by
  rw [Place.away, Place.away, confined.bags, confined.bazaar, confined.stored]

theorem Confined.trans (first : place.Confined db db') (second : place.Confined db' db'') :
    place.Confined db db'' where
  bags := second.bags.trans first.bags
  bazaar := second.bazaar.trans first.bazaar
  stored := second.stored.trans first.stored
  retainers := second.retainers.trans first.retainers
  items id outside :=
    (second.items id (first.away.symm ▸ outside)).trans (first.items id outside)

theorem not_away_of_carried (sound : db.Sound) {row : InventoryRow} (inside : row ∈ db.inventory)
    (here : place.carries row = true) : row.serverItemId ∉ place.away db := by
  intro outside
  rw [Place.away, List.append_assoc] at outside
  obtain carried | outside := List.mem_append.mp outside
  · obtain ⟨other, kept, same⟩ := List.mem_map.mp carried
    obtain ⟨present, elsewhere⟩ := List.mem_filter.mp kept
    rw [Database.row_unique sound present inside same, here] at elsewhere
    cases elsewhere
  · obtain offered | stored := List.mem_append.mp outside
    · obtain ⟨listed, present, same⟩ := List.mem_map.mp offered
      exact Database.not_mem_bazaar sound inside present same
    · obtain ⟨kept, present, same⟩ := List.mem_map.mp stored
      exact Database.not_mem_stored sound inside (List.mem_of_mem_filter present) same

theorem not_away_of_stored (sound : db.Sound) {row : RetainerRow}
    (inside : row ∈ db.retainerInventory) (here : place.stores row = true) :
    row.serverItemId ∉ place.away db := by
  intro outside
  rw [Place.away, List.append_assoc] at outside
  obtain carried | outside := List.mem_append.mp outside
  · obtain ⟨other, kept, same⟩ := List.mem_map.mp carried
    exact Database.not_mem_stored sound (List.mem_of_mem_filter kept) inside same.symm
  · obtain offered | stored := List.mem_append.mp outside
    · exact sound.offered_or_stored offered (List.mem_map_of_mem inside)
    · obtain ⟨other, kept, same⟩ := List.mem_map.mp stored
      obtain ⟨present, elsewhere⟩ := List.mem_filter.mp kept
      rw [List.inj_on_of_nodup_map sound.stored_keys present inside same, here] at elsewhere
      cases elsewhere

theorem confined_changeQuantity {id : ℕ} (here : id ∉ place.away db) (f : ℤ → ℤ) :
    place.Confined db (db.changeQuantity id f) := by
  refine ⟨rfl, rfl, rfl, rfl, fun other outside => Function.update_of_ne ?_ _ _⟩
  rintro rfl
  exact here outside

theorem fresh_not_away (sound : db.Sound) : db.lastId + 1 ∉ place.away db := by
  intro outside
  apply sound.unreferenced
  rw [Database.references]
  refine (List.Sublist.append (List.Sublist.append ?_ (List.Sublist.refl _)) ?_).subset outside
  · exact List.filter_sublist.map _
  · exact List.filter_sublist.map _

theorem confined_insertItem (sound : db.Sound) (chara : UInt32) (package : UInt16) (slot : ℤ)
    (item : ServerItem) :
    (Place.bag chara package).Confined db (db.insertItem chara package slot item) := by
  refine ⟨?_, rfl, rfl, rfl, fun other outside => Function.update_of_ne ?_ _ _⟩
  · rw [Database.insertItem, List.filter_append, List.filter_cons_of_neg (by simp [carries]),
      List.filter_nil, List.append_nil]
  · rintro rfl
    exact fresh_not_away sound outside

theorem confined_insertStored (sound : db.Sound) (retainer : UInt32) (package : UInt16) (slot : ℤ)
    (item : ServerItem) :
    (Place.storage retainer).Confined db (db.insertStored retainer package slot item) := by
  refine ⟨rfl, rfl, ?_, rfl, fun other outside => Function.update_of_ne ?_ _ _⟩
  · rw [Database.insertStored, List.filter_append, List.filter_cons_of_neg (by simp [stores]),
      List.filter_nil, List.append_nil]
  · rintro rfl
    exact fresh_not_away sound outside

theorem confined_removeItem (sound : db.Sound) {row : InventoryRow} (inside : row ∈ db.inventory) :
    (Place.bag row.characterId row.itemPackage).Confined db
      (db.removeItem row.characterId row.serverItemId) := by
  refine ⟨?_, rfl, rfl, rfl, fun _ _ => rfl⟩
  rw [Database.removeItem, List.filter_filter]
  apply List.filter_congr
  intro other present
  by_cases same : other.serverItemId = row.serverItemId
  · rw [Database.row_unique sound present inside same]
    simp [carries]
  · simp [same]

section Commands

variable {chara : UInt32} {package : UInt16}

def Carried (db : Database) (chara : UInt32) (package : UInt16) (id : ℕ) : Prop :=
  ∃ row ∈ db.inventory, row.characterId = chara ∧ row.itemPackage = package ∧
    row.serverItemId = id

theorem carried_of_held {kind : Kind} {stack : ℕ × ServerItem}
    (held : stack ∈ db.held chara package kind) : Carried db chara package stack.1 := by
  obtain ⟨row, inside, owned, stored, same, _⟩ := Database.mem_held.mp held
  exact ⟨row, inside, owned, stored, same⟩

theorem Carried.confined {id : ℕ} (carried : Carried db chara package id) (sound : db.Sound)
    (f : ℤ → ℤ) : (Place.bag chara package).Confined db (db.changeQuantity id f) := by
  obtain ⟨row, inside, rfl, rfl, rfl⟩ := carried
  exact confined_changeQuantity (not_away_of_carried sound inside (by simp [carries])) f

theorem confined_topUp (m : ℤ) (existing : List (ℕ × ℤ)) (remaining : ℤ) (sound : db.Sound)
    (stored : ∀ id quantity, (id, quantity) ∈ existing → Carried db chara PKG_NORMAL id) :
    (Place.bag chara PKG_NORMAL).Confined db (Database.topUp m remaining existing db).2 := by
  induction existing generalizing db remaining with
  | nil => exact .refl _ db
  | cons stack existing ih =>
      obtain ⟨id, quantity⟩ := stack
      have behind := fun id quantity inside =>
        stored id quantity (List.mem_cons_of_mem _ inside)
      rw [Database.topUp]
      split
      · exact .refl _ db
      · split
        · exact ih remaining sound behind
        · dsimp only
          split
          · exact ((stored id quantity List.mem_cons_self).confined sound _).trans
              (ih _ (sound.changeQuantity id _) behind)
          · exact ih remaining sound behind

theorem confined_spill (m : { m : ℤ // 1 ≤ m }) (itemId : UInt32) (quality : UInt8)
    (remaining : ℤ) (sound : db.Sound)
    (done : db.spill m chara itemId quality remaining = some db') :
    (Place.bag chara PKG_NORMAL).Confined db db' := by
  revert sound
  refine Database.spill_run ?_ (fun _ _ _ => .refl _ _) done
  intro remaining db slot _ _ later sound
  exact (confined_insertItem sound chara PKG_NORMAL slot _).trans
    (later (sound.insertItem _ _ _ _))

theorem sound_topUp (m : ℤ) (existing : List (ℕ × ℤ)) (remaining : ℤ) (sound : db.Sound) :
    (Database.topUp m remaining existing db).2.Sound :=
  Database.topUp_keeps m existing remaining
    (fun _ stack _ _ sound => sound.changeQuantity stack.1 _) sound

theorem confined_harvest (maxStack : UInt32 → Option ℤ) (chara itemId : UInt32) (delta : Int32)
    (quality : UInt8) (sound : db.Sound) :
    (Place.bag chara PKG_NORMAL).Confined db
      (db.after (db.addHarvestItem maxStack chara itemId delta quality)) := by
  cases done : db.addHarvestItem maxStack chara itemId delta quality with
  | none => exact .refl _ db
  | some result =>
      rw [Database.addHarvestItem] at done
      split at done
      · cases done
        exact .refl _ db
      · obtain ⟨m, _, rest⟩ := Option.bind_eq_some_iff.mp done
        obtain ⟨existing, read, rest⟩ := Option.bind_eq_some_iff.mp rest
        obtain ⟨spilled, poured, rest⟩ := Option.bind_eq_some_iff.mp rest
        obtain ⟨total, _, same⟩ := Option.bind_eq_some_iff.mp rest
        cases same
        obtain rfl := Database.eq_of_mapM_readI32 read
        refine (confined_topUp m _ delta.toInt sound ?_).trans
          (confined_spill m itemId quality _ (sound_topUp m _ _ sound) poured)
        intro id quantity inside
        obtain ⟨stack, kept, same⟩ := List.mem_map.mp inside
        cases same
        exact carried_of_held ((Database.filter_getItemPackage _ _).mem_iff.mp kept)

theorem confined_keyItem (chara keyItemId : UInt32) (sound : db.Sound) :
    (Place.bag chara PKG_KEYITEMS).Confined db (db.addKeyItem chara keyItemId).2 := by
  rw [Database.addKeyItem]
  split
  · exact .refl _ db
  · split
    · exact .refl _ db
    · exact confined_insertItem sound _ _ _ _

theorem confined_currency (chara itemId : UInt32) (slot : ℤ) (delta : Int32) (sound : db.Sound) :
    (Place.bag chara PKG_CURRENCY_CRYSTALS).Confined db
      (db.after (db.addCurrency chara itemId slot delta)) := by
  rw [Database.addCurrency]
  split
  · next id stack first =>
      cases readI32 stack.quantity with
      | none => exact .refl _ db
      | some quantity =>
          have changed : (Place.bag chara PKG_CURRENCY_CRYSTALS).Confined db
              (db.setQuantity id (max (saturateI32 (quantity + delta.toInt)) 0)) :=
            (carried_of_held (List.mem_of_mem_head? first)).confined sound _
          exact changed
  · exact confined_insertItem sound _ _ _ _

theorem confined_addItem (maxStack : UInt32 → Option ℤ) (chara : UInt32) (package : UInt16)
    (itemId : UInt32) (quantity : Int32) (sound : db.Sound) :
    (Place.bag chara package).Confined db
      (db.applyAddItem maxStack chara package itemId quantity) := by
  rw [Database.applyAddItem]
  split
  · exact .refl _ db
  · split
    · next currency =>
        subst currency
        rw [Database.applyAddGil]
        split
        · exact .refl _ db
        · exact confined_currency _ _ _ _ sound
    · split
      · next key =>
          subst key
          exact confined_keyItem _ _ sound
      · split
        · exact .refl _ db
        · next normal =>
            obtain rfl := not_not.mp normal
            exact confined_harvest _ _ _ _ _ sound

theorem sound_removeItem (sound : db.Sound) (chara : UInt32) (id : ℕ) :
    (db.removeItem chara id).Sound := by
  have fewer : (db.removeItem chara id).references.Sublist db.references :=
    ((List.filter_sublist.map _).append (List.Sublist.refl _)).append (List.Sublist.refl _)
  exact ⟨sound.given, fun other inside => sound.resolved other (fewer.subset inside),
    sound.once.sublist fewer⟩

theorem confined_removeLoop (catalogId : UInt32) (rows : List (ℕ × ServerItem))
    (distinct : (rows.map Prod.fst).Nodup) (remaining : ℤ) (sound : db.Sound)
    (stored : ∀ row ∈ rows, Carried db chara package row.1) :
    (Place.bag chara package).Confined db
      (Database.removeLoop chara catalogId remaining rows db) := by
  induction rows generalizing db remaining with
  | nil => exact .refl _ db
  | cons row rows ih =>
      obtain ⟨id, item⟩ := row
      obtain ⟨apart, others⟩ := List.nodup_cons.mp distinct
      have behind := fun row inside => stored row (List.mem_cons_of_mem _ inside)
      have first : Carried db chara package id := stored (id, item) List.mem_cons_self
      rw [Database.removeLoop]
      split
      · exact .refl _ db
      · split
        · exact ih others remaining sound behind
        · dsimp only
          split
          · exact (first.confined sound _).trans (ih others 0 (sound.changeQuantity id _) behind)
          · obtain ⟨removed, inside, rfl, rfl, rfl⟩ := first
            refine (confined_removeItem sound inside).trans
              (ih others _ (sound_removeItem sound _ _) ?_)
            intro row later
            obtain ⟨kept, present, owned, held, same⟩ := behind row later
            refine ⟨kept, List.mem_filter.mpr ⟨present, ?_⟩, owned, held, same⟩
            have other : kept.serverItemId ≠ removed.serverItemId := by
              intro equal
              exact apart (List.mem_map.mpr ⟨row, later, same.symm.trans equal⟩)
            simp [other]

theorem confined_applyRemoveItem (chara : UInt32) (package : UInt16) (catalogId : UInt32)
    (quantity : Int32) (sound : db.Sound) :
    (Place.bag chara package).Confined db
      (db.applyRemoveItem chara package catalogId quantity) := by
  rw [Database.applyRemoveItem]
  split
  · exact .refl _ db
  · apply confined_removeLoop _ _ _ _ sound
    · intro row inside
      exact carried_of_held (Database.mem_getItemPackage.mp (List.mem_reverse.mp inside))
    · rw [List.map_reverse]
      exact List.nodup_reverse.mpr (Database.getItemPackage_keys sound package)

theorem confined_addItemToRetainer (retainer : UInt32) (package : UInt16) (itemId : UInt32)
    (quantity : Int32) (sound : db.Sound) :
    (Place.storage retainer).Confined db
      (db.applyAddItemToRetainer retainer package itemId quantity) := by
  rw [Database.applyAddItemToRetainer]
  split
  · exact .refl _ db
  · split
    · exact .refl _ db
    · apply Database.addStack_after (P := (Place.storage retainer).Confined db) (.refl _ db)
      · intro id stored updated
        obtain ⟨row, kept, rfl⟩ := List.mem_map.mp
          ((Library.join_keys _ _ _ _).subset stored)
        obtain ⟨inside, here⟩ := List.mem_filter.mp kept
        apply confined_changeQuantity
        exact not_away_of_stored sound inside (by simpa [stores] using here)
      · intro slot item
        exact confined_insertStored sound _ _ _ _

end Commands

theorem held_outside (db : Database) {place : Place} {chara : UInt32} {package : UInt16}
    (apart : place ≠ .bag chara package) (kind : Kind) :
    db.held chara package kind =
      (db.inventory.filter fun row => !place.carries row).filterMap
        (db.stackOf chara package kind) := by
  rw [Database.held, List.filterMap_filter]
  apply List.filterMap_congr
  intro row _
  split
  · rfl
  · next carried =>
      rw [Database.stackOf, if_neg]
      rintro ⟨rfl, rfl⟩
      apply apart
      cases place with
      | bag other stored =>
          simp [carries] at carried
          rw [carried.1, carried.2]
      | storage retainer => simp [carries] at carried

theorem Confined.held (confined : place.Confined db db') {chara : UInt32} {package : UInt16}
    (apart : place ≠ .bag chara package) (kind : Kind) :
    db'.held chara package kind = db.held chara package kind := by
  rw [held_outside db' apart, held_outside db apart, confined.bags]
  apply List.filterMap_congr
  intro row outside
  apply Database.stackOf_congr
  apply confined.items
  rw [Place.away, List.append_assoc]
  exact List.mem_append_left _ (List.mem_map_of_mem outside)

theorem Confined.bag_total (confined : place.Confined db db') {chara : UInt32} {package : UInt16}
    (apart : place ≠ .bag chara package) (kind : Kind) :
    db'.total chara package kind = db.total chara package kind := by
  rw [Database.total, Database.total, confined.held apart]

theorem Confined.storedTotal (confined : place.Confined db db') {retainer : UInt32}
    (apart : place ≠ .storage retainer) (itemId : UInt32) :
    db'.storedTotal retainer itemId = db.storedTotal retainer itemId := by
  have rows (db : Database) : db.retainerInventory.filter (·.retainerId = retainer) =
      (db.retainerInventory.filter fun row => !place.stores row).filter
        (·.retainerId = retainer) := by
    rw [List.filter_filter]
    apply List.filter_congr
    intro row _
    by_cases here : row.retainerId = retainer
    · have outside : place.stores row = false := by
        cases place with
        | bag other stored => rfl
        | storage other =>
            rw [stores, decide_eq_false_iff_not, here]
            rintro rfl
            exact apart rfl
      simp [here, outside]
    · simp [here]
  have stock : db'.retainerStock retainer = db.retainerStock retainer := by
    rw [Database.retainerStock, Database.retainerStock, rows, rows, confined.stored]
    apply Library.join_congr
    intro row inside
    apply confined.items
    rw [Place.away]
    exact List.mem_append_right _ (List.mem_map_of_mem (List.mem_of_mem_filter inside))
  rw [Database.storedTotal, Database.storedTotal, stock]

theorem Confined.effect {retainer chara : UInt32} {limit : UInt32 → ℤ}
    (confined : (Place.storage retainer).Confined db db') (sound : db'.Sound)
    (tidy : Database.Tidy limit db chara) :
    Database.Effect limit chara db db' (fun _ _ => 0) 0 := by
  have rows : db'.inventory = db.inventory := by simpa [carries] using confined.bags
  have items : ∀ row ∈ db.inventory, db'.items row.serverItemId = db.items row.serverItemId := by
    intro row inside
    apply confined.items
    rw [Place.away, List.append_assoc]
    exact List.mem_append_left _ (List.mem_map.mpr ⟨row, by simpa [carries] using inside, rfl⟩)
  have slots (package : UInt16) : db'.slots chara package = db.slots chara package := by
    rw [Database.slots, Database.slots, rows]
  refine ⟨sound, ⟨?_, ?_, ?_⟩, ?_, ?_⟩
  · intro package no_currency no_keys
    rw [slots]
    exact tidy.slots package no_currency no_keys
  · intro row inside owned item found
    rw [rows] at inside
    exact tidy.fits row inside owned item ((items row inside).symm.trans found)
  · intro itemId
    rw [confined.held (by simp)]
    exact tidy.single itemId
  · intro package itemId
    rw [confined.bag_total (by simp), add_zero]
  · intro n held _
    rw [Database.KeySlots, slots]
    exact held

end Place
end Garlemald.Storage
