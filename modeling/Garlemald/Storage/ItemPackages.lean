import Garlemald.Library.Runs
import Garlemald.Storage.Places

/-!
The item packages that scripts are handed. A handle has the number of its owner and says whether
that is a retainer's; its calls queue commands, which are drained by the processor or by the
runtime and go to the bag of a character or to the storage of a retainer.
-/

namespace Garlemald.Storage

open Library

inductive LuaValue where
  | integer (n : Int64)
  | other

structure LuaItemPackage where
  ownerActorId : UInt32
  packageCode : UInt16
  isRetainer : Bool

structure LuaPlayer where
  actorId : UInt32

structure LuaRetainer where
  retainerId : UInt32

def LuaPlayer.getItemPackage (player : LuaPlayer) (pkgCode : UInt16) : LuaItemPackage :=
  { ownerActorId := player.actorId, packageCode := pkgCode, isRetainer := false }

def LuaRetainer.getItemPackage (retainer : LuaRetainer) (pkgCode : UInt16) : LuaItemPackage :=
  { ownerActorId := retainer.retainerId, packageCode := pkgCode, isRetainer := true }

inductive ItemCommand where
  | addItem (actorId : UInt32) (itemPackage : UInt16) (itemId : UInt32) (quantity : Int32)
  | addItemToRetainer (retainerId : UInt32) (itemPackage : UInt16) (itemId : UInt32)
      (quantity : Int32)
  | removeItem (actorId : UInt32) (itemPackage : UInt16) (catalogId : UInt32) (quantity : Int32)
deriving DecidableEq

/-- The calls of a handle; `addItem` is the same as `AddItem`, and of a table only the values
count, in the order in which they are gone through. -/
inductive PackageCall where
  | addItem (args : List LuaValue)
  | addItems (items : List LuaValue)
  | removeItem (catalog : UInt32) (quantity : Option Int32)

def addItemArgs : List LuaValue → Option (UInt32 × Int32)
  | .integer catalog :: .integer q :: _ => some (catalog.toUInt64.toUInt32, q.toInt32)
  | .integer catalog :: _ => some (catalog.toUInt64.toUInt32, 1)
  | _ => none

namespace LuaItemPackage

variable (this : LuaItemPackage)

def addItem (args : List LuaValue) : List ItemCommand :=
  match addItemArgs args with
  | none => []
  | some (catalog, qty) =>
      if this.isRetainer then
        [.addItemToRetainer this.ownerActorId this.packageCode catalog qty]
      else [.addItem this.ownerActorId this.packageCode catalog qty]

def addItems (items : List LuaValue) : List ItemCommand :=
  items.filterMap fun
    | .integer catalog =>
        some (.addItem this.ownerActorId this.packageCode catalog.toUInt64.toUInt32 1)
    | .other => none

def removeItem (catalog : UInt32) (quantity : Option Int32) : List ItemCommand :=
  [.removeItem this.ownerActorId this.packageCode catalog (quantity.getD 1)]

def push : PackageCall → List ItemCommand
  | .addItem args => this.addItem args
  | .addItems items => this.addItems items
  | .removeItem catalog quantity => this.removeItem catalog quantity

end LuaItemPackage

/-- Who drains a queue: the runtime has no arm for a removal and lets it fall through. -/
inductive Drain where
  | processor
  | runtime

def LuaItemPackage.place (this : LuaItemPackage) : Place :=
  if this.isRetainer then .storage this.ownerActorId else .bag this.ownerActorId this.packageCode

namespace Database

variable (maxStack : UInt32 → Option ℤ) (db : Database)

def applyCommand (drain : Drain) : ItemCommand → Database
  | .addItem actorId itemPackage itemId quantity =>
      db.applyAddItem maxStack actorId itemPackage itemId quantity
  | .addItemToRetainer retainerId itemPackage itemId quantity =>
      db.applyAddItemToRetainer retainerId itemPackage itemId quantity
  | .removeItem actorId itemPackage catalogId quantity =>
      match drain with
      | .processor => db.applyRemoveItem actorId itemPackage catalogId quantity
      | .runtime => db

variable {maxStack : UInt32 → Option ℤ} {db : Database}

/-- No item is in two places and every bag is in order. -/
structure InOrder (maxStack : UInt32 → Option ℤ) (db : Database) : Prop where
  sound : db.Sound
  tidy : ∀ chara, Tidy (stackLimit maxStack) db chara

theorem InOrder.applyCommand (order : InOrder maxStack db) (drain : Drain) (cmd : ItemCommand) :
    InOrder maxStack (db.applyCommand maxStack drain cmd) := by
  cases cmd with
  | addItem actorId itemPackage itemId quantity =>
      have effect (chara : UInt32) := effect_addItem order.sound (order.tidy chara) actorId
        itemPackage itemId quantity
      exact ⟨(effect 0).sound, fun chara => (effect chara).tidy⟩
  | addItemToRetainer retainerId itemPackage itemId quantity =>
      have confined := Place.confined_addItemToRetainer retainerId itemPackage itemId quantity
        order.sound
      have sound : (db.applyAddItemToRetainer retainerId itemPackage itemId quantity).Sound := by
        rw [applyAddItemToRetainer]
        split
        · exact order.sound
        · split
          · exact order.sound
          · exact order.sound.addRetainerInventoryItem _ _ _ _ _
      exact ⟨sound, fun chara => (confined.effect sound (order.tidy chara)).tidy⟩
  | removeItem actorId itemPackage catalogId quantity =>
      cases drain with
      | processor =>
          have effect (chara : UInt32) := effect_applyRemoveItem order.sound (order.tidy chara)
            actorId itemPackage catalogId quantity
          exact ⟨(effect 0).sound, fun chara => (effect chara).tidy⟩
      | runtime => exact order

section Idle

theorem setQuantity_same {id : ℕ} {item : ServerItem} (found : db.items id = some item) :
    db.setQuantity id item.quantity = db := by
  rw [setQuantity, changeQuantity, found, Option.map_some,
    Function.update_eq_self_iff.mpr found.symm]

theorem removeLoop_absent {chara catalogId : UInt32} (rows : List (ℕ × ServerItem))
    (others : ∀ row ∈ rows, row.2.itemId ≠ catalogId) (remaining : ℤ) (db : Database) :
    removeLoop chara catalogId remaining rows db = db := by
  induction rows with
  | nil => rfl
  | cons row rows ih =>
      rw [removeLoop]
      split
      · rfl
      · rw [if_pos (others row List.mem_cons_self)]
        exact ih fun other later => others other (List.mem_cons_of_mem _ later)

theorem removeLoop_done (chara catalogId : UInt32) (rows : List (ℕ × ServerItem))
    (db : Database) : removeLoop chara catalogId 0 rows db = db := by
  cases rows with
  | nil => rfl
  | cons row rows => rw [removeLoop, if_pos (le_refl 0)]

theorem inventory_removeLoop {chara catalogId : UInt32} (rows : List (ℕ × ServerItem))
    (remaining : ℤ) (db : Database) :
    (removeLoop chara catalogId remaining rows db).inventory.Sublist db.inventory := by
  induction rows generalizing remaining db with
  | nil => exact List.Sublist.refl _
  | cons row rows ih =>
      rw [removeLoop]
      split
      · exact List.Sublist.refl _
      · split
        · exact ih remaining db
        · dsimp only
          split
          · exact ih 0 _
          · exact (ih _ _).trans List.filter_sublist

variable {quantity : Int32} {chara : UInt32}

theorem removeLoop_changes (catalogId : UInt32) {package : UInt16} (rows : List (ℕ × ServerItem))
    (stored : ∀ row ∈ rows, Place.Carried db chara package row.1 ∧ db.items row.1 = some row.2)
    (present : ∃ row ∈ rows, row.2.itemId = catalogId) {remaining : ℤ} (asked : 0 < remaining) :
    ∃ row ∈ db.inventory, row ∉ (removeLoop chara catalogId remaining rows db).inventory ∨
      (removeLoop chara catalogId remaining rows db).items row.serverItemId ≠
        db.items row.serverItemId := by
  induction rows with
  | nil =>
      obtain ⟨_, inside, _⟩ := present
      cases inside
  | cons row rows ih =>
      obtain ⟨id, item⟩ := row
      obtain ⟨⟨carried, inside, owned, _, rfl⟩, found⟩ := stored _ List.mem_cons_self
      rw [removeLoop, if_neg (by omega)]
      split
      · next other =>
          apply ih fun row later => stored row (List.mem_cons_of_mem _ later)
          obtain ⟨row, held, named⟩ := present
          obtain rfl | later := List.mem_cons.mp held
          · exact absurd named other
          · exact ⟨row, later, named⟩
      · refine ⟨carried, inside, ?_⟩
        dsimp only
        split
        · next partly =>
            right
            rw [removeLoop_done, setQuantity, changeQuantity_items _ _ found,
              Function.update_self, found]
            intro same
            have lowered := congrArg ServerItem.quantity (Option.some.inj same)
            dsimp only at lowered
            cases read : readI32 item.quantity with
            | none =>
                rw [read, Option.getD_none] at partly
                omega
            | some quantity =>
                have known := eq_of_readI32 read
                rw [read, Option.getD_some] at lowered
                omega
        · left
          intro kept
          have left := (inventory_removeLoop _ _ _).subset kept
          simp [removeItem, owned] at left

/-- Where a command does nothing to the bag it goes to. -/
def Idle (maxStack : UInt32 → Option ℤ) (drain : Drain) (db : Database) : ItemCommand → Prop
  | .addItem chara package itemId quantity =>
      quantity ≤ 0 ∨ itemId = 0 ∨
        (package = PKG_CURRENCY_CRYSTALS →
          db.total chara PKG_CURRENCY_CRYSTALS .gil = 2 ^ 31 - 1) ∧
        (package = PKG_KEYITEMS → db.held chara PKG_KEYITEMS { itemId } ≠ []) ∧
        (package = PKG_NORMAL → ¬ db.HasRoom maxStack chara itemId 1 quantity.toInt)
  | .addItemToRetainer .. => False
  | .removeItem chara package catalogId quantity =>
      drain = .runtime ∨ quantity ≤ 0 ∨ catalogId = 0 ∨
        db.held chara package { itemId := catalogId } = []

theorem addGil_full (order : InOrder maxStack db)
    (full : db.total chara PKG_CURRENCY_CRYSTALS .gil = 2 ^ 31 - 1) (asked : 0 < quantity.toInt) :
    db.after (db.addGil chara quantity) = db := by
  rw [addGil, addCurrency]
  split
  · next id stack first =>
      have held := List.mem_of_mem_head? first
      have amount := (order.tidy chara).total_currency first
      have whole : stack.quantity = 2 ^ 31 - 1 := amount.symm.trans full
      obtain ⟨_, _, _, _, _, found, _⟩ := mem_held.mp held
      have read : readI32 stack.quantity = some stack.quantity :=
        readI32_of_bounds (by omega) (by omega)
      have same : max (saturateI32 (stack.quantity + quantity.toInt)) 0 = stack.quantity := by
        rw [saturateI32]
        omega
      have after : db.after ((readI32 stack.quantity).bind fun n =>
          some (max (saturateI32 (n + quantity.toInt)) 0,
            db.setQuantity id (max (saturateI32 (n + quantity.toInt)) 0))) =
          db.setQuantity id (max (saturateI32 (stack.quantity + quantity.toInt)) 0) := by
        rw [read]
        rfl
      refine after.trans ?_
      rw [same]
      exact setQuantity_same found
  · next missing =>
      have none_held := List.head?_eq_none_iff.mp missing
      have gil : db.total chara PKG_CURRENCY_CRYSTALS .gil = 0 := by
        rw [total, Kind.gil, none_held, List.map_nil, List.sum_nil]
      omega

theorem idle_apply (order : InOrder maxStack db) {drain : Drain} {cmd : ItemCommand}
    (idle : db.Idle maxStack drain cmd) : db.applyCommand maxStack drain cmd = db := by
  cases cmd with
  | addItem chara package itemId quantity =>
      by_cases asked : quantity ≤ 0 ∨ itemId = 0
      · simp only [applyCommand, applyAddItem, if_pos asked]
      · obtain ⟨some_asked, known⟩ := not_or.mp asked
        have positive := positive_of_not_le some_asked
        obtain low | none | ⟨currency, key, normal⟩ := idle
        · exact absurd low some_asked
        · exact absurd none known
        · simp only [applyCommand, applyAddItem, if_neg asked]
          split
          · next here =>
              rw [applyAddGil]
              split
              · rfl
              · exact addGil_full order (currency here) positive
          · split
            · next here =>
                rw [addKeyItem, if_neg known]
                cases first : (db.held chara PKG_KEYITEMS { itemId }).head? with
                | none => exact absurd (List.head?_eq_none_iff.mp first) (key here)
                | some stack => rfl
            · split
              · rfl
              · next here =>
                  have full := normal (not_not.mp here)
                  rw [← addHarvestItem_isSome_iff order.sound (order.tidy chara) asked,
                    Bool.not_eq_true, Option.isSome_eq_false_iff, Option.isNone_iff_eq_none] at full
                  rw [full]
                  rfl
  | addItemToRetainer => cases idle
  | removeItem chara package catalogId quantity =>
      cases drain with
      | runtime => rfl
      | processor =>
          simp only [applyCommand, applyRemoveItem]
          split
          · rfl
          · next asked =>
              obtain other | low | none | absent := idle
              · cases other
              · exact absurd (.inl low) asked
              · exact absurd (.inr none) asked
              · apply removeLoop_absent
                intro row inside named
                have held := mem_getItemPackage.mp (List.mem_reverse.mp inside)
                rw [named, absent] at held
                cases held

theorem total_applyAddItem (order : InOrder maxStack db) (chara : UInt32) (package : UInt16)
    (itemId : UInt32) (quantity : Int32) (stored : UInt16) (kept : UInt32) :
    (db.applyAddItem maxStack chara package itemId quantity).total chara stored { itemId := kept } =
      db.total chara stored { itemId := kept } +
        db.granted maxStack chara stored kept (.addItem chara package itemId quantity) :=
  (effect_addItem order.sound (order.tidy chara) chara package itemId quantity).total stored kept

theorem total_gil_bounds (order : InOrder maxStack db) (chara : UInt32) :
    0 ≤ db.total chara PKG_CURRENCY_CRYSTALS .gil ∧
      db.total chara PKG_CURRENCY_CRYSTALS .gil < 2 ^ 31 := by
  cases first : (db.held chara PKG_CURRENCY_CRYSTALS .gil).head? with
  | none =>
      rw [total, List.head?_eq_none_iff.mp first, List.map_nil, List.sum_nil]
      omega
  | some stack =>
      have fit := (order.tidy chara).held_fit (List.mem_of_mem_head? first)
      have amount : db.total chara PKG_CURRENCY_CRYSTALS .gil = stack.2.quantity :=
        (order.tidy chara).total_currency first
      rw [amount]
      exact ⟨fit.nonneg, fit.1⟩

theorem harvested_room (order : InOrder maxStack db) {chara itemId : UInt32}
    (asked : ¬ (quantity ≤ 0 ∨ itemId = 0))
    (room : db.HasRoom maxStack chara itemId 1 quantity.toInt) :
    db.harvested maxStack chara itemId quantity 1 = quantity.toInt := by
  have through := (addHarvestItem_isSome_iff order.sound (order.tidy chara) asked).mpr room
  rw [harvested, if_neg]
  rintro (low | none | failed)
  · exact asked (.inl low)
  · exact asked (.inr none)
  · rw [failed] at through
    cases through

theorem harvested_full (order : InOrder maxStack db) {chara itemId : UInt32}
    (asked : ¬ (quantity ≤ 0 ∨ itemId = 0))
    (full : ¬ db.HasRoom maxStack chara itemId 1 quantity.toInt) :
    db.harvested maxStack chara itemId quantity 1 = 0 := by
  rw [← addHarvestItem_isSome_iff order.sound (order.tidy chara) asked, Bool.not_eq_true,
    Option.isSome_eq_false_iff, Option.isNone_iff_eq_none] at full
  rw [harvested, if_pos (.inr (.inr full))]

theorem addItem_gains (order : InOrder maxStack db) {drain : Drain} {package : UInt16}
    {itemId : UInt32} (busy : ¬ db.Idle maxStack drain (.addItem chara package itemId quantity)) :
    ∃ stored kept, (db.applyAddItem maxStack chara package itemId quantity).total chara stored
      { itemId := kept } ≠ db.total chara stored { itemId := kept } := by
  simp only [Idle, not_or] at busy
  obtain ⟨some_asked, known, busy⟩ := busy
  have positive := positive_of_not_le some_asked
  have asked : ¬ (quantity ≤ 0 ∨ itemId = 0) := not_or.mpr ⟨some_asked, known⟩
  by_contra same
  push Not at same
  have gains (stored : UInt16) (kept : UInt32) :
      db.granted maxStack chara stored kept (.addItem chara package itemId quantity) = 0 := by
    have total := total_applyAddItem order chara package itemId quantity stored kept
    rw [same] at total
    omega
  simp only [granted, if_neg asked] at gains
  apply busy
  refine ⟨?_, ?_, ?_⟩
  · rintro rfl
    have gain := gains PKG_CURRENCY_CRYSTALS GIL_ITEM_ID
    obtain ⟨low, high⟩ := total_gil_bounds order chara
    simp only [if_true, only, and_self, currencyGained, saturateI32] at gain
    rw [Kind.gil] at low high ⊢
    omega
  · rintro rfl
    have gain := gains PKG_KEYITEMS itemId
    have apart : PKG_KEYITEMS ≠ PKG_CURRENCY_CRYSTALS := by decide
    simp only [if_true, if_neg apart, only, and_self, keyGained, known, false_or] at gain
    intro none_held
    rw [if_neg (not_not.mpr none_held)] at gain
    cases gain
  · rintro rfl room
    have gain := gains PKG_NORMAL itemId
    have no_currency : PKG_NORMAL ≠ PKG_CURRENCY_CRYSTALS := by decide
    have no_keys : PKG_NORMAL ≠ PKG_KEYITEMS := by decide
    simp only [if_true, if_neg no_currency, if_neg no_keys, only, and_self,
      harvested_room order asked room] at gain
    omega

end Idle

theorem confined_storage_iff (order : InOrder maxStack db) {drain : Drain} {cmd : ItemCommand}
    (misdirected : ∀ retainer package itemId quantity,
      cmd ≠ .addItemToRetainer retainer package itemId quantity) (retainer : UInt32) :
    (Place.storage retainer).Confined db (db.applyCommand maxStack drain cmd) ↔
      db.Idle maxStack drain cmd := by
  constructor
  · intro confined
    by_contra busy
    cases cmd with
    | addItem chara package itemId quantity =>
        obtain ⟨stored, kept, changed⟩ := addItem_gains order busy
        exact changed (confined.bag_total (by simp) _)
    | addItemToRetainer owner package itemId quantity => exact misdirected _ _ _ _ rfl
    | removeItem chara package catalogId quantity =>
        simp only [Idle, not_or] at busy
        obtain ⟨processed, some_asked, known, present⟩ := busy
        cases drain with
        | runtime => exact processed rfl
        | processor =>
            obtain ⟨stack, held⟩ := List.exists_mem_of_ne_nil _ present
            have listed : stack ∈ (db.getItemPackage chara package).reverse := by
              obtain ⟨_, _, _, _, _, _, matched⟩ := mem_held.mp held
              rw [List.mem_reverse]
              apply mem_getItemPackage.mpr
              rw [Kind.itemId_of_matches matched]
              exact held
            obtain ⟨row, inside, changed⟩ := removeLoop_changes catalogId
              (db.getItemPackage chara package).reverse (by
                intro row inside
                have here := mem_getItemPackage.mp (List.mem_reverse.mp inside)
                obtain ⟨_, _, _, _, _, found, _⟩ := mem_held.mp here
                exact ⟨Place.carried_of_held here, found⟩) (by
                obtain ⟨_, _, _, _, _, _, matched⟩ := mem_held.mp held
                exact ⟨stack, listed, Kind.itemId_of_matches matched⟩)
              (positive_of_not_le some_asked)
            have removed : db.applyCommand maxStack .processor
                (.removeItem chara package catalogId quantity) =
                  removeLoop chara catalogId quantity.toInt
                    (db.getItemPackage chara package).reverse db := by
              rw [applyCommand, applyRemoveItem, if_neg (not_or.mpr ⟨some_asked, known⟩)]
            rw [removed] at confined
            obtain gone | altered := changed
            · apply gone
              have rows := confined.bags
              simp only [Place.carries, Bool.not_false, List.filter_true] at rows
              rw [rows]
              exact inside
            · apply altered
              apply confined.items
              rw [Place.away, List.append_assoc]
              exact List.mem_append_left _ (List.mem_map.mpr
                ⟨row, by simpa [Place.carries] using inside, rfl⟩)
  · intro idle
    rw [idle_apply order idle]
    exact .refl _ db

section Stored

variable {retainer itemId : UInt32}

def share (itemId : UInt32) (entry : ℕ × Entry UInt16) : ℤ :=
  if entry.2.item.itemId = itemId then entry.2.item.quantity else 0

theorem storedTotal_eq_sum (db : Database) (retainer itemId : UInt32) :
    db.storedTotal retainer itemId = ((db.retainerStock retainer).map (share itemId)).sum := by
  rw [storedTotal]
  induction db.retainerStock retainer with
  | nil => rfl
  | cons entry entries ih =>
      rw [List.filter_cons, List.map_cons, List.sum_cons, ← ih, share]
      by_cases named : entry.2.item.itemId = itemId
      · simp [named]
      · simp [named]

theorem storedTotal_setQuantity (sound : db.Sound) {id : ℕ} {entry : Entry UInt16}
    (stored : (id, entry) ∈ db.retainerStock retainer) (named : entry.item.itemId = itemId)
    (quantity : ℤ) :
    (db.setQuantity id quantity).storedTotal retainer itemId =
      db.storedTotal retainer itemId + (quantity - entry.item.quantity) := by
  have keys : ((db.retainerStock retainer).map Prod.fst).Nodup :=
    List.Nodup.sublist (retainerStock_sub retainer) sound.stored_keys
  have changed := sum_map_change (f := share itemId) (g := fun other =>
    share itemId (if other.1 = id then (other.1, other.2.alter fun _ => quantity) else other))
    keys stored (by
      intro other _ apart
      rw [if_neg apart])
  rw [storedTotal_eq_sum, storedTotal_eq_sum, setQuantity, retainerStock_changeQuantity,
    List.map_map]
  refine changed.trans ?_
  simp only [share, Entry.alter, named, if_true]

/-- A grant to a retainer is lost: its package is not the bag, or the first stack of the item
cannot be read or is full. -/
def Lost (db : Database) (retainer : UInt32) (package : UInt16) (itemId : UInt32) : Prop :=
  package ≠ PKG_NORMAL ∨
    ∃ entry, (db.retainerStock retainer).find? (·.2.fits package itemId 1) = some entry ∧
      (entry.2.readable = none ∨ entry.2.item.quantity = 2 ^ 31 - 1)

theorem storedTotal_addItemToRetainer (sound : db.Sound) {package : UInt16} {quantity : Int32}
    (asked : ¬ (quantity ≤ 0 ∨ itemId = 0)) :
    (db.applyAddItemToRetainer retainer package itemId quantity).storedTotal retainer itemId =
      db.storedTotal retainer itemId ↔ db.Lost retainer package itemId := by
  have positive := positive_of_not_le (not_or.mp asked).1
  have small := quantity.toInt_lt
  rw [applyAddItemToRetainer, if_neg asked, Lost]
  split
  · next other => exact iff_of_true rfl (.inl other)
  · next normal =>
      obtain rfl := not_not.mp normal
      rw [addRetainerInventoryItem, addStack, if_neg asked]
      simp only [ne_eq, not_true_eq_false, false_or]
      cases found : (db.retainerStock retainer).find? (·.2.fits PKG_NORMAL itemId 1) with
      | none =>
          have fresh : (db.insertStored retainer PKG_NORMAL (slotAfter ((db.retainerInventory.filter
              fun row => row.retainerId = retainer ∧ row.itemPackage = PKG_NORMAL).map (·.slot)))
              ⟨itemId, max quantity.toInt 0, 1⟩).storedTotal retainer itemId =
                db.storedTotal retainer itemId + quantity.toInt := by
            rw [storedTotal_eq_sum, storedTotal_eq_sum, retainerStock_insertStored sound,
              if_pos rfl, List.map_append, List.sum_append, List.map_singleton,
              List.sum_singleton, share, if_pos rfl, max_eq_left positive.le]
          refine iff_of_false ?_ ?_
          · intro same
            have := fresh.symm.trans same
            omega
          · rintro ⟨_, impossible, _⟩
            cases impossible
      | some entry =>
          obtain ⟨id, entry⟩ := entry
          have stored := List.mem_of_find?_eq_some found
          have fits := List.find?_some found
          have named : entry.item.itemId = itemId := by
            simp only [Entry.fits, Bool.and_eq_true, decide_eq_true_eq] at fits
            exact fits.1.2
          simp only [Option.some.injEq, exists_eq_left', Entry.readable, Entry.updated]
          cases read : readI32 entry.item.quantity with
          | none => exact iff_of_true rfl (.inl rfl)
          | some amount =>
              obtain rfl := eq_of_readI32 read
              cases readI32 entry.slot with
              | none => exact iff_of_true rfl (.inl rfl)
              | some slot =>
                  have changed := storedTotal_setQuantity sound stored named
                    (max (saturateI32 (entry.item.quantity + quantity.toInt)) 0)
                  have bounds : -2 ^ 31 ≤ entry.item.quantity ∧ entry.item.quantity < 2 ^ 31 := by
                    rw [readI32] at read
                    by_contra outside
                    rw [if_neg outside] at read
                    cases read
                  refine (Iff.of_eq (congrArg (· = _) changed)).trans ?_
                  simp only [saturateI32, Option.bind_eq_bind, Option.bind_some, reduceCtorEq,
                    false_or]
                  omega

end Stored

section Restored

/-- Where a grant followed by a removal of as much leaves the total of the item as it was. The
processor takes back what came in, and more where there was some before and not all came in. -/
def Restores (maxStack : UInt32 → Option ℤ) (db : Database) (handle : LuaItemPackage)
    (drain : Drain) (itemId : UInt32) (quantity : Int32) : Prop :=
  quantity ≤ 0 ∨ itemId = 0 ∨
    if handle.isRetainer then db.Lost handle.ownerActorId handle.packageCode itemId
    else
      match drain with
      | .processor =>
          db.total handle.ownerActorId handle.packageCode { itemId } = 0 ∨
            (handle.packageCode = PKG_NORMAL ∧
              db.HasRoom maxStack handle.ownerActorId itemId 1 quantity.toInt) ∨
            (handle.packageCode = PKG_CURRENCY_CRYSTALS ∧ itemId = GIL_ITEM_ID ∧
              db.total handle.ownerActorId PKG_CURRENCY_CRYSTALS .gil + quantity.toInt < 2 ^ 31)
      | .runtime =>
          (handle.packageCode = PKG_NORMAL →
            ¬ db.HasRoom maxStack handle.ownerActorId itemId 1 quantity.toInt) ∧
          (handle.packageCode = PKG_CURRENCY_CRYSTALS → itemId = GIL_ITEM_ID →
            db.total handle.ownerActorId PKG_CURRENCY_CRYSTALS .gil = 2 ^ 31 - 1) ∧
          (handle.packageCode = PKG_KEYITEMS →
            db.held handle.ownerActorId PKG_KEYITEMS { itemId } ≠ [])

theorem total_key (order : InOrder maxStack db) (chara itemId : UInt32) :
    db.total chara PKG_KEYITEMS { itemId } = 0 ↔
      db.held chara PKG_KEYITEMS { itemId } = [] := by
  constructor
  · intro none_counted
    by_contra some_held
    obtain ⟨stack, held⟩ := List.exists_mem_of_ne_nil _ some_held
    have positive := ((order.tidy chara).held_fit held).positive (by decide)
    have counted : stack.2.quantity ≤ db.total chara PKG_KEYITEMS { itemId } := by
      apply List.single_le_sum
      · intro n inside
        obtain ⟨other, kept, rfl⟩ := List.mem_map.mp inside
        exact ((order.tidy chara).held_fit kept).nonneg
      · exact List.mem_map_of_mem held
    omega
  · intro none_held
    rw [total, none_held, List.map_nil, List.sum_nil]

inductive Gain (maxStack : UInt32 → Option ℤ) (db : Database) (chara itemId : UInt32)
    (quantity : ℤ) : UInt16 → ℤ → Prop
  | room (room : db.HasRoom maxStack chara itemId 1 quantity) :
      Gain maxStack db chara itemId quantity PKG_NORMAL quantity
  | full (full : ¬ db.HasRoom maxStack chara itemId 1 quantity) :
      Gain maxStack db chara itemId quantity PKG_NORMAL 0
  | gil (gil : itemId = GIL_ITEM_ID) :
      Gain maxStack db chara itemId quantity PKG_CURRENCY_CRYSTALS
        (min (db.total chara PKG_CURRENCY_CRYSTALS .gil + quantity) (2 ^ 31 - 1) -
          db.total chara PKG_CURRENCY_CRYSTALS .gil)
  | other (other : itemId ≠ GIL_ITEM_ID) :
      Gain maxStack db chara itemId quantity PKG_CURRENCY_CRYSTALS 0
  | key (absent : db.held chara PKG_KEYITEMS { itemId } = []) :
      Gain maxStack db chara itemId quantity PKG_KEYITEMS 1
  | held (held : db.held chara PKG_KEYITEMS { itemId } ≠ []) :
      Gain maxStack db chara itemId quantity PKG_KEYITEMS 0
  | elsewhere {package : UInt16} (bag : package ≠ PKG_NORMAL)
      (currency : package ≠ PKG_CURRENCY_CRYSTALS) (key : package ≠ PKG_KEYITEMS) :
      Gain maxStack db chara itemId quantity package 0

variable {quantity : Int32} {itemId : UInt32}

theorem gain_granted (order : InOrder maxStack db) (chara : UInt32) (package : UInt16)
    (asked : ¬ (quantity ≤ 0 ∨ itemId = 0)) :
    Gain maxStack db chara itemId quantity.toInt package
      (db.granted maxStack chara package itemId (.addItem chara package itemId quantity)) := by
  have positive := positive_of_not_le (not_or.mp asked).1
  simp only [granted, if_neg asked]
  by_cases currency : package = PKG_CURRENCY_CRYSTALS
  · subst currency
    rw [if_pos rfl, only]
    by_cases gil : itemId = GIL_ITEM_ID
    · obtain ⟨low, high⟩ := total_gil_bounds order chara
      have gained : db.currencyGained chara GIL_ITEM_ID quantity =
          min (db.total chara PKG_CURRENCY_CRYSTALS .gil + quantity.toInt) (2 ^ 31 - 1) -
            db.total chara PKG_CURRENCY_CRYSTALS .gil := by
        rw [Kind.gil] at low high ⊢
        rw [currencyGained, saturateI32]
        omega
      rw [if_pos ⟨rfl, rfl, gil.symm⟩, gained]
      exact .gil gil
    · rw [if_neg fun here => gil here.2.2.symm]
      exact .other gil
  · rw [if_neg currency]
    by_cases key : package = PKG_KEYITEMS
    · subst key
      rw [if_pos rfl, only, if_pos ⟨rfl, rfl, rfl⟩, keyGained]
      by_cases held : db.held chara PKG_KEYITEMS { itemId } = []
      · rw [if_neg fun gone => gone.elim (not_or.mp asked).2 (· held)]
        exact .key held
      · rw [if_pos (.inr held)]
        exact .held held
    · rw [if_neg key]
      by_cases normal : package = PKG_NORMAL
      · subst normal
        rw [if_pos rfl, only, if_pos ⟨rfl, rfl, rfl⟩]
        by_cases room : db.HasRoom maxStack chara itemId 1 quantity.toInt
        · rw [harvested_room order asked room]
          exact .room room
        · rw [harvested_full order asked room]
          exact .full room
      · rw [if_neg normal]
        exact .elsewhere normal currency key

theorem restores_processor (order : InOrder maxStack db) {handle : LuaItemPackage}
    (player : handle.isRetainer = false) :
    ((db.applyAddItem maxStack handle.ownerActorId handle.packageCode itemId
        quantity).applyRemoveItem handle.ownerActorId handle.packageCode itemId quantity).total
          handle.ownerActorId handle.packageCode { itemId } =
        db.total handle.ownerActorId handle.packageCode { itemId } ↔
      db.Restores maxStack handle .processor itemId quantity := by
  obtain ⟨chara, package, retainer⟩ := handle
  dsimp only at player ⊢
  subst player
  have added := effect_addItem order.sound (order.tidy chara) chara package itemId quantity
  have removed := effect_applyRemoveItem added.sound added.tidy chara package itemId quantity
  rw [removed.total, added.total, only, if_pos ⟨rfl, rfl, rfl⟩, Restores, ← or_assoc]
  by_cases asked : quantity ≤ 0 ∨ itemId = 0
  · simp only [asked, granted, if_true, true_or, neg_zero, add_zero]
  · have positive := positive_of_not_le (not_or.mp asked).1
    have held := ((order.tidy chara).total_le package { itemId }).1
    simp only [asked, if_false, false_or, Bool.false_eq_true]
    have gain := gain_granted order chara package asked
    generalize db.granted maxStack chara package itemId (.addItem chara package itemId quantity) =
      gained at gain ⊢
    clear added removed
    cases gain with
    | room room =>
        simp only [room, and_self, true_or, or_true, iff_true]
        omega
    | full full =>
        simp only [full, and_false, show PKG_NORMAL ≠ PKG_CURRENCY_CRYSTALS by decide,
          false_and, or_false]
        omega
    | gil gil =>
        subst gil
        obtain ⟨_, high⟩ := total_gil_bounds order chara
        rw [Kind.gil] at high ⊢
        simp only [show PKG_CURRENCY_CRYSTALS ≠ PKG_NORMAL by decide, false_and, false_or,
          true_and]
        omega
    | other other =>
        simp only [show PKG_CURRENCY_CRYSTALS ≠ PKG_NORMAL by decide, other, false_and, and_false,
          or_false]
        omega
    | key absent =>
        have none_held := (total_key order chara itemId).mpr absent
        simp only [none_held, true_or, iff_true]
        omega
    | held present =>
        have some_held := mt (total_key order chara itemId).mp present
        simp only [show PKG_KEYITEMS ≠ PKG_NORMAL by decide,
          show PKG_KEYITEMS ≠ PKG_CURRENCY_CRYSTALS by decide, false_and, or_false]
        omega
    | elsewhere bag currency key =>
        simp only [bag, currency, false_and, or_false]
        omega

theorem restores_runtime (order : InOrder maxStack db) {handle : LuaItemPackage}
    (player : handle.isRetainer = false) :
    (db.applyAddItem maxStack handle.ownerActorId handle.packageCode itemId quantity).total
          handle.ownerActorId handle.packageCode { itemId } =
        db.total handle.ownerActorId handle.packageCode { itemId } ↔
      db.Restores maxStack handle .runtime itemId quantity := by
  obtain ⟨chara, package, retainer⟩ := handle
  dsimp only at player ⊢
  subst player
  rw [total_applyAddItem order, Restores, ← or_assoc]
  by_cases asked : quantity ≤ 0 ∨ itemId = 0
  · simp only [asked, granted, if_true, true_or, add_zero]
  · have positive := positive_of_not_le (not_or.mp asked).1
    simp only [asked, false_or, Bool.false_eq_true, if_false]
    have gain := gain_granted order chara package asked
    generalize db.granted maxStack chara package itemId (.addItem chara package itemId quantity) =
      gained at gain ⊢
    cases gain with
    | room room =>
        simp only [room, not_true_eq_false, imp_false, false_and, iff_false]
        omega
    | full full =>
        simp only [full, not_false_eq_true, implies_true,
          show PKG_NORMAL ≠ PKG_CURRENCY_CRYSTALS by decide,
          show PKG_NORMAL ≠ PKG_KEYITEMS by decide, false_imp_iff, and_self, add_zero]
    | gil gil =>
        obtain ⟨_, high⟩ := total_gil_bounds order chara
        simp only [gil, show PKG_CURRENCY_CRYSTALS ≠ PKG_NORMAL by decide,
          show PKG_CURRENCY_CRYSTALS ≠ PKG_KEYITEMS by decide, false_imp_iff, true_imp_iff,
          true_and, and_true]
        omega
    | other other =>
        simp only [other, show PKG_CURRENCY_CRYSTALS ≠ PKG_NORMAL by decide,
          show PKG_CURRENCY_CRYSTALS ≠ PKG_KEYITEMS by decide, false_imp_iff, implies_true,
          and_self, add_zero]
    | key absent =>
        simp only [absent, ne_eq, not_true_eq_false, true_imp_iff, and_false, iff_false]
        omega
    | held present =>
        simp only [present, ne_eq, not_false_eq_true, implies_true, and_true,
          show PKG_KEYITEMS ≠ PKG_NORMAL by decide,
          show PKG_KEYITEMS ≠ PKG_CURRENCY_CRYSTALS by decide, false_imp_iff, add_zero]
    | elsewhere bag currency key =>
        simp only [bag, currency, key, false_imp_iff, and_self, add_zero]

end Restored

end Database

structure Queued where
  drain : Drain
  handle : LuaItemPackage
  cmd : ItemCommand
  pushed : ∃ call, cmd ∈ handle.push call

namespace Queued

def apply (maxStack : UInt32 → Option ℤ) (db : Database) (queued : Queued) : Option Database :=
  some (db.applyCommand maxStack queued.drain queued.cmd)

/-- The command goes to the inventory of its handle: it is a player's, or the command has the
variant of a retainer; or it does nothing in the bag that it goes to. -/
def Addressed (maxStack : UInt32 → Option ℤ) (db : Database) (queued : Queued) : Prop :=
  queued.handle.isRetainer = false ∨
    (∃ retainer package itemId quantity,
      queued.cmd = .addItemToRetainer retainer package itemId quantity) ∨
    db.Idle maxStack queued.drain queued.cmd

theorem cmd_cases (queued : Queued) :
    (queued.handle.isRetainer = true ∧ ∃ itemId quantity,
      queued.cmd = .addItemToRetainer queued.handle.ownerActorId queued.handle.packageCode itemId
        quantity) ∨
    (∃ itemId quantity, queued.cmd = .addItem queued.handle.ownerActorId
      queued.handle.packageCode itemId quantity) ∨
    ∃ itemId quantity, queued.cmd = .removeItem queued.handle.ownerActorId
      queued.handle.packageCode itemId quantity := by
  obtain ⟨drain, handle, cmd, call, pushed⟩ := queued
  cases call with
  | addItem args =>
      simp only [LuaItemPackage.push, LuaItemPackage.addItem] at pushed
      cases asked : addItemArgs args with
      | none => simp [asked] at pushed
      | some pair =>
          obtain ⟨catalog, qty⟩ := pair
          simp only [asked] at pushed
          split at pushed
          · next retainer => exact .inl ⟨retainer, catalog, qty, List.mem_singleton.mp pushed⟩
          · exact .inr (.inl ⟨catalog, qty, List.mem_singleton.mp pushed⟩)
  | addItems items =>
      obtain ⟨value, _, made⟩ := List.mem_filterMap.mp pushed
      cases value with
      | integer catalog => exact .inr (.inl ⟨_, _, (Option.some.inj made).symm⟩)
      | other => cases made
  | removeItem catalog quantity => exact .inr (.inr ⟨_, _, List.mem_singleton.mp pushed⟩)

theorem confined_iff {maxStack : UInt32 → Option ℤ} {db : Database}
    (order : db.InOrder maxStack) (queued : Queued) :
    queued.handle.place.Confined db (db.applyCommand maxStack queued.drain queued.cmd) ↔
      queued.Addressed maxStack db := by
  rw [Addressed, LuaItemPackage.place]
  obtain ⟨retainer, itemId, quantity, same⟩ | bag := queued.cmd_cases
  · rw [if_pos retainer, same]
    exact iff_of_true (Place.confined_addItemToRetainer _ _ _ _ order.sound)
      (.inr (.inl ⟨_, _, _, _, rfl⟩))
  · cases whose : queued.handle.isRetainer with
    | true =>
        have misdirected : ∀ retainer package itemId quantity,
            queued.cmd ≠ .addItemToRetainer retainer package itemId quantity := by
          intro retainer package itemId quantity variant
          obtain ⟨_, _, same⟩ | ⟨_, _, same⟩ := bag
          · cases variant.symm.trans same
          · cases variant.symm.trans same
        rw [if_pos rfl, Database.confined_storage_iff order misdirected]
        simp [misdirected]
    | false =>
        refine iff_of_true ?_ (.inl rfl)
        rw [if_neg (by simp)]
        obtain ⟨itemId, quantity, same⟩ | ⟨itemId, quantity, same⟩ := bag
        · rw [same]
          exact Place.confined_addItem _ _ _ _ _ order.sound
        · rw [same]
          cases queued.drain with
          | processor => exact Place.confined_applyRemoveItem _ _ _ _ order.sound
          | runtime => exact .refl _ db

end Queued

def LuaItemPackage.drained (maxStack : UInt32 → Option ℤ) (this : LuaItemPackage) (drain : Drain)
    (db : Database) (call : PackageCall) : Database :=
  (this.push call).foldl (Database.applyCommand maxStack · drain) db

theorem restores_iff {maxStack : UInt32 → Option ℤ} {db : Database} (order : db.InOrder maxStack)
    (handle : LuaItemPackage) {args : List LuaValue} {itemId : UInt32} {asked : Option Int32}
    (same : addItemArgs args = some (itemId, asked.getD 1)) (drain drain' : Drain) :
    handle.place.total (handle.drained maxStack drain'
        (handle.drained maxStack drain db (.addItem args)) (.removeItem itemId asked)) itemId =
        handle.place.total db itemId ↔
      db.Restores maxStack handle drain' itemId (asked.getD 1) := by
  rw [LuaItemPackage.place, LuaItemPackage.drained, LuaItemPackage.drained, LuaItemPackage.push,
    LuaItemPackage.push, LuaItemPackage.addItem, same, LuaItemPackage.removeItem]
  cases whose : handle.isRetainer with
  | true =>
      dsimp only [List.foldl_cons, List.foldl_nil]
      simp only [if_true, List.foldl_cons, List.foldl_nil, Place.total]
      have stored := order.applyCommand drain
        (.addItemToRetainer handle.ownerActorId handle.packageCode itemId (asked.getD 1))
      have spared : ((db.applyCommand maxStack drain (.addItemToRetainer handle.ownerActorId
          handle.packageCode itemId (asked.getD 1))).applyCommand maxStack drain'
            (.removeItem handle.ownerActorId handle.packageCode itemId
              (asked.getD 1))).storedTotal handle.ownerActorId itemId =
          (db.applyAddItemToRetainer handle.ownerActorId handle.packageCode itemId
            (asked.getD 1)).storedTotal handle.ownerActorId itemId := by
        cases drain' with
        | processor =>
            exact (Place.confined_applyRemoveItem _ _ _ _ stored.sound).storedTotal (by simp) _
        | runtime => rfl
      rw [spared, Database.Restores.eq_def, whose, if_pos rfl]
      by_cases nothing : asked.getD 1 ≤ 0 ∨ itemId = 0
      · rw [← or_assoc, Database.applyAddItemToRetainer, if_pos nothing]
        exact iff_of_true rfl (.inl nothing)
      · rw [Database.storedTotal_addItemToRetainer order.sound nothing, ← or_assoc]
        simp only [nothing, false_or]
  | false =>
      simp only [Bool.false_eq_true, if_false, List.foldl_cons, List.foldl_nil, Place.total]
      cases drain' with
      | processor => exact Database.restores_processor order whose
      | runtime => exact Database.restores_runtime order whose

/-- In every run of the commands on the queue each changes the inventory of its handle only, if
and only if each is addressed to it; and a removal restores what a grant of as much through the
same handle found there exactly where it takes back what came in. -/
theorem item_packages_exact (maxStack : UInt32 → Option ℤ) (db : Database)
    (order : db.InOrder maxStack) :
    (∀ queue : List Queued,
      EachStep (Queued.apply maxStack) (fun db queued => queued.handle.place.Confined db
        (db.applyCommand maxStack queued.drain queued.cmd)) db queue ↔
      EachStep (Queued.apply maxStack) (fun db queued => queued.Addressed maxStack db) db queue) ∧
    ∀ (handle : LuaItemPackage) (args : List LuaValue) (itemId : UInt32) (asked : Option Int32)
      (drain drain' : Drain), addItemArgs args = some (itemId, asked.getD 1) →
      (handle.place.total (handle.drained maxStack drain'
          (handle.drained maxStack drain db (.addItem args)) (.removeItem itemId asked)) itemId =
          handle.place.total db itemId ↔
        db.Restores maxStack handle drain' itemId (asked.getD 1)) := by
  constructor
  · intro queue
    apply EachStep.congr_of_inv (I := Database.InOrder maxStack) _ _ order
    · intro db queued db' inside _
      exact queued.confined_iff inside
    · intro db queued db' inside _ taken
      cases taken
      exact inside.applyCommand queued.drain queued.cmd
  · intro handle args itemId asked drain drain' same
    exact restores_iff order handle same drain drain'

theorem inOrder_empty (maxStack : UInt32 → Option ℤ) : Database.empty.InOrder maxStack :=
  ⟨Database.sound_empty, fun chara => Database.tidy_empty _ chara⟩

theorem item_packages_exact_player :
    EachStep (Queued.apply fun _ => none) (fun db queued => queued.handle.place.Confined db
      (db.applyCommand (fun _ => none) queued.drain queued.cmd)) Database.empty
        [⟨.processor, LuaPlayer.getItemPackage ⟨5⟩ 0, .addItem 5 0 4000 3,
            .addItem [.integer 4000, .integer 3], by decide⟩,
          ⟨.processor, LuaPlayer.getItemPackage ⟨5⟩ 0, .removeItem 5 0 4000 3,
            .removeItem 4000 (some 3), by decide⟩] :=
  ((item_packages_exact _ _ (inOrder_empty _)).1 _).mpr
    fun _ _ => ⟨.inl rfl, fun _ _ => ⟨.inl rfl, trivial⟩⟩

/-- The key item that is put on the handle of the retainer 5 is in the bag of the character 5; and
the three stacked items that are taken from it again stay. -/
theorem retainer_handle_hits_character :
    ¬ (LuaRetainer.getItemPackage ⟨5⟩ 100).place.Confined Database.empty
      ((LuaRetainer.getItemPackage ⟨5⟩ 100).drained (fun _ => none) .processor Database.empty
        (.addItems [.integer 9000])) ∧
    ((LuaRetainer.getItemPackage ⟨5⟩ 100).drained (fun _ => none) .processor Database.empty
      (.addItems [.integer 9000])).total 5 PKG_KEYITEMS { itemId := 9000 } = 1 ∧
    (LuaRetainer.getItemPackage ⟨5⟩ 0).place.total
      ((LuaRetainer.getItemPackage ⟨5⟩ 0).drained (fun _ => none) .processor
        ((LuaRetainer.getItemPackage ⟨5⟩ 0).drained (fun _ => none) .processor Database.empty
          (.addItem [.integer 4000, .integer 3])) (.removeItem 4000 (some 3))) 4000 = 3 := by
  refine ⟨?_, by decide, ?_⟩
  · intro confined
    have rows := confined.bags
    revert rows
    decide
  · with_unfolding_all decide

end Garlemald.Storage
