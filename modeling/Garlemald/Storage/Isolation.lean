import Garlemald.Library.Runs
import Garlemald.Storage.Retainers

/-!
Whose goods a retainer shows. The hires are rows of a character and a template, the goods and the
payment go by the template: where no template passes from one character to another with goods
on it, what a character sees of its retainer comes from its own deeds and from what was sold.
-/

namespace Garlemald.Storage

open Library

namespace Database

variable {db : Database} {retainer : UInt32}

/-- What goes on in the bags of characters leaves the stored goods as they are. -/
structure Spares (db db' : Database) : Prop where
  rows : db'.retainerInventory = db.retainerInventory
  items : ∀ row ∈ db.retainerInventory, db'.items row.serverItemId = db.items row.serverItemId

theorem Spares.refl (db : Database) : Spares db db := ⟨rfl, fun _ _ => rfl⟩

theorem Spares.trans {db' db'' : Database} (first : Spares db db') (second : Spares db' db'') :
    Spares db db'' where
  rows := second.rows.trans first.rows
  items row stored :=
    (second.items row (first.rows.symm ▸ stored)).trans (first.items row stored)

theorem not_mem_stored (sound : db.Sound) {row : InventoryRow} (carried : row ∈ db.inventory)
    {stored : RetainerRow} (inside : stored ∈ db.retainerInventory) :
    stored.serverItemId ≠ row.serverItemId := by
  obtain ⟨_, _, apart⟩ := List.nodup_append.mp sound.once
  have bag := List.mem_append_left (db.bazaar.map (·.serverItemId))
    (List.mem_map_of_mem (f := (·.serverItemId)) carried)
  exact (apart _ bag _ (List.mem_map_of_mem inside)).symm

theorem spares_addQuantity (sound : db.Sound) {chara : UInt32} {package : UInt16} {kind : Kind}
    {id : ℕ} {stack : ServerItem} (present : (id, stack) ∈ db.held chara package kind)
    (delta : ℤ) : Spares db (db.addQuantity id delta) := by
  obtain ⟨row, inside, _, _, rfl, _, _⟩ := mem_held.mp present
  refine ⟨rfl, fun stored kept => ?_⟩
  exact Function.update_of_ne (not_mem_stored sound inside kept) _ _

theorem spares_grant (sound : db.Sound) (chara : UInt32) (package : UInt16) (kind : Kind)
    (item : ServerItem) : Spares db (db.grant chara package kind item) := by
  rw [grant]
  cases first : (db.held chara package kind).head? with
  | some stack => exact spares_addQuantity sound (List.mem_of_mem_head? first) _
  | none => exact ⟨rfl, fun row stored => insertItem_items_of_ne (sound.unstored stored)⟩

theorem spares_debit (sound : db.Sound) (chara : UInt32) (price : ℤ) :
    Spares db (db.debit chara price) := by
  rw [debit]
  cases first : (db.held chara PKG_CURRENCY_CRYSTALS .gil).head? with
  | some stack => exact spares_addQuantity sound (List.mem_of_mem_head? first) _
  | none => exact .refl db

theorem spares_pay (sound : db.Sound) (buyer owner : UInt32) (price : ℤ) :
    Spares db (db.pay buyer owner price) := by
  rw [pay]
  split
  · exact (spares_debit sound buyer price).trans
      (spares_grant (touches_debit sound buyer price).sound owner _ _ _)
  · exact .refl db

section Delisted

variable {listed : BazaarRow} (sound : db.Sound) (offered : listed ∈ db.bazaar)
include sound offered

theorem spares_removeListing :
    Spares db (db.removeListing listed.retainerId listed.serverItemId) := by
  refine ⟨rfl, fun row stored => Function.update_of_ne ?_ _ _⟩
  intro same
  exact sound.offered_or_stored (List.mem_map_of_mem offered)
    (same ▸ List.mem_map_of_mem stored)

theorem bazaar_removeListing :
    (db.removeListing listed.retainerId listed.serverItemId).bazaar =
      db.bazaar.filter fun row => row.serverItemId ≠ listed.serverItemId := by
  apply List.filter_congr
  intro row inside
  by_cases same : row.serverItemId = listed.serverItemId
  · obtain rfl := List.inj_on_of_nodup_map sound.bazaar_keys inside offered same
    simp
  · simp [same]

theorem bazaarStock_removeListing (retainer : UInt32) :
    (db.removeListing listed.retainerId listed.serverItemId).bazaarStock retainer =
      (db.bazaarStock retainer).filter fun entry => entry.1 ≠ listed.serverItemId := by
  rw [bazaarStock, bazaar_removeListing sound offered, List.filter_comm]
  refine Eq.trans (join_congr ?_) (join_filter _)
  intro row inside
  exact Function.update_of_ne (of_decide_eq_true (List.mem_filter.mp inside).2) _ _

theorem bazaarStock_settle (buyer owner : UInt32) (item : ServerItem) (price : ℤ)
    (retainer : UInt32) :
    (db.settle buyer owner listed.retainerId listed.serverItemId item price).bazaarStock retainer =
      (db.bazaarStock retainer).filter fun entry => entry.1 ≠ listed.serverItemId := by
  have paid := touches_pay sound buyer owner price
  have delivered := touches_deliver sound offered buyer owner item price
  rw [bazaarStock_congr delivered.bazaar delivered.listed,
    bazaarStock_removeListing paid.sound (paid.bazaar.symm ▸ offered),
    bazaarStock_congr paid.bazaar paid.listed]

theorem retainerStock_settle (buyer owner : UInt32) (item : ServerItem) (price : ℤ)
    (retainer : UInt32) :
    (db.settle buyer owner listed.retainerId listed.serverItemId item price).retainerStock
      retainer = db.retainerStock retainer := by
  have paid := touches_pay sound buyer owner price
  have spared := ((spares_pay sound buyer owner price).trans
    (spares_removeListing paid.sound (paid.bazaar.symm ▸ offered))).trans
      (spares_grant (sound_delisted sound offered buyer owner price) buyer PKG_NORMAL
        { itemId := item.itemId, quality := item.quality } item)
  exact retainerStock_congr spared.rows spared.items retainer

end Delisted

def place (db : Database) (retainer : UInt32) (id : ℕ) : ℕ :=
  (db.bazaarStock retainer).findIdx fun entry => entry.1 = id

theorem filter_absent {id : ℕ} (absent : id ∉ (db.bazaarStock retainer).map Prod.fst) :
    ((db.bazaarStock retainer).filter fun entry => entry.1 ≠ id) = db.bazaarStock retainer := by
  rw [List.filter_eq_self]
  intro entry inside
  have present := List.mem_map_of_mem (f := Prod.fst) inside
  rw [decide_eq_true_eq]
  intro same
  exact absent (same ▸ present)

theorem filter_elsewhere (sound : db.Sound) {listed : BazaarRow} (offered : listed ∈ db.bazaar)
    (apart : listed.retainerId ≠ retainer) :
    ((db.bazaarStock retainer).filter fun entry => entry.1 ≠ listed.serverItemId) =
      db.bazaarStock retainer := by
  apply filter_absent
  intro also
  refine keys_apart sound.bazaar_keys apart ?_ ((join_keys _ _ _ _).subset also)
  exact List.mem_map_of_mem (List.mem_filter.mpr ⟨offered, by simp⟩)

theorem book_without {db' : Database} {id : ℕ} (sound : db.Sound)
    (offers : db'.bazaarStock retainer =
      (db.bazaarStock retainer).filter fun entry => entry.1 ≠ id)
    (stored : db'.retainerStock retainer = db.retainerStock retainer) :
    db'.book retainer = (db.book retainer).apply (.delist (db.place retainer id)) := by
  rw [book, offers, stored, map_erase_key (sound.bazaar_keys.sublist (bazaarStock_sub retainer))]
  rfl

def sells (db : Database) (buyer retainer : UInt32) (id : ℕ) : Bool :=
  match db.purchaseRetainerBazaarItem buyer retainer id with
  | some (.completed .., _) => true
  | _ => false

theorem removeRetainerBazaarItem_cases (db : Database) (retainer : UInt32) (id : ℕ) :
    (∃ listed ∈ db.bazaar, listed.retainerId = retainer ∧ listed.serverItemId = id ∧
      (db.removeRetainerBazaarItem retainer id).2 = db.removeListing retainer id) ∨
    ((∀ row ∈ db.bazaar, row.retainerId = retainer → row.serverItemId ≠ id) ∧
      (db.removeRetainerBazaarItem retainer id).2 = db) := by
  rw [removeRetainerBazaarItem]
  split
  · next found =>
      obtain ⟨listed, offered, here⟩ := List.any_eq_true.mp found
      obtain ⟨same, named⟩ := of_decide_eq_true here
      exact .inl ⟨listed, offered, same, named, rfl⟩
  · next missing =>
      refine .inr ⟨?_, rfl⟩
      intro row inside same named
      exact missing (List.any_eq_true.mpr ⟨row, inside, by simp [same, named]⟩)

theorem retainerStock_delist (sound : db.Sound) (target : UInt32) (id : ℕ) :
    (db.removeRetainerBazaarItem target id).2.retainerStock retainer =
      db.retainerStock retainer := by
  obtain ⟨listed, offered, rfl, rfl, removed⟩ | ⟨_, same⟩ :=
    db.removeRetainerBazaarItem_cases target id
  · rw [removed]
    have spared := spares_removeListing sound offered
    exact retainerStock_congr spared.rows spared.items retainer
  · rw [same]

theorem book_delist_self (sound : db.Sound) (retainer : UInt32) (id : ℕ) :
    (db.removeRetainerBazaarItem retainer id).2.book retainer =
      (db.book retainer).apply (.delist (db.place retainer id)) := by
  apply book_without sound _ (retainerStock_delist sound retainer id)
  obtain ⟨listed, offered, rfl, rfl, removed⟩ | ⟨missing, same⟩ :=
    db.removeRetainerBazaarItem_cases retainer id
  · rw [removed, bazaarStock_removeListing sound offered]
  · rw [same, filter_absent]
    intro present
    obtain ⟨row, kept, named⟩ := List.mem_map.mp ((join_keys _ _ _ _).subset present)
    obtain ⟨inside, here⟩ := List.mem_filter.mp kept
    exact missing row inside (of_decide_eq_true here) named

theorem book_delist_other (sound : db.Sound) {other : UInt32} (apart : retainer ≠ other)
    (id : ℕ) : (db.removeRetainerBazaarItem retainer id).2.book other = db.book other := by
  apply book_eq _ (retainerStock_delist sound retainer id)
  obtain ⟨listed, offered, rfl, rfl, removed⟩ | ⟨_, same⟩ :=
    db.removeRetainerBazaarItem_cases retainer id
  · rw [removed, bazaarStock_removeListing sound offered, filter_elsewhere sound offered apart]
  · rw [same]

theorem Sound.removeRetainerBazaarItem (sound : db.Sound) (retainer : UInt32) (id : ℕ) :
    (db.removeRetainerBazaarItem retainer id).2.Sound := by
  obtain ⟨listed, offered, rfl, rfl, removed⟩ | ⟨_, same⟩ :=
    db.removeRetainerBazaarItem_cases retainer id
  · rw [removed]
    exact sound.removeListing offered
  · rw [same]
    exact sound

theorem purchase_after (db : Database) (buyer retainer : UInt32) (id : ℕ) :
    (∃ owner item row, Sale db buyer retainer id owner item row ∧
      db.sells buyer retainer id = true ∧
        db.after (db.purchaseRetainerBazaarItem buyer retainer id) =
          db.settle buyer owner retainer id item (totalPrice row item.quantity)) ∨
    (db.sells buyer retainer id = false ∧
      db.after (db.purchaseRetainerBazaarItem buyer retainer id) = db) := by
  by_cases some_sale : ∃ owner item row, Sale db buyer retainer id owner item row
  · obtain ⟨owner, item, row, sale⟩ := some_sale
    refine .inl ⟨owner, item, row, sale, ?_, ?_⟩
    · rw [sells, purchase_sale sale]
    · rw [purchase_sale sale]
      rfl
  · simp only [not_exists] at some_sale
    right
    rw [sells]
    obtain failed | ⟨outcome, answered, other⟩ := purchase_rejected some_sale
    · rw [failed]
      exact ⟨rfl, rfl⟩
    · rw [answered]
      refine ⟨?_, rfl⟩
      cases outcome with
      | completed => exact absurd rfl (other _ _ _ _ _)
      | _ => rfl

theorem purchase_completed {buyer owner : UInt32} {id : ℕ} {itemId : UInt32}
    {quantity gilSpent : ℤ} {quality : UInt8} {db' : Database}
    (bought : db.purchaseRetainerBazaarItem buyer retainer id =
      some (.completed itemId quantity quality gilSpent owner, db')) :
    ∃ item row, Sale db buyer retainer id owner item row ∧
      gilSpent = totalPrice row item.quantity ∧
        db' = db.settle buyer owner retainer id item (totalPrice row item.quantity) := by
  obtain ⟨owner', item, row, sale, _, _⟩ | ⟨unsold, _⟩ := db.purchase_after buyer retainer id
  · rw [purchase_sale sale] at bought
    cases bought
    exact ⟨item, row, sale, rfl, rfl⟩
  · rw [sells, bought] at unsold
    cases unsold

theorem retainers_settle (sound : db.Sound) {listed : BazaarRow} (offered : listed ∈ db.bazaar)
    (buyer owner : UInt32) (item : ServerItem) (price : ℤ) :
    (db.settle buyer owner listed.retainerId listed.serverItemId item price).retainers =
      db.retainers :=
  (touches_deliver sound offered buyer owner item price).retainers.trans
    (touches_pay sound buyer owner price).retainers

theorem mem_retainers_of_owner {owner : UInt32} (owned : db.owner retainer = some owner) :
    (owner, retainer) ∈ db.retainers := by
  obtain ⟨hire, found, rfl⟩ := Option.map_eq_some_iff.mp owned
  have same := List.find?_some found
  rw [← of_decide_eq_true same]
  exact List.mem_of_find?_eq_some found

theorem book_sold_self (sound : db.Sound) {listed : BazaarRow} (offered : listed ∈ db.bazaar)
    (buyer owner : UInt32) (item : ServerItem) (price : ℤ) :
    (db.settle buyer owner listed.retainerId listed.serverItemId item price).book
        listed.retainerId =
      (db.book listed.retainerId).apply
        (.sold (db.place listed.retainerId listed.serverItemId)) :=
  book_without sound (bazaarStock_settle sound offered buyer owner item price _)
    (retainerStock_settle sound offered buyer owner item price _)

theorem book_sold_other (sound : db.Sound) {listed : BazaarRow} (offered : listed ∈ db.bazaar)
    (apart : listed.retainerId ≠ retainer) (buyer owner : UInt32) (item : ServerItem)
    (price : ℤ) :
    (db.settle buyer owner listed.retainerId listed.serverItemId item price).book retainer =
      db.book retainer := by
  apply book_eq _ (retainerStock_settle sound offered buyer owner item price retainer)
  rw [bazaarStock_settle sound offered, filter_elsewhere sound offered apart]

theorem total_pay_other (sound : db.Sound) {buyer owner chara : UInt32} (price : ℤ)
    (not_buyer : chara ≠ buyer) (not_owner : chara ≠ owner) :
    (db.pay buyer owner price).total chara PKG_CURRENCY_CRYSTALS .gil =
      db.total chara PKG_CURRENCY_CRYSTALS .gil := by
  apply total_of_held
  rw [pay]
  split
  · have debited := touches_debit sound buyer price
    have granted := touches_grant debited.sound owner PKG_CURRENCY_CRYSTALS .gil
      ⟨GIL_ITEM_ID, price, 0⟩
    exact (granted.held chara _ (fun here => not_owner here.1.symm) .gil).trans
      (debited.held chara _ (fun here => not_buyer here.1.symm) .gil)
  · rfl

/-- The gil that a purchase moves goes to the owner, and no one else has more after it. -/
structure Credited (db db' : Database) (owner : UInt32) (gilSpent : ℤ) : Prop where
  earned : db'.total owner PKG_CURRENCY_CRYSTALS .gil =
    db.total owner PKG_CURRENCY_CRYSTALS .gil + max gilSpent 0
  others : ∀ chara, chara ≠ owner →
    db'.total chara PKG_CURRENCY_CRYSTALS .gil ≤ db.total chara PKG_CURRENCY_CRYSTALS .gil

theorem credited_settle (sound : db.Sound) {buyer owner : UInt32} {id : ℕ} {item : ServerItem}
    {row : BazaarRow} (sale : Sale db buyer retainer id owner item row) :
    Credited db (db.settle buyer owner retainer id item (totalPrice row item.quantity)) owner
      (totalPrice row item.quantity) := by
  obtain ⟨offered, rfl, rfl⟩ := listing_some sale.listed
  refine ⟨?_, fun chara other => ?_⟩
  · rw [total_settle_gil sound offered, total_pay_owner sound sale.apart]
  · rw [total_settle_gil sound offered]
    by_cases buys : chara = buyer
    · rw [buys, total_pay_buyer sound sale.apart sale.covered]
      omega
    · rw [total_pay_other sound _ buys other]

theorem Sound.purchaseRetainerBazaarItem (sound : db.Sound) (buyer retainer : UInt32) (id : ℕ) :
    (db.after (db.purchaseRetainerBazaarItem buyer retainer id)).Sound := by
  obtain ⟨owner, item, row, sale, _, settled⟩ | ⟨_, same⟩ := db.purchase_after buyer retainer id
  · obtain ⟨offered, rfl, rfl⟩ := listing_some sale.listed
    rw [settled]
    exact (touches_deliver sound offered buyer owner item _).sound
  · rw [same]
    exact sound

def seen (db : Database) (retainer : UInt32) :
    Option (List (Entry Int32)) × List (Entry UInt16) :=
  ((db.listRetainerBazaar retainer).map (·.map Prod.snd),
    (db.retainerStock retainer).map Prod.snd)

theorem mapM_readable (entries : List (ℕ × Entry Int32)) :
    (entries.mapM fun entry : ℕ × Entry Int32 => entry.2.readable.map (entry.1, ·)).map
        (·.map Prod.snd) =
      (entries.map Prod.snd).mapM Entry.readable := by
  induction entries with
  | nil => rfl
  | cons entry entries ih =>
      rw [List.map_cons, List.mapM_cons, List.mapM_cons, ← ih]
      cases entry.2.readable with
      | none => rfl
      | some read =>
          cases entries.mapM fun later : ℕ × Entry Int32 => later.2.readable.map (later.1, ·) <;>
            rfl

theorem seen_eq (db : Database) (retainer : UInt32) :
    db.seen retainer = (db.book retainer).seen := by
  have sorted : ((db.bazaarStock retainer).mergeSort fun a b => a.2.slot ≤ b.2.slot).map
      Prod.snd = (db.book retainer).bazaar.mergeSort fun a b => a.slot ≤ b.slot := by
    apply List.map_mergeSort
    intro _ _ _ _
    rfl
  rw [seen, listRetainerBazaar, mapM_readable, sorted]
  rfl

end Database

inductive Deed where
  | hire (chara retainer : UInt32)
  | dismiss (chara retainer : UInt32)
  | store (chara retainer itemId : UInt32) (delta : Int32) (quality : UInt8) (package : UInt16)
  | list (chara retainer itemId : UInt32) (delta : Int32) (quality : UInt8) (priceGil : Int32)
  | delist (chara retainer : UInt32) (id : ℕ)
  | purchase (buyer retainer : UInt32) (id : ℕ)

/-- The database, and who hired a template last: that is not in the database. -/
structure Office where
  db : Database
  keeper : UInt32 → Option UInt32

namespace Office

variable (office : Office)

def step : Deed → Office
  | .hire chara retainer =>
      { db := (office.db.hireRetainer chara retainer).2
        keeper := Function.update office.keeper retainer (some chara) }
  | .dismiss chara retainer =>
      { office with db := (office.db.dismissRetainer chara retainer).2 }
  | .store _ retainer itemId delta quality package =>
      { office with
        db := office.db.after
          (office.db.addRetainerInventoryItem retainer itemId delta quality package) }
  | .list _ retainer itemId delta quality priceGil =>
      { office with
        db := office.db.after
          (office.db.addRetainerBazaarItem retainer itemId delta quality priceGil) }
  | .delist _ retainer id =>
      { office with db := (office.db.removeRetainerBazaarItem retainer id).2 }
  | .purchase buyer retainer id =>
      { office with
        db := office.db.after (office.db.purchaseRetainerBazaarItem buyer retainer id) }

theorem lawfulBEq_hires : LawfulBEq (UInt32 × UInt32) := inferInstance

attribute [local instance] lawfulBEq_hires

/-- What a deed is to the hire of a retainer by a character: what the character does to it, and
a sale from its bazaar by anyone. -/
def op (chara retainer : UInt32) : Deed → Option Book.Op
  | .store actor target itemId delta quality package =>
      if actor = chara ∧ target = retainer then some (.store itemId delta quality package)
      else none
  | .list actor target itemId delta quality priceGil =>
      if actor = chara ∧ target = retainer then some (.list itemId delta quality priceGil)
      else none
  | .delist actor target id =>
      if actor = chara ∧ target = retainer then some (.delist (office.db.place target id))
      else none
  | .purchase buyer target id =>
      if (office.db.sells buyer target id ∧ (chara, target) ∈ office.db.retainers) ∧
          target = retainer then
        some (.sold (office.db.place target id))
      else none
  | .hire _ _ | .dismiss _ _ => none

def ops (chara retainer : UInt32) : Office → List Deed → List Book.Op
  | _, [] => []
  | office, deed :: deeds =>
      (office.op chara retainer deed).toList ++ ops chara retainer (office.step deed) deeds

/-- A character has a book of its own for each template: the one it hired last. -/
def book (chara retainer : UInt32) : Book :=
  if office.keeper retainer = some chara then office.db.book retainer else {}

def Kept : Prop := ∀ hire ∈ office.db.retainers, office.keeper hire.2 = some hire.1

def Vacant (retainer : UInt32) : Prop :=
  (∀ row ∈ office.db.bazaar, row.retainerId ≠ retainer) ∧
    ∀ row ∈ office.db.retainerInventory, row.retainerId ≠ retainer

/-- A template is hired while nobody else has it and the goods on it, if there are any, are those
of the character; the goods are handled by the character that hired it last. -/
def Exclusive : Deed → Prop
  | .hire chara retainer =>
      (∀ hire ∈ office.db.retainers, hire.2 = retainer → hire.1 = chara) ∧
        (office.keeper retainer = some chara ∨ office.Vacant retainer)
  | .store chara retainer .. | .list chara retainer .. | .delist chara retainer _ =>
      office.keeper retainer = some chara
  | .dismiss .. | .purchase .. => True

variable {office : Office} {deed : Deed} {actor target : UInt32}

theorem sound_step (sound : office.db.Sound) (deed : Deed) : (office.step deed).db.Sound := by
  cases deed with
  | hire chara retainer =>
      rw [step, Database.hireRetainer]
      split
      · exact sound
      · exact ⟨sound.given, sound.resolved, sound.once⟩
  | dismiss chara retainer => exact ⟨sound.given, sound.resolved, sound.once⟩
  | store _ retainer itemId delta quality package =>
      exact sound.addRetainerInventoryItem itemId delta quality retainer package
  | list _ retainer itemId delta quality priceGil =>
      exact sound.addRetainerBazaarItem itemId delta quality retainer priceGil
  | delist _ retainer id => exact sound.removeRetainerBazaarItem retainer id
  | purchase buyer retainer id => exact sound.purchaseRetainerBazaarItem buyer retainer id

theorem retainers_step (sound : office.db.Sound)
    (other : ∀ chara retainer, deed ≠ .hire chara retainer) :
    ∀ hire ∈ (office.step deed).db.retainers, hire ∈ office.db.retainers := by
  cases deed with
  | hire chara retainer => exact absurd rfl (other chara retainer)
  | dismiss chara retainer => exact fun hire => List.mem_of_mem_filter
  | store _ retainer itemId delta quality package =>
      apply Database.addStack_after
        (P := fun after => ∀ hire ∈ after.retainers, hire ∈ office.db.retainers)
      · exact fun _ inside => inside
      · exact fun _ _ _ _ inside => inside
      · exact fun _ _ _ inside => inside
  | list _ retainer itemId delta quality priceGil =>
      apply Database.addStack_after
        (P := fun after => ∀ hire ∈ after.retainers, hire ∈ office.db.retainers)
      · exact fun _ inside => inside
      · exact fun _ _ _ _ inside => inside
      · exact fun _ _ _ inside => inside
  | delist _ retainer id =>
      obtain ⟨listed, _, rfl, rfl, removed⟩ | ⟨_, same⟩ :=
        office.db.removeRetainerBazaarItem_cases retainer id
      · rw [step, removed]
        exact fun _ inside => inside
      · rw [step, same]
        exact fun _ inside => inside
  | purchase buyer retainer id =>
      obtain ⟨owner, item, row, sale, _, settled⟩ | ⟨_, same⟩ :=
        office.db.purchase_after buyer retainer id
      · obtain ⟨offered, rfl, rfl⟩ := Database.listing_some sale.listed
        rw [step, settled, Database.retainers_settle sound offered]
        exact fun _ inside => inside
      · rw [step, same]
        exact fun _ inside => inside

theorem mem_hireRetainer {db : Database} {chara retainer : UInt32} {hire : UInt32 × UInt32}
    (inside : hire ∈ (db.hireRetainer chara retainer).2.retainers) :
    hire = (chara, retainer) ∨ hire ∈ db.retainers := by
  rw [Database.hireRetainer] at inside
  split at inside
  · exact .inr inside
  · exact (List.mem_orderedInsert _).mp inside

theorem Kept.step (sound : office.db.Sound) (kept : office.Kept)
    (exclusive : office.Exclusive deed) : (office.step deed).Kept := by
  intro hire inside
  cases deed with
  | hire chara retainer =>
      simp only [Office.step]
      by_cases here : hire.2 = retainer
      · rw [here, Function.update_self]
        obtain rfl | old := mem_hireRetainer inside
        · rfl
        · rw [exclusive.1 hire old here]
      · rw [Function.update_of_ne here]
        obtain rfl | old := mem_hireRetainer inside
        · exact absurd rfl here
        · exact kept hire old
  | _ => exact kept hire (retainers_step sound (by simp) hire inside)

theorem book_of_vacant {retainer : UInt32} (vacant : office.Vacant retainer) :
    office.db.book retainer = {} := by
  have offers : office.db.bazaar.filter (·.retainerId = retainer) = [] := by
    rw [List.filter_eq_nil_iff]
    intro row inside
    simpa using vacant.1 row inside
  have stored : office.db.retainerInventory.filter (·.retainerId = retainer) = [] := by
    rw [List.filter_eq_nil_iff]
    intro row inside
    simpa using vacant.2 row inside
  rw [Database.book, Database.bazaarStock, Database.retainerStock, offers, stored]
  rfl

theorem book_hire (exclusive : office.Exclusive (.hire actor target)) (chara retainer : UInt32) :
    (office.step (.hire actor target)).book chara retainer = office.book chara retainer := by
  have goods : (office.db.hireRetainer actor target).2.book retainer = office.db.book retainer := by
    rw [Database.hireRetainer]
    split <;> rfl
  simp only [book, step, goods]
  by_cases here : retainer = target
  · subst here
    obtain again | vacant := exclusive.2
    · rw [Function.update_self, again]
    · rw [book_of_vacant vacant, ite_self, ite_self]
  · rw [Function.update_of_ne here]

theorem book_handled {db' : Database} {op : Book.Op} (handles : office.keeper target = some actor)
    (self : db'.book target = (office.db.book target).apply op)
    (others : ∀ other, target ≠ other → db'.book other = office.db.book other)
    (chara retainer : UInt32) :
    ({ office with db := db' } : Office).book chara retainer =
      (if actor = chara ∧ target = retainer then some op else none).toList.foldl Book.apply
        (office.book chara retainer) := by
  simp only [book]
  by_cases here : target = retainer
  · subst here
    by_cases own : actor = chara
    · subst own
      rw [if_pos handles, if_pos handles, if_pos ⟨rfl, rfl⟩, self]
      rfl
    · have apart : office.keeper target ≠ some chara := by
        rw [handles]
        exact fun same => own (Option.some.inj same)
      have foreign : ¬ (actor = chara ∧ target = target) := fun both => own both.1
      rw [if_neg apart, if_neg apart, if_neg foreign]
      rfl
  · have elsewhere : ¬ (actor = chara ∧ target = retainer) := fun both => here both.2
    rw [others retainer here, if_neg elsewhere]
    rfl

theorem book_purchase (sound : office.db.Sound) (kept : office.Kept) (buyer target : UInt32)
    (id : ℕ) (chara retainer : UInt32) :
    (office.step (.purchase buyer target id)).book chara retainer =
      (office.op chara retainer (.purchase buyer target id)).toList.foldl Book.apply
        (office.book chara retainer) := by
  obtain ⟨owner, item, row, sale, sold, settled⟩ | ⟨unsold, same⟩ :=
    office.db.purchase_after buyer target id
  · obtain ⟨offered, rfl, rfl⟩ := Database.listing_some sale.listed
    have hired := Database.mem_retainers_of_owner sale.owned
    have owns : owner = chara ↔ (chara, row.retainerId) ∈ office.db.retainers := by
      constructor
      · rintro rfl
        exact hired
      · intro also
        exact Option.some.inj ((kept _ hired).symm.trans (kept _ also))
    simp only [step, op, settled, sold, ← owns, true_and]
    exact book_handled (kept _ hired) (Database.book_sold_self sound offered _ _ _ _)
      (fun _ apart => Database.book_sold_other sound offered apart _ _ _ _) chara retainer
  · simp only [step, op, same, unsold, Bool.false_eq_true, false_and, if_false]
    rfl

theorem book_step (sound : office.db.Sound) (kept : office.Kept)
    (exclusive : office.Exclusive deed) (chara retainer : UInt32) :
    (office.step deed).book chara retainer =
      (office.op chara retainer deed).toList.foldl Book.apply (office.book chara retainer) := by
  cases deed with
  | hire actor target => exact book_hire exclusive chara retainer
  | dismiss actor target => rfl
  | store actor target itemId delta quality package =>
      exact book_handled exclusive
        (Database.book_store_self sound itemId delta quality target package)
        (fun _ apart => Database.book_store_other sound itemId delta quality apart package)
        chara retainer
  | list actor target itemId delta quality priceGil =>
      exact book_handled exclusive
        (Database.book_list_self sound itemId delta quality target priceGil)
        (fun _ apart => Database.book_list_other sound itemId delta quality apart priceGil)
        chara retainer
  | delist actor target id =>
      exact book_handled exclusive (Database.book_delist_self sound target id)
        (fun _ apart => Database.book_delist_other sound apart id) chara retainer
  | purchase buyer target id => exact book_purchase sound kept buyer target id chara retainer

/-- A run in which no template is shared keeps every character's book as its own deeds and the
sales from its bazaar make it. -/
theorem book_run (sound : office.db.Sound) (kept : office.Kept) (deeds : List Deed)
    (exclusive : EachStep (fun office deed => some (step office deed)) Exclusive office deeds) :
    (deeds.foldl step office).db.Sound ∧ (deeds.foldl step office).Kept ∧
      ∀ chara retainer, (deeds.foldl step office).book chara retainer =
        (ops chara retainer office deeds).foldl Book.apply (office.book chara retainer) := by
  induction deeds generalizing office with
  | nil => exact ⟨sound, kept, fun _ _ => rfl⟩
  | cons deed deeds ih =>
      obtain ⟨now, later⟩ := exclusive _ rfl
      obtain ⟨sound', kept', books⟩ := ih (sound_step sound deed) (kept.step sound now) later
      refine ⟨sound', kept', fun chara retainer => ?_⟩
      rw [List.foldl_cons, books, ops, List.foldl_append, book_step sound kept now]

/-- What a character sees of its retainer is what its own deeds and the sales from its bazaar
make of what it had there, and the gil for what is bought from it goes to the character. -/
structure Isolated (office : Office) (deeds : List Deed) (chara retainer : UInt32) : Prop where
  seen : (deeds.foldl step office).db.seen retainer =
    ((ops chara retainer office deeds).foldl Book.apply (office.book chara retainer)).seen
  credited : ∀ buyer id itemId quantity quality gilSpent owner db',
    (deeds.foldl step office).db.purchaseRetainerBazaarItem buyer retainer id =
      some (.completed itemId quantity quality gilSpent owner, db') →
    owner = chara ∧ Database.Credited (deeds.foldl step office).db db' chara gilSpent

theorem isolated_of_exclusive (office : Office) (sound : office.db.Sound) (kept : office.Kept)
    (deeds : List Deed)
    (exclusive : EachStep (fun office deed => some (step office deed)) Exclusive office deeds)
    (chara retainer : UInt32) (hired : (chara, retainer) ∈ (deeds.foldl step office).db.retainers) :
    Isolated office deeds chara retainer := by
  obtain ⟨sound', kept', books⟩ := book_run sound kept deeds exclusive
  refine ⟨?_, ?_⟩
  · have own := books chara retainer
    rw [book, if_pos (kept' _ hired)] at own
    rw [Database.seen_eq, own]
  · intro buyer id itemId quantity quality gilSpent owner db' bought
    obtain ⟨item, row, sale, rfl, rfl⟩ := Database.purchase_completed bought
    have also := Database.mem_retainers_of_owner sale.owned
    obtain rfl : owner = chara := Option.some.inj ((kept' _ also).symm.trans (kept' _ hired))
    exact ⟨rfl, Database.credited_settle sound' sale⟩

instance : ∀ deed, Decidable (office.Exclusive deed)
  | .hire chara retainer =>
      -- over the list of the hires, not over all pairs of numbers
      @instDecidableAnd _ _
        (List.decidableBAll (fun hire : UInt32 × UInt32 => hire.2 = retainer → hire.1 = chara) _)
        (inferInstanceAs (Decidable (_ ∨ _ ∧ _)))
  | .store _ retainer .. | .list _ retainer .. | .delist _ retainer _ =>
      inferInstanceAs (Decidable (office.keeper retainer = _))
  | .dismiss _ _ | .purchase _ _ _ => isTrue trivial

/-- Nothing is hired and character 3 has 500 gil. -/
def fair : Office :=
  { db := Database.empty.insertItem 3 PKG_CURRENCY_CRYSTALS 0 ⟨GIL_ITEM_ID, 500, 1⟩
    keeper := fun _ => none }

theorem sound_fair : fair.db.Sound := Database.sound_empty.insertItem _ _ _ _

theorem kept_fair : fair.Kept := by
  intro hire inside
  cases inside

theorem isolated_fair :
    Isolated fair [.hire 1 1001, .hire 2 1002, .list 1 1001 5100 2 0 10, .list 1 1001 5101 1 0 70,
      .store 2 1002 5100 4 1 0, .purchase 3 1001 2, .dismiss 2 1002] 1 1001 := by
  apply isolated_of_exclusive fair sound_fair kept_fair
  · decide
  · decide

def shared : List Deed := [.hire 1 1001, .hire 2 1001, .list 2 1001 5100 2 0 10]

theorem not_isolated_shared :
    ¬ ∀ office : Office, office.db.Sound → office.Kept → ∀ deeds chara retainer,
      (chara, retainer) ∈ (deeds.foldl step office).db.retainers →
        Isolated office deeds chara retainer := by
  intro claim
  have shown := (claim fair sound_fair kept_fair shared 1 1001 (by decide)).seen
  have offers : (shared.foldl step fair).db.book 1001 =
      { bazaar := [⟨10, 0, ⟨5100, 2, 0⟩⟩] } := by decide
  have own : ops 1 1001 fair shared = [] := rfl
  have nothing : fair.book 1 1001 = {} := rfl
  rw [Database.seen_eq, offers, own, nothing] at shown
  simp [Book.seen, Entry.readable, readI32] at shown

end Office
end Garlemald.Storage
