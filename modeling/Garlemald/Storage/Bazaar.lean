import Garlemald.Storage.Items

/-!
A purchase from the bazaar of a retainer: the price goes from one stack of the buyer's gil to
one of the owner's, the listing goes, and its items go into the buyer's bag.
-/

namespace Garlemald.Storage

inductive PurchaseOutcome where
  | completed (itemId : UInt32) (quantity : ℤ) (quality : UInt8) (gilSpent : ℤ)
      (ownerCharaId : UInt32)
  | noOwner
  | cannotBuyFromSelf
  | listingGone
  | insufficientGil (have_ need : ℤ)
deriving DecidableEq

namespace Database

variable (db : Database)

def owner (retainer : UInt32) : Option UInt32 :=
  (db.retainers.find? (·.2 = retainer)).map (·.1)

def listing (retainer : UInt32) (id : ℕ) : Option (ServerItem × BazaarRow) := do
  let row ← db.bazaar.find? fun row => row.retainerId = retainer ∧ row.serverItemId = id
  let item ← db.items id
  some (item, row)

def insertListing (retainer : UInt32) (slot : ℤ) (priceGil : Int32) (item : ServerItem) :
    Database :=
  { db with
    items := Function.update db.items (db.lastId + 1) (some item)
    lastId := db.lastId + 1
    bazaar := db.bazaar ++ [⟨retainer, db.lastId + 1, slot, priceGil⟩] }

/-- The price comes off the first stack of gil. -/
def debit (chara : UInt32) (price : ℤ) : Database :=
  match (db.held chara PKG_CURRENCY_CRYSTALS .gil).head? with
  | some (id, _) => db.addQuantity id (-price)
  | none => db

/-- Goes into the first stack of the kind, or into a stack of its own. -/
def grant (chara : UInt32) (package : UInt16) (kind : Kind) (item : ServerItem) : Database :=
  match (db.held chara package kind).head? with
  | some (id, _) => db.addQuantity id item.quantity
  | none => db.insertItem chara package ((readI32 (db.nextSlot chara package)).getD 0) item

def pay (buyer owner : UInt32) (price : ℤ) : Database :=
  if price > 0 then
    (db.debit buyer price).grant owner PKG_CURRENCY_CRYSTALS .gil ⟨GIL_ITEM_ID, price, 0⟩
  else db

def removeListing (retainer : UInt32) (id : ℕ) : Database :=
  { db with
    items := Function.update db.items id none
    bazaar := db.bazaar.filter fun row => !(row.retainerId = retainer ∧ row.serverItemId = id) }

def settle (buyer owner retainer : UInt32) (id : ℕ) (item : ServerItem) (price : ℤ) : Database :=
  ((db.pay buyer owner price).removeListing retainer id).grant buyer PKG_NORMAL
    { itemId := item.itemId, quality := item.quality } item

def buyerGil (buyer : UInt32) : ℤ :=
  (readI32 (db.total buyer PKG_CURRENCY_CRYSTALS .gil)).getD 0

def totalPrice (row : BazaarRow) (quantity : ℤ) : ℤ := saturateI32 (row.priceGil.toInt * quantity)

/-- A transaction that fails is rolled back and gives nothing. -/
def purchaseRetainerBazaarItem (buyer retainer : UInt32) (id : ℕ) :
    Option (PurchaseOutcome × Database) :=
  match db.owner retainer with
  | none => some (.noOwner, db)
  | some owner =>
      if owner = buyer then some (.cannotBuyFromSelf, db)
      else
        match db.listing retainer id with
        | none => some (.listingGone, db)
        | some (item, row) => do
            let quantity ← readI32 item.quantity
            if quantity ≤ 0 then some (.listingGone, db)
            else
              let price := totalPrice row quantity
              if db.buyerGil buyer < price then
                some (.insufficientGil (db.buyerGil buyer) price, db)
              else
                some (.completed item.itemId quantity item.quality price owner,
                  db.settle buyer owner retainer id ⟨item.itemId, quantity, item.quality⟩ price)

end Database

def InBounds (maxStack : UInt32 → ℤ) (item : ServerItem) : Prop :=
  0 ≤ item.quantity ∧ item.quantity ≤ maxStack item.itemId

/-- No stack has left its bounds: what is there now is within them, or was not before. -/
def Kept (fits : ServerItem → Prop) (before after : ℕ → Option ServerItem) : Prop :=
  ∀ id item, after id = some item → (∀ old, before id = some old → fits old) → fits item

section Kept

variable {fits : ServerItem → Prop} {before after : ℕ → Option ServerItem} {id : ℕ}

theorem Kept.refl (fits : ServerItem → Prop) (items : ℕ → Option ServerItem) :
    Kept fits items items := fun _ item found fine => fine item found

theorem kept_update (untouched : after id = before id) (item : ServerItem) :
    Kept fits before (Function.update after id (some item)) ↔
      Kept fits before after ∧ ((∀ old, before id = some old → fits old) → fits item) := by
  constructor
  · intro kept
    constructor
    · intro k other found fine
      by_cases here : k = id
      · subst here
        exact fine other (untouched ▸ found)
      · exact kept k other ((Function.update_of_ne here _ _).trans found) fine
    · exact kept id item (Function.update_self _ _ _)
  · rintro ⟨kept, new⟩ k other found fine
    by_cases here : k = id
    · subst here
      rw [Function.update_self] at found
      cases found
      exact new fine
    · rw [Function.update_of_ne here] at found
      exact kept k other found fine

theorem kept_erase (untouched : after id = before id) :
    Kept fits before (Function.update after id none) ↔ Kept fits before after := by
  constructor
  · intro kept k other found fine
    by_cases here : k = id
    · subst here
      exact fine other (untouched ▸ found)
    · exact kept k other ((Function.update_of_ne here _ _).trans found) fine
  · intro kept k other found fine
    by_cases here : k = id
    · subst here
      rw [Function.update_self] at found
      cases found
    · rw [Function.update_of_ne here] at found
      exact kept k other found fine

end Kept

/-- What a debit leaves of the first stack is within the bounds. -/
def DebitFits (fits : ServerItem → Prop) (price : ℤ) : Option (ℕ × ServerItem) → Prop
  | some (_, stack) => fits stack → fits { stack with quantity := stack.quantity + -price }
  | none => True

/-- What a grant makes of the first stack, or of nothing, is within the bounds. -/
def GrantFits (fits : ServerItem → Prop) (item : ServerItem) : Option (ℕ × ServerItem) → Prop
  | some (_, stack) => fits stack → fits { stack with quantity := stack.quantity + item.quantity }
  | none => fits item

namespace Database

/-- What an operation on some packages of some characters leaves as it is. -/
structure Touches (db db' : Database) (here : UInt32 → UInt16 → Prop) : Prop where
  sound : db'.Sound
  held : ∀ c p, ¬ here c p → ∀ kind, db'.held c p kind = db.held c p kind
  bazaar : db'.bazaar = db.bazaar
  retainers : db'.retainers = db.retainers
  listed : ∀ row ∈ db.bazaar, db'.items row.serverItemId = db.items row.serverItemId
  later : db.lastId ≤ db'.lastId

theorem Touches.refl {db : Database} (sound : db.Sound) (here : UInt32 → UInt16 → Prop) :
    Touches db db here :=
  ⟨sound, fun _ _ _ _ => rfl, rfl, rfl, fun _ _ => rfl, Nat.le_refl _⟩

theorem Touches.trans {db db' db'' : Database} {here : UInt32 → UInt16 → Prop}
    (first : Touches db db' here) (second : Touches db' db'' here) : Touches db db'' here where
  sound := second.sound
  held c p elsewhere kind := (second.held c p elsewhere kind).trans (first.held c p elsewhere kind)
  bazaar := second.bazaar.trans first.bazaar
  retainers := second.retainers.trans first.retainers
  listed row offered :=
    (second.listed row (first.bazaar ▸ offered)).trans (first.listed row offered)
  later := first.later.trans second.later

theorem Touches.mono {db db' : Database} {here there : UInt32 → UInt16 → Prop}
    (touches : Touches db db' here) (wider : ∀ c p, here c p → there c p) :
    Touches db db' there := by
  refine { touches with held := ?_ }
  intro c p elsewhere
  exact touches.held c p fun inside => elsewhere (wider c p inside)

def Only (chara : UInt32) (package : UInt16) (c : UInt32) (p : UInt16) : Prop :=
  chara = c ∧ package = p

variable {db : Database} {chara : UInt32} {package : UInt16}

theorem Sound.insertListing (sound : db.Sound) (retainer : UInt32) (slot : ℤ) (priceGil : Int32)
    (item : ServerItem) : (db.insertListing retainer slot priceGil item).Sound := by
  apply sound.insert rfl rfl
  rw [references, references, Database.insertListing]
  simp only [List.map_append, List.map_cons, List.map_nil, List.append_assoc]
  rw [← List.append_assoc, ← List.append_assoc (db.inventory.map _)]
  exact List.perm_middle

variable {before : ℕ → Option ServerItem} {fits : ServerItem → Prop} {kind : Kind}
  {stack : ServerItem}

theorem touches_addQuantity (sound : db.Sound) {id : ℕ}
    (present : (id, stack) ∈ db.held chara package kind) (delta : ℤ) :
    Touches db (db.addQuantity id delta) (Only chara package) := by
  obtain ⟨row, inside, rfl, rfl, rfl, _, _⟩ := mem_held.mp present
  refine ⟨sound.changeQuantity _ _, fun c p elsewhere => ?_, rfl, rfl, ?_, ?_⟩
  · exact held_changeQuantity sound inside _ elsewhere
  · intro listed offered
    exact Function.update_of_ne (not_mem_bazaar sound inside offered) _ _
  · exact Nat.le_refl _

theorem touches_insertItem (sound : db.Sound) (slot : ℤ) (item : ServerItem) :
    Touches db (db.insertItem chara package slot item) (Only chara package) := by
  refine ⟨sound.insertItem _ _ _ _, fun c p elsewhere => ?_, rfl, rfl, ?_, ?_⟩
  · exact held_insertItem sound slot item elsewhere
  · intro row offered
    apply insertItem_items_of_ne
    intro new
    apply sound.unreferenced
    rw [← new, references, List.append_assoc]
    exact List.mem_append_right _ (List.mem_append_left _ (List.mem_map_of_mem offered))
  · exact Nat.le_succ _

theorem touches_grant (sound : db.Sound) (chara : UInt32) (package : UInt16) (kind : Kind)
    (item : ServerItem) :
    Touches db (db.grant chara package kind item) (Only chara package) := by
  rw [grant]
  cases first : (db.held chara package kind).head? with
  | some stack => exact touches_addQuantity sound (List.mem_of_mem_head? first) _
  | none => exact touches_insertItem sound _ item

theorem touches_debit (sound : db.Sound) (chara : UInt32) (price : ℤ) :
    Touches db (db.debit chara price) (Only chara PKG_CURRENCY_CRYSTALS) := by
  rw [debit]
  cases first : (db.held chara PKG_CURRENCY_CRYSTALS .gil).head? with
  | some stack => exact touches_addQuantity sound (List.mem_of_mem_head? first) _
  | none => exact .refl sound _

theorem total_addQuantity (sound : db.Sound) {id : ℕ}
    (present : (id, stack) ∈ db.held chara package kind) (delta : ℤ) :
    (db.addQuantity id delta).total chara package kind = db.total chara package kind + delta := by
  obtain ⟨row, inside, owned, stored, rfl, found, fits⟩ := mem_held.mp present
  rw [addQuantity, total_changeQuantity sound inside found, if_pos ⟨owned, stored, fits⟩]
  omega

theorem total_grant (sound : db.Sound) {item : ServerItem} (fits : kind.matches item = true) :
    (db.grant chara package kind item).total chara package kind =
      db.total chara package kind + item.quantity := by
  rw [grant]
  cases first : (db.held chara package kind).head? with
  | some stack => exact total_addQuantity sound (List.mem_of_mem_head? first) _
  | none =>
      dsimp only
      rw [total_insertItem sound, if_pos ⟨rfl, rfl, fits⟩]

theorem total_debit (sound : db.Sound) {price : ℤ} (covered : price ≤ db.buyerGil chara)
    (some_price : 0 < price) :
    (db.debit chara price).total chara PKG_CURRENCY_CRYSTALS .gil =
      db.total chara PKG_CURRENCY_CRYSTALS .gil - price := by
  rw [debit]
  cases first : (db.held chara PKG_CURRENCY_CRYSTALS .gil).head? with
  | some stack =>
      dsimp only
      rw [total_addQuantity sound (List.mem_of_mem_head? first)]
      omega
  | none =>
      rw [buyerGil, total, List.head?_eq_none_iff.mp first] at covered
      simp [readI32] at covered
      omega

theorem kept_addQuantity {id : ℕ} (present : (id, stack) ∈ db.held chara package kind)
    (untouched : before id = some stack) (delta : ℤ) :
    Kept fits before (db.addQuantity id delta).items ↔
      Kept fits before db.items ∧
        (fits stack → fits { stack with quantity := stack.quantity + delta }) := by
  obtain ⟨_, _, _, _, _, found, _⟩ := mem_held.mp present
  rw [addQuantity, changeQuantity_items id _ found, kept_update (found.trans untouched.symm),
    untouched]
  simp only [Option.some.injEq, forall_eq']

theorem kept_grant (sound : db.Sound) (item : ServerItem)
    (untouched : ∀ id stack, (id, stack) ∈ db.held chara package kind → before id = some stack)
    (fresh : before (db.lastId + 1) = none) :
    Kept fits before (db.grant chara package kind item).items ↔
      Kept fits before db.items ∧ GrantFits fits item (db.held chara package kind).head? := by
  rw [grant]
  cases first : (db.held chara package kind).head? with
  | some stack =>
      have present := List.mem_of_mem_head? first
      exact kept_addQuantity present (untouched _ _ present) _
  | none =>
      dsimp only
      rw [insertItem, kept_update (sound.fresh.trans fresh.symm), fresh]
      simp [GrantFits]

theorem kept_debit (price : ℤ)
    (untouched : ∀ id stack, (id, stack) ∈ db.held chara PKG_CURRENCY_CRYSTALS .gil →
      before id = some stack) :
    Kept fits before (db.debit chara price).items ↔
      Kept fits before db.items ∧
        DebitFits fits price (db.held chara PKG_CURRENCY_CRYSTALS .gil).head? := by
  rw [debit]
  cases first : (db.held chara PKG_CURRENCY_CRYSTALS .gil).head? with
  | some stack =>
      have present := List.mem_of_mem_head? first
      exact kept_addQuantity present (untouched _ _ present) _
  | none => simp [DebitFits]

end Database

end Garlemald.Storage
