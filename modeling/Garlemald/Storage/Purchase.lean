import Garlemald.Storage.Bazaar

/-!
When a purchase conserves what it moves. The price is checked against all the gil of the buyer
and comes off one stack, it is cut at what a number of 32 bits can hold, and what is granted
goes into the first stack, however full that is.
-/

namespace Garlemald.Storage
namespace Database

variable {db : Database} {chara buyer owner retainer : UInt32} {package : UInt16} {id : ℕ}

variable {listed : BazaarRow}

theorem held_removeListing (sound : db.Sound) (offered : listed ∈ db.bazaar) (kind : Kind) :
    (db.removeListing retainer listed.serverItemId).held chara package kind =
      db.held chara package kind := by
  have rows : (db.removeListing retainer listed.serverItemId).inventory = db.inventory := rfl
  apply held_congr rows
  intro row inside _ _
  exact Function.update_of_ne (not_mem_bazaar sound inside offered).symm _ _

theorem references_removeListing (retainer : UInt32) (id : ℕ) :
    (db.removeListing retainer id).references.Sublist db.references := by
  rw [references, references]
  apply List.Sublist.append _ (List.Sublist.refl _)
  apply List.Sublist.append (List.Sublist.refl _)
  exact List.filter_sublist.map _

theorem not_referenced_removeListing (sound : db.Sound) (offered : listed ∈ db.bazaar) :
    listed.serverItemId ∉ (db.removeListing listed.retainerId listed.serverItemId).references := by
  obtain ⟨front, _, last⟩ := List.nodup_append.mp sound.once
  obtain ⟨_, keys, _⟩ := List.nodup_append.mp front
  intro referenced
  rw [references, List.mem_append, List.mem_append] at referenced
  obtain (bag | other) | stored := referenced
  · obtain ⟨row, inside, same⟩ := List.mem_map.mp bag
    exact not_mem_bazaar sound inside offered same.symm
  · obtain ⟨row, kept, same⟩ := List.mem_map.mp other
    obtain ⟨inside, stays⟩ := List.mem_filter.mp kept
    obtain rfl := List.inj_on_of_nodup_map keys inside offered same
    simp at stays
  · have listed_first := List.mem_append_right (db.inventory.map (·.serverItemId))
      (List.mem_map_of_mem (f := (·.serverItemId)) offered)
    exact last _ listed_first _ stored rfl

theorem Sound.removeListing (sound : db.Sound) (offered : listed ∈ db.bazaar) :
    (db.removeListing listed.retainerId listed.serverItemId).Sound := by
  have fewer : (db.removeListing listed.retainerId listed.serverItemId).references.Sublist
      db.references := references_removeListing _ _
  refine ⟨?_, ?_, sound.once.sublist fewer⟩
  · intro k item found
    by_cases gone : k = listed.serverItemId
    · subst gone
      cases (Function.update_self _ _ _).symm.trans found
    · exact sound.given k item ((Function.update_of_ne gone _ _).symm.trans found)
  · intro k referenced
    have kept : k ≠ listed.serverItemId := by
      rintro rfl
      exact not_referenced_removeListing sound offered referenced
    have same : (db.removeListing listed.retainerId listed.serverItemId).items k = db.items k :=
      Function.update_of_ne kept _ _
    rw [same]
    exact sound.resolved k (fewer.subset referenced)

theorem total_of_held {db db' : Database} {kind : Kind}
    (same : db'.held chara package kind = db.held chara package kind) :
    db'.total chara package kind = db.total chara package kind := by
  rw [total, total, same]

section Pay

variable {price : ℤ}

theorem touches_pay (sound : db.Sound) (buyer owner : UInt32) (price : ℤ) :
    Touches db (db.pay buyer owner price) fun _ p => p = PKG_CURRENCY_CRYSTALS := by
  have only (c : UInt32) (p : UInt16) (chara : UInt32)
      (here : Only chara PKG_CURRENCY_CRYSTALS c p) : p = PKG_CURRENCY_CRYSTALS := here.2.symm
  rw [pay]
  split
  · have debited := touches_debit sound buyer price
    have granted := touches_grant debited.sound owner PKG_CURRENCY_CRYSTALS .gil
      ⟨GIL_ITEM_ID, price, 0⟩
    exact (debited.mono fun c p => only c p buyer).trans (granted.mono fun c p => only c p owner)
  · exact .refl sound _

theorem held_debit_other (sound : db.Sound) (apart : owner ≠ buyer) (price : ℤ) (kind : Kind) :
    (db.debit buyer price).held owner PKG_CURRENCY_CRYSTALS kind =
      db.held owner PKG_CURRENCY_CRYSTALS kind :=
  (touches_debit sound buyer price).held owner _ (fun here => apart here.1.symm) kind

theorem total_pay_buyer (sound : db.Sound) (apart : owner ≠ buyer)
    (covered : price ≤ db.buyerGil buyer) :
    (db.pay buyer owner price).total buyer PKG_CURRENCY_CRYSTALS .gil =
      db.total buyer PKG_CURRENCY_CRYSTALS .gil - max price 0 := by
  rw [pay]
  split
  · next positive =>
      have debited := touches_debit sound buyer price
      have granted := touches_grant debited.sound owner PKG_CURRENCY_CRYSTALS .gil
        ⟨GIL_ITEM_ID, price, 0⟩
      rw [total_of_held (granted.held buyer _ (fun here => apart here.1) .gil),
        total_debit sound covered positive]
      omega
  · omega

theorem total_pay_owner (sound : db.Sound) (apart : owner ≠ buyer) (price : ℤ) :
    (db.pay buyer owner price).total owner PKG_CURRENCY_CRYSTALS .gil =
      db.total owner PKG_CURRENCY_CRYSTALS .gil + max price 0 := by
  rw [pay]
  split
  · rw [total_grant (touches_debit sound buyer price).sound rfl,
      total_of_held (held_debit_other sound apart price .gil)]
    dsimp only
    omega
  · omega

theorem kept_pay {fits : ServerItem → Prop} (sound : db.Sound) (apart : owner ≠ buyer) :
    Kept fits db.items (db.pay buyer owner price).items ↔
      (0 < price →
        DebitFits fits price (db.held buyer PKG_CURRENCY_CRYSTALS .gil).head? ∧
          GrantFits fits ⟨GIL_ITEM_ID, price, 0⟩
            (db.held owner PKG_CURRENCY_CRYSTALS .gil).head?) := by
  rw [pay]
  split
  · next positive =>
      have debited := touches_debit sound buyer price
      have before := held_debit_other sound apart price .gil
      rw [kept_grant debited.sound, kept_debit, before]
      · simp only [Kept.refl, true_and, positive, forall_const]
      · intro id stack present
        obtain ⟨_, _, _, _, _, found, _⟩ := mem_held.mp present
        exact found
      · intro id stack present
        rw [before] at present
        obtain ⟨_, _, _, _, _, found, _⟩ := mem_held.mp present
        exact found
      · exact sound.items_later (Nat.lt_succ_of_le debited.later)
  · next free =>
      simp only [Kept.refl, true_iff]
      intro positive
      exact absurd positive free

end Pay

section Settle

variable {item : ServerItem} {price : ℤ} {listed : BazaarRow}

theorem sound_delisted (sound : db.Sound) (offered : listed ∈ db.bazaar) (buyer owner : UInt32)
    (price : ℤ) :
    ((db.pay buyer owner price).removeListing listed.retainerId listed.serverItemId).Sound := by
  have paid := touches_pay sound buyer owner price
  exact paid.sound.removeListing (paid.bazaar.symm ▸ offered)

theorem held_delisted (sound : db.Sound) (offered : listed ∈ db.bazaar) (kind : Kind) :
    ((db.pay buyer owner price).removeListing listed.retainerId listed.serverItemId).held
      chara package kind = (db.pay buyer owner price).held chara package kind := by
  have paid := touches_pay sound buyer owner price
  exact held_removeListing paid.sound (paid.bazaar.symm ▸ offered) kind

theorem held_pay (sound : db.Sound) (kind : Kind) :
    (db.pay buyer owner price).held chara PKG_NORMAL kind = db.held chara PKG_NORMAL kind :=
  (touches_pay sound buyer owner price).held chara PKG_NORMAL (by decide) kind

theorem touches_deliver (sound : db.Sound) (offered : listed ∈ db.bazaar) (buyer owner : UInt32)
    (item : ServerItem) (price : ℤ) :
    Touches ((db.pay buyer owner price).removeListing listed.retainerId listed.serverItemId)
      (db.settle buyer owner listed.retainerId listed.serverItemId item price)
      (Only buyer PKG_NORMAL) :=
  touches_grant (sound_delisted sound offered buyer owner price) buyer PKG_NORMAL _ item

theorem total_settle_gil (sound : db.Sound) (offered : listed ∈ db.bazaar) :
    (db.settle buyer owner listed.retainerId listed.serverItemId item price).total chara
      PKG_CURRENCY_CRYSTALS .gil =
        (db.pay buyer owner price).total chara PKG_CURRENCY_CRYSTALS .gil := by
  have granted := touches_deliver sound offered buyer owner item price
  have elsewhere : ¬ Only buyer PKG_NORMAL chara PKG_CURRENCY_CRYSTALS := by
    rintro ⟨_, same⟩
    exact absurd same (by decide)
  have same := granted.held chara PKG_CURRENCY_CRYSTALS elsewhere .gil
  exact total_of_held (same.trans (held_delisted sound offered .gil))

theorem total_settle_bag (sound : db.Sound) (offered : listed ∈ db.bazaar) :
    (db.settle buyer owner listed.retainerId listed.serverItemId item price).total buyer
      PKG_NORMAL { itemId := item.itemId, quality := item.quality } =
        db.total buyer PKG_NORMAL { itemId := item.itemId, quality := item.quality } +
          item.quantity := by
  rw [settle, total_grant (sound_delisted sound offered buyer owner price) (by simp [Kind.matches]),
    total_of_held ((held_delisted sound offered _).trans (held_pay sound _))]

theorem kept_settle {fits : ServerItem → Prop} (sound : db.Sound) (apart : owner ≠ buyer)
    (offered : listed ∈ db.bazaar) :
    Kept fits db.items
        (db.settle buyer owner listed.retainerId listed.serverItemId item price).items ↔
      (0 < price →
        DebitFits fits price (db.held buyer PKG_CURRENCY_CRYSTALS .gil).head? ∧
          GrantFits fits ⟨GIL_ITEM_ID, price, 0⟩
            (db.held owner PKG_CURRENCY_CRYSTALS .gil).head?) ∧
        GrantFits fits item
          (db.held buyer PKG_NORMAL { itemId := item.itemId, quality := item.quality }).head? := by
  have paid := touches_pay sound buyer owner price
  have same (kind : Kind) : ((db.pay buyer owner price).removeListing listed.retainerId
      listed.serverItemId).held buyer PKG_NORMAL kind = db.held buyer PKG_NORMAL kind :=
    (held_delisted sound offered kind).trans (held_pay sound kind)
  rw [settle, kept_grant (sound_delisted sound offered buyer owner price), same,
    ← kept_pay sound apart]
  · rw [removeListing, kept_erase (paid.listed listed offered)]
  · intro id stack present
    rw [same] at present
    obtain ⟨_, _, _, _, _, found, _⟩ := mem_held.mp present
    exact found
  · exact sound.items_later (Nat.lt_succ_of_le paid.later)

theorem listing_settle (db : Database) (buyer owner retainer : UInt32) (id : ℕ)
    (item : ServerItem) (price : ℤ) :
    (db.settle buyer owner retainer id item price).listing retainer id = none := by
  have rows : (db.settle buyer owner retainer id item price).bazaar =
      (db.pay buyer owner price).bazaar.filter
        fun row => !(row.retainerId = retainer ∧ row.serverItemId = id) := by
    rw [settle, grant]
    split <;> rfl
  have gone : (db.settle buyer owner retainer id item price).bazaar.find?
      (fun row => row.retainerId = retainer ∧ row.serverItemId = id) = none := by
    rw [rows, List.find?_eq_none]
    intro row kept
    have other := (List.mem_filter.mp kept).2
    rw [Bool.not_eq_true'] at other
    exact Bool.eq_false_iff.mp other
  rw [listing, gone]
  rfl

theorem owner_settle (sound : db.Sound) (offered : listed ∈ db.bazaar) (retainer : UInt32) :
    (db.settle buyer owner listed.retainerId listed.serverItemId item price).owner retainer =
      db.owner retainer := by
  have paid := touches_pay sound buyer owner price
  have granted := touches_deliver sound offered buyer owner item price
  have same : (db.settle buyer owner listed.retainerId listed.serverItemId item
      price).retainers = db.retainers := granted.retainers.trans paid.retainers
  rw [Database.owner, Database.owner, same]

end Settle

/-- A purchase that goes through, of a listing that has an owner, items and a price in reach. -/
structure Sale (db : Database) (buyer retainer : UInt32) (id : ℕ) (owner : UInt32)
    (item : ServerItem) (row : BazaarRow) : Prop where
  owned : db.owner retainer = some owner
  apart : owner ≠ buyer
  listed : db.listing retainer id = some (item, row)
  readable : readI32 item.quantity = some item.quantity
  stocked : 0 < item.quantity
  covered : totalPrice row item.quantity ≤ db.buyerGil buyer

structure Settled (maxStack : UInt32 → ℤ) (db db' : Database) (buyer owner retainer : UInt32)
    (id : ℕ) (item : ServerItem) (row : BazaarRow) : Prop where
  spent : db'.total buyer PKG_CURRENCY_CRYSTALS .gil =
    db.total buyer PKG_CURRENCY_CRYSTALS .gil - row.priceGil.toInt * item.quantity
  earned : db'.total owner PKG_CURRENCY_CRYSTALS .gil =
    db.total owner PKG_CURRENCY_CRYSTALS .gil + row.priceGil.toInt * item.quantity
  kept : Kept (InBounds maxStack) db.items db'.items
  delisted : db'.listing retainer id = none
  delivered :
    db'.total buyer PKG_NORMAL { itemId := item.itemId, quality := item.quality } =
      db.total buyer PKG_NORMAL { itemId := item.itemId, quality := item.quality } + item.quantity
  again : db'.purchaseRetainerBazaarItem buyer retainer id = some (.listingGone, db')

def Conserves (maxStack : UInt32 → ℤ) (db : Database) (buyer retainer : UInt32) (id : ℕ) : Prop :=
  match db.purchaseRetainerBazaarItem buyer retainer id with
  | none => True
  | some (.completed itemId quantity quality _ owner, db') =>
      ∃ item row, db.listing retainer id = some (item, row) ∧
        item = ⟨itemId, quantity, quality⟩ ∧
          Settled maxStack db db' buyer owner retainer id item row
  | some (_, db') => db' = db

/-- The price is one that 32 bits can hold, the stack of gil that it comes off covers it, and
there is room on the stacks that the gil and the items go to. -/
def Fair (maxStack : UInt32 → ℤ) (db : Database) (buyer retainer : UInt32) (id : ℕ) : Prop :=
  ∀ owner item row, Sale db buyer retainer id owner item row →
    (0 ≤ row.priceGil.toInt * item.quantity ∧ row.priceGil.toInt * item.quantity < 2 ^ 31) ∧
    (0 < row.priceGil.toInt * item.quantity →
      DebitFits (InBounds maxStack) (row.priceGil.toInt * item.quantity)
        (db.held buyer PKG_CURRENCY_CRYSTALS .gil).head? ∧
      GrantFits (InBounds maxStack) ⟨GIL_ITEM_ID, row.priceGil.toInt * item.quantity, 0⟩
        (db.held owner PKG_CURRENCY_CRYSTALS .gil).head?) ∧
    GrantFits (InBounds maxStack) item
      (db.held buyer PKG_NORMAL { itemId := item.itemId, quality := item.quality }).head?

variable {item : ServerItem} {maxStack : UInt32 → ℤ} {row : BazaarRow}

theorem purchase_sale (sale : Sale db buyer retainer id owner item row) :
    db.purchaseRetainerBazaarItem buyer retainer id =
      some (.completed item.itemId item.quantity item.quality (totalPrice row item.quantity) owner,
        db.settle buyer owner retainer id item (totalPrice row item.quantity)) := by
  have stocked := sale.stocked
  have covered := sale.covered
  simp only [purchaseRetainerBazaarItem, sale.owned, sale.apart, if_false, sale.listed,
    sale.readable, Option.bind_eq_bind, Option.bind_some]
  rw [if_neg (by omega), if_neg (by omega)]

/-- An answer that is not a sale, with nothing written. -/
def Rejected (db : Database) (result : Option (PurchaseOutcome × Database)) : Prop :=
  result = none ∨ ∃ outcome, result = some (outcome, db) ∧
    ∀ itemId quantity quality gilSpent owner,
      outcome ≠ .completed itemId quantity quality gilSpent owner

theorem purchase_rejected
    (none_made : ∀ owner item row, ¬ Sale db buyer retainer id owner item row) :
    Rejected db (db.purchaseRetainerBazaarItem buyer retainer id) := by
  have refuse (outcome : PurchaseOutcome)
      (other : ∀ itemId quantity quality gilSpent owner,
        outcome ≠ .completed itemId quantity quality gilSpent owner) :
      Rejected db (some (outcome, db)) := .inr ⟨outcome, rfl, other⟩
  rw [purchaseRetainerBazaarItem]
  cases owned : db.owner retainer with
  | none => exact refuse _ (by simp)
  | some owner =>
      dsimp only
      split
      · exact refuse _ (by simp)
      · next apart =>
          cases listed : db.listing retainer id with
          | none => exact refuse _ (by simp)
          | some offer =>
              obtain ⟨item, row⟩ := offer
              dsimp only
              cases readable : readI32 item.quantity with
              | none => exact .inl rfl
              | some quantity =>
                  obtain rfl := eq_of_readI32 readable
                  simp only [Option.bind_eq_bind, Option.bind_some]
                  split
                  · exact refuse _ (by simp)
                  · next stocked =>
                      split
                      · exact refuse _ (by simp)
                      · next covered =>
                          exact absurd ⟨owned, apart, listed, readable, not_le.mp stocked,
                            not_lt.mp covered⟩ (none_made owner item row)

theorem conserves_of_rejected
    (rejected : Rejected db (db.purchaseRetainerBazaarItem buyer retainer id)) :
    Conserves maxStack db buyer retainer id := by
  rw [Conserves]
  obtain failed | ⟨outcome, answered, other⟩ := rejected
  · rw [failed]
    trivial
  · rw [answered]
    cases outcome with
    | completed itemId quantity quality gilSpent owner => exact absurd rfl (other _ _ _ _ _)
    | _ => rfl

theorem listing_some (listed : db.listing retainer id = some (item, row)) :
    row ∈ db.bazaar ∧ row.retainerId = retainer ∧ row.serverItemId = id := by
  obtain ⟨row', found, rest⟩ := Option.bind_eq_some_iff.mp listed
  obtain ⟨item', _, same⟩ := Option.bind_eq_some_iff.mp rest
  cases same
  have same := List.find?_some found
  exact ⟨List.mem_of_find?_eq_some found, of_decide_eq_true same⟩

theorem saturateI32_of_bounds {n : ℤ} (low : 0 ≤ n) (high : n < 2 ^ 31) : saturateI32 n = n := by
  rw [saturateI32]
  omega

theorem settled_iff (sound : db.Sound) (sale : Sale db buyer retainer id owner item row) :
    Settled maxStack db (db.settle buyer owner retainer id item (totalPrice row item.quantity))
        buyer owner retainer id item row ↔
      (0 ≤ row.priceGil.toInt * item.quantity ∧ row.priceGil.toInt * item.quantity < 2 ^ 31) ∧
        Kept (InBounds maxStack) db.items
          (db.settle buyer owner retainer id item (totalPrice row item.quantity)).items := by
  obtain ⟨offered, rfl, rfl⟩ := listing_some sale.listed
  have buyer_gil := total_pay_buyer sound sale.apart sale.covered
  have owner_gil := total_pay_owner sound sale.apart (totalPrice row item.quantity)
  constructor
  · intro settled
    refine ⟨?_, settled.kept⟩
    have spent := settled.spent
    rw [total_settle_gil sound offered, buyer_gil, totalPrice, saturateI32] at spent
    omega
  · rintro ⟨⟨low, high⟩, kept⟩
    have exact_price : totalPrice row item.quantity = row.priceGil.toInt * item.quantity :=
      saturateI32_of_bounds low high
    refine ⟨?_, ?_, kept, listing_settle _ _ _ _ _ _ _, total_settle_bag sound offered, ?_⟩
    · rw [total_settle_gil sound offered, buyer_gil, exact_price]
      omega
    · rw [total_settle_gil sound offered, owner_gil, exact_price]
      omega
    · simp only [purchaseRetainerBazaarItem, owner_settle sound offered, sale.owned, sale.apart,
        if_false, listing_settle]

theorem conserves_sale (sale : Sale db buyer retainer id owner item row) :
    Conserves maxStack db buyer retainer id ↔
      Settled maxStack db (db.settle buyer owner retainer id item (totalPrice row item.quantity))
        buyer owner retainer id item row := by
  rw [Conserves, purchase_sale sale]
  constructor
  · rintro ⟨item', row', listed, _, settled⟩
    rw [sale.listed] at listed
    cases listed
    exact settled
  · intro settled
    exact ⟨item, row, sale.listed, rfl, settled⟩

theorem fair_sale (sale : Sale db buyer retainer id owner item row) :
    Fair maxStack db buyer retainer id ↔
      (0 ≤ row.priceGil.toInt * item.quantity ∧ row.priceGil.toInt * item.quantity < 2 ^ 31) ∧
      (0 < row.priceGil.toInt * item.quantity →
        DebitFits (InBounds maxStack) (row.priceGil.toInt * item.quantity)
          (db.held buyer PKG_CURRENCY_CRYSTALS .gil).head? ∧
        GrantFits (InBounds maxStack) ⟨GIL_ITEM_ID, row.priceGil.toInt * item.quantity, 0⟩
          (db.held owner PKG_CURRENCY_CRYSTALS .gil).head?) ∧
      GrantFits (InBounds maxStack) item
        (db.held buyer PKG_NORMAL { itemId := item.itemId, quality := item.quality }).head? := by
  constructor
  · intro fair
    exact fair owner item row sale
  · intro fair owner' item' row' sale'
    cases sale.owned.symm.trans sale'.owned
    cases sale.listed.symm.trans sale'.listed
    exact fair

/-- A purchase conserves gil and items exactly if it is fair. -/
theorem purchase_conserves_iff (maxStack : UInt32 → ℤ) (db : Database) (sound : db.Sound)
    (buyer retainer : UInt32) (id : ℕ) :
    Conserves maxStack db buyer retainer id ↔ Fair maxStack db buyer retainer id := by
  by_cases some_sale : ∃ owner item row, Sale db buyer retainer id owner item row
  · obtain ⟨owner, item, row, sale⟩ := some_sale
    rw [conserves_sale sale, settled_iff sound sale, fair_sale sale]
    apply and_congr_right
    rintro ⟨low, high⟩
    obtain ⟨offered, rfl, rfl⟩ := listing_some sale.listed
    have exact_price : totalPrice row item.quantity = row.priceGil.toInt * item.quantity :=
      saturateI32_of_bounds low high
    rw [exact_price]
    exact kept_settle sound sale.apart offered
  · simp only [not_exists] at some_sale
    refine iff_of_true (conserves_of_rejected (purchase_rejected some_sale)) ?_
    intro owner item row sale
    exact absurd sale (some_sale owner item row)

/-- The buyer has 500 gil and 97 of an item of which a stack holds 99; a stack of it is listed
at 10 gil each. -/
def market (quantity : ℤ) : Database :=
  { ((empty.insertItem 1 PKG_CURRENCY_CRYSTALS 0 ⟨GIL_ITEM_ID, 500, 1⟩).insertItem 1 PKG_NORMAL 0
      ⟨10009001, 97, 1⟩).insertListing 1001 0 10 ⟨10009001, quantity, 1⟩ with
    retainers := [(2, 1001)] }

theorem sound_market (quantity : ℤ) : (market quantity).Sound := by
  have stored := ((sound_empty.insertItem 1 PKG_CURRENCY_CRYSTALS 0
    ⟨GIL_ITEM_ID, 500, 1⟩).insertItem 1 PKG_NORMAL 0 ⟨10009001, 97, 1⟩).insertListing 1001 0 10
      ⟨10009001, quantity, 1⟩
  exact ⟨stored.given, stored.resolved, stored.once⟩

def maxStackOf (itemId : UInt32) : ℤ := if itemId = GIL_ITEM_ID then 999999999 else 99

theorem market_conserves : Conserves maxStackOf (market 2) 1 1001 3 := by
  have sale : Sale (market 2) 1 1001 3 2 ⟨10009001, 2, 1⟩ ⟨1001, 3, 0, 10⟩ := by
    constructor <;> decide
  have purse : ((market 2).held 1 PKG_CURRENCY_CRYSTALS .gil).head? =
      some (1, ⟨GIL_ITEM_ID, 500, 1⟩) := by decide
  have till : ((market 2).held 2 PKG_CURRENCY_CRYSTALS .gil).head? = none := by decide
  have bag : ((market 2).held 1 PKG_NORMAL { itemId := 10009001, quality := some 1 }).head? =
      some (2, ⟨10009001, 97, 1⟩) := by decide
  apply (purchase_conserves_iff maxStackOf (market 2) (sound_market 2) 1 1001 3).mpr
  rw [fair_sale sale, purse, till, bag]
  simp only [DebitFits, GrantFits, InBounds]
  decide

theorem market_overfills :
    ¬ ∀ maxStack (db : Database), db.Sound → ∀ buyer retainer id,
      Conserves maxStack db buyer retainer id := by
  intro claim
  have sale : Sale (market 5) 1 1001 3 2 ⟨10009001, 5, 1⟩ ⟨1001, 3, 0, 10⟩ := by
    constructor <;> decide
  have settled := (conserves_sale sale).mp (claim maxStackOf (market 5) (sound_market 5) 1 1001 3)
  have before : (market 5).items 2 = some ⟨10009001, 97, 1⟩ := by decide
  have after : ((market 5).settle 1 2 1001 3 ⟨10009001, 5, 1⟩
      (totalPrice ⟨1001, 3, 0, 10⟩ 5)).items 2 = some ⟨10009001, 102, 1⟩ := by decide
  have fits := settled.kept 2 _ after
  rw [before] at fits
  have within : InBounds maxStackOf ⟨10009001, 97, 1⟩ := by
    rw [InBounds]
    decide
  have beyond := (fits fun old same => Option.some.inj same ▸ within).2
  exact absurd beyond (by decide)

end Database
end Garlemald.Storage
