import Garlemald.Library.Join
import Garlemald.Storage.Grants
import Mathlib.Algebra.Order.BigOperators.Group.List

/-!
The bag of a character through everything it is given and everything that is taken from it: what
its stacks and slots are at any time, and how the totals follow from what was granted and taken.
-/

namespace Garlemald.Storage

/-- What a stack holds: from one to the limit of its item, and any amount of a currency. -/
def Fit (limit : UInt32 → ℤ) (package : UInt16) (item : ServerItem) : Prop :=
  item.quantity < 2 ^ 31 ∧
    if package = PKG_CURRENCY_CRYSTALS then 0 ≤ item.quantity
    else 1 ≤ item.quantity ∧ item.quantity ≤ limit item.itemId

variable {limit : UInt32 → ℤ} {item : ServerItem} {package : UInt16}

theorem Fit.positive (fit : Fit limit package item)
    (no_currency : package ≠ PKG_CURRENCY_CRYSTALS) : 1 ≤ item.quantity := by
  obtain ⟨_, bounds⟩ := fit
  rw [if_neg no_currency] at bounds
  exact bounds.1

theorem Fit.nonneg (fit : Fit limit package item) : 0 ≤ item.quantity := by
  obtain ⟨_, bounds⟩ := fit
  split at bounds
  · exact bounds
  · omega

theorem Fit.lower (fit : Fit limit package item) {quantity : ℤ} (some_left : 1 ≤ quantity)
    (less : quantity ≤ item.quantity) : Fit limit package { item with quantity } := by
  obtain ⟨small, bounds⟩ := fit
  refine ⟨?_, ?_⟩
  · dsimp only
    omega
  · dsimp only
    split
    · omega
    · next no_currency =>
        rw [if_neg no_currency] at bounds
        omega

theorem readI32_of_bounds {n : ℤ} (low : -2 ^ 31 ≤ n) (high : n < 2 ^ 31) : readI32 n = some n :=
  if_pos ⟨low, high⟩

theorem Fit.read (fit : Fit limit package item) : readI32 item.quantity = some item.quantity := by
  have := fit.nonneg
  exact readI32_of_bounds (by omega) fit.1

theorem fit_normal (some_held : 1 ≤ item.quantity) (within : item.quantity ≤ limit item.itemId)
    (small : item.quantity < 2 ^ 31) : Fit limit PKG_NORMAL item := by
  refine ⟨small, ?_⟩
  rw [if_neg (by decide)]
  exact ⟨some_held, within⟩

namespace Database

/-- The slots are distinct, with those of the currency and the key items left aside, the stacks
hold what they may, and a currency is one stack. -/
structure Tidy (limit : UInt32 → ℤ) (db : Database) (chara : UInt32) : Prop where
  slots : ∀ package, package ≠ PKG_CURRENCY_CRYSTALS → package ≠ PKG_KEYITEMS →
    (db.slots chara package).Nodup
  fits : ∀ row ∈ db.inventory, row.characterId = chara → ∀ item,
    db.items row.serverItemId = some item → Fit limit row.itemPackage item
  single : ∀ itemId, (db.held chara PKG_CURRENCY_CRYSTALS { itemId }).length ≤ 1

/-- The slots of the key items are distinct and below a bound. -/
def KeySlots (db : Database) (chara : UInt32) (n : ℕ) : Prop :=
  (db.slots chara PKG_KEYITEMS).Nodup ∧ ∀ slot ∈ db.slots chara PKG_KEYITEMS, slot < n

def only (owner : UInt32) (stored : UInt16) (kept : UInt32) (n : ℤ) (chara : UInt32)
    (package : UInt16) (itemId : UInt32) : ℤ :=
  if owner = chara ∧ stored = package ∧ kept = itemId then n else 0

/-- What a change is to a character: what it gains, and how many key slots it takes. -/
structure Effect (limit : UInt32 → ℤ) (chara : UInt32) (db db' : Database)
    (gain : UInt16 → UInt32 → ℤ) (keys : ℕ) : Prop where
  sound : db'.Sound
  tidy : Tidy limit db' chara
  total : ∀ package itemId, db'.total chara package { itemId } =
    db.total chara package { itemId } + gain package itemId
  keySlots : ∀ n, KeySlots db chara n → n + keys ≤ 2 ^ 31 → KeySlots db' chara (n + keys)

section Effect

variable {limit : UInt32 → ℤ} {chara : UInt32} {db : Database}

theorem Effect.refl (sound : db.Sound) (tidy : Tidy limit db chara) :
    Effect limit chara db db (fun _ _ => 0) 0 :=
  ⟨sound, tidy, fun _ _ => (add_zero _).symm, fun _ slots _ => slots⟩

theorem Effect.trans {db' db'' : Database} {gain gain' : UInt16 → UInt32 → ℤ} {keys keys' : ℕ}
    (first : Effect limit chara db db' gain keys)
    (second : Effect limit chara db' db'' gain' keys') :
    Effect limit chara db db'' (fun package itemId => gain package itemId + gain' package itemId)
      (keys + keys') where
  sound := second.sound
  tidy := second.tidy
  total package itemId := by
    rw [second.total, first.total]
    omega
  keySlots n slots room := by
    rw [← Nat.add_assoc]
    apply second.keySlots _ (first.keySlots n slots (by omega))
    omega

theorem Effect.congr {db' : Database} {gain gain' : UInt16 → UInt32 → ℤ} {keys : ℕ}
    (effect : Effect limit chara db db' gain keys)
    (same : ∀ package itemId, gain package itemId = gain' package itemId) :
    Effect limit chara db db' gain' keys := by
  obtain rfl : gain = gain' := funext fun package => funext fun itemId => same package itemId
  exact effect

theorem Effect.mono_keys {db' : Database} {gain : UInt16 → UInt32 → ℤ} {keys keys' : ℕ}
    (effect : Effect limit chara db db' gain keys) (more : keys ≤ keys') :
    Effect limit chara db db' gain keys' := by
  refine { effect with keySlots := ?_ }
  intro n slots room
  obtain ⟨distinct, below⟩ := effect.keySlots n slots (by omega)
  refine ⟨distinct, fun slot taken => (below slot taken).trans_le ?_⟩
  omega

theorem Kind.matches_any (itemId : UInt32) (item : ServerItem) :
    Kind.matches { itemId } item = true ↔ item.itemId = itemId := by
  simp [Kind.matches]

theorem length_held_changeQuantity (id : ℕ) (f : ℤ → ℤ) (package : UInt16) (kind : Kind) :
    ((db.changeQuantity id f).held chara package kind).length =
      (db.held chara package kind).length := by
  rw [held, held]
  have rows : (db.changeQuantity id f).inventory = db.inventory := rfl
  rw [rows]
  induction db.inventory with
  | nil => rfl
  | cons row rows ih =>
      have shown : ((db.changeQuantity id f).stackOf chara package kind row).isSome =
          (db.stackOf chara package kind row).isSome := by
        rw [stackOf, stackOf, changeQuantity]
        split
        · dsimp only
          by_cases here : row.serverItemId = id
          · subst here
            rw [Function.update_self]
            cases db.items row.serverItemId with
            | none => rfl
            | some item =>
                rw [Option.map_some, Option.filter_some, Option.filter_some,
                  Kind.matches_quantity]
                split <;> rfl
          · rw [Function.update_of_ne here]
        · rfl
      rw [List.filterMap_cons, List.filterMap_cons]
      cases before : db.stackOf chara package kind row <;>
        cases after : (db.changeQuantity id f).stackOf chara package kind row <;>
        simp_all

variable {row : InventoryRow} {item : ServerItem}

theorem effect_changeQuantity (sound : db.Sound) (tidy : Tidy limit db chara)
    (present : row ∈ db.inventory) (found : db.items row.serverItemId = some item) (f : ℤ → ℤ)
    (fits : row.characterId = chara →
      Fit limit row.itemPackage { item with quantity := f item.quantity }) :
    Effect limit chara db (db.changeQuantity row.serverItemId f)
      (only row.characterId row.itemPackage item.itemId (f item.quantity - item.quantity) chara)
      0 where
  sound := sound.changeQuantity _ _
  tidy := {
    slots := tidy.slots
    fits := by
      intro other inside owned stored after
      rw [changeQuantity_items _ _ found] at after
      by_cases here : other.serverItemId = row.serverItemId
      · obtain rfl := row_unique sound inside present here
        rw [Function.update_self] at after
        cases after
        exact fits owned
      · rw [Function.update_of_ne here] at after
        exact tidy.fits other inside owned stored after
    single := by
      intro itemId
      rw [length_held_changeQuantity]
      exact tidy.single itemId }
  total package itemId := by
    rw [total_changeQuantity sound present found, only]
    simp only [Kind.matches_any]
  keySlots n slots _ := slots

theorem held_insertItem_self (sound : db.Sound) (package : UInt16) (slot : ℤ) (item : ServerItem)
    (kind : Kind) :
    (db.insertItem chara package slot item).held chara package kind =
      db.held chara package kind ++
        if kind.matches item = true then [(db.lastId + 1, item)] else [] := by
  have rows : (db.insertItem chara package slot item).inventory =
      db.inventory ++ [⟨chara, package, db.lastId + 1, slot⟩] := rfl
  have new : (db.insertItem chara package slot item).items (db.lastId + 1) = some item :=
    insertItem_items_self chara package slot item
  rw [held, held, rows, List.filterMap_append]
  congr 1
  · apply List.filterMap_congr
    intro row inside
    apply stackOf_congr
    exact insertItem_items_of_ne fun same => sound.unreferenced (same ▸ mem_references inside)
  · rw [List.filterMap_cons, List.filterMap_nil, stackOf, new, if_pos ⟨rfl, rfl⟩,
      Option.filter_some]
    by_cases asked : kind.matches item = true
    · rw [if_pos asked, if_pos asked]
      rfl
    · rw [if_neg asked, if_neg asked]
      rfl

theorem slots_insertItem (owner : UInt32) (stored : UInt16) (slot : ℤ) (item : ServerItem)
    (package : UInt16) :
    (db.insertItem owner stored slot item).slots chara package =
      db.slots chara package ++ if owner = chara ∧ stored = package then [slot] else [] := by
  rw [slots, slots, insertItem, List.filter_append, List.map_append]
  congr 1
  by_cases here : owner = chara ∧ stored = package
  · rw [List.filter_cons_of_pos (by simpa using here), if_pos here]
    rfl
  · rw [List.filter_cons_of_neg (by simpa using here), if_neg here]
    rfl

theorem nextSlot_free (db : Database) (chara : UInt32) (package : UInt16) :
    ∀ slot ∈ db.slots chara package, slot < db.nextSlot chara package := by
  intro slot taken
  have next : db.nextSlot chara package = ((db.slots chara package).max?).getD (-1) + 1 := rfl
  cases highest : (db.slots chara package).max? with
  | none =>
      rw [List.max?_eq_none_iff.mp highest] at taken
      cases taken
  | some top =>
      have below := (List.max?_eq_some_iff.mp highest).2 slot taken
      rw [next, highest, Option.getD_some]
      omega

theorem nextSlot_le {package : UInt16} {n : ℕ} (below : ∀ slot ∈ db.slots chara package, slot < n) :
    db.nextSlot chara package ≤ n := by
  have next : db.nextSlot chara package = ((db.slots chara package).max?).getD (-1) + 1 := rfl
  rw [next]
  cases highest : (db.slots chara package).max? with
  | none =>
      rw [Option.getD_none]
      omega
  | some top =>
      have := below top (List.max?_eq_some_iff.mp highest).1
      rw [Option.getD_some]
      omega

theorem keySlots_insertItem {n : ℕ} (slots : KeySlots db chara n) (room : n + 1 ≤ 2 ^ 31)
    (item : ServerItem) :
    KeySlots (db.insertItem chara PKG_KEYITEMS
      ((readI32 (db.nextSlot chara PKG_KEYITEMS)).getD 0) item) chara (n + 1) := by
  obtain ⟨distinct, below⟩ := slots
  have free := nextSlot_free db chara PKG_KEYITEMS
  have reach := nextSlot_le below
  have fresh : ∀ slot ∈ db.slots chara PKG_KEYITEMS,
      slot < (readI32 (db.nextSlot chara PKG_KEYITEMS)).getD 0 := by
    intro slot taken
    have := free slot taken
    rw [readI32]
    split
    · exact this
    · next far =>
        rw [Option.getD_none]
        omega
  have bounded : (readI32 (db.nextSlot chara PKG_KEYITEMS)).getD 0 < n + 1 := by
    rw [readI32]
    split
    · rw [Option.getD_some]
      omega
    · rw [Option.getD_none]
      omega
  rw [KeySlots, slots_insertItem, if_pos ⟨rfl, rfl⟩]
  refine ⟨List.nodup_append.mpr ⟨distinct, List.nodup_singleton _, ?_⟩, ?_⟩
  · intro slot taken other new
    rw [List.mem_singleton.mp new]
    exact (fresh slot taken).ne
  · intro slot taken
    obtain old | new := List.mem_append.mp taken
    · have := below slot old
      omega
    · rw [List.mem_singleton.mp new]
      exact_mod_cast bounded

theorem effect_insertItem (sound : db.Sound) (tidy : Tidy limit db chara) {owner : UInt32}
    {stored : UInt16} {slot : ℤ} (fits : owner = chara → Fit limit stored item)
    (free : owner = chara → stored ≠ PKG_CURRENCY_CRYSTALS → stored ≠ PKG_KEYITEMS →
      slot ∉ db.slots chara stored)
    (single : owner = chara → stored = PKG_CURRENCY_CRYSTALS →
      db.held chara PKG_CURRENCY_CRYSTALS { itemId := item.itemId } = [])
    (key : stored = PKG_KEYITEMS → slot = (readI32 (db.nextSlot owner PKG_KEYITEMS)).getD 0) :
    Effect limit chara db (db.insertItem owner stored slot item)
      (only owner stored item.itemId item.quantity chara)
      (if owner = chara ∧ stored = PKG_KEYITEMS then 1 else 0) where
  sound := sound.insertItem _ _ _ _
  tidy := {
    slots := by
      intro package no_currency no_keys
      rw [slots_insertItem]
      by_cases here : owner = chara ∧ stored = package
      · obtain ⟨own, rfl⟩ := here
        rw [if_pos ⟨own, rfl⟩]
        refine List.nodup_append.mpr
          ⟨tidy.slots stored no_currency no_keys, List.nodup_singleton _, ?_⟩
        intro old taken new inside
        rw [List.mem_singleton.mp inside]
        rintro rfl
        exact free own no_currency no_keys taken
      · rw [if_neg here, List.append_nil]
        exact tidy.slots package no_currency no_keys
    fits := by
      intro row inside owned held found
      obtain old | new := List.mem_append.mp inside
      · have other : row.serverItemId ≠ db.lastId + 1 := fun same =>
          sound.unreferenced (same ▸ mem_references old)
        rw [insertItem_items_of_ne other] at found
        exact tidy.fits row old owned held found
      · obtain rfl := List.mem_singleton.mp new
        rw [insertItem_items_self] at found
        cases found
        exact fits owned
    single := by
      intro itemId
      by_cases here : owner = chara ∧ stored = PKG_CURRENCY_CRYSTALS
      · obtain ⟨rfl, rfl⟩ := here
        rw [held_insertItem_self sound]
        simp only [Kind.matches_any]
        split
        · next same =>
            subst same
            rw [single rfl rfl]
            exact Nat.le_refl _
        · rw [List.append_nil]
          exact tidy.single itemId
      · rw [held_insertItem sound slot item here]
        exact tidy.single itemId }
  total package itemId := by
    rw [total_insertItem sound, only]
    simp only [Kind.matches_any]
  keySlots n slots room := by
    by_cases here : owner = chara ∧ stored = PKG_KEYITEMS
    · obtain ⟨rfl, rfl⟩ := here
      rw [if_pos ⟨rfl, rfl⟩] at room ⊢
      rw [key rfl]
      exact keySlots_insertItem slots room item
    · rw [if_neg here, KeySlots, slots_insertItem, if_neg here, List.append_nil]
      exact slots

theorem inventory_removeItem (sound : db.Sound) (present : row ∈ db.inventory) :
    (db.removeItem row.characterId row.serverItemId).inventory = db.inventory.erase row := by
  rw [sound.keys.of_map.erase_eq_filter]
  apply List.filter_congr
  intro other inside
  by_cases same : other = row
  · subst same
    simp
  · have apart : other.serverItemId ≠ row.serverItemId := fun equal =>
      same (row_unique sound inside present equal)
    simp [same, apart]

theorem effect_removeItem (sound : db.Sound) (tidy : Tidy limit db chara)
    (present : row ∈ db.inventory) (found : db.items row.serverItemId = some item) :
    Effect limit chara db (db.removeItem row.characterId row.serverItemId)
      (only row.characterId row.itemPackage item.itemId (-item.quantity) chara) 0 := by
  have fewer : (db.removeItem row.characterId row.serverItemId).inventory.Sublist db.inventory :=
    List.filter_sublist
  have slots (package : UInt16) : ((db.removeItem row.characterId row.serverItemId).slots chara
      package).Sublist (db.slots chara package) := (fewer.filter _).map _
  refine ⟨⟨sound.given, ?_, ?_⟩, ⟨?_, ?_, ?_⟩, ?_, ?_⟩
  · intro id referenced
    apply sound.resolved id
    exact (((fewer.map _).append (List.Sublist.refl _)).append (List.Sublist.refl _)).subset
      referenced
  · exact sound.once.sublist
      (((fewer.map _).append (List.Sublist.refl _)).append (List.Sublist.refl _))
  · intro package no_currency no_keys
    exact (tidy.slots package no_currency no_keys).sublist (slots package)
  · intro other inside
    exact tidy.fits other (fewer.subset inside)
  · intro itemId
    have held : ((db.removeItem row.characterId row.serverItemId).held chara
        PKG_CURRENCY_CRYSTALS { itemId }).Sublist
          (db.held chara PKG_CURRENCY_CRYSTALS { itemId }) :=
      fewer.filterMap _
    exact held.length_le.trans (tidy.single itemId)
  · intro package itemId
    have amounts :
        (db.removeItem row.characterId row.serverItemId).amount chara package { itemId } =
      db.amount chara package { itemId } := rfl
    have erased := List.sum_map_erase (db.amount chara package { itemId }) present
    rw [amount_of_items found] at erased
    rw [total_eq_sum, total_eq_sum, inventory_removeItem sound present, amounts, ← erased, only]
    simp only [Kind.matches_any]
    split <;> omega
  · intro n keySlots _
    exact ⟨keySlots.1.sublist (slots _),
      fun slot inside => keySlots.2 slot ((slots _).subset inside)⟩

end Effect

theorem only_add {owner chara kept itemId : UInt32} {stored package : UInt16} (n m : ℤ) :
    only owner stored kept n chara package itemId + only owner stored kept m chara package itemId =
      only owner stored kept (n + m) chara package itemId := by
  simp only [only]
  split <;> omega

theorem only_zero {owner chara kept itemId : UInt32} {stored package : UInt16} :
    only owner stored kept 0 chara package itemId = 0 := by
  rw [only, ite_self]

section Harvest

variable {limit : UInt32 → ℤ} {chara owner : UInt32} {db : Database}

variable {item : ServerItem} {maxStack : UInt32 → Option ℤ} {kind : Kind} {package : UInt16}
  {itemId : UInt32} {remaining : ℤ}

theorem Kind.itemId_of_matches (matched : kind.matches item = true) :
    item.itemId = kind.itemId := by
  rw [Kind.matches, Bool.and_eq_true] at matched
  exact of_decide_eq_true matched.1

theorem Tidy.held_fit (tidy : Tidy limit db chara) {id : ℕ}
    (held : (id, item) ∈ db.held chara package kind) : Fit limit package item := by
  obtain ⟨row, inside, owned, rfl, rfl, found, _⟩ := mem_held.mp held
  exact tidy.fits row inside owned item found

theorem effect_setQuantity (sound : db.Sound) (tidy : Tidy limit db chara) {id : ℕ}
    (held : (id, item) ∈ db.held owner package kind) (quantity : ℤ)
    (fits : owner = chara → Fit limit package { item with quantity }) :
    Effect limit chara db (db.setQuantity id quantity)
      (only owner package kind.itemId (quantity - item.quantity) chara) 0 := by
  obtain ⟨row, inside, rfl, rfl, rfl, found, matched⟩ := mem_held.mp held
  rw [← Kind.itemId_of_matches matched]
  exact effect_changeQuantity sound tidy inside found (fun _ => quantity) fits

theorem effect_addQuantity (sound : db.Sound) (tidy : Tidy limit db chara) {id : ℕ}
    (held : (id, item) ∈ db.held owner package kind) (delta : ℤ)
    (fits : owner = chara → Fit limit package { item with quantity := item.quantity + delta }) :
    Effect limit chara db (db.addQuantity id delta) (only owner package kind.itemId delta chara)
      0 := by
  obtain ⟨row, inside, rfl, rfl, rfl, found, matched⟩ := mem_held.mp held
  rw [← Kind.itemId_of_matches matched]
  refine (effect_changeQuantity sound tidy inside found (· + delta) fits).congr
    fun package itemId => ?_
  rw [add_sub_cancel_left]

theorem held_changeQuantity_ne {id id' : ℕ} (held : (id', item) ∈ db.held owner package kind)
    (other : id' ≠ id) (f : ℤ → ℤ) :
    (id', item) ∈ (db.changeQuantity id f).held owner package kind := by
  obtain ⟨row, inside, owned, stored, rfl, found, matched⟩ := mem_held.mp held
  exact mem_held.mpr ⟨row, inside, owned, stored, rfl,
    (Function.update_of_ne other _ _).trans found, matched⟩

theorem effect_topUp {m : ℤ} (reach : m ≤ limit kind.itemId) (small : m < 2 ^ 31)
    (existing : List (ℕ × ℤ)) (distinct : (existing.map Prod.fst).Nodup)
    (some_left : 0 ≤ remaining) (sound : db.Sound) (tidy : Tidy limit db chara)
    (stored : ∀ id quantity, (id, quantity) ∈ existing →
      ∃ item, (id, item) ∈ db.held owner PKG_NORMAL kind ∧ item.quantity = quantity) :
    0 ≤ (topUp m remaining existing db).1 ∧ (topUp m remaining existing db).1 ≤ remaining ∧
      Effect limit chara db (topUp m remaining existing db).2
        (only owner PKG_NORMAL kind.itemId (remaining - (topUp m remaining existing db).1) chara)
        0 := by
  induction existing generalizing db remaining with
  | nil =>
      refine ⟨some_left, le_refl _, (Effect.refl sound tidy).congr fun package itemId => ?_⟩
      rw [topUp, sub_self, only_zero]
  | cons stack existing ih =>
      obtain ⟨id, quantity⟩ := stack
      obtain ⟨apart, others⟩ := List.nodup_cons.mp distinct
      have behind := fun id quantity inside =>
        stored id quantity (List.mem_cons_of_mem _ inside)
      rw [topUp]
      split
      · refine ⟨some_left, le_refl _, (Effect.refl sound tidy).congr fun package itemId => ?_⟩
        rw [sub_self, only_zero]
      · split
        · exact ih others some_left sound tidy behind
        · next left_over full =>
            have room : 0 < min remaining (m - quantity) := by omega
            obtain ⟨item, held, rfl⟩ := stored id quantity List.mem_cons_self
            have added := effect_addQuantity sound tidy held (min remaining (m - item.quantity)) (by
              rintro rfl
              have before := (tidy.held_fit held).positive (by decide)
              obtain ⟨_, _, _, _, _, _, matched⟩ := mem_held.mp held
              apply fit_normal
              all_goals dsimp only
              · omega
              · rw [Kind.itemId_of_matches matched]
                omega
              · omega)
            have left : 0 ≤ remaining - min remaining (m - item.quantity) := by omega
            obtain ⟨low, high, spread⟩ := ih others left added.sound added.tidy (by
              intro id' quantity later
              obtain ⟨item', held', rfl⟩ := behind id' quantity later
              have present := List.mem_map_of_mem (f := Prod.fst) later
              have other : id' ≠ id := by
                rintro rfl
                exact apart present
              exact ⟨item', held_changeQuantity_ne held' other _, rfl⟩)
            rw [if_pos room]
            refine ⟨low, by omega, (added.trans spread).congr fun package itemId => ?_⟩
            rw [only_add]
            congr 1
            omega

theorem effect_spill {m : { m : ℤ // 1 ≤ m }} (reach : m.1 ≤ limit itemId) (small : m.1 < 2 ^ 31)
    (quality : UInt8) {db' : Database} (some_left : 0 ≤ remaining) (sound : db.Sound)
    (tidy : Tidy limit db chara) (done : db.spill m owner itemId quality remaining = some db') :
    Effect limit chara db db' (only owner PKG_NORMAL itemId remaining chara) 0 := by
  revert some_left sound tidy
  refine spill_run ?_ ?_ done
  · intro remaining db slot left read later some_left sound tidy
    have some_room := m.2
    have inserted : Effect limit chara db (db.insertItem owner PKG_NORMAL slot
        ⟨itemId, min remaining m, quality⟩)
        (only owner PKG_NORMAL itemId (min remaining m) chara) 0 := by
      refine (effect_insertItem sound tidy ?_ ?_ ?_ ?_).mono_keys ?_
      · intro _
        apply fit_normal
        all_goals dsimp only
        all_goals omega
      · rintro rfl _ _ taken
        have free := nextSlot_free db owner PKG_NORMAL slot taken
        rw [eq_of_readI32 read] at free
        omega
      · intro _ currency
        exact absurd currency (by decide)
      · intro key
        exact absurd key (by decide)
      · rw [if_neg fun both => absurd both.2 (by decide)]
    have rest := later (by omega) inserted.sound inserted.tidy
    refine (inserted.trans rest).congr fun package itemId' => ?_
    rw [only_add]
    congr 1
    omega
  · intro remaining none_left some_left sound tidy
    refine (Effect.refl sound tidy).congr fun package itemId => ?_
    rw [le_antisymm none_left some_left, only_zero]

theorem filter_getItemPackage (package : UInt16) (kind : Kind) :
    ((db.getItemPackage owner package).filter (kind.matches ·.2)).Perm
      (db.held owner package kind) := by
  have chosen : (db.getItemPackage owner package).filter (kind.matches ·.2) =
      (db.inventory.mergeSort fun a b => a.slot ≤ b.slot).filterMap
        (db.stackOf owner package kind) := by
    rw [getItemPackage, List.filter_filterMap]
    apply List.filterMap_congr
    intro row _
    rw [stackOf]
    split
    · cases db.items row.serverItemId with
      | none => rfl
      | some item =>
          simp only [Option.map_some, Option.filter_some]
          split <;> rfl
    · rfl
  rw [chosen, held]
  exact (List.mergeSort_perm _ _).filterMap _

theorem held_keys (sound : db.Sound) (package : UInt16) (kind : Kind) :
    ((db.held owner package kind).map Prod.fst).Nodup := by
  refine List.Nodup.sublist (Library.filterMap_keys ?_ _) sound.keys
  intro row stack shown
  rw [stackOf] at shown
  split at shown
  · obtain ⟨_, _, rfl⟩ := Option.map_eq_some_iff.mp shown
    rfl
  · cases shown

theorem eq_of_mapM_readI32 {stored : List (ℕ × ServerItem)} {existing : List (ℕ × ℤ)}
    (read : (stored.mapM fun stack : ℕ × ServerItem =>
      (readI32 stack.2.quantity).map (stack.1, ·)) = some existing) :
    existing = stored.map fun stack => (stack.1, stack.2.quantity) := by
  induction stored generalizing existing with
  | nil =>
      cases read
      rfl
  | cons stack stored ih =>
      rw [List.mapM_cons] at read
      obtain ⟨first, here, rest⟩ := Option.bind_eq_some_iff.mp read
      obtain ⟨others, behind, same⟩ := Option.bind_eq_some_iff.mp rest
      obtain ⟨quantity, known, rfl⟩ := Option.map_eq_some_iff.mp here
      cases same
      rw [List.map_cons, ← ih behind, eq_of_readI32 known]

theorem stackMax_bounds {m : { m : ℤ // 1 ≤ m }} (read : stackMax maxStack itemId = some m) :
    m.1 = stackLimit maxStack itemId ∧ m.1 < 2 ^ 31 := by
  obtain ⟨n, known, rfl⟩ := Option.map_eq_some_iff.mp read
  obtain rfl := eq_of_readI32 known
  rw [readI32] at known
  split at known
  · next bounds => exact ⟨rfl, by dsimp only; omega⟩
  · cases known

theorem positive_of_not_le {delta : Int32} (positive : ¬ delta ≤ 0) : 0 < delta.toInt := by
  rw [Int32.le_iff_toInt_le] at positive
  exact not_le.mp positive

def existing (db : Database) (owner itemId : UInt32) (quality : UInt8) : List (ℕ × ℤ) :=
  ((db.getItemPackage owner PKG_NORMAL).filter (Kind.matches { itemId, quality } ·.2)).map
    fun stack => (stack.1, stack.2.quantity)

theorem effect_topUp_existing {m : { m : ℤ // 1 ≤ m }} (limit : stackMax maxStack itemId = some m)
    (owner : UInt32) (quality : UInt8) (some_left : 0 ≤ remaining) (sound : db.Sound)
    (tidy : Tidy (stackLimit maxStack) db chara) :
    0 ≤ (topUp m remaining (db.existing owner itemId quality) db).1 ∧
      (topUp m remaining (db.existing owner itemId quality) db).1 ≤ remaining ∧
        Effect (stackLimit maxStack) chara db
          (topUp m remaining (db.existing owner itemId quality) db).2
          (only owner PKG_NORMAL itemId
            (remaining - (topUp m remaining (db.existing owner itemId quality) db).1) chara) 0 := by
  obtain ⟨exact_limit, small⟩ := stackMax_bounds limit
  have stored : ((db.getItemPackage owner PKG_NORMAL).filter
      (Kind.matches { itemId, quality } ·.2)).Perm (db.held owner PKG_NORMAL
        { itemId, quality }) := filter_getItemPackage PKG_NORMAL { itemId, quality }
  have keys : ((db.existing owner itemId quality).map Prod.fst).Nodup := by
    rw [existing, List.map_map]
    exact (stored.map Prod.fst).nodup_iff.mpr (held_keys sound _ _)
  have present : ∀ id quantity, (id, quantity) ∈ db.existing owner itemId quality →
      ∃ item, (id, item) ∈ db.held owner PKG_NORMAL { itemId, quality } ∧
        item.quantity = quantity := by
    intro id quantity inside
    obtain ⟨stack, kept, same⟩ := List.mem_map.mp inside
    cases same
    exact ⟨stack.2, stored.mem_iff.mp kept, rfl⟩
  exact effect_topUp exact_limit.le small _ keys some_left sound tidy present

theorem effect_harvest {delta : Int32} {quality : UInt8} {newTotal : ℤ} {db' : Database}
    (sound : db.Sound) (tidy : Tidy (stackLimit maxStack) db chara)
    (done : db.addHarvestItem maxStack owner itemId delta quality = some (newTotal, db')) :
    Effect (stackLimit maxStack) chara db db'
      (only owner PKG_NORMAL itemId (if delta ≤ 0 ∨ itemId = 0 then 0 else delta.toInt) chara)
      0 := by
  rw [addHarvestItem] at done
  split at done
  · next nothing =>
      cases done
      refine (Effect.refl sound tidy).congr fun package itemId' => ?_
      rw [if_pos nothing, only_zero]
  · next asked =>
      obtain ⟨m, limit, rest⟩ := Option.bind_eq_some_iff.mp done
      obtain ⟨_, read, rest⟩ := Option.bind_eq_some_iff.mp rest
      obtain ⟨spilled, poured, rest⟩ := Option.bind_eq_some_iff.mp rest
      obtain ⟨total, known, same⟩ := Option.bind_eq_some_iff.mp rest
      cases same
      obtain rfl := eq_of_mapM_readI32 read
      have some_asked := positive_of_not_le (not_or.mp asked).1
      obtain ⟨exact_limit, small⟩ := stackMax_bounds limit
      obtain ⟨low, high, added⟩ := effect_topUp_existing limit owner quality
        some_asked.le sound tidy
      have rest := effect_spill exact_limit.le small quality low added.sound added.tidy poured
      refine (added.trans rest).congr fun package itemId' => ?_
      rw [if_neg asked, only_add]
      congr 1
      omega

end Harvest

theorem only_foreign {owner chara : UInt32} (foreign : owner ≠ chara) (stored package : UInt16)
    (kept itemId : UInt32) (n : ℤ) : only owner stored kept n chara package itemId = 0 := by
  rw [only, if_neg fun here => foreign here.1]

section Others

variable {limit : UInt32 → ℤ} {chara owner : UInt32} {db : Database}

theorem effect_keyItem (least : ∀ itemId, 1 ≤ limit itemId) (sound : db.Sound)
    (tidy : Tidy limit db chara) (owner keyItemId : UInt32) :
    Effect limit chara db (db.addKeyItem owner keyItemId).2
      (only owner PKG_KEYITEMS keyItemId
        (if keyItemId = 0 ∨ db.held owner PKG_KEYITEMS { itemId := keyItemId } ≠ [] then 0 else 1)
        chara)
      (if owner = chara then 1 else 0) := by
  have nothing (none_new : keyItemId = 0 ∨
      db.held owner PKG_KEYITEMS { itemId := keyItemId } ≠ []) :
      Effect limit chara db db (only owner PKG_KEYITEMS keyItemId
        (if keyItemId = 0 ∨ db.held owner PKG_KEYITEMS { itemId := keyItemId } ≠ [] then 0 else 1)
        chara) (if owner = chara then 1 else 0) := by
    refine ((Effect.refl sound tidy).congr fun package itemId => ?_).mono_keys (Nat.zero_le _)
    rw [if_pos none_new, only_zero]
  rw [addKeyItem]
  split
  · next zero => exact nothing (.inl zero)
  · next named =>
      split
      · next stack first =>
          apply nothing
          right
          intro empty
          rw [empty] at first
          cases first
      · next missing =>
          have fresh := List.head?_eq_none_iff.mp missing
          rw [if_neg (not_or.mpr ⟨named, not_not.mpr fresh⟩)]
          refine (effect_insertItem sound tidy ?_ ?_ ?_ ?_).mono_keys ?_
          · intro _
            refine ⟨(by decide : (1 : ℤ) < 2 ^ 31), ?_⟩
            rw [if_neg (by decide)]
            exact ⟨le_refl _, least _⟩
          · intro _ _ no_key
            exact absurd rfl no_key
          · intro _ currency
            exact absurd currency (by decide)
          · intro _
            rfl
          · simp only [and_true, le_refl]

theorem Tidy.total_currency (tidy : Tidy limit db chara) {itemId : UInt32}
    {stack : ℕ × ServerItem}
    (first : (db.held chara PKG_CURRENCY_CRYSTALS { itemId }).head? = some stack) :
    db.total chara PKG_CURRENCY_CRYSTALS { itemId } = stack.2.quantity := by
  have single := tidy.single itemId
  rw [total]
  cases coins : db.held chara PKG_CURRENCY_CRYSTALS { itemId } with
  | nil =>
      rw [coins] at first
      cases first
  | cons head rest =>
      rw [coins] at first single
      cases first
      obtain rfl : rest = [] := List.eq_nil_of_length_eq_zero (by simpa using single)
      simp

theorem effect_currency (sound : db.Sound) (tidy : Tidy limit db chara) (owner itemId : UInt32)
    (slot : ℤ) (delta : Int32) :
    Effect limit chara db (db.after (db.addCurrency owner itemId slot delta))
      (only owner PKG_CURRENCY_CRYSTALS itemId
        (max (saturateI32 (db.total owner PKG_CURRENCY_CRYSTALS { itemId } + delta.toInt)) 0 -
          db.total owner PKG_CURRENCY_CRYSTALS { itemId }) chara) 0 := by
  have low := delta.le_toInt
  have high := delta.toInt_lt
  rw [addCurrency]
  split
  · next id stack first =>
      have held := List.mem_of_mem_head? first
      cases read : readI32 stack.quantity with
      | none =>
          refine (Effect.refl sound tidy).congr fun package itemId' => ?_
          rw [only_foreign]
          rintro rfl
          rw [(tidy.held_fit held).read] at read
          cases read
      | some quantity =>
          obtain rfl := eq_of_readI32 read
          refine (effect_setQuantity sound tidy held _ ?_).congr fun package itemId' => ?_
          · rintro rfl
            refine ⟨?_, ?_⟩
            · dsimp only
              rw [saturateI32]
              omega
            · rw [if_pos rfl]
              exact le_max_right _ _
          · by_cases own : owner = chara
            · subst own
              rw [tidy.total_currency first]
            · rw [only_foreign own, only_foreign own]
  · next missing =>
      have fresh := List.head?_eq_none_iff.mp missing
      have nothing : db.total owner PKG_CURRENCY_CRYSTALS { itemId } = 0 := by
        rw [total, fresh]
        rfl
      have inserted : Effect limit chara db (db.insertItem owner PKG_CURRENCY_CRYSTALS slot
          ⟨itemId, max delta.toInt 0, 1⟩)
          (only owner PKG_CURRENCY_CRYSTALS itemId (max delta.toInt 0) chara) 0 := by
        refine (effect_insertItem sound tidy ?_ ?_ ?_ ?_).mono_keys ?_
        · intro _
          refine ⟨?_, ?_⟩
          · dsimp only
            omega
          · rw [if_pos rfl]
            exact le_max_right _ _
        · intro _ no_currency
          exact absurd rfl no_currency
        · rintro rfl _
          exact fresh
        · intro key
          exact absurd key (by decide)
        · rw [if_neg fun both => absurd both.2 (by decide)]
      refine inserted.congr fun package itemId' => ?_
      rw [nothing, saturateI32]
      congr 1
      omega

variable {package : UInt16} {item : ServerItem}

theorem held_removeItem_ne {kind : Kind} {id id' : ℕ}
    (held : (id', item) ∈ db.held owner package kind) (other : id' ≠ id) :
    (id', item) ∈ (db.removeItem owner id).held owner package kind := by
  obtain ⟨row, inside, owned, stored, rfl, found, matched⟩ := mem_held.mp held
  refine mem_held.mpr ⟨row, List.mem_filter.mpr ⟨inside, ?_⟩, owned, stored, rfl, found, matched⟩
  simp [other]

theorem effect_removeItem_held (sound : db.Sound) (tidy : Tidy limit db chara) {kind : Kind}
    {id : ℕ} (held : (id, item) ∈ db.held owner package kind) :
    Effect limit chara db (db.removeItem owner id)
      (only owner package kind.itemId (-item.quantity) chara) 0 := by
  obtain ⟨row, inside, rfl, rfl, rfl, found, matched⟩ := mem_held.mp held
  rw [← Kind.itemId_of_matches matched]
  exact effect_removeItem sound tidy inside found

def listed (catalogId : UInt32) (rows : List (ℕ × ServerItem)) : ℤ :=
  ((rows.filter (·.2.itemId = catalogId)).map (·.2.quantity)).sum

theorem listed_cons (catalogId : UInt32) (id : ℕ) (item : ServerItem)
    (rows : List (ℕ × ServerItem)) :
    listed catalogId ((id, item) :: rows) =
      (if item.itemId = catalogId then item.quantity else 0) + listed catalogId rows := by
  rw [listed, listed, List.filter_cons]
  by_cases same : item.itemId = catalogId
  · simp [same]
  · simp [same]

theorem Tidy.listed_nonneg (tidy : Tidy limit db chara) {catalogId : UInt32}
    {rows : List (ℕ × ServerItem)}
    (stored : ∀ id item, (id, item) ∈ rows → item.itemId = catalogId →
      (id, item) ∈ db.held chara package { itemId := catalogId }) : 0 ≤ listed catalogId rows := by
  apply List.sum_nonneg
  intro quantity inside
  obtain ⟨row, chosen, rfl⟩ := List.mem_map.mp inside
  obtain ⟨present, same⟩ := List.mem_filter.mp chosen
  exact (tidy.held_fit (stored row.1 row.2 present (of_decide_eq_true same))).nonneg

theorem only_own {stored : UInt16} {kept : UInt32} {n m : ℤ} (same : owner = chara → n = m)
    (package : UInt16) (itemId : UInt32) :
    only owner stored kept n chara package itemId =
      only owner stored kept m chara package itemId := by
  by_cases own : owner = chara
  · rw [same own]
  · rw [only_foreign own, only_foreign own]

theorem effect_removeLoop {catalogId : UInt32} (rows : List (ℕ × ServerItem))
    (distinct : (rows.map Prod.fst).Nodup) {remaining : ℤ} (asked : 0 ≤ remaining)
    (sound : db.Sound) (tidy : Tidy limit db chara)
    (stored : ∀ id item, (id, item) ∈ rows → item.itemId = catalogId →
      (id, item) ∈ db.held owner package { itemId := catalogId }) :
    Effect limit chara db (removeLoop owner catalogId remaining rows db)
      (only owner package catalogId (-min remaining (listed catalogId rows)) chara) 0 := by
  induction rows generalizing db remaining with
  | nil =>
      refine (Effect.refl sound tidy).congr fun package' itemId => ?_
      have none_left : -min remaining (listed catalogId []) = 0 := by
        rw [listed]
        simpa using asked
      rw [none_left, only_zero]
  | cons row rows ih =>
      obtain ⟨id, item⟩ := row
      obtain ⟨apart, others⟩ := List.nodup_cons.mp distinct
      have behind := fun id item inside => stored id item (List.mem_cons_of_mem _ inside)
      rw [removeLoop]
      split
      · next done =>
          refine (Effect.refl sound tidy).congr fun package' itemId => ?_
          rw [only_own (m := 0), only_zero]
          rintro rfl
          have := tidy.listed_nonneg stored
          omega
      · next more =>
          rw [listed_cons]
          split
          · next other =>
              rw [zero_add]
              exact ih others asked sound tidy behind
          · next same =>
              rw [not_not] at same
              have held := stored id item List.mem_cons_self same
              have left_stored {db' : Database} (keeps : ∀ id' item',
                  (id', item') ∈ db.held owner package { itemId := catalogId } → id' ≠ id →
                    (id', item') ∈ db'.held owner package { itemId := catalogId }) :
                  ∀ id' item', (id', item') ∈ rows → item'.itemId = catalogId →
                    (id', item') ∈ db'.held owner package { itemId := catalogId } := by
                intro id' item' later named
                have present := List.mem_map_of_mem (f := Prod.fst) later
                refine keeps id' item' (behind id' item' later named) ?_
                rintro rfl
                exact apart present
              rw [if_pos same]
              dsimp only
              split
              · next partly =>
                  have lowered := effect_setQuantity sound tidy held
                    ((readI32 item.quantity).getD 1 - remaining) (by
                      rintro rfl
                      have fit := tidy.held_fit held
                      rw [fit.read, Option.getD_some] at partly ⊢
                      exact fit.lower (by omega) (by omega))
                  have rest := ih others (le_refl 0) lowered.sound lowered.tidy
                    (left_stored fun id' item' here other =>
                      held_changeQuantity_ne here other _)
                  refine (lowered.trans rest).congr fun package' itemId => ?_
                  rw [only_add]
                  apply only_own
                  rintro rfl
                  have rest_nonneg := tidy.listed_nonneg behind
                  rw [(tidy.held_fit held).read, Option.getD_some] at partly ⊢
                  omega
              · next wholly =>
                  have removed := effect_removeItem_held sound tidy held
                  have left : 0 ≤ remaining - (readI32 item.quantity).getD 1 := by omega
                  have rest := ih others left removed.sound removed.tidy
                    (left_stored fun id' item' here other => held_removeItem_ne here other)
                  refine (removed.trans rest).congr fun package' itemId => ?_
                  rw [only_add]
                  apply only_own
                  rintro rfl
                  have rest_nonneg := tidy.listed_nonneg behind
                  rw [(tidy.held_fit held).read, Option.getD_some] at wholly ⊢
                  omega

theorem getItemPackage_keys (sound : db.Sound) (package : UInt16) :
    ((db.getItemPackage owner package).map Prod.fst).Nodup := by
  have sorted : ((db.inventory.mergeSort fun a b => a.slot ≤ b.slot).map
      (·.serverItemId)).Nodup :=
    ((List.mergeSort_perm _ _).map _).nodup_iff.mpr sound.keys
  refine List.Nodup.sublist (Library.filterMap_keys ?_ _) sorted
  intro row stack shown
  split at shown
  · obtain ⟨_, _, rfl⟩ := Option.map_eq_some_iff.mp shown
    rfl
  · cases shown

theorem mem_getItemPackage {id : ℕ} :
    (id, item) ∈ db.getItemPackage owner package ↔
      (id, item) ∈ db.held owner package { itemId := item.itemId } := by
  rw [← (filter_getItemPackage package { itemId := item.itemId }).mem_iff, List.mem_filter]
  simp [Kind.matches]

theorem listed_getItemPackage (package : UInt16) (catalogId : UInt32) :
    listed catalogId (db.getItemPackage owner package).reverse =
      db.total owner package { itemId := catalogId } := by
  have same : (db.getItemPackage owner package).filter (·.2.itemId = catalogId) =
      (db.getItemPackage owner package).filter (Kind.matches { itemId := catalogId } ·.2) := by
    apply List.filter_congr
    intro row _
    simp [Kind.matches]
  rw [listed, List.filter_reverse, same, total]
  exact (((List.reverse_perm _).trans (filter_getItemPackage package _)).map _).sum_eq

theorem effect_applyRemoveItem (sound : db.Sound) (tidy : Tidy limit db chara) (owner : UInt32)
    (package : UInt16) (catalogId : UInt32) (quantity : Int32) :
    Effect limit chara db (db.applyRemoveItem owner package catalogId quantity)
      (only owner package catalogId
        (-if quantity ≤ 0 ∨ catalogId = 0 then 0
          else min quantity.toInt (db.total owner package { itemId := catalogId })) chara) 0 := by
  rw [applyRemoveItem]
  split
  · refine (Effect.refl sound tidy).congr fun package itemId => ?_
    rw [neg_zero, only_zero]
  · next asked =>
      have positive := positive_of_not_le (not_or.mp asked).1
      rw [← listed_getItemPackage]
      apply effect_removeLoop _ _ positive.le sound tidy
      · rintro id item inside rfl
        exact mem_getItemPackage.mp (List.mem_reverse.mp inside)
      · rw [List.map_reverse]
        exact List.nodup_reverse.mpr (getItemPackage_keys sound package)

end Others

end Database
end Garlemald.Storage
