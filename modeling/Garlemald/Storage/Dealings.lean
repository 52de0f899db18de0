import Garlemald.Storage.Ledger

/-!
Runs of grants and removals, by and for any characters. At every point of a run the bag of a
character is in order, and what it holds of an item is what it was given less what was taken.
-/

namespace Garlemald.Storage

inductive Dealing where
  | addItem (chara : UInt32) (itemPackage : UInt16) (itemId : UInt32) (quantity : Int32)
  | harvest (chara itemCatalogId : UInt32) (delta : Int32) (quality : UInt8)
  | keyItem (chara keyItemId : UInt32)
  | gil (chara : UInt32) (delta : Int32)
  | seals (chara : UInt32) (gc : UInt8) (delta : Int32)
  | removeItem (chara : UInt32) (itemPackage : UInt16) (catalogId : UInt32) (quantity : Int32)

namespace Database

variable (maxStack : UInt32 → Option ℤ) (db : Database)

def deal : Dealing → Database
  | .addItem chara itemPackage itemId quantity =>
      db.applyAddItem maxStack chara itemPackage itemId quantity
  | .harvest chara itemCatalogId delta quality =>
      db.after (db.addHarvestItem maxStack chara itemCatalogId delta quality)
  | .keyItem chara keyItemId => (db.addKeyItem chara keyItemId).2
  | .gil chara delta => db.after (db.addGil chara delta)
  | .seals chara gc delta => db.after (db.addSeals chara gc delta)
  | .removeItem chara itemPackage catalogId quantity =>
      db.applyRemoveItem chara itemPackage catalogId quantity

/-- A grant to the bag that fails gives nothing. -/
def harvested (chara itemCatalogId : UInt32) (delta : Int32) (quality : UInt8) : ℤ :=
  if delta ≤ 0 ∨ itemCatalogId = 0 ∨
      db.addHarvestItem maxStack chara itemCatalogId delta quality = none then 0
  else delta.toInt

def keyGained (chara keyItemId : UInt32) : ℤ :=
  if keyItemId = 0 ∨ db.held chara PKG_KEYITEMS { itemId := keyItemId } ≠ [] then 0 else 1

/-- The amount of a currency is cut to what is not negative and a number of 32 bits. -/
def currencyGained (chara itemId : UInt32) (delta : Int32) : ℤ :=
  max (saturateI32 (db.total chara PKG_CURRENCY_CRYSTALS { itemId } + delta.toInt)) 0 -
    db.total chara PKG_CURRENCY_CRYSTALS { itemId }

def granted (chara : UInt32) (package : UInt16) (itemId : UInt32) : Dealing → ℤ
  | .addItem owner stored given quantity =>
      if quantity ≤ 0 ∨ given = 0 then 0
      else if stored = PKG_CURRENCY_CRYSTALS then
        only owner PKG_CURRENCY_CRYSTALS GIL_ITEM_ID (db.currencyGained owner GIL_ITEM_ID quantity)
          chara package itemId
      else if stored = PKG_KEYITEMS then
        only owner PKG_KEYITEMS given (db.keyGained owner given) chara package itemId
      else if stored = PKG_NORMAL then
        only owner PKG_NORMAL given (db.harvested maxStack owner given quantity 1) chara package
          itemId
      else 0
  | .harvest owner given delta quality =>
      only owner PKG_NORMAL given (db.harvested maxStack owner given delta quality) chara package
        itemId
  | .keyItem owner given =>
      only owner PKG_KEYITEMS given (db.keyGained owner given) chara package itemId
  | .gil owner delta =>
      only owner PKG_CURRENCY_CRYSTALS GIL_ITEM_ID (db.currencyGained owner GIL_ITEM_ID delta) chara
        package itemId
  | .seals owner gc delta =>
      match sealItemId gc with
      | none => 0
      | some sealId =>
          only owner PKG_CURRENCY_CRYSTALS sealId (db.currencyGained owner sealId delta) chara
            package itemId
  | .removeItem .. => 0

def taken (chara : UInt32) (package : UInt16) (itemId : UInt32) : Dealing → ℤ
  | .removeItem owner stored catalogId quantity =>
      only owner stored catalogId
        (if quantity ≤ 0 ∨ catalogId = 0 then 0
          else min quantity.toInt (db.total owner stored { itemId := catalogId }))
        chara package itemId
  | _ => 0

def along (amount : Database → Dealing → ℤ) : Database → List Dealing → ℤ
  | _, [] => 0
  | db, dealing :: dealings => amount db dealing + along amount (db.deal maxStack dealing) dealings

end Database

/-- Whether a dealing may put a new key item into the bag of a character. -/
def Dealing.grantsKey (chara : UInt32) : Dealing → Bool
  | .addItem owner itemPackage _ _ => owner = chara ∧ itemPackage = PKG_KEYITEMS
  | .keyItem owner _ => owner = chara
  | _ => false

namespace Database

variable {maxStack : UInt32 → Option ℤ} {db : Database} {chara : UInt32}

theorem effect_after_harvest (sound : db.Sound) (tidy : Tidy (stackLimit maxStack) db chara)
    (owner itemId : UInt32) (delta : Int32) (quality : UInt8) :
    Effect (stackLimit maxStack) chara db
      (db.after (db.addHarvestItem maxStack owner itemId delta quality))
      (only owner PKG_NORMAL itemId (db.harvested maxStack owner itemId delta quality) chara)
        0 := by
  rw [harvested]
  cases done : db.addHarvestItem maxStack owner itemId delta quality with
  | none =>
      refine (Effect.refl sound tidy).congr fun package itemId' => ?_
      rw [if_pos (.inr (.inr rfl)), only_zero]
  | some result =>
      refine (effect_harvest sound tidy done).congr fun package itemId' => ?_
      simp only [reduceCtorEq, or_false]

theorem effect_seals (sound : db.Sound) (tidy : Tidy (stackLimit maxStack) db chara)
    (owner : UInt32) (gc : UInt8) (delta : Int32) :
    Effect (stackLimit maxStack) chara db (db.after (db.addSeals owner gc delta))
      (fun package itemId => db.granted maxStack chara package itemId (.seals owner gc delta))
      0 := by
  simp only [addSeals, granted]
  cases sealItemId gc with
  | none => exact Effect.refl sound tidy
  | some sealId => exact effect_currency sound tidy owner sealId _ delta

theorem effect_addItem (sound : db.Sound) (tidy : Tidy (stackLimit maxStack) db chara)
    (owner : UInt32) (stored : UInt16) (given : UInt32) (quantity : Int32) :
    Effect (stackLimit maxStack) chara db (db.applyAddItem maxStack owner stored given quantity)
      (fun package itemId =>
        db.granted maxStack chara package itemId (.addItem owner stored given quantity))
      ((Dealing.addItem owner stored given quantity).grantsKey chara).toNat := by
  simp only [applyAddItem, granted]
  split
  · exact (Effect.refl sound tidy).mono_keys (Nat.zero_le _)
  · next asked =>
      split
      · next currency =>
          have some_gil : quantity ≠ 0 := by
            rintro rfl
            exact asked (.inl (by decide))
          rw [applyAddGil, if_neg some_gil]
          exact (effect_currency sound tidy owner GIL_ITEM_ID 0 quantity).mono_keys (Nat.zero_le _)
      · split
        · next key =>
            refine (effect_keyItem (fun _ => le_max_right _ _) sound tidy owner given).mono_keys ?_
            simp only [Dealing.grantsKey, key, and_true]
            split <;> simp_all
        · split
          · exact (Effect.refl sound tidy).mono_keys (Nat.zero_le _)
          · next normal =>
              simp only [if_pos (not_not.mp normal)]
              exact (effect_after_harvest sound tidy owner given quantity 1).mono_keys
                (Nat.zero_le _)

theorem effect_deal (sound : db.Sound) (tidy : Tidy (stackLimit maxStack) db chara)
    (dealing : Dealing) :
    Effect (stackLimit maxStack) chara db (db.deal maxStack dealing)
      (fun package itemId => db.granted maxStack chara package itemId dealing -
        db.taken chara package itemId dealing) (dealing.grantsKey chara).toNat := by
  cases dealing with
  | addItem owner stored given quantity =>
      exact (effect_addItem sound tidy owner stored given quantity).congr fun _ _ =>
        (sub_zero _).symm
  | harvest owner given delta quality =>
      exact (effect_after_harvest sound tidy owner given delta quality).congr fun _ _ =>
        (sub_zero _).symm
  | keyItem owner given =>
      refine ((effect_keyItem (fun _ => le_max_right _ _) sound tidy owner given).congr fun _ _ =>
        (sub_zero _).symm).mono_keys ?_
      simp only [Dealing.grantsKey]
      split <;> simp_all
  | gil owner delta =>
      exact (effect_currency sound tidy owner GIL_ITEM_ID 0 delta).congr fun _ _ =>
        (sub_zero _).symm
  | seals owner gc delta =>
      exact (effect_seals sound tidy owner gc delta).congr fun _ _ => (sub_zero _).symm
  | removeItem owner stored catalogId quantity =>
      refine (effect_applyRemoveItem sound tidy owner stored catalogId quantity).congr
        fun package itemId => ?_
      simp only [granted, taken, only]
      split <;> omega

section GoesThrough

theorem Tidy.total_le {limit : UInt32 → ℤ} (tidy : Tidy limit db chara) (package : UInt16)
    (kind : Kind) :
    0 ≤ db.total chara package kind ∧
      db.total chara package kind ≤ db.total chara package { itemId := kind.itemId } := by
  have amounts : ∀ row ∈ db.inventory, 0 ≤ db.amount chara package kind row ∧
      db.amount chara package kind row ≤
        db.amount chara package { itemId := kind.itemId } row := by
    intro row inside
    cases found : db.items row.serverItemId with
    | none => simp [amount, stackOf, found]
    | some item =>
        rw [amount_of_items found, amount_of_items found]
        by_cases here : row.characterId = chara ∧ row.itemPackage = package
        · have some_held := (tidy.fits row inside here.1 item found).nonneg
          by_cases matched : kind.matches item = true
          · have named := Kind.itemId_of_matches matched
            simp [here, matched, Kind.matches_any, named, some_held]
          · rw [if_neg fun both => matched both.2.2]
            refine ⟨le_refl _, ?_⟩
            split
            · exact some_held
            · exact le_refl _
        · simp only [← and_assoc, here, false_and, if_false, le_refl, and_self]
  rw [total_eq_sum, total_eq_sum]
  constructor
  · apply List.sum_nonneg
    intro n inside
    obtain ⟨row, present, rfl⟩ := List.mem_map.mp inside
    exact (amounts row present).1
  · exact List.sum_le_sum fun row present => (amounts row present).2

theorem mapM_readI32 {stored : List (ℕ × ServerItem)}
    (readable : ∀ stack ∈ stored, readI32 stack.2.quantity = some stack.2.quantity) :
    (stored.mapM fun stack : ℕ × ServerItem => (readI32 stack.2.quantity).map (stack.1, ·)) =
      some (stored.map fun stack => (stack.1, stack.2.quantity)) := by
  induction stored with
  | nil => rfl
  | cons stack stored ih =>
      rw [List.mapM_cons, readable stack List.mem_cons_self,
        ih fun other later => readable other (List.mem_cons_of_mem _ later)]
      rfl

end GoesThrough

theorem effect_run (sound : db.Sound) (tidy : Tidy (stackLimit maxStack) db chara)
    (dealings : List Dealing) :
    Effect (stackLimit maxStack) chara db (dealings.foldl (deal maxStack) db)
      (fun package itemId =>
        along maxStack (fun db => db.granted maxStack chara package itemId) db dealings -
          along maxStack (fun db => db.taken chara package itemId) db dealings)
      (dealings.countP (·.grantsKey chara)) := by
  induction dealings generalizing db with
  | nil => exact Effect.refl sound tidy
  | cons dealing dealings ih =>
      have first := effect_deal sound tidy dealing
      refine ((first.trans (ih first.sound first.tidy)).congr fun package itemId => ?_).mono_keys ?_
      · simp only [along]
        omega
      · rw [List.countP_cons, Nat.add_comm]
        cases dealing.grantsKey chara <;> rfl

/-- At every point of a run the bag of a character is in order: its slots are distinct, its stacks
hold what they may, a currency is one stack, and what there is of an item is what was given less
what was taken. -/
theorem dealings_kept (maxStack : UInt32 → Option ℤ) (db : Database) (sound : db.Sound)
    (chara : UInt32) (tidy : Tidy (stackLimit maxStack) db chara) (dealings : List Dealing) :
    Tidy (stackLimit maxStack) (dealings.foldl (deal maxStack) db) chara ∧
      (∀ n, KeySlots db chara n → n + dealings.countP (·.grantsKey chara) ≤ 2 ^ 31 →
        ((dealings.foldl (deal maxStack) db).slots chara PKG_KEYITEMS).Nodup) ∧
      ∀ package itemId, (dealings.foldl (deal maxStack) db).total chara package { itemId } =
        db.total chara package { itemId } +
          along maxStack (fun db => db.granted maxStack chara package itemId) db dealings -
            along maxStack (fun db => db.taken chara package itemId) db dealings := by
  have effect := effect_run sound tidy dealings
  refine ⟨effect.tidy, fun n slots room => (effect.keySlots n slots room).1, ?_⟩
  intro package itemId
  rw [effect.total]
  omega

theorem tidy_empty (limit : UInt32 → ℤ) (chara : UInt32) : Tidy limit empty chara where
  slots _ _ _ := List.nodup_nil
  fits _ inside := by cases inside
  single _ := Nat.zero_le _

theorem tidy_empty_run :
    Tidy (stackLimit fun _ => none)
      ([.harvest 1 10009001 150 1, .keyItem 1 9000, .seals 1 GC_MAELSTROM 200, .gil 1 500,
        .removeItem 1 PKG_NORMAL 10009001 120].foldl (deal fun _ => none) empty) 1 :=
  (dealings_kept _ empty sound_empty 1 (tidy_empty _ 1) _).1

/-- A stack of no gil, a key item given twice and held once, a key item past the last of the 500
slots, and seals that are given as gil. -/
theorem dealings_not_kept :
    (∃ stack ∈ (empty.deal (fun _ => none) (.gil 1 (-5))).held 1 PKG_CURRENCY_CRYSTALS .gil,
      ¬ 1 ≤ stack.2.quantity) ∧
    ((empty.deal (fun _ => none) (.keyItem 1 9000)).deal (fun _ => none) (.keyItem 1 9000)).total 1
      PKG_KEYITEMS { itemId := 9000 } ≠ 1 + 1 ∧
    (∃ slot ∈ ((empty.insertItem 1 PKG_KEYITEMS 499 ⟨9000, 1, 1⟩).deal (fun _ => none)
      (.keyItem 1 9001)).slots 1 PKG_KEYITEMS, ¬ slot < 500) ∧
    (empty.deal (fun _ => none) (.addItem 1 PKG_CURRENCY_CRYSTALS SEAL_STORM 5)).total 1
      PKG_CURRENCY_CRYSTALS { itemId := SEAL_STORM } ≠ 5 := by
  decide

end Database
end Garlemald.Storage
