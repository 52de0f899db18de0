import Garlemald.Storage.RuntimeRows

/-!
The client through a grant: the stacks of the bag are topped up and new ones opened behind them,
gil goes to the first gil row that is stored, and a key item gets the next slot.
-/

namespace Garlemald.Storage
open Library

namespace Runtime

variable {db db' : Database} {chara : UInt32} {package : UInt16} {client client' : Client}

section Harvest
variable {itemId : UInt32} {existing : List (ℕ × ℤ)} {remaining : ℤ} {quality : UInt8}

theorem grown_topUp {m : ℤ} (existing : List (ℕ × ℤ)) (sound : db.Sound)
    (stored : ∀ stack ∈ existing, ∃ r ∈ db.getItemPackageRows chara PKG_NORMAL,
      r.uniqueId = stack.1 ∧ r.itemId = itemId) :
    Grown chara PKG_NORMAL itemId db (Database.topUp m remaining existing db).2 := by
  induction existing generalizing db remaining with
  | nil => exact Grown.refl sound
  | cons stack existing ih =>
      obtain ⟨id, quantity⟩ := stack
      have behind := fun stack inside => stored stack (List.mem_cons_of_mem _ inside)
      rw [Database.topUp]
      split
      · exact Grown.refl sound
      · split
        · exact ih sound behind
        · dsimp only
          split
          · obtain ⟨r, present, same, kind⟩ := stored (id, quantity) List.mem_cons_self
            obtain rfl : r.uniqueId = id := same
            have first := grown_changeQuantity sound present kind
              (· + min remaining (m - quantity))
            refine first.trans (ih first.sound ?_)
            intro stack inside
            obtain ⟨r', present', same', kind'⟩ := behind stack inside
            obtain ⟨row, inside', owned, package, item, found, rfl⟩ :=
              Database.mem_getItemPackageRows.mp present'
            refine ⟨_, (Database.getItemPackageRows_changeQuantity _ _).mpr
              ⟨row, inside', owned, package, item, found, rfl⟩, same', ?_⟩
            split <;> exact kind'
          · exact ih sound behind

theorem grown_spill {m : { m : ℤ // 1 ≤ m }} (sound : db.Sound)
    (done : db.spill m chara itemId quality remaining = some db') :
    Grown chara PKG_NORMAL itemId db db' := by
  revert sound
  refine Database.spill_run ?_ (fun _ _ => Grown.refl) done
  intro remaining db slot _ _ later sound
  have first := grown_insertItem sound chara PKG_NORMAL slot ⟨itemId, min remaining m, quality⟩
  exact first.trans (later first.sound)

theorem slots_topUp (m : ℤ) (existing : List (ℕ × ℤ)) (remaining : ℤ) (db : Database) :
    (Database.topUp m remaining existing db).2.slots chara package = db.slots chara package := by
  rw [Database.slots, Database.slots, Database.inventory_topUp]

theorem nextSlot_topUp (m : ℤ) (existing : List (ℕ × ℤ)) (remaining : ℤ) (db : Database) :
    (Database.topUp m remaining existing db).2.nextSlot chara package =
      db.nextSlot chara package := by
  rw [Database.nextSlot, Database.nextSlot, Database.inventory_topUp]

theorem room_cons (m : ℤ) (stack : ℕ × ℤ) (existing : List (ℕ × ℤ)) :
    room m (stack :: existing) = max (m - stack.2) 0 + room m existing := by
  rw [room, List.map_cons, List.sum_cons, ← room]

theorem room_nonneg (m : ℤ) (existing : List (ℕ × ℤ)) : 0 ≤ room m existing := by
  apply List.sum_nonneg
  intro amount inside
  obtain ⟨stack, _, rfl⟩ := List.mem_map.mp inside
  exact le_max_right _ _

theorem remaining_topUp (m : ℤ) (existing : List (ℕ × ℤ)) (some_left : 0 ≤ remaining)
    (db : Database) :
    (Database.topUp m remaining existing db).1 = max (remaining - room m existing) 0 := by
  induction existing generalizing db remaining with
  | nil =>
      rw [Database.topUp, room, List.map_nil, List.sum_nil, sub_zero]
      exact (max_eq_left some_left).symm
  | cons stack existing ih =>
      obtain ⟨id, quantity⟩ := stack
      have later := room_nonneg m existing
      rw [Database.topUp, room_cons]
      split
      · dsimp only
        omega
      · split
        · rw [ih some_left]
          dsimp only
          omega
        · have left : 0 ≤ remaining - min remaining (m - quantity) := by omega
          dsimp only
          rw [if_pos (by omega), ih left]
          omega

theorem nextSlot_insertItem_next (db : Database) (chara : UInt32) (package : UInt16)
    (item : ServerItem) :
    (db.insertItem chara package (db.nextSlot chara package) item).nextSlot chara package =
      db.nextSlot chara package + 1 := by
  have next (db : Database) : db.nextSlot chara package =
      ((db.slots chara package).max?).getD (-1) + 1 := rfl
  have highest : ((db.insertItem chara package (db.nextSlot chara package) item).slots chara
      package).max? = some (db.nextSlot chara package) := by
    rw [Database.slots_insertItem, if_pos ⟨rfl, rfl⟩, List.max?_eq_some_iff]
    refine ⟨List.mem_append_right _ List.mem_cons_self, ?_⟩
    intro slot taken
    obtain old | new := List.mem_append.mp taken
    · exact (Database.nextSlot_free db chara package slot old).le
    · exact (List.mem_singleton.mp new).le
  rw [next, highest, Option.getD_some]

theorem openedSlots_of_le (next : ℤ) {m amount : ℤ} (positive : 1 ≤ m) (nothing : amount ≤ 0) :
    openedSlots next m amount = [] := by
  have none_opened : (amount + m - 1) / m ≤ 0 := by
    have := Int.ediv_lt_of_lt_mul (a := amount + m - 1) (b := 1) (c := m) (by omega) (by omega)
    omega
  rw [openedSlots, Int.toNat_of_nonpos none_opened]
  rfl

theorem openedSlots_cons (next : ℤ) {m amount : ℤ} (positive : 1 ≤ m) (some_left : 0 < amount) :
    openedSlots next m amount = next :: openedSlots (next + 1) m (amount - min amount m) := by
  have counted : ((amount + m - 1) / m).toNat =
      ((amount - min amount m + m - 1) / m).toNat + 1 := by
    have step : (amount + m - 1) / m = (amount - 1) / m + 1 := by
      rw [show amount + m - 1 = amount - 1 + 1 * m by omega]
      exact Int.add_mul_ediv_right _ _ (by omega)
    have nonneg : 0 ≤ (amount - 1) / m := Int.ediv_nonneg (by omega) (by omega)
    by_cases last : amount ≤ m
    · have whole : (amount - 1) / m = 0 := Int.ediv_eq_zero_of_lt (by omega) (by omega)
      have over_now : (amount - min amount m + m - 1) / m = 0 :=
        Int.ediv_eq_zero_of_lt (by omega) (by omega)
      omega
    · rw [step, show amount - min amount m + m - 1 = amount - 1 by omega]
      omega
  rw [openedSlots, counted, List.range_succ_eq_map, List.map_cons, List.map_map, openedSlots]
  congr 1
  · simp
  · apply List.map_congr_left
    intro i _
    simp only [Function.comp_apply, Nat.succ_eq_add_one, Nat.cast_add, Nat.cast_one]
    omega

theorem slots_spill {m : { m : ℤ // 1 ≤ m }}
    (done : db.spill m chara itemId quality remaining = some db') :
    db'.slots chara PKG_NORMAL = db.slots chara PKG_NORMAL ++
      openedSlots (db.nextSlot chara PKG_NORMAL) m remaining := by
  refine Database.spill_run ?_ ?_ done
  · intro remaining db slot left read later
    obtain rfl := eq_of_readI32 read
    rw [later, Database.slots_insertItem, if_pos ⟨rfl, rfl⟩, nextSlot_insertItem_next,
      openedSlots_cons _ m.2 left, List.append_assoc, List.singleton_append]
  · intro remaining none_left
    rw [openedSlots_of_le _ m.2 none_left, List.append_nil]

theorem items_topUp_of_not_mem (m : ℤ) {id : ℕ} (absent : id ∉ existing.map Prod.fst)
    (remaining : ℤ) (db : Database) :
    (Database.topUp m remaining existing db).2.items id = db.items id := by
  apply Database.topUp_keeps (P := fun after => after.items id = db.items id)
  · intro after stack inside amount same
    have different : id ≠ stack.1 := fun equal =>
      absent (equal ▸ List.mem_map_of_mem inside)
    exact (Function.update_of_ne different _ _).trans same
  · rfl

theorem topUp_changes (m : ℤ) (distinct : (existing.map Prod.fst).Nodup) (remaining : ℤ)
    (stored : ∀ stack ∈ existing, ∃ item, db.items stack.1 = some item ∧ item.quantity = stack.2) :
    (Database.topUp m remaining existing db).1 = remaining ∨
      ∃ id item quantity, (id, item.quantity) ∈ existing ∧ db.items id = some item ∧
        item.quantity < quantity ∧ quantity ≤ m ∧
        (Database.topUp m remaining existing db).2.items id = some { item with quantity } := by
  induction existing with
  | nil => exact .inl rfl
  | cons stack existing ih =>
      obtain ⟨id, quantity⟩ := stack
      obtain ⟨fresh, others⟩ := List.nodup_cons.mp distinct
      have later := ih others fun stack inside => stored stack (List.mem_cons_of_mem _ inside)
      have skipped : (Database.topUp m remaining existing db).1 = remaining ∨
          ∃ id' item quantity', (id', item.quantity) ∈ (id, quantity) :: existing ∧
            db.items id' = some item ∧ item.quantity < quantity' ∧ quantity' ≤ m ∧
            (Database.topUp m remaining existing db).2.items id' =
              some { item with quantity := quantity' } := by
        refine later.imp_right ?_
        rintro ⟨id', item, quantity', inside, found⟩
        exact ⟨id', item, quantity', List.mem_cons_of_mem _ inside, found⟩
      rw [Database.topUp]
      split
      · exact .inl rfl
      · split
        · exact skipped
        · dsimp only
          split
          · obtain ⟨item, found, rfl⟩ := stored (id, quantity) List.mem_cons_self
            refine .inr ⟨id, item, item.quantity + min remaining (m - item.quantity),
              List.mem_cons_self, found, by omega, by omega, ?_⟩
            rw [items_topUp_of_not_mem m fresh, Database.addQuantity,
              Database.changeQuantity_items _ _ found, Function.update_self]
          · exact skipped

theorem readable_of_mapM {stored : List (ℕ × ServerItem)}
    (read : (stored.mapM fun stack : ℕ × ServerItem =>
      (readI32 stack.2.quantity).map (stack.1, ·)) = some existing) :
    ∀ stack ∈ existing, readI32 stack.2 = some stack.2 := by
  induction stored generalizing existing with
  | nil =>
      cases read
      intro stack inside
      cases inside
  | cons first stored ih =>
      rw [List.mapM_cons] at read
      obtain ⟨head, here, rest⟩ := Option.bind_eq_some_iff.mp read
      obtain ⟨others, behind, same⟩ := Option.bind_eq_some_iff.mp rest
      obtain ⟨quantity, known, rfl⟩ := Option.map_eq_some_iff.mp here
      cases same
      intro stack inside
      obtain rfl | later := List.mem_cons.mp inside
      · obtain rfl := eq_of_readI32 known
        exact known
      · exact ih behind stack later

theorem row_of_existing {stack : ℕ × ℤ} (inside : stack ∈ db.existing chara itemId quality) :
    ∃ row ∈ db.inventory, row.characterId = chara ∧ row.itemPackage = PKG_NORMAL ∧
      row.serverItemId = stack.1 ∧ ∃ item, db.items row.serverItemId = some item ∧
        item.quantity = stack.2 ∧ item.itemId = itemId := by
  obtain ⟨⟨id, item⟩, listed, rfl⟩ := List.mem_map.mp inside
  have held := (Database.filter_getItemPackage PKG_NORMAL _).mem_iff.mp listed
  obtain ⟨row, present, owned, stored, rfl, found, kind⟩ := Database.mem_held.mp held
  exact ⟨row, present, owned, stored, rfl, item, found, rfl, Database.Kind.itemId_of_matches kind⟩

theorem existing_keys (sound : db.Sound) (chara itemId : UInt32) (quality : UInt8) :
    ((db.existing chara itemId quality).map Prod.fst).Nodup := by
  rw [Database.existing, List.map_map]
  exact (((Database.filter_getItemPackage PKG_NORMAL _).map Prod.fst).nodup_iff).mpr
    (Database.held_keys sound _ _)

/-- A grant that goes through: the stacks there are take what they have room for, the rest opens
slots behind the last one. -/
structure Harvest (maxStack : UInt32 → Option ℤ) (chara itemId : UInt32) (quantity : Int32)
    (db db' : Database) : Prop where
  grown : Grown chara PKG_NORMAL itemId db db'
  slots : db'.slots chara PKG_NORMAL = db.slots chara PKG_NORMAL ++
    openedSlots (db.nextSlot chara PKG_NORMAL) (stackLimit maxStack itemId)
      (quantity.toInt - room (stackLimit maxStack itemId) (db.existing chara itemId 1))
  changes : (db'.slots chara PKG_NORMAL).length ≠ (db.slots chara PKG_NORMAL).length ∨
    ∃ r ∈ db.getItemPackageRows chara PKG_NORMAL, ∃ r' ∈ db'.getItemPackageRows chara PKG_NORMAL,
      r'.uniqueId = r.uniqueId ∧ r'.quantity ≠ r.quantity

theorem harvest_of_done {maxStack : UInt32 → Option ℤ} {quantity : Int32} {newTotal : ℤ}
    (sound : db.Sound) (asked : 0 < quantity) (named : itemId ≠ 0)
    (done : db.addHarvestItem maxStack chara itemId quantity 1 = some (newTotal, db')) :
    Harvest maxStack chara itemId quantity db db' := by
  have some_asked : 0 < quantity.toInt := Int32.lt_iff_toInt_lt.mp asked
  have goes_on : ¬ (quantity ≤ 0 ∨ itemId = 0) :=
    not_or.mpr ⟨Int32.not_le.mpr asked, named⟩
  rw [Database.addHarvestItem, if_neg goes_on] at done
  obtain ⟨m, limit, rest⟩ := Option.bind_eq_some_iff.mp done
  obtain ⟨existing, read, rest⟩ := Option.bind_eq_some_iff.mp rest
  obtain ⟨spilled, poured, rest⟩ := Option.bind_eq_some_iff.mp rest
  obtain ⟨total, _, same⟩ := Option.bind_eq_some_iff.mp rest
  cases same
  have readable := readable_of_mapM read
  have listed : existing = db.existing chara itemId 1 := Database.eq_of_mapM_readI32 read
  subst listed
  obtain ⟨exact_limit, small⟩ := Database.stackMax_bounds limit
  have left := remaining_topUp m (db.existing chara itemId 1) some_asked.le db
  have rows := db.inventory_topUp m (db.existing chara itemId 1) quantity.toInt
  have topped : Grown chara PKG_NORMAL itemId db
      (Database.topUp m quantity.toInt (db.existing chara itemId 1) db).2 := by
    apply grown_topUp _ sound
    intro stack inside
    obtain ⟨row, present, owned, stored, same, item, found, _, kind⟩ := row_of_existing inside
    exact ⟨_, Database.mem_getItemPackageRows.mpr
      ⟨row, present, owned, stored, item, found, rfl⟩, same, kind⟩
  have slots := slots_spill poured
  rw [slots_topUp, nextSlot_topUp, left] at slots
  refine ⟨topped.trans (grown_spill topped.sound poured), ?_, ?_⟩
  · rw [slots, ← exact_limit]
    by_cases enough : quantity.toInt - room m (db.existing chara itemId 1) ≤ 0
    · rw [max_eq_right enough, openedSlots_of_le _ m.2 enough, openedSlots_of_le _ m.2 (le_refl 0)]
    · rw [max_eq_left (not_le.mp enough).le]
  · by_cases enough : quantity.toInt - room m (db.existing chara itemId 1) ≤ 0
    · right
      rw [max_eq_right enough] at left
      have whole : db' =
          (Database.topUp m quantity.toInt (db.existing chara itemId 1) db).2 := by
        rw [left, Database.spill, if_neg (lt_irrefl 0)] at poured
        exact (Option.some.inj poured).symm
      have stored : ∀ stack ∈ db.existing chara itemId 1,
          ∃ item, db.items stack.1 = some item ∧ item.quantity = stack.2 := by
        intro stack inside
        obtain ⟨row, _, _, _, same, item, found, held, _⟩ := row_of_existing inside
        exact ⟨item, same ▸ found, held⟩
      have changed := topUp_changes m (existing_keys sound chara itemId 1) quantity.toInt stored
      obtain same | ⟨id, item, more, inside, found, higher, bound, after⟩ := changed
      · omega
      · obtain ⟨row, present, owned, stored, same, item', found', _, _⟩ := row_of_existing inside
        obtain rfl : row.serverItemId = id := same
        rw [found] at found'
        cases found'
        rw [← rows] at present
        rw [whole]
        refine ⟨_, Database.mem_getItemPackageRows.mpr ⟨row, rows ▸ present, owned, stored, item,
          found, rfl⟩, _, Database.mem_getItemPackageRows.mpr ⟨row, present, owned, stored, _,
          after, rfl⟩, rfl, ?_⟩
        intro same_read
        have old := readable _ inside
        have new : readI32 more = some more := by
          have fits : -2 ^ 31 ≤ item.quantity ∧ item.quantity < 2 ^ 31 := by
            rw [readI32] at old
            split at old
            · assumption
            · cases old
          exact readI32_of_bounds (by omega) (by omega)
        have equal := readQuantity_inj new old same_read
        dsimp only at equal
        omega
    · left
      rw [slots, max_eq_left (not_le.mp enough).le, openedSlots_cons _ m.2 (not_le.mp enough)]
      simp

theorem mirrors_harvest_iff {maxStack : UInt32 → Option ℤ} {quantity : Int32}
    (before : client.Mirrors chara db) (sound : db.Sound)
    (harvest : Harvest maxStack chara itemId quantity db db') (cap : UInt16) (reads : Bool) :
    (client.after (sendInventoryPackageUpdate db' chara PKG_NORMAL cap (some itemId)
        reads)).Mirrors chara db' ↔
      reads = true ∧ SlotsFree db chara PKG_NORMAL
        (openedSlots (db.nextSlot chara PKG_NORMAL) (stackLimit maxStack itemId)
          (quantity.toInt - room (stackLimit maxStack itemId) (db.existing chara itemId 1))) := by
  cases reads with
  | false =>
      rw [sendInventoryPackageUpdate_unread]
      refine iff_of_false ?_ fun both => Bool.false_ne_true both.1
      intro (after : client.Mirrors chara db')
      obtain longer | ⟨r, present, r', present', same, different⟩ := harvest.changes
      · exact longer (before.length_slots sound after harvest.grown.sound PKG_NORMAL)
      · exact different (before.quantity sound after harvest.grown.sound present present' same)
  | true =>
      rw [mirrors_packageUpdate_iff before harvest.grown, harvest.slots, SlotsFree]
      simp

end Harvest

section Currency

theorem slots_sendGilUpdate (client : Client) (delta : Int32) {gilRow : PackageRow}
    (first : (db.getItemPackageRows chara PKG_CURRENCY_CRYSTALS).find?
      (·.itemId = GIL_ITEM_ID) = some gilRow) :
    (client.after (sendGilUpdate db chara delta true)).slots =
      Function.update client.slots PKG_CURRENCY_CRYSTALS
        (putRows PackageRow.slot PackageRow.stack (client.slots PKG_CURRENCY_CRYSTALS)
          [gilRow]) := by
  have bracket := client.after_bracket CAP_CURRENCY PKG_CURRENCY_CRYSTALS [gilRow] []
  have text (c : Client) : c.after
      (if delta > 0 then [.textSheet 25246 GIL_ITEM_ID delta.toUInt32] else []) = c := by
    split <;> rfl
  have append (c : Client) (front back : List InventoryPacket) :
      c.after (front ++ back) = (c.after front).after back := List.foldl_append
  simp only [sendGilUpdate, if_true, first]
  rw [append, text]
  exact bracket

theorem sendGilUpdate_unread (delta : Int32) : sendGilUpdate db chara delta false = [] := rfl

variable {stack : ServerItem} {amount : Int32}

theorem row_of_held {package : UInt16} {kind : Kind} {id : ℕ}
    (first : (db.held chara package kind).head? = some (id, stack)) :
    ∃ r ∈ db.getItemPackageRows chara package, r.uniqueId = id ∧ r.itemId = kind.itemId ∧
      r.quantity = readQuantity stack.quantity := by
  obtain ⟨row, present, owned, stored, rfl, found, matched⟩ :=
    Database.mem_held.mp (List.mem_of_head? first)
  exact ⟨_, Database.mem_getItemPackageRows.mpr ⟨row, present, owned, stored, stack, found, rfl⟩,
    rfl, Database.Kind.itemId_of_matches matched, rfl⟩

theorem mirrors_setQuantity_unseen (before : client.Mirrors chara db) (sound : db.Sound)
    {r₀ : PackageRow} (present : r₀ ∈ db.getItemPackageRows chara package) (updated : ℤ)
    (unseen : client'.slots = client.slots) :
    client'.Mirrors chara (db.setQuantity r₀.uniqueId updated) ↔
      readQuantity updated = r₀.quantity := by
  have same (after : client.Mirrors chara (db.setQuantity r₀.uniqueId updated)) :
      client'.Mirrors chara (db.setQuantity r₀.uniqueId updated) := by
    intro other
    rw [unseen]
    exact after other
  constructor
  · intro after
    have after' : client.Mirrors chara (db.setQuantity r₀.uniqueId updated) := by
      intro other
      rw [← unseen]
      exact after other
    have present' : { r₀ with quantity := readQuantity updated } ∈
        (db.setQuantity r₀.uniqueId updated).getItemPackageRows chara package := by
      rw [Database.getItemPackageRows_setQuantity]
      exact List.mem_map.mpr ⟨r₀, present, if_pos rfl⟩
    exact before.quantity sound after' (sound.changeQuantity _ _) present present' rfl
  · intro equal
    apply same
    have grown : Grown chara package r₀.itemId db (db.setQuantity r₀.uniqueId updated) :=
      grown_changeQuantity sound present rfl _
    intro other
    by_cases here : other = package
    · subst here
      rw [Database.getItemPackageRows_setQuantity]
      refine (Shows.congr fun r => ?_).mp (before other)
      have kept : ∀ r ∈ db.getItemPackageRows chara other,
          (if r.uniqueId = r₀.uniqueId then { r with quantity := readQuantity updated } else r) =
            r := by
        intro r inside
        split
        · next id =>
            obtain rfl :=
              List.inj_on_of_nodup_map (Database.uniqueIds_nodup sound) inside present id
            rw [equal]
        · rfl
      rw [List.map_congr_left kept, List.map_id']
    · exact (Shows.congr fun r => (grown.others other here r).symm).mp (before other)

theorem mirrors_setGil_iff (before : client.Mirrors chara db) (sound : db.Sound) (delta : Int32)
    {r₀ : PackageRow} (present : r₀ ∈ db.getItemPackageRows chara PKG_CURRENCY_CRYSTALS)
    (kind : r₀.itemId = GIL_ITEM_ID) (updated : ℤ) (reads : Bool) :
    (client.after (sendGilUpdate (db.setQuantity r₀.uniqueId updated) chara delta reads)).Mirrors
        chara (db.setQuantity r₀.uniqueId updated) ↔
      readQuantity updated = r₀.quantity ∨ reads = true ∧
        ((db.getItemPackageRows chara PKG_CURRENCY_CRYSTALS).find?
          (·.itemId = GIL_ITEM_ID)).map (·.uniqueId) = some r₀.uniqueId := by
  cases reads with
  | false =>
      rw [sendGilUpdate_unread, show client.after [] = client from rfl,
        mirrors_setQuantity_unseen before sound present updated rfl]
      simp
  | true =>
      have grown : Grown chara PKG_CURRENCY_CRYSTALS GIL_ITEM_ID db
          (db.setQuantity r₀.uniqueId updated) := grown_changeQuantity sound present kind _
      have some_gil : ((db.getItemPackageRows chara PKG_CURRENCY_CRYSTALS).find?
          (·.itemId = GIL_ITEM_ID)).isSome = true :=
        List.find?_isSome.mpr ⟨r₀, present, decide_eq_true kind⟩
      obtain ⟨g, first⟩ := Option.isSome_iff_exists.mp some_gil
      have listed := List.mem_of_find?_eq_some first
      have sent : ((db.setQuantity r₀.uniqueId updated).getItemPackageRows chara
          PKG_CURRENCY_CRYSTALS).find? (·.itemId = GIL_ITEM_ID) =
            some (if g.uniqueId = r₀.uniqueId then { g with quantity := readQuantity updated }
              else g) := by
        rw [Database.getItemPackageRows_setQuantity, List.find?_map]
        have same : ((fun r : PackageRow => decide (r.itemId = GIL_ITEM_ID)) ∘ fun r =>
            if r.uniqueId = r₀.uniqueId then { r with quantity := readQuantity updated } else r) =
              fun r => decide (r.itemId = GIL_ITEM_ID) := by
          funext r
          dsimp only [Function.comp_apply]
          split <;> rfl
        rw [same, first, Option.map_some]
      have slots := slots_sendGilUpdate client delta sent
      rw [first, Option.map_some, Option.some.injEq]
      by_cases changed : g.uniqueId = r₀.uniqueId
      · obtain rfl :=
          List.inj_on_of_nodup_map (Database.uniqueIds_nodup sound) listed present changed
        rw [if_pos rfl] at slots
        refine iff_of_true ((before.update_iff slots grown.others).mpr ?_) (.inr ⟨rfl, rfl⟩)
        exact shows_setQuantity sound (before PKG_CURRENCY_CRYSTALS) present updated
      · have shown := (before PKG_CURRENCY_CRYSTALS).of_mem listed
        rw [if_neg changed, putRows, List.foldl_cons, List.foldl_nil, ← shown,
          Function.update_eq_self, Function.update_eq_self] at slots
        rw [mirrors_setQuantity_unseen before sound present updated slots]
        simp [changed]

theorem mirrors_insert_iff (before : client.Mirrors chara db) (sound : db.Sound) (slot : ℤ)
    (item : ServerItem) {packets : List InventoryPacket} {reads : Bool}
    (unread : reads = false → packets = [])
    (read : reads = true → ∃ sent : List PackageRow,
      sent.Sublist ((db.insertItem chara package slot item).getItemPackageRows chara package) ∧
        PackageRow.read ⟨chara, package, db.lastId + 1, slot⟩ item ∈ sent ∧
        (client.after packets).slots = Function.update client.slots package
          (putRows PackageRow.slot PackageRow.stack (client.slots package) sent)) :
    (client.after packets).Mirrors chara (db.insertItem chara package slot item) ↔
      reads = true ∧ SlotsFree db chara package [slot] := by
  have grown := grown_insertItem sound chara package slot item
  have opened : (db.insertItem chara package slot item).slots chara package =
      db.slots chara package ++ [slot] := by
    rw [Database.slots_insertItem, if_pos ⟨rfl, rfl⟩]
  cases reads with
  | false =>
      rw [unread rfl]
      refine iff_of_false ?_ fun both => Bool.false_ne_true both.1
      intro (after : client.Mirrors chara (db.insertItem chara package slot item))
      have longer := before.length_slots sound after grown.sound package
      rw [opened] at longer
      simp at longer
  | true =>
      obtain ⟨sent, listed, told, slots⟩ := read rfl
      rw [before.sent_iff grown.sound grown.others slots listed, opened, SlotsFree]
      · simp
      · intro r present
        obtain old | new := (Database.mem_insertItem sound _ _ _).mp present
        · exact .inl old
        · exact .inr (new.2 ▸ told)
      · intro r present
        exact .inl ((Database.mem_insertItem sound _ _ _).mpr (.inl present))

theorem not_row_of_held {package : UInt16} {itemId : UInt32}
    (none_held : db.held chara package { itemId } = []) {r : PackageRow}
    (present : r ∈ db.getItemPackageRows chara package) : r.itemId ≠ itemId := by
  obtain ⟨row, inside, owned, stored, item, found, rfl⟩ :=
    Database.mem_getItemPackageRows.mp present
  intro kind
  have held : (row.serverItemId, item) ∈ db.held chara package { itemId } :=
    Database.mem_held.mpr ⟨row, inside, owned, stored, rfl, found,
      (Database.Kind.matches_any itemId item).mpr kind⟩
  rw [none_held] at held
  cases held

theorem addGil_of_unreadable {id : ℕ}
    (first : (db.held chara PKG_CURRENCY_CRYSTALS { itemId :=GIL_ITEM_ID }).head? =
      some (id, stack)) (unreadable : readI32 stack.quantity = none) :
    db.addGil chara amount = none := by
  rw [Database.addGil, Database.addCurrency, first]
  dsimp only
  rw [unreadable]
  rfl

theorem addGil_of_first {id : ℕ}
    (first : (db.held chara PKG_CURRENCY_CRYSTALS { itemId :=GIL_ITEM_ID }).head? =
      some (id, stack)) (readable : readI32 stack.quantity = some stack.quantity) :
    db.addGil chara amount = some (max (saturateI32 (stack.quantity + amount.toInt)) 0,
      db.setQuantity id (max (saturateI32 (stack.quantity + amount.toInt)) 0)) := by
  rw [Database.addGil, Database.addCurrency, first]
  dsimp only
  rw [readable]
  rfl

theorem addGil_of_none
    (none_held : (db.held chara PKG_CURRENCY_CRYSTALS { itemId :=GIL_ITEM_ID }).head? = none) :
    db.addGil chara amount = some (max amount.toInt 0,
      db.insertItem chara PKG_CURRENCY_CRYSTALS 0 ⟨GIL_ITEM_ID, max amount.toInt 0, 1⟩) := by
  rw [Database.addGil, Database.addCurrency, none_held]

theorem mirrors_newGil_iff (before : client.Mirrors chara db) (sound : db.Sound)
    (none_held : db.held chara PKG_CURRENCY_CRYSTALS { itemId := GIL_ITEM_ID } = [])
    (delta : Int32) (quantity : ℤ) (reads : Bool) :
    (client.after (sendGilUpdate (db.insertItem chara PKG_CURRENCY_CRYSTALS 0
        ⟨GIL_ITEM_ID, quantity, 1⟩) chara delta reads)).Mirrors chara
        (db.insertItem chara PKG_CURRENCY_CRYSTALS 0 ⟨GIL_ITEM_ID, quantity, 1⟩) ↔
      reads = true ∧ SlotsFree db chara PKG_CURRENCY_CRYSTALS [0] := by
  apply mirrors_insert_iff before sound
  · intro unread
    rw [unread, sendGilUpdate_unread]
  · intro read
    have new : PackageRow.read ⟨chara, PKG_CURRENCY_CRYSTALS, db.lastId + 1, 0⟩
        ⟨GIL_ITEM_ID, quantity, 1⟩ ∈ (db.insertItem chara PKG_CURRENCY_CRYSTALS 0
          ⟨GIL_ITEM_ID, quantity, 1⟩).getItemPackageRows chara PKG_CURRENCY_CRYSTALS :=
      (Database.mem_insertItem sound _ _ _).mpr (.inr ⟨rfl, rfl⟩)
    have some_gil : (((db.insertItem chara PKG_CURRENCY_CRYSTALS 0
        ⟨GIL_ITEM_ID, quantity, 1⟩).getItemPackageRows chara PKG_CURRENCY_CRYSTALS).find?
          (·.itemId = GIL_ITEM_ID)).isSome = true :=
      List.find?_isSome.mpr ⟨_, new, decide_eq_true rfl⟩
    obtain ⟨g, first⟩ := Option.isSome_iff_exists.mp some_gil
    have listed := List.mem_of_find?_eq_some first
    have kind : g.itemId = GIL_ITEM_ID := of_decide_eq_true
      (List.find?_some (p := fun r : PackageRow => decide (r.itemId = GIL_ITEM_ID)) first)
    obtain old | ⟨_, same⟩ := (Database.mem_insertItem sound _ _ _).mp listed
    · exact absurd kind (not_row_of_held none_held old)
    · rw [read]
      refine ⟨[g], List.singleton_sublist.mpr listed, ?_, slots_sendGilUpdate client delta first⟩
      rw [same]
      exact List.mem_cons_self

theorem mirrors_addGil_iff (before : client.Mirrors chara db) (sound : db.Sound) (amount : Int32)
    (persists reads : Bool) :
    (client.after (applyAddGil db chara amount persists reads).2).Mirrors chara
        (applyAddGil db chara amount persists reads).1 ↔
      GilReaches db chara amount persists reads := by
  rw [applyAddGil, GilReaches]
  by_cases nothing : amount = 0
  · rw [if_pos nothing]
    exact iff_of_true before fun some_asked => absurd nothing some_asked
  rw [if_neg nothing]
  cases persists with
  | false => exact iff_of_true before fun _ impossible => by cases impossible
  | true =>
      rw [if_pos rfl]
      cases first : (db.held chara PKG_CURRENCY_CRYSTALS { itemId := GIL_ITEM_ID }).head? with
      | none =>
          rw [addGil_of_none first]
          have exact_case := mirrors_newGil_iff before sound (List.head?_eq_none_iff.mp first)
            amount (max amount.toInt 0) reads
          simpa [nothing] using exact_case
      | some entry =>
          obtain ⟨id, stack⟩ := entry
          obtain ⟨r, present, rfl, kind, quantity⟩ := row_of_held first
          cases read : readI32 stack.quantity with
          | none =>
              rw [addGil_of_unreadable first read]
              exact iff_of_true before fun _ _ impossible => by cases impossible
          | some old =>
              obtain rfl := eq_of_readI32 read
              rw [addGil_of_first first read]
              have new : readI32 (max (saturateI32 (stack.quantity + amount.toInt)) 0) =
                  some (max (saturateI32 (stack.quantity + amount.toInt)) 0) := by
                apply readI32_of_bounds
                all_goals
                  rw [saturateI32]
                  omega
              have same : readQuantity (max (saturateI32 (stack.quantity + amount.toInt)) 0) =
                  r.quantity ↔
                    max (saturateI32 (stack.quantity + amount.toInt)) 0 = stack.quantity := by
                rw [quantity]
                exact ⟨readQuantity_inj new read, congrArg readQuantity⟩
              have exact_case := mirrors_setGil_iff before sound amount present kind
                (max (saturateI32 (stack.quantity + amount.toInt)) 0) reads
              rw [same] at exact_case
              simpa [nothing] using exact_case

theorem sound_addGil (sound : db.Sound) (amount : Int32) (persists reads : Bool) :
    (applyAddGil db chara amount persists reads).1.Sound := by
  rw [applyAddGil]
  split
  · exact sound
  split
  · next total db' done =>
      split at done
      · cases first : (db.held chara PKG_CURRENCY_CRYSTALS { itemId := GIL_ITEM_ID }).head? with
        | none =>
            rw [addGil_of_none first] at done
            cases done
            exact sound.insertItem _ _ _ _
        | some entry =>
            obtain ⟨id, stack⟩ := entry
            cases read : readI32 stack.quantity with
            | none =>
                rw [addGil_of_unreadable first read] at done
                cases done
            | some old =>
                obtain rfl := eq_of_readI32 read
                rw [addGil_of_first first read] at done
                cases done
                exact sound.changeQuantity id fun _ => _
      · cases done
  · exact sound

theorem mirrors_keyItem_iff (before : client.Mirrors chara db) (sound : db.Sound)
    (keyItemId : UInt32) (cap : UInt16) (slot : ℤ) (reads : Bool) :
    (client.after (sendInventoryPackageUpdate
        (db.insertItem chara PKG_KEYITEMS slot ⟨keyItemId, 1, 1⟩) chara PKG_KEYITEMS cap
        (some keyItemId) reads)).Mirrors chara
        (db.insertItem chara PKG_KEYITEMS slot ⟨keyItemId, 1, 1⟩) ↔
      reads = true ∧ SlotsFree db chara PKG_KEYITEMS [slot] := by
  apply mirrors_insert_iff before sound
  · intro unread
    rw [unread, sendInventoryPackageUpdate_unread]
  · intro read
    rw [read]
    refine ⟨_, List.filter_sublist, ?_,
      slots_sendInventoryPackageUpdate client PKG_KEYITEMS cap keyItemId⟩
    exact List.mem_filter.mpr
      ⟨(Database.mem_insertItem sound _ _ _).mpr (.inr ⟨rfl, rfl⟩), decide_eq_true rfl⟩

end Currency

end Runtime
end Garlemald.Storage
