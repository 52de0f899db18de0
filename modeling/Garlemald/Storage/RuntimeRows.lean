import Garlemald.Storage.Runtime

/-!
What a change of the database does to the rows of a package, what the packets of a bracket do to
the slots that the client shows, and when a client that showed the rows shows them again.
-/

namespace Garlemald.Storage
open Library

theorem readI32_toInt (x : Int32) : readI32 x.toInt = some x.toInt :=
  readI32_of_bounds x.le_toInt x.toInt_lt

theorem readQuantity_toInt (x : Int32) : readQuantity x.toInt = x := by
  rw [readQuantity, readI32_toInt, Option.getD_some, Int32.ofInt_toInt]

theorem readQuantity_inj {n m : ℤ} (first : readI32 n = some n) (second : readI32 m = some m)
    (same : readQuantity n = readQuantity m) : n = m := by
  have bounds {k : ℤ} (read : readI32 k = some k) : (Int32.ofInt k).toInt = k := by
    rw [readI32] at read
    split at read
    · next fits => exact Int32.toInt_ofInt_of_le fits.1 fits.2
    · cases read
  rw [readQuantity, readQuantity, first, second] at same
  rw [← bounds first, ← bounds second]
  exact congrArg Int32.toInt same

namespace Database

variable {db : Database} {chara : UInt32} {package : UInt16}

theorem mem_getItemPackageRows {r : PackageRow} :
    r ∈ db.getItemPackageRows chara package ↔
      ∃ row ∈ db.inventory, row.characterId = chara ∧ row.itemPackage = package ∧
        ∃ item, db.items row.serverItemId = some item ∧ PackageRow.read row item = r := by
  rw [getItemPackageRows, List.mem_filterMap]
  simp only [List.mem_mergeSort, Option.ite_none_right_eq_some, Option.map_eq_some_iff, and_assoc]

theorem getItemPackageRows_perm :
    (db.getItemPackageRows chara package).Perm
      (db.inventory.filterMap fun row =>
        if row.characterId = chara ∧ row.itemPackage = package then
          (db.items row.serverItemId).map (PackageRow.read row)
        else none) :=
  (List.mergeSort_perm _ _).filterMap _

theorem uniqueIds_nodup (sound : db.Sound) :
    ((db.getItemPackageRows chara package).map (·.uniqueId)).Nodup := by
  refine ((getItemPackageRows_perm.map _).nodup_iff).mpr ?_
  refine List.Nodup.sublist (Library.filterMap_keys ?_ _) sound.keys
  intro row r shown
  rw [Option.ite_none_right_eq_some] at shown
  obtain ⟨_, _, rfl⟩ := Option.map_eq_some_iff.mp shown.2
  rfl

theorem stacks_nodup (sound : db.Sound) :
    ((db.getItemPackageRows chara package).map PackageRow.stack).Nodup := by
  have keys : ((db.getItemPackageRows chara package).map (·.uniqueId)).Nodup :=
    uniqueIds_nodup sound
  rw [show (fun r : PackageRow => r.uniqueId) = Prod.fst ∘ PackageRow.stack from rfl,
    ← List.map_map] at keys
  exact keys.of_map

theorem slots_perm (sound : db.Sound) :
    ((db.getItemPackageRows chara package).map (·.slot)).Perm
      ((db.slots chara package).map readSlot) := by
  refine (getItemPackageRows_perm.map _).trans (List.Perm.of_eq ?_)
  rw [slots, List.map_map, List.map_filterMap]
  have resolved : ∀ row ∈ db.inventory, (db.items row.serverItemId).isSome = true :=
    fun row inside => sound.resolved _ (mem_references inside)
  generalize db.inventory = rows at resolved ⊢
  induction rows with
  | nil => rfl
  | cons row rows ih =>
      obtain ⟨item, found⟩ := Option.isSome_iff_exists.mp (resolved row List.mem_cons_self)
      have later := ih fun other inside => resolved other (List.mem_cons_of_mem _ inside)
      by_cases here : row.characterId = chara ∧ row.itemPackage = package
      · rw [List.filterMap_cons, List.filter_cons_of_pos (by simpa using here), if_pos here, found]
        simp only [Option.map_some, List.map_cons]
        rw [later]
        rfl
      · rw [List.filterMap_cons, List.filter_cons_of_neg (by simpa using here), if_neg here]
        exact later

theorem length_getItemPackageRows (sound : db.Sound) :
    (db.getItemPackageRows chara package).length = (db.slots chara package).length := by
  rw [← List.length_map (f := (·.slot)), (slots_perm sound).length_eq, List.length_map]

theorem slots_nodup_iff (sound : db.Sound) :
    ((db.getItemPackageRows chara package).map (·.slot)).Nodup ↔
      ((db.slots chara package).map readSlot).Nodup :=
  (slots_perm sound).nodup_iff

theorem getItemPackageRows_changeQuantity (id : ℕ) (f : ℤ → ℤ) {r : PackageRow} :
    r ∈ (db.changeQuantity id f).getItemPackageRows chara package ↔
      ∃ row ∈ db.inventory, row.characterId = chara ∧ row.itemPackage = package ∧
        ∃ item, db.items row.serverItemId = some item ∧
          PackageRow.read row (if row.serverItemId = id then
            { item with quantity := f item.quantity } else item) = r := by
  rw [mem_getItemPackageRows]
  apply exists_congr
  intro row
  have items : (db.changeQuantity id f).items row.serverItemId =
      (db.items row.serverItemId).map fun item =>
        if row.serverItemId = id then { item with quantity := f item.quantity } else item := by
    by_cases here : row.serverItemId = id
    · subst here
      simp [changeQuantity]
    · simp [changeQuantity, here]
  rw [items]
  simp only [changeQuantity, Option.map_eq_some_iff, exists_exists_and_eq_and]

theorem mem_changeQuantity_of_other (sound : db.Sound) {itemId : UInt32} {r₀ r : PackageRow}
    (changed : r₀ ∈ db.getItemPackageRows chara package) (kind : r₀.itemId = itemId) (f : ℤ → ℤ)
    {package' : UInt16} (other : package' ≠ package ∨ r.itemId ≠ itemId) :
    r ∈ (db.changeQuantity r₀.uniqueId f).getItemPackageRows chara package' ↔
      r ∈ db.getItemPackageRows chara package' := by
  obtain ⟨row₀, inside₀, owned₀, rfl, item₀, found₀, rfl⟩ := mem_getItemPackageRows.mp changed
  rw [getItemPackageRows_changeQuantity, mem_getItemPackageRows]
  apply exists_congr
  intro row
  apply and_congr_right
  intro inside
  apply and_congr_right
  intro owned
  apply and_congr_right
  intro stored
  apply exists_congr
  intro item
  apply and_congr_right
  intro found
  by_cases here : row.serverItemId = (PackageRow.read row₀ item₀).uniqueId
  · obtain rfl := row_unique sound inside inside₀ here
    rw [found₀] at found
    cases found
    rw [if_pos here]
    obtain elsewhere | differs := other
    · exact absurd stored.symm elsewhere
    · constructor
      · rintro rfl
        exact absurd kind differs
      · rintro rfl
        exact absurd kind differs
  · rw [if_neg here]

theorem getItemPackageRows_setQuantity (id : ℕ) (quantity : ℤ) :
    (db.setQuantity id quantity).getItemPackageRows chara package =
      (db.getItemPackageRows chara package).map fun r =>
        if r.uniqueId = id then { r with quantity := readQuantity quantity } else r := by
  have rows : (db.setQuantity id quantity).inventory = db.inventory := rfl
  rw [getItemPackageRows, getItemPackageRows, rows, List.map_filterMap]
  apply List.filterMap_congr
  intro row _
  split
  · by_cases here : row.serverItemId = id
    · subst here
      cases found : db.items row.serverItemId <;>
        simp [setQuantity, changeQuantity, PackageRow.read, found]
    · cases found : db.items row.serverItemId <;>
        simp [setQuantity, changeQuantity, PackageRow.read, found, here]
  · rfl

theorem mem_removeItem {id : ℕ} {r : PackageRow} :
    r ∈ (db.removeItem chara id).getItemPackageRows chara package ↔
      r ∈ db.getItemPackageRows chara package ∧ r.uniqueId ≠ id := by
  simp only [mem_getItemPackageRows, removeItem, List.mem_filter]
  constructor
  · rintro ⟨row, ⟨inside, kept⟩, owned, stored, item, found, rfl⟩
    refine ⟨⟨row, inside, owned, stored, item, found, rfl⟩, ?_⟩
    rintro rfl
    simp [owned, PackageRow.read] at kept
  · rintro ⟨⟨row, inside, owned, stored, item, found, rfl⟩, different⟩
    refine ⟨row, ⟨inside, ?_⟩, owned, stored, item, found, rfl⟩
    have apart : row.serverItemId ≠ id := different
    simp [apart]

theorem mem_insertItem (sound : db.Sound) (stored : UInt16) (slot : ℤ) (item : ServerItem)
    {r : PackageRow} :
    r ∈ (db.insertItem chara stored slot item).getItemPackageRows chara package ↔
      r ∈ db.getItemPackageRows chara package ∨
        stored = package ∧ r = PackageRow.read ⟨chara, stored, db.lastId + 1, slot⟩ item := by
  have rows : (db.insertItem chara stored slot item).inventory =
      db.inventory ++ [⟨chara, stored, db.lastId + 1, slot⟩] := rfl
  simp only [mem_getItemPackageRows, rows, List.mem_append, List.mem_singleton, or_and_right,
    exists_or, exists_eq_left, insertItem_items_self]
  apply or_congr
  · apply exists_congr
    intro row
    apply and_congr_right
    intro inside
    rw [insertItem_items_of_ne fun new => sound.unreferenced (new ▸ mem_references inside)]
  · simp [eq_comm]

theorem Sound.removeItem (sound : db.Sound) (chara : UInt32) (id : ℕ) :
    (db.removeItem chara id).Sound := by
  have fewer : (db.removeItem chara id).inventory.Sublist db.inventory := List.filter_sublist
  have references : (db.removeItem chara id).references.Sublist db.references :=
    ((fewer.map _).append (List.Sublist.refl _)).append (List.Sublist.refl _)
  exact ⟨sound.given, fun id referenced => sound.resolved id (references.subset referenced),
    sound.once.sublist references⟩

end Database

namespace Runtime

namespace Client

variable (code : UInt16) (slots : UInt16 → UInt16 → Option Stack)

theorem after_listX01 (rows : List PackageRow) :
    (Client.mk (some code) slots).after (rows.map InventoryPacket.listX01) =
      ⟨some code, Function.update slots code
        (putRows PackageRow.slot PackageRow.stack (slots code) rows)⟩ := by
  induction rows generalizing slots with
  | nil => simp [after, putRows]
  | cons row rows ih =>
      rw [List.map_cons, after, List.foldl_cons, ← after, receive]
      dsimp only
      rw [ih]
      simp [putRows]

theorem after_removeX01 (freed : List UInt16) :
    (Client.mk (some code) slots).after (freed.map InventoryPacket.removeX01) =
      ⟨some code, Function.update slots code (freeKeys (slots code) freed)⟩ := by
  induction freed generalizing slots with
  | nil => simp [after, freeKeys]
  | cons slot freed ih =>
      rw [List.map_cons, after, List.foldl_cons, ← after, receive]
      dsimp only
      rw [ih]
      simp [freeKeys]

theorem after_bracket (client : Client) (cap code : UInt16) (rows : List PackageRow)
    (freed : List UInt16) :
    (client.after (sendInventoryBracket cap code (rows.map InventoryPacket.listX01 ++
      freed.map InventoryPacket.removeX01))).slots =
        Function.update client.slots code
          (freeKeys (putRows PackageRow.slot PackageRow.stack (client.slots code) rows) freed) := by
  have opened : client.after [.beginChange false, .setBegin cap code] =
      ⟨some code, client.slots⟩ := rfl
  have closed (c : Client) : (c.after [.setEnd, .endChange]).slots = c.slots := rfl
  have append (c : Client) (front back : List InventoryPacket) :
      c.after (front ++ back) = (c.after front).after back := List.foldl_append
  rw [sendInventoryBracket, append, append, append, opened, closed, after_listX01,
    after_removeX01]
  simp

end Client

variable {db db' : Database} {chara : UInt32} {package : UInt16} {client client' : Client}

theorem Client.Mirrors.update_iff {shown : UInt16 → Option Stack} (before : client.Mirrors chara db)
    (slots : client'.slots = Function.update client.slots package shown)
    (others : ∀ other, other ≠ package → ∀ r, r ∈ db'.getItemPackageRows chara other ↔
      r ∈ db.getItemPackageRows chara other) :
    client'.Mirrors chara db' ↔
      Shows PackageRow.slot PackageRow.stack shown (db'.getItemPackageRows chara package) := by
  constructor
  · intro after
    have here := after package
    rw [slots, Function.update_self] at here
    exact here
  · intro here other
    rw [slots]
    by_cases same : other = package
    · subst same
      rw [Function.update_self]
      exact here
    · rw [Function.update_of_ne same, Shows.congr (others other same)]
      exact before other

theorem Client.Mirrors.sent_iff (before : client.Mirrors chara db) (sound : db'.Sound)
    (others : ∀ other, other ≠ package → ∀ r, r ∈ db'.getItemPackageRows chara other ↔
      r ∈ db.getItemPackageRows chara other) {sent : List PackageRow}
    (slots : client'.slots = Function.update client.slots package
      (putRows PackageRow.slot PackageRow.stack (client.slots package) sent))
    (listed : sent.Sublist (db'.getItemPackageRows chara package))
    (new : ∀ r ∈ db'.getItemPackageRows chara package,
      r ∈ db.getItemPackageRows chara package ∨ r ∈ sent)
    (lost : ∀ r ∈ db.getItemPackageRows chara package,
      r ∈ db'.getItemPackageRows chara package ∨ ∃ other ∈ sent, other.slot = r.slot) :
    client'.Mirrors chara db' ↔ ((db'.slots chara package).map readSlot).Nodup := by
  rw [before.update_iff slots others, ← Database.slots_nodup_iff sound]
  exact shows_putRows_iff (before package) listed (Database.stacks_nodup sound) new lost

theorem shows_setQuantity {view : UInt16 → Option Stack} (sound : db.Sound)
    (shows : Shows PackageRow.slot PackageRow.stack view (db.getItemPackageRows chara package))
    {r₀ : PackageRow} (present : r₀ ∈ db.getItemPackageRows chara package) (quantity : ℤ) :
    Shows PackageRow.slot PackageRow.stack
      (putRows PackageRow.slot PackageRow.stack view
        [{ r₀ with quantity := readQuantity quantity }])
      ((db.setQuantity r₀.uniqueId quantity).getItemPackageRows chara package) := by
  have sound' : (db.setQuantity r₀.uniqueId quantity).Sound := sound.changeQuantity _ _
  have unique {r : PackageRow} (inside : r ∈ db.getItemPackageRows chara package)
      (same : r.uniqueId = r₀.uniqueId) : r = r₀ :=
    List.inj_on_of_nodup_map (Database.uniqueIds_nodup sound) inside present same
  refine (shows_putRows_iff shows ?_ (Database.stacks_nodup sound') ?_ ?_).mpr ?_
  · rw [List.singleton_sublist, Database.getItemPackageRows_setQuantity]
    exact List.mem_map.mpr ⟨r₀, present, if_pos rfl⟩
  · intro r inside
    rw [Database.getItemPackageRows_setQuantity] at inside
    obtain ⟨old, there, rfl⟩ := List.mem_map.mp inside
    split
    · next same =>
        obtain rfl := unique there same
        exact .inr List.mem_cons_self
    · exact .inl there
  · intro r inside
    by_cases same : r.uniqueId = r₀.uniqueId
    · obtain rfl := unique inside same
      exact .inr ⟨_, List.mem_cons_self, rfl⟩
    · left
      rw [Database.getItemPackageRows_setQuantity]
      exact List.mem_map.mpr ⟨r, inside, if_neg same⟩
  · rw [Database.slots_nodup_iff sound']
    exact (Database.slots_nodup_iff sound).mp (shows.keys_nodup (Database.stacks_nodup sound))

theorem Client.Mirrors.perm (before : client.Mirrors chara db) (sound : db.Sound)
    (after : client.Mirrors chara db') (sound' : db'.Sound) (package : UInt16) :
    ((db.getItemPackageRows chara package).map PackageRow.stack).Perm
      ((db'.getItemPackageRows chara package).map PackageRow.stack) :=
  (before package).perm (Database.stacks_nodup sound) (after package)
    (Database.stacks_nodup sound')

theorem Client.Mirrors.length_slots (before : client.Mirrors chara db) (sound : db.Sound)
    (after : client.Mirrors chara db') (sound' : db'.Sound) (package : UInt16) :
    (db'.slots chara package).length = (db.slots chara package).length := by
  have same := (before.perm sound after sound' package).length_eq
  rw [List.length_map, List.length_map, Database.length_getItemPackageRows sound,
    Database.length_getItemPackageRows sound'] at same
  exact same.symm

theorem Client.Mirrors.quantity (before : client.Mirrors chara db) (sound : db.Sound)
    (after : client.Mirrors chara db') (sound' : db'.Sound) {r r' : PackageRow}
    (present : r ∈ db.getItemPackageRows chara package)
    (present' : r' ∈ db'.getItemPackageRows chara package) (same : r'.uniqueId = r.uniqueId) :
    r'.quantity = r.quantity := by
  have shown := (before.perm sound after sound' package).mem_iff.mpr (List.mem_map_of_mem present')
  obtain ⟨other, inside, equal⟩ := List.mem_map.mp shown
  have id : other.uniqueId = r.uniqueId := (congrArg Prod.fst equal).trans same
  obtain rfl := List.inj_on_of_nodup_map (Database.uniqueIds_nodup sound) inside present id
  exact (congrArg (fun stack : Stack => stack.2.2) equal).symm

/-- What a grant of an item does to a package: rows of the item come or change in their slots. -/
structure Grown (chara : UInt32) (package : UInt16) (itemId : UInt32) (db db' : Database) :
    Prop where
  sound : db'.Sound
  others : ∀ other, other ≠ package → ∀ r, r ∈ db'.getItemPackageRows chara other ↔
    r ∈ db.getItemPackageRows chara other
  new : ∀ r ∈ db'.getItemPackageRows chara package,
    r ∈ db.getItemPackageRows chara package ∨ r.itemId = itemId
  kept : ∀ r ∈ db.getItemPackageRows chara package,
    r ∈ db'.getItemPackageRows chara package ∨
      ∃ other ∈ db'.getItemPackageRows chara package, other.itemId = itemId ∧ other.slot = r.slot

variable {itemId : UInt32}

theorem Grown.refl (sound : db.Sound) : Grown chara package itemId db db :=
  ⟨sound, fun _ _ _ => Iff.rfl, fun _ present => .inl present, fun _ present => .inl present⟩

theorem Grown.trans {db'' : Database} (first : Grown chara package itemId db db')
    (second : Grown chara package itemId db' db'') : Grown chara package itemId db db'' where
  sound := second.sound
  others other differs r := (second.others other differs r).trans (first.others other differs r)
  new r present := by
    obtain old | item := second.new r present
    · exact first.new r old
    · exact .inr item
  kept r present := by
    obtain same | ⟨other, there, item, slot⟩ := first.kept r present
    · exact second.kept r same
    · right
      obtain same' | ⟨other', there', item', slot'⟩ := second.kept other there
      · exact ⟨other, same', item, slot⟩
      · exact ⟨other', there', item', slot'.trans slot⟩

theorem grown_changeQuantity (sound : db.Sound) {r₀ : PackageRow}
    (changed : r₀ ∈ db.getItemPackageRows chara package) (kind : r₀.itemId = itemId) (f : ℤ → ℤ) :
    Grown chara package itemId db (db.changeQuantity r₀.uniqueId f) where
  sound := sound.changeQuantity _ _
  others other differs r :=
    Database.mem_changeQuantity_of_other sound changed kind f (.inl differs)
  new r present := by
    by_cases item : r.itemId = itemId
    · exact .inr item
    · left
      exact (Database.mem_changeQuantity_of_other sound changed kind f (.inr item)).mp present
  kept r present := by
    by_cases item : r.itemId = itemId
    · right
      obtain ⟨row, inside, owned, stored, held, found, rfl⟩ :=
        Database.mem_getItemPackageRows.mp present
      refine ⟨_, (Database.getItemPackageRows_changeQuantity _ f).mpr
        ⟨row, inside, owned, stored, held, found, rfl⟩, ?_, ?_⟩
      · split <;> exact item
      · split <;> rfl
    · left
      exact (Database.mem_changeQuantity_of_other sound changed kind f (.inr item)).mpr present

theorem grown_insertItem (sound : db.Sound) (chara : UInt32) (package : UInt16) (slot : ℤ)
    (item : ServerItem) :
    Grown chara package item.itemId db (db.insertItem chara package slot item) where
  sound := sound.insertItem _ _ _ _
  others other differs r := by
    rw [Database.mem_insertItem sound]
    constructor
    · rintro (old | ⟨same, _⟩)
      · exact old
      · exact absurd same.symm differs
    · exact .inl
  new r present := by
    obtain old | ⟨_, rfl⟩ := (Database.mem_insertItem sound _ _ _).mp present
    · exact .inl old
    · exact .inr rfl
  kept r present := .inl ((Database.mem_insertItem sound _ _ _).mpr (.inl present))

theorem slots_sendInventoryPackageUpdate (client : Client) (package cap : UInt16)
    (itemId : UInt32) :
    (client.after (sendInventoryPackageUpdate db chara package cap (some itemId) true)).slots =
      Function.update client.slots package (putRows PackageRow.slot PackageRow.stack
        (client.slots package)
        ((db.getItemPackageRows chara package).filter fun r => r.itemId = itemId)) := by
  rw [sendInventoryPackageUpdate, if_pos rfl]
  simp only [Option.all_some]
  split
  · next nothing =>
      rw [List.isEmpty_iff, List.map_eq_nil_iff] at nothing
      rw [nothing]
      exact (Function.update_eq_self _ _).symm
  · have bracket := client.after_bracket cap package
      ((db.getItemPackageRows chara package).filter fun r => r.itemId = itemId) []
    rw [List.map_nil, List.append_nil] at bracket
    exact bracket

theorem mirrors_packageUpdate_iff (before : client.Mirrors chara db)
    (grown : Grown chara package itemId db db') (cap : UInt16) :
    (client.after (sendInventoryPackageUpdate db' chara package cap (some itemId) true)).Mirrors
        chara db' ↔ ((db'.slots chara package).map readSlot).Nodup := by
  apply before.sent_iff grown.sound grown.others
    (slots_sendInventoryPackageUpdate client package cap itemId) List.filter_sublist
  · intro r present
    refine (grown.new r present).imp_right fun item => ?_
    exact List.mem_filter.mpr ⟨present, decide_eq_true item⟩
  · intro r present
    refine (grown.kept r present).imp_right ?_
    intro found
    obtain ⟨other, there, item, slot⟩ := found
    exact ⟨other, List.mem_filter.mpr ⟨there, decide_eq_true item⟩, slot⟩

theorem sendInventoryPackageUpdate_unread (package cap : UInt16) (changedItemId : Option UInt32) :
    sendInventoryPackageUpdate db chara package cap changedItemId false = [] := rfl

end Runtime
end Garlemald.Storage
