import Garlemald.Library.Runs
import Garlemald.Storage.RuntimeGrants

/-!
The client through a removal, which goes through the stacks from the last slot to the first and
sends what it noted down if no change failed on the way, and through every order of calls.
-/

namespace Garlemald.Storage
open Library

namespace Runtime

variable {db db' : Database} {chara : UInt32} {package : UInt16} {client : Client}

section Removal

variable {catalogId : UInt32}

theorem removeRows_of_nonpos {remaining : Int32} (done : remaining ≤ 0) (rows : List PackageRow)
    (writes : ℕ → Bool) (db : Database) :
    removeRows chara catalogId remaining rows writes db = ⟨db, [], [], true⟩ := by
  cases rows with
  | nil => rfl
  | cons row rows => exact if_pos done

/-- What a removal does at a stack. -/
@[elab_as_elim]
theorem removeRows_cons {motive : Removal → Prop} {remaining : Int32} {row : PackageRow}
    {rows : List PackageRow} {writes : ℕ → Bool}
    (done : remaining ≤ 0 → motive ⟨db, [], [], true⟩)
    (other : ¬ remaining ≤ 0 → row.itemId ≠ catalogId →
      motive (removeRows chara catalogId remaining rows writes db))
    (fails : ¬ remaining ≤ 0 → row.itemId = catalogId → writes 0 = false →
      motive ⟨db, [], [], false⟩)
    (lowered : ¬ remaining ≤ 0 → row.itemId = catalogId → writes 0 = true →
      row.quantity > remaining →
        motive ⟨db.setQuantity row.uniqueId (row.quantity - remaining).toInt,
          [{ row with quantity := row.quantity - remaining }], [], true⟩)
    (freed : ¬ remaining ≤ 0 → row.itemId = catalogId → writes 0 = true →
      ¬ row.quantity > remaining →
        let rest := removeRows chara catalogId (remaining - row.quantity) rows (writes <| · + 1)
          (db.removeItem chara row.uniqueId)
        motive { rest with freedSlots := row.slot :: rest.freedSlots }) :
    motive (removeRows chara catalogId remaining (row :: rows) writes db) := by
  rw [removeRows]
  split
  · next none_left => exact done none_left
  next more =>
  split
  · next foreign => exact other more foreign
  next own =>
  rw [not_not] at own
  split
  · next refused => exact fails more own refused
  next goes =>
  rw [Bool.not_eq_false] at goes
  split
  · next fewer =>
      dsimp only
      rw [removeRows_of_nonpos (by decide : (0 : Int32) ≤ 0)]
      exact lowered more own goes fewer
  · next all => exact freed more own goes all

theorem sound_removeRows (rows : List PackageRow) (remaining : Int32) (writes : ℕ → Bool)
    (sound : db.Sound) : (removeRows chara catalogId remaining rows writes db).db.Sound := by
  induction rows generalizing db remaining writes with
  | nil => exact sound
  | cons row rows ih =>
      refine removeRows_cons ?_ ?_ ?_ ?_ ?_
      · exact fun _ => sound
      · exact fun _ _ => ih _ _ sound
      · exact fun _ _ _ => sound
      · exact fun _ _ _ _ => sound.changeQuantity _ fun _ => _
      · exact fun _ _ _ _ => ih _ _ (sound.removeItem _ _)

theorem slots_removeRows (rows : List PackageRow) (remaining : Int32) (writes : ℕ → Bool)
    (db : Database) :
    ((removeRows chara catalogId remaining rows writes db).db.slots chara package).Sublist
      (db.slots chara package) := by
  induction rows generalizing db remaining writes with
  | nil => exact List.Sublist.refl _
  | cons row rows ih =>
      refine removeRows_cons ?_ ?_ ?_ ?_ ?_
      · exact fun _ => List.Sublist.refl _
      · exact fun _ _ => ih _ _ _
      · exact fun _ _ _ => List.Sublist.refl _
      · exact fun _ _ _ _ => List.Sublist.refl _
      · intro _ _ _ _
        have fewer : (db.removeItem chara row.uniqueId).inventory.Sublist db.inventory :=
          List.filter_sublist
        exact (ih _ _ _).trans ((fewer.filter _).map _)

theorem removeRows_others (rows : List PackageRow) (remaining : Int32) (writes : ℕ → Bool)
    (sound : db.Sound) (distinct : (rows.map (·.uniqueId)).Nodup)
    (stored : ∀ r ∈ rows, r ∈ db.getItemPackageRows chara package) {package' : UInt16}
    {r : PackageRow} (other : package' ≠ package ∨ r.itemId ≠ catalogId) :
    r ∈ (removeRows chara catalogId remaining rows writes db).db.getItemPackageRows chara package' ↔
      r ∈ db.getItemPackageRows chara package' := by
  induction rows generalizing db remaining writes with
  | nil => exact Iff.rfl
  | cons row rows ih =>
      obtain ⟨fresh, others⟩ := List.nodup_cons.mp distinct
      have here := stored row List.mem_cons_self
      have behind := fun r inside => stored r (List.mem_cons_of_mem _ inside)
      have apart : ∀ r ∈ rows, r.uniqueId ≠ row.uniqueId := by
        intro r inside same
        exact fresh (List.mem_map.mpr ⟨r, inside, same⟩)
      refine removeRows_cons ?_ ?_ ?_ ?_ ?_
      · exact fun _ => Iff.rfl
      · exact fun _ _ => ih _ _ sound others behind
      · exact fun _ _ _ => Iff.rfl
      · exact fun _ kind _ _ => Database.mem_changeQuantity_of_other sound here kind
          (fun _ => (row.quantity - remaining).toInt) other
      · intro _ kind _ _
        dsimp only
        rw [ih _ _ (sound.removeItem _ _) others fun r inside =>
          Database.mem_removeItem.mpr ⟨behind r inside, apart r inside⟩, Database.mem_removeItem]
        refine and_iff_left_of_imp fun present => ?_
        intro same
        obtain ⟨row', inside', owned', stored', item', found', rfl⟩ :=
          Database.mem_getItemPackageRows.mp present
        obtain ⟨row₀, inside₀, owned₀, stored₀, item₀, found₀, rfl⟩ :=
          Database.mem_getItemPackageRows.mp here
        obtain rfl := Database.row_unique sound inside' inside₀ same
        rw [found₀] at found'
        cases found'
        obtain elsewhere | differs := other
        · exact elsewhere (stored'.symm.trans stored₀)
        · exact differs kind

theorem slot_of_updated {rows : List PackageRow} {remaining : Int32} {writes : ℕ → Bool}
    {r : PackageRow} (noted : r ∈ (removeRows chara catalogId remaining rows writes db).updated) :
    ∃ row ∈ rows, row.slot = r.slot := by
  induction rows generalizing db remaining writes with
  | nil => cases noted
  | cons row rows ih =>
      have deeper {db : Database} {remaining : Int32} {writes : ℕ → Bool}
          (noted : r ∈ (removeRows chara catalogId remaining rows writes db).updated) :
          ∃ other ∈ row :: rows, other.slot = r.slot := by
        obtain ⟨other, inside, same⟩ := ih noted
        exact ⟨other, List.mem_cons_of_mem _ inside, same⟩
      revert noted
      refine removeRows_cons ?_ ?_ ?_ ?_ ?_
      · exact fun _ noted => absurd noted List.not_mem_nil
      · exact fun _ _ => deeper
      · exact fun _ _ _ noted => absurd noted List.not_mem_nil
      · intro _ _ _ _ noted
        obtain rfl := List.mem_singleton.mp noted
        exact ⟨row, List.mem_cons_self, rfl⟩
      · exact fun _ _ _ _ => deeper

def Removal.shown (view : UInt16 → Option Stack) (removal : Removal) : UInt16 → Option Stack :=
  freeKeys (putRows PackageRow.slot PackageRow.stack view removal.updated) removal.freedSlots

theorem shows_removeRows {view : UInt16 → Option Stack} (rows : List PackageRow)
    (remaining : Int32) (writes : ℕ → Bool) (sound : db.Sound)
    (shows : Shows PackageRow.slot PackageRow.stack view (db.getItemPackageRows chara package))
    (ids : (rows.map (·.uniqueId)).Nodup) (distinct : (rows.map (·.slot)).Nodup)
    (stored : ∀ r ∈ rows, r ∈ db.getItemPackageRows chara package)
    (finished : (removeRows chara catalogId remaining rows writes db).finished = true) :
    Shows PackageRow.slot PackageRow.stack
      ((removeRows chara catalogId remaining rows writes db).shown view)
      ((removeRows chara catalogId remaining rows writes db).db.getItemPackageRows chara
        package) := by
  induction rows generalizing db remaining writes view with
  | nil => exact shows
  | cons row rows ih =>
      obtain ⟨fresh, others⟩ := List.nodup_cons.mp ids
      obtain ⟨free, slots⟩ := List.nodup_cons.mp distinct
      have here := stored row List.mem_cons_self
      have behind := fun r inside => stored r (List.mem_cons_of_mem _ inside)
      have keys := shows.keys_nodup (Database.stacks_nodup sound)
      revert finished
      refine removeRows_cons ?_ ?_ ?_ ?_ ?_
      · exact fun _ _ => shows
      · exact fun _ _ => ih _ _ sound shows others slots behind
      · exact fun _ _ _ finished => absurd finished Bool.false_ne_true
      · intro _ _ _ _ _
        have lowered := shows_setQuantity sound shows here (row.quantity - remaining).toInt
        rw [readQuantity_toInt] at lowered
        exact lowered
      · intro _ _ _ _ rest finished
        have apart : ∀ r ∈ rows, r.uniqueId ≠ row.uniqueId := by
          intro r inside same
          exact fresh (List.mem_map.mpr ⟨r, inside, same⟩)
        have freed : Shows PackageRow.slot PackageRow.stack
            (Function.update view row.slot none)
            ((db.removeItem chara row.uniqueId).getItemPackageRows chara package) := by
          apply shows_free shows keys here
          intro r
          rw [Database.mem_removeItem]
          apply and_congr_right
          intro inside
          apply not_congr
          refine ⟨fun same => ?_, fun same => congrArg PackageRow.uniqueId same⟩
          exact List.inj_on_of_nodup_map (Database.uniqueIds_nodup sound) inside here same
        have shown := ih _ _ (sound.removeItem _ _) freed others slots (fun r inside =>
          Database.mem_removeItem.mpr ⟨behind r inside, apart r inside⟩) finished
        have silent : ∀ r ∈ rest.updated, r.slot ≠ row.slot := by
          intro r noted same
          obtain ⟨other, inside, slot⟩ := slot_of_updated noted
          exact free (List.mem_map.mpr ⟨other, inside, slot.trans same⟩)
        rw [Removal.shown, ← putRows_free silent] at shown
        exact shown

theorem finished_removeRows_iff (rows : List PackageRow) (remaining : Int32) (writes : ℕ → Bool)
    (db : Database) :
    (removeRows chara catalogId remaining rows writes db).finished = true ↔
      ∀ n < removals catalogId remaining rows, writes n = true := by
  induction rows generalizing db remaining writes with
  | nil => exact iff_of_true rfl fun n below => absurd below (Nat.not_lt_zero n)
  | cons row rows ih =>
      rw [removals]
      refine removeRows_cons ?_ ?_ ?_ ?_ ?_
      · intro done
        simp [done]
      · intro more other
        rw [if_neg more, if_pos other]
        exact ih _ _ _
      · intro more own fails
        rw [if_neg more, if_neg (not_not.mpr own)]
        refine iff_of_false Bool.false_ne_true fun all => ?_
        have first : writes 0 = true := by
          apply all
          split <;> omega
        rw [fails] at first
        cases first
      · intro more own first fewer
        simp [more, own, fewer, first]
      · intro more own first fewer
        rw [if_neg more, if_neg (not_not.mpr own), if_neg fewer, Nat.forall_lt_succ_left]
        exact (ih _ _ _).trans (and_iff_right first).symm

theorem db_removeRows_of_refused (rows : List PackageRow) (remaining : Int32) {writes : ℕ → Bool}
    (refused : writes 0 = false) (db : Database) :
    (removeRows chara catalogId remaining rows writes db).db = db := by
  induction rows with
  | nil => rfl
  | cons row rows ih =>
      refine removeRows_cons ?_ ?_ ?_ ?_ ?_
      · exact fun _ => rfl
      · exact fun _ _ => ih
      · exact fun _ _ _ => rfl
      · exact fun _ _ taken => absurd (refused.symm.trans taken) Bool.false_ne_true
      · exact fun _ _ taken => absurd (refused.symm.trans taken) Bool.false_ne_true

theorem length_slots_removeItem {row : PackageRow}
    (present : row ∈ db.getItemPackageRows chara package) :
    ((db.removeItem chara row.uniqueId).slots chara package).length <
      (db.slots chara package).length := by
  obtain ⟨stored, inside, owned, package, item, _, rfl⟩ :=
    Database.mem_getItemPackageRows.mp present
  rw [Database.slots, Database.slots, List.length_map, List.length_map, Database.removeItem,
    List.filter_comm, List.length_filter_lt_length_iff_exists]
  refine ⟨stored, List.mem_filter.mpr ⟨inside, decide_eq_true ⟨owned, package⟩⟩, ?_⟩
  simp [owned, PackageRow.read]

theorem length_slots_removeRows (rows : List PackageRow) (remaining : Int32) {writes : ℕ → Bool}
    (taken : writes 0 = true) (stored : ∀ r ∈ rows, r ∈ db.getItemPackageRows chara package)
    (stopped : (removeRows chara catalogId remaining rows writes db).finished = false) :
    ((removeRows chara catalogId remaining rows writes db).db.slots chara package).length <
      (db.slots chara package).length := by
  induction rows with
  | nil => cases stopped
  | cons row rows ih =>
      revert stopped
      refine removeRows_cons ?_ ?_ ?_ ?_ ?_
      · exact fun _ stopped => absurd stopped.symm Bool.false_ne_true
      · exact fun _ _ => ih fun r inside => stored r (List.mem_cons_of_mem _ inside)
      · exact fun _ _ refused => absurd (refused.symm.trans taken) Bool.false_ne_true
      · exact fun _ _ _ _ stopped => absurd stopped.symm Bool.false_ne_true
      · exact fun _ _ _ _ _ => (slots_removeRows _ _ _ _).length_le.trans_lt
          (length_slots_removeItem (stored row List.mem_cons_self))

end Removal

section Calls

theorem slots_removal (client : Client) (cap : UInt16) (removal : Removal) :
    (client.after (if removal.updated.isEmpty ∧ removal.freedSlots.isEmpty then []
      else sendInventoryBracket cap package (removal.updated.map InventoryPacket.listX01 ++
        removal.freedSlots.map InventoryPacket.removeX01))).slots =
      Function.update client.slots package (removal.shown (client.slots package)) := by
  split
  · next nothing =>
      rw [List.isEmpty_iff, List.isEmpty_iff] at nothing
      rw [Removal.shown, nothing.1, nothing.2]
      exact (Function.update_eq_self _ _).symm
  · exact client.after_bracket cap package removal.updated removal.freedSlots

theorem applyRemoveItem_of_read {catalogId : UInt32} {quantity : Int32} (asked : 0 < quantity)
    (named : catalogId ≠ 0) (writes : ℕ → Bool) :
    applyRemoveItem db chara package catalogId quantity true writes =
      let removal := removeRows chara catalogId quantity
        (db.getItemPackageRows chara package).reverse writes db
      (removal.db, if removal.finished = false then []
        else if removal.updated.isEmpty ∧ removal.freedSlots.isEmpty then []
        else sendInventoryBracket (defaultCapacity package) package
          (removal.updated.map InventoryPacket.listX01 ++
            removal.freedSlots.map InventoryPacket.removeX01)) := by
  rw [applyRemoveItem, if_neg (not_or.mpr ⟨Int32.not_le.mpr asked, named⟩), if_neg (by simp)]
  dsimp only
  split
  · rfl
  · split <;> rfl

theorem mirrors_removeItem_iff (before : client.Mirrors chara db) (sound : db.Sound)
    (itemPackage : UInt16) (catalogId : UInt32) (quantity : Int32) (reads : Bool)
    (writes : ℕ → Bool) :
    (client.after (applyRemoveItem db chara itemPackage catalogId quantity reads writes).2).Mirrors
        chara (applyRemoveItem db chara itemPackage catalogId quantity reads writes).1 ↔
      (0 < quantity → catalogId ≠ 0 → reads = true → writes 0 = true →
        ∀ n < removals catalogId quantity (db.getItemPackageRows chara itemPackage).reverse,
          writes n = true) := by
  by_cases asked : 0 < quantity ∧ catalogId ≠ 0 ∧ reads = true
  · obtain ⟨some_asked, named, rfl⟩ := asked
    have listed : ∀ r ∈ (db.getItemPackageRows chara itemPackage).reverse,
        r ∈ db.getItemPackageRows chara itemPackage := fun r inside => List.mem_reverse.mp inside
    have ids : ((db.getItemPackageRows chara itemPackage).reverse.map (·.uniqueId)).Nodup := by
      rw [List.map_reverse]
      exact List.nodup_reverse.mpr (Database.uniqueIds_nodup sound)
    have distinct : ((db.getItemPackageRows chara itemPackage).reverse.map (·.slot)).Nodup := by
      rw [List.map_reverse]
      exact List.nodup_reverse.mpr
        ((before itemPackage).keys_nodup (Database.stacks_nodup sound))
    rw [applyRemoveItem_of_read some_asked named]
    simp only [some_asked, named, ne_eq, not_false_eq_true, forall_const]
    cases finished : (removeRows chara catalogId quantity
        (db.getItemPackageRows chara itemPackage).reverse writes db).finished with
    | true =>
        refine iff_of_true ?_ fun _ => (finished_removeRows_iff _ _ _ _).mp finished
        rw [if_neg (by simp)]
        refine (before.update_iff (slots_removal client _ _) fun other differs r => ?_).mpr ?_
        · exact removeRows_others _ _ _ sound ids listed (.inl differs)
        · exact shows_removeRows _ _ _ sound (before itemPackage) ids distinct listed finished
    | false =>
        rw [if_pos rfl]
        cases first : writes 0 with
        | false =>
            rw [db_removeRows_of_refused _ _ first]
            exact iff_of_true before fun impossible => by cases impossible
        | true =>
            refine iff_of_false (fun after => ?_) fun all => Bool.false_ne_true
              (finished.symm.trans ((finished_removeRows_iff _ _ _ _).mpr (all rfl)))
            have shorter := length_slots_removeRows _ quantity first listed finished
            exact shorter.ne
              (before.length_slots sound after (sound_removeRows _ _ _ sound) itemPackage)
  · have unchanged : applyRemoveItem db chara itemPackage catalogId quantity reads writes =
        (db, []) := by
      rw [applyRemoveItem]
      split
      · rfl
      · next goes =>
          rw [if_pos]
          by_contra read
          apply asked
          obtain ⟨some_asked, named⟩ := not_or.mp goes
          exact ⟨Int32.not_le.mp some_asked, named, by simpa using read⟩
    rw [unchanged]
    exact iff_of_true before fun some_asked named read =>
      absurd ⟨some_asked, named, read⟩ asked

theorem takesOnly (maxStack : UInt32 → Option ℤ) (s : Live) (sound : s.db.Sound) (call : Call) :
    TakesOnly maxStack chara s call := by
  cases call with
  | addGil amount persists reads => trivial
  | addItem itemPackage itemId quantity persists reads => trivial
  | removeItem itemPackage catalogId quantity reads writes =>
      intro package r other
      rw [Live.step, Call.apply]
      dsimp only
      have ids : ((s.db.getItemPackageRows chara itemPackage).reverse.map (·.uniqueId)).Nodup := by
        rw [List.map_reverse]
        exact List.nodup_reverse.mpr (Database.uniqueIds_nodup sound)
      have kept := removeRows_others _ quantity writes sound ids
        (fun r inside => List.mem_reverse.mp inside) other
      rw [applyRemoveItem]
      split
      · exact Iff.rfl
      split
      · exact Iff.rfl
      dsimp only
      split
      · exact kept
      split
      · exact kept
      · exact kept

theorem mirrors_addItem_iff (maxStack : UInt32 → Option ℤ) (before : client.Mirrors chara db)
    (sound : db.Sound) (itemPackage : UInt16) (itemId : UInt32) (quantity : Int32)
    (persists reads : Bool) :
    (client.after (applyAddItem db chara maxStack itemPackage itemId quantity persists
        reads).2).Mirrors chara
        (applyAddItem db chara maxStack itemPackage itemId quantity persists reads).1 ↔
      Reaches maxStack chara ⟨db, client⟩
        (.addItem itemPackage itemId quantity persists reads) := by
  rw [applyAddItem, Reaches]
  split
  · next nothing =>
      refine iff_of_true before fun asked named => ?_
      obtain none_asked | unnamed := nothing
      · exact absurd none_asked (Int32.not_le.mpr asked)
      · exact absurd unnamed named
  next goes =>
  obtain ⟨some_asked, named⟩ := not_or.mp goes
  have asked : 0 < quantity := Int32.not_le.mp some_asked
  simp only [asked, named, ne_eq, not_false_eq_true, forall_const]
  split
  · exact mirrors_addGil_iff before sound quantity persists reads
  split
  · rw [KeyItemReaches]
    cases persists with
    | false => exact iff_of_true before fun impossible => by cases impossible
    | true =>
        rw [if_pos rfl, Database.addKeyItem, if_neg named]
        cases first : (db.held chara PKG_KEYITEMS { itemId }).head? with
        | some entry =>
            refine iff_of_true before fun _ none_held => ?_
            rw [none_held] at first
            cases first
        | none =>
            have exact_case := mirrors_keyItem_iff before sound itemId CAP_KEYITEMS
              ((readI32 (db.nextSlot chara PKG_KEYITEMS)).getD 0) reads
            simpa [List.head?_eq_none_iff.mp first] using exact_case
  split
  · next elsewhere =>
      exact iff_of_true before fun here => absurd here elsewhere
  · next here =>
      rw [not_not] at here
      rw [HarvestReaches]
      cases persists with
      | false => exact iff_of_true before fun _ impossible => by cases impossible
      | true =>
          rw [if_pos rfl]
          cases done : db.addHarvestItem maxStack chara itemId quantity 1 with
          | none => exact iff_of_true before fun _ _ impossible => by cases impossible
          | some granted =>
              obtain ⟨newTotal, db'⟩ := granted
              have exact_case := mirrors_harvest_iff before sound
                (harvest_of_done sound asked named done) CAP_NORMAL reads
              simpa [here] using exact_case

theorem sound_apply (maxStack : UInt32 → Option ℤ) (sound : db.Sound) (call : Call) :
    (call.apply maxStack chara db).1.Sound := by
  cases call with
  | addGil amount persists reads => exact sound_addGil sound amount persists reads
  | removeItem itemPackage catalogId quantity reads writes =>
      rw [Call.apply, applyRemoveItem]
      split
      · exact sound
      split
      · exact sound
      have left : (removeRows chara catalogId quantity
          (db.getItemPackageRows chara itemPackage).reverse writes db).db.Sound :=
        sound_removeRows _ _ _ sound
      dsimp only
      split
      · exact left
      split
      · exact left
      · exact left
  | addItem itemPackage itemId quantity persists reads =>
      rw [Call.apply, applyAddItem]
      split
      · exact sound
      next goes =>
      obtain ⟨some_asked, named⟩ := not_or.mp goes
      split
      · exact sound_addGil sound quantity persists reads
      split
      · cases persists with
        | false => exact sound
        | true =>
            rw [if_pos rfl, Database.addKeyItem, if_neg named]
            cases (db.held chara PKG_KEYITEMS { itemId }).head? with
            | some entry => exact sound
            | none => exact sound.insertItem _ _ _ _
      split
      · exact sound
      · cases persists with
        | false => exact sound
        | true =>
            rw [if_pos rfl]
            cases done : db.addHarvestItem maxStack chara itemId quantity 1 with
            | none => exact sound
            | some granted =>
                obtain ⟨newTotal, db'⟩ := granted
                exact (harvest_of_done sound (Int32.not_le.mp some_asked) named done).grown.sound

theorem mirrored_step_iff (maxStack : UInt32 → Option ℤ) {s : Live} (sound : s.db.Sound)
    (mirrored : s.Mirrored chara) (call : Call) :
    (s.step maxStack chara call).Mirrored chara ↔ Reaches maxStack chara s call := by
  cases call with
  | addGil amount persists reads => exact mirrors_addGil_iff mirrored sound amount persists reads
  | addItem itemPackage itemId quantity persists reads =>
      exact mirrors_addItem_iff maxStack mirrored sound itemPackage itemId quantity persists reads
  | removeItem itemPackage catalogId quantity reads writes =>
      exact mirrors_removeItem_iff mirrored sound itemPackage catalogId quantity reads writes

end Calls

/-- Grants and removals in any order: the client shows the stored rows after every call exactly if
every call reaches it. What a removal takes is of the item it asks for in any case. -/
theorem grants_reach_client_iff (maxStack : UInt32 → Option ℤ) (chara : UInt32) (s : Live)
    (sound : s.db.Sound) (mirrored : s.Mirrored chara) (calls : List Call) :
    Always (fun s call => some (Live.step maxStack chara s call)) (Live.Mirrored chara) s calls ∧
        EachStep (fun s call => some (Live.step maxStack chara s call))
          (TakesOnly maxStack chara) s calls ↔
      EachStep (fun s call => some (Live.step maxStack chara s call))
        (Reaches maxStack chara) s calls := by
  apply always_and_eachStep_iff (I := fun s => s.db.Sound) _ _ sound mirrored
  · intro s call s' sound mirrored taken
    cases taken
    rw [mirrored_step_iff maxStack sound mirrored call]
    exact and_iff_left (takesOnly maxStack s sound call)
  · intro s call s' sound _ _ taken
    cases taken
    exact sound_apply maxStack sound call

def Client.showing (chara : UInt32) (db : Database) : Client where
  slots package :=
    putRows PackageRow.slot PackageRow.stack (fun _ => none) (db.getItemPackageRows chara package)

theorem Client.mirrors_showing (sound : db.Sound)
    (distinct : ∀ package, ((db.slots chara package).map readSlot).Nodup) :
    (Client.showing chara db).Mirrors chara db := by
  intro package
  have nothing : Shows PackageRow.slot PackageRow.stack (fun _ => none) [] := by
    intro k v
    simp
  apply (shows_putRows_iff nothing (List.Sublist.refl _) (Database.stacks_nodup sound)
    (fun _ inside => .inr inside) (by simp)).mpr
  exact (Database.slots_nodup_iff sound).mpr (distinct package)

def twoStacks : Database :=
  (Database.empty.insertItem 1 PKG_NORMAL 0 ⟨3010103, 30, 1⟩).insertItem 1 PKG_NORMAL 1
    ⟨3010103, 30, 1⟩

theorem sound_twoStacks : twoStacks.Sound :=
  (Database.sound_empty.insertItem _ _ _ _).insertItem _ _ _ _

theorem slots_twoStacks (package : UInt16) : ((twoStacks.slots 1 package).map readSlot).Nodup := by
  rw [twoStacks, Database.slots_insertItem, Database.slots_insertItem]
  by_cases bag : PKG_NORMAL = package
  · subst bag
    decide
  · simp [bag, Database.slots, Database.empty]

theorem mirrored_twoStacks : Live.Mirrored 1 ⟨twoStacks, Client.showing 1 twoStacks⟩ :=
  Client.mirrors_showing sound_twoStacks slots_twoStacks

theorem sorted_twoStacks : (twoStacks.inventory.mergeSort fun a b => a.slot ≤ b.slot) =
    twoStacks.inventory :=
  List.mergeSort_of_pairwise (by decide)

theorem rows_twoStacks : twoStacks.getItemPackageRows 1 PKG_NORMAL =
    [⟨1, 3010103, 30, 1, 0⟩, ⟨2, 3010103, 30, 1, 1⟩] := by
  rw [Database.getItemPackageRows, sorted_twoStacks]
  decide

theorem existing_twoStacks : twoStacks.existing 1 3010103 1 = [(1, 30), (2, 30)] := by
  rw [Database.existing, Database.getItemPackage, sorted_twoStacks]
  decide

theorem grants_reach_client_two :
    Always (fun s call => some (Live.step (fun _ => some 99) 1 s call)) (Live.Mirrored 1)
        ⟨twoStacks, Client.showing 1 twoStacks⟩
        [.addItem PKG_NORMAL 3010103 50 true true,
          .removeItem PKG_NORMAL 3010103 80 true fun _ => true] ∧
      EachStep (fun s call => some (Live.step (fun _ => some 99) 1 s call))
        (TakesOnly (fun _ => some 99) 1) ⟨twoStacks, Client.showing 1 twoStacks⟩
        [.addItem PKG_NORMAL 3010103 50 true true,
          .removeItem PKG_NORMAL 3010103 80 true fun _ => true] := by
  apply (grants_reach_client_iff (fun _ => some 99) 1 _ sound_twoStacks mirrored_twoStacks _).mpr
  intro s taken
  refine ⟨?_, fun s' _ => ⟨fun _ _ _ _ _ _ => rfl, trivial⟩⟩
  intro _ _
  rw [if_neg (by decide), if_neg (by decide)]
  intro _ _ _
  refine ⟨rfl, ?_⟩
  have opened : openedSlots (twoStacks.nextSlot 1 PKG_NORMAL)
      (stackLimit (fun _ => some 99) 3010103) ((50 : Int32).toInt -
        room (stackLimit (fun _ => some 99) 3010103) (twoStacks.existing 1 3010103 1)) = [] := by
    rw [existing_twoStacks]
    decide
  rw [opened, SlotsFree, List.append_nil]
  exact slots_twoStacks PKG_NORMAL

/-- The second stack of two is not removed, and nothing is sent of the first. -/
theorem removal_stops_halfway :
    Live.Mirrored 1 ⟨twoStacks, Client.showing 1 twoStacks⟩ ∧
      ¬ Live.Mirrored 1 (Live.step (fun _ => some 99) 1 ⟨twoStacks, Client.showing 1 twoStacks⟩
        (.removeItem PKG_NORMAL 3010103 60 true fun n => n = 0)) := by
  refine ⟨mirrored_twoStacks, ?_⟩
  rw [mirrored_step_iff _ sound_twoStacks mirrored_twoStacks]
  intro reaches
  have all := reaches (by decide) (by decide) rfl rfl 1 (by
    dsimp only
    rw [rows_twoStacks]
    decide)
  cases all

end Runtime
end Garlemald.Storage
