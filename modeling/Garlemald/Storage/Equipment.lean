import Garlemald.Inventory.Referenced
import Garlemald.Library.Runs
import Garlemald.Library.Table
import Garlemald.Storage.Grants

/-!
The stored equipment. A row says which item is worn in a slot in a class. Undergarments are
stored under the class 0 and are worn in every class; an equip knows that, an unequip does not.
-/

namespace Garlemald.Storage
open Library Inventory

def SLOT_UNDERSHIRT : UInt16 := 11
def SLOT_UNDERGARMENT : UInt16 := 12

def isUndergarment (equipSlot : UInt16) : Bool :=
  equipSlot == SLOT_UNDERSHIRT || equipSlot == SLOT_UNDERGARMENT

/-- The primary key of `characters_inventory_equipment`. -/
structure EquipmentKey where
  characterId : UInt32
  classId : UInt8
  equipSlot : UInt16
deriving DecidableEq

/-- The classes that are known of a player who is online, which all come from bytes. -/
structure Wearer where
  classId : UInt8
  currentJob : UInt8 := 0

/-- The stored items and equipment, the stored main skills and who is online. -/
structure Wardrobe where
  db : Database
  equipment : Table EquipmentKey ℕ
  mainSkill : UInt32 → UInt8
  online : UInt32 → Option Wearer

namespace Wardrobe

variable (w : Wardrobe)

/-- `WHERE characterId = :cid AND (classId = :class OR classId = 0)` -/
def inForce (chara : UInt32) (classId : UInt16) (key : EquipmentKey) : Bool :=
  key.characterId = chara && (key.classId.toUInt16 = classId || key.classId = 0)

/-- The rows that are in force in a class, `ORDER BY equipSlot`. -/
def getEquipment (chara : UInt32) (classId : UInt16) : List (UInt16 × ℕ) :=
  ((w.equipment.entries.filter fun row => inForce chara classId row.1).map fun row =>
    (row.1.equipSlot, row.2)).mergeSort fun a b => a.1 ≤ b.1

def isGearSlotEquipped (chara : UInt32) (classId : UInt16) (equipSlot : UInt16) : Bool :=
  0 < w.equipment.entries.countP fun row =>
    inForce chara classId row.1 && row.1.equipSlot = equipSlot

def effectiveClass (classId : UInt8) (undergarment : Bool) : UInt8 :=
  if undergarment then 0 else classId

def equipItem (chara : UInt32) (classId : UInt8) (equipSlot : UInt16) (id : ℕ)
    (undergarment : Bool) : Wardrobe :=
  { w with
    equipment := w.equipment.insert ⟨chara, effectiveClass classId undergarment, equipSlot⟩ id }

def unequipItem (chara : UInt32) (classId : UInt8) (equipSlot : UInt16) : Wardrobe :=
  { w with equipment := w.equipment.erase ⟨chara, classId, equipSlot⟩ }

/-- The job, if there is one, or the class. -/
def resolveCurrentClassId (chara : UInt32) : UInt8 :=
  match w.online chara with
  | none => 0
  | some wearer => if wearer.currentJob ≠ 0 then wearer.currentJob else wearer.classId

def resolvePlayerClassId (chara : UInt32) : UInt16 :=
  match w.online chara with
  | none => 0
  | some wearer =>
      if wearer.currentJob ≠ 0 then wearer.currentJob.toUInt16 else wearer.classId.toUInt16

/-- `UPDATE characters_inventory SET slot` -/
def updateItemPositions (updates : List InventoryItem) : Wardrobe :=
  { w with
    db :=
      { w.db with
        inventory := updates.foldl (fun rows item => rows.map fun row =>
          if row.serverItemId = item.uniqueId.toNat then { row with slot := item.slot.toNat }
          else row) w.db.inventory } }

/-- The `DbEquip` arm of the dispatcher. -/
def dbEquip (chara : UInt32) (equipSlot : UInt16) (id : ℕ) : Wardrobe :=
  w.equipItem chara (w.resolveCurrentClassId chara) equipSlot id (isUndergarment equipSlot)

/-- The `DbUnequip` arm of the dispatcher. -/
def dbUnequip (chara : UInt32) (equipSlot : UInt16) : Wardrobe :=
  w.unequipItem chara (w.resolveCurrentClassId chara) equipSlot

/-- An item that the bag has already is not added. -/
def addItem (chara : UInt32) (id : ℕ) (itemPackage slot : UInt16) : Wardrobe :=
  if w.db.inventory.any fun row => row.characterId = chara && row.serverItemId = id then w
  else
    { w with
      db := { w.db with inventory := w.db.inventory ++ [⟨chara, itemPackage, id, slot.toNat⟩] } }

/-- What an event of the packages does to the tables; the packets do nothing to them. -/
def dispatchInventoryEvent : InventoryEvent → Wardrobe
  | .dbAdd chara item itemPackage slot => w.addItem chara item.uniqueId.toNat itemPackage slot
  | .dbRemove chara id => { w with db := w.db.removeItem chara id.toNat }
  | .dbQuantity id quantity => { w with db := w.db.setQuantity id.toNat quantity.toInt }
  | .dbPositions updates => w.updateItemPositions updates
  | .dbEquip chara equipSlot id => w.dbEquip chara equipSlot id.toNat
  | .dbUnequip chara equipSlot => w.dbUnequip chara equipSlot
  | .packetBeginChange _ | .packetEndChange _ | .packetSetBegin .. | .packetSetEnd _
  | .packetItems .. | .packetRemoveSlots .. | .packetModifierFrame .. | .packetLinkedSingle ..
  | .packetLinkedMany .. => w

def resolveBagSlotItemId (chara : UInt32) (itemPackage slot : UInt16) : Option ℕ :=
  (w.db.inventory.find? fun row => row.characterId = chara && row.itemPackage = itemPackage &&
    row.slot = (slot.toNat : ℤ) && (w.db.items row.serverItemId).isSome).map (·.serverItemId)

/-- One turn of the loop over the gear slots. Without the scripts the row is written directly. -/
def fillGearSlot (chara : UInt32) (classId : UInt16) (srcPackage : UInt32) (scripts : Bool)
    (gearSlot srcPosition : UInt16) : Wardrobe :=
  match w.resolveBagSlotItemId chara srcPackage.toUInt16 srcPosition with
  | none => w
  | some id =>
      if w.isGearSlotEquipped chara classId gearSlot then w
      else if scripts then w.dbEquip chara gearSlot id
      else w.equipItem chara classId.toUInt8 gearSlot id (isUndergarment gearSlot)

def applyEquipFromPackage (chara : UInt32) (gearSlots srcPositions : List UInt16)
    (srcPackage : UInt32) (scripts : Bool) : Wardrobe :=
  let classId := w.resolvePlayerClassId chara
  (gearSlots.zip srcPositions).foldl
    (fun w pair => w.fillGearSlot chara classId srcPackage scripts pair.1 pair.2) w

def changeWearer (chara : UInt32) (f : Wearer → Wearer) : Wardrobe :=
  { w with online := Function.update w.online chara ((w.online chara).map f) }

/-- The classes after a login; the job is not stored. -/
def login (chara : UInt32) : Wardrobe :=
  { w with online := Function.update w.online chara (some { classId := w.mainSkill chara }) }

def loadedEquipment (chara : UInt32) : List (UInt16 × ℕ) :=
  w.getEquipment chara (w.mainSkill chara).toUInt16

end Wardrobe

inductive WardrobeOp where
  | event (event : InventoryEvent)
  | fillGearSlot (chara srcPackage : UInt32) (scripts : Bool) (gearSlot srcPosition : UInt16)
  | doClassChange (chara : UInt32) (classId : UInt8)
  | setCurrentJob (chara : UInt32) (jobId : UInt8)
  | savePlayerCurrentClass (chara : UInt32) (classId : UInt8)
  | login (chara : UInt32)
  | logout (chara : UInt32)

inductive Change where
  | on (chara : UInt32) (classId : UInt8) (equipSlot : UInt16) (id : ℕ)
  | off (chara : UInt32) (classId : UInt8) (equipSlot : UInt16)

namespace Wardrobe

variable (w : Wardrobe)

def perform : WardrobeOp → Wardrobe
  | .event event => w.dispatchInventoryEvent event
  | .fillGearSlot chara srcPackage scripts gearSlot srcPosition =>
      w.fillGearSlot chara (w.resolvePlayerClassId chara) srcPackage scripts gearSlot srcPosition
  | .doClassChange chara classId => w.changeWearer chara fun wearer => { wearer with classId }
  | .setCurrentJob chara jobId =>
      w.changeWearer chara fun wearer => { wearer with currentJob := jobId }
  | .savePlayerCurrentClass chara classId =>
      { w with mainSkill := Function.update w.mainSkill chara classId }
  | .login chara => w.login chara
  | .logout chara => { w with online := Function.update w.online chara none }

def change : WardrobeOp → Option Change
  | .event (.dbEquip chara equipSlot id) =>
      some (.on chara (w.resolveCurrentClassId chara) equipSlot id.toNat)
  | .event (.dbUnequip chara equipSlot) =>
      some (.off chara (w.resolveCurrentClassId chara) equipSlot)
  | .fillGearSlot chara srcPackage _ gearSlot srcPosition =>
      if w.isGearSlotEquipped chara (w.resolvePlayerClassId chara) gearSlot then none
      else (w.resolveBagSlotItemId chara srcPackage.toUInt16 srcPosition).map
        (.on chara (w.resolveCurrentClassId chara) gearSlot ·)
  | _ => none

def InBag (chara : UInt32) (id : ℕ) : Prop :=
  ∃ row ∈ w.db.inventory, row.characterId = chara ∧ row.serverItemId = id

def stored (chara : UInt32) (classId : UInt8) (equipSlot : UInt16) : Option ℕ :=
  w.equipment.lookup ⟨chara, classId, equipSlot⟩

end Wardrobe

structure Attire where
  wardrobe : Wardrobe
  /-- The equipment in memory, by character and class; undergarments are worn in all classes. -/
  worn : UInt32 → UInt8 → UInt16 → Option ℕ
  /-- The class that the last equip of a slot wrote under, until the next unequip of the slot. -/
  written : UInt32 → UInt16 → Option UInt8

namespace Attire

variable (a : Attire)

def wear (chara : UInt32) (classId : UInt8) (equipSlot : UInt16) (item : Option ℕ) :
    UInt32 → UInt8 → UInt16 → Option ℕ := fun chara' classId' equipSlot' =>
  if chara' = chara ∧ equipSlot' = equipSlot ∧
      (isUndergarment equipSlot = true ∨ classId' = classId) then item
  else a.worn chara' classId' equipSlot'

def write (chara : UInt32) (equipSlot : UInt16) (classId : Option UInt8) :
    UInt32 → UInt16 → Option UInt8 := fun chara' equipSlot' =>
  if chara' = chara ∧ equipSlot' = equipSlot then classId else a.written chara' equipSlot'

def step (op : WardrobeOp) : Attire :=
  let wardrobe := a.wardrobe.perform op
  match a.wardrobe.change op with
  | none => { a with wardrobe }
  | some (.on chara classId equipSlot id) =>
      { wardrobe
        worn := a.wear chara classId equipSlot (some id)
        written := a.write chara equipSlot
          (some (Wardrobe.effectiveClass classId (isUndergarment equipSlot))) }
  | some (.off chara classId equipSlot) =>
      { wardrobe
        worn := a.wear chara classId equipSlot none
        written := a.write chara equipSlot none }

def fresh (db : Database) (mainSkill : UInt32 → UInt8) : Attire where
  wardrobe := { db, equipment := ∅, mainSkill, online := fun _ => none }
  worn := fun _ _ _ => none
  written := fun _ _ => none

/-- The entries are those of the view, each slot once and in their order. -/
structure Lists (entries : List (UInt16 × ℕ)) (view : UInt16 → Option ℕ) : Prop where
  ordered : (entries.map Prod.fst).Pairwise (· < ·)
  same : ∀ equipSlot id, (equipSlot, id) ∈ entries ↔ view equipSlot = some id

def Together (classId classId' : UInt8) : Prop := classId = classId' ∨ classId = 0 ∨ classId' = 0

/-- Every row names an item of the character, no item is in two slots of one class, and what is
loaded for a class is what is worn in it. -/
structure Valid : Prop where
  owned : ∀ chara classId equipSlot id,
    a.wardrobe.stored chara classId equipSlot = some id → a.wardrobe.InBag chara id
  apart : ∀ chara classId classId' equipSlot equipSlot' id, Together classId classId' →
    a.wardrobe.stored chara classId equipSlot = some id →
    a.wardrobe.stored chara classId' equipSlot' = some id → equipSlot = equipSlot'
  loaded : ∀ chara classId,
    Lists (a.wardrobe.getEquipment chara classId.toUInt16) (a.worn chara classId)

def Removes (op : WardrobeOp) : Prop :=
  match a.wardrobe.change op with
  | some (.off chara _ equipSlot) => ∀ classId, a.written chara equipSlot = some classId →
      (a.step op).wardrobe.stored chara classId equipSlot = none
  | _ => True

/-- The condition on an operation. -/
def Fits (op : WardrobeOp) : Prop :=
  match a.wardrobe.change op with
  | some (.on chara classId equipSlot id) =>
      a.wardrobe.InBag chara id ∧ (isUndergarment equipSlot = true ∨ classId ≠ 0) ∧
        ∀ classId' equipSlot', a.wardrobe.stored chara classId' equipSlot' = some id →
          Together (Wardrobe.effectiveClass classId (isUndergarment equipSlot)) classId' →
          equipSlot' = equipSlot
  | some (.off chara classId equipSlot) =>
      ∀ classId', a.written chara equipSlot = some classId' → classId' = classId
  | none =>
      match op with
      | .event (.dbRemove chara id) =>
          ∀ classId equipSlot, a.wardrobe.stored chara classId equipSlot ≠ some id.toNat
      | _ => True

end Attire

namespace Wardrobe

variable {w : Wardrobe} {chara : UInt32} {classId : UInt8}

theorem inForce_iff {key : EquipmentKey} : inForce chara classId.toUInt16 key = true ↔
    key.characterId = chara ∧ (key.classId = classId ∨ key.classId = 0) := by
  have widened : key.classId.toUInt16 = classId.toUInt16 ↔ key.classId = classId := by
    constructor
    · intro same
      have bytes := congrArg UInt16.toUInt8 same
      rwa [UInt8.toUInt8_toUInt16, UInt8.toUInt8_toUInt16] at bytes
    · exact congrArg UInt8.toUInt16
  simp [inForce, widened]

theorem mem_entries (key : EquipmentKey) {id : ℕ} :
    (⟨key, id⟩ : Sigma fun _ : EquipmentKey => ℕ) ∈ w.equipment.entries ↔
      w.stored key.characterId key.classId key.equipSlot = some id :=
  AList.mem_lookup_iff.symm

theorem mem_rows {equipSlot : UInt16} {id : ℕ} :
    (equipSlot, id) ∈ w.getEquipment chara classId.toUInt16 ↔
      w.stored chara classId equipSlot = some id ∨ w.stored chara 0 equipSlot = some id := by
  rw [getEquipment, (List.mergeSort_perm _ _).mem_iff, List.mem_map]
  constructor
  · rintro ⟨⟨⟨_, rowClass, _⟩, _⟩, inside, shown⟩
    obtain ⟨present, force⟩ := List.mem_filter.mp inside
    obtain ⟨rfl, classes⟩ := inForce_iff.mp force
    cases shown
    obtain rfl | rfl := classes
    · exact Or.inl ((mem_entries _).mp present)
    · exact Or.inr ((mem_entries _).mp present)
  · have row (rowClass : UInt8) (force : rowClass = classId ∨ rowClass = 0)
        (here : w.stored chara rowClass equipSlot = some id) :
        ∃ row ∈ w.equipment.entries.filter fun row => inForce chara classId.toUInt16 row.1,
          (row.1.equipSlot, row.2) = (equipSlot, id) := by
      refine ⟨⟨⟨chara, rowClass, equipSlot⟩, id⟩,
        List.mem_filter.mpr ⟨(mem_entries _).mpr here, ?_⟩, rfl⟩
      exact inForce_iff.mpr ⟨rfl, force⟩
    rintro (own | shared)
    · exact row classId (Or.inl rfl) own
    · exact row 0 (Or.inr rfl) shared

theorem slots_perm : ((w.getEquipment chara classId.toUInt16).map Prod.fst).Perm
    ((w.equipment.entries.filter fun row => inForce chara classId.toUInt16 row.1).map
      (·.1.equipSlot)) := by
  have sorted := (List.mergeSort_perm ((w.equipment.entries.filter fun row =>
    inForce chara classId.toUInt16 row.1).map fun row => (row.1.equipSlot, row.2))
    fun a b => a.1 ≤ b.1).map Prod.fst
  rw [List.map_map] at sorted
  exact sorted

theorem slots_sorted :
    ((w.getEquipment chara classId.toUInt16).map Prod.fst).Pairwise (· ≤ ·) := by
  rw [List.pairwise_map, getEquipment]
  have sorted := List.pairwise_mergeSort
    (fun (a b c : UInt16 × ℕ) (first : decide (a.1 ≤ b.1) = true) second => by
      rw [decide_eq_true_eq] at first second ⊢
      exact UInt16.le_trans first second)
    (fun a b => by
      rw [Bool.or_eq_true, decide_eq_true_eq, decide_eq_true_eq]
      exact UInt16.le_total a.1 b.1)
    ((w.equipment.entries.filter fun row => inForce chara classId.toUInt16 row.1).map fun row =>
      (row.1.equipSlot, row.2))
  exact sorted.imp fun le => decide_eq_true_eq.mp le

theorem ordered_iff :
    ((w.getEquipment chara classId.toUInt16).map Prod.fst).Pairwise (· < ·) ↔
      ∀ equipSlot, classId ≠ 0 →
        w.stored chara classId equipSlot = none ∨ w.stored chara 0 equipSlot = none := by
  have rows : ((w.getEquipment chara classId.toUInt16).map Prod.fst).Pairwise (· < ·) ↔
      ((w.equipment.entries.filter fun row => inForce chara classId.toUInt16 row.1).map
        (·.1.equipSlot)).Nodup := by
    rw [← slots_perm.nodup_iff]
    constructor
    · exact fun ordered => ordered.imp fun lt => (UInt16.lt_iff_le_and_ne.mp lt).2
    · intro once
      exact slots_sorted.imp₂ (fun _ _ le ne => UInt16.lt_iff_le_and_ne.mpr ⟨le, ne⟩) once
  rw [rows]
  constructor
  · intro once equipSlot other
    by_contra both
    obtain ⟨id, own⟩ := Option.ne_none_iff_exists'.mp (not_or.mp both).1
    obtain ⟨id', shared⟩ := Option.ne_none_iff_exists'.mp (not_or.mp both).2
    have equal := List.inj_on_of_nodup_map once
      (List.mem_filter.mpr ⟨(mem_entries ⟨chara, classId, equipSlot⟩).mpr own,
        inForce_iff.mpr ⟨rfl, Or.inl rfl⟩⟩)
      (List.mem_filter.mpr ⟨(mem_entries ⟨chara, 0, equipSlot⟩).mpr shared,
        inForce_iff.mpr ⟨rfl, Or.inr rfl⟩⟩) rfl
    exact other (congrArg (·.1.classId) equal)
  · intro single
    refine List.Nodup.map_on ?_ (w.equipment.nodupKeys.nodup.filter _)
    rintro ⟨⟨_, k, slot⟩, id⟩ first ⟨⟨_, k', slot'⟩, id'⟩ second same
    obtain ⟨here, force⟩ := List.mem_filter.mp first
    obtain ⟨there, force'⟩ := List.mem_filter.mp second
    obtain ⟨rfl, classes⟩ := inForce_iff.mp force
    obtain ⟨rfl, classes'⟩ := inForce_iff.mp force'
    obtain rfl : slot = slot' := same
    have own := (mem_entries _).mp here
    have own' := (mem_entries _).mp there
    have equal : k = k' := by
      obtain rfl | rfl := classes
      · obtain rfl | rfl := classes'
        · rfl
        · by_contra apart
          obtain none | none := single slot apart
          · exact absurd own (by simp [none])
          · exact absurd own' (by simp [none])
      · obtain rfl | rfl := classes'
        · by_contra apart
          obtain none | none := single slot (Ne.symm apart)
          · exact absurd own' (by simp [none])
          · exact absurd own (by simp [none])
        · rfl
    subst equal
    cases own.symm.trans own'
    rfl

theorem resolvePlayerClassId_eq (w : Wardrobe) (chara : UInt32) :
    w.resolvePlayerClassId chara = (w.resolveCurrentClassId chara).toUInt16 := by
  rw [resolvePlayerClassId, resolveCurrentClassId]
  cases w.online chara with
  | none => rfl
  | some wearer => exact (apply_ite UInt8.toUInt16 _ _ _).symm

theorem fillGearSlot_online (w : Wardrobe) (chara : UInt32) (classId : UInt16)
    (srcPackage : UInt32) (scripts : Bool) (gearSlot srcPosition : UInt16) :
    (w.fillGearSlot chara classId srcPackage scripts gearSlot srcPosition).online = w.online := by
  rw [fillGearSlot]
  split
  · rfl
  · split
    · rfl
    · split
      · rfl
      · rfl

theorem applyEquipFromPackage_eq (w : Wardrobe) (chara srcPackage : UInt32) (scripts : Bool)
    (gearSlots srcPositions : List UInt16) :
    w.applyEquipFromPackage chara gearSlots srcPositions srcPackage scripts =
      ((gearSlots.zip srcPositions).map fun pair =>
        WardrobeOp.fillGearSlot chara srcPackage scripts pair.1 pair.2).foldl perform w := by
  have turns (pairs : List (UInt16 × UInt16)) (w' : Wardrobe) (same : w'.online = w.online) :
      pairs.foldl (fun w' pair => w'.fillGearSlot chara (w.resolvePlayerClassId chara) srcPackage
        scripts pair.1 pair.2) w' =
      (pairs.map fun pair =>
        WardrobeOp.fillGearSlot chara srcPackage scripts pair.1 pair.2).foldl perform w' := by
    induction pairs generalizing w' with
    | nil => rfl
    | cons pair pairs ih =>
        have classes : w'.resolvePlayerClassId chara = w.resolvePlayerClassId chara := by
          rw [resolvePlayerClassId, resolvePlayerClassId, same]
        rw [List.foldl_cons, List.map_cons, List.foldl_cons, perform, classes]
        exact ih _ ((fillGearSlot_online ..).trans same)
  exact turns _ w rfl

theorem stored_equipItem {chara' : UInt32} {classId' : UInt8} {equipSlot equipSlot' : UInt16}
    {id : ℕ} {undergarment : Bool} :
    (w.equipItem chara classId equipSlot id undergarment).stored chara' classId' equipSlot' =
      if chara' = chara ∧ classId' = effectiveClass classId undergarment ∧
        equipSlot' = equipSlot then some id
      else w.stored chara' classId' equipSlot' := by
  simp only [stored, equipItem, Table.lookup_insert_if, EquipmentKey.mk.injEq]

theorem stored_unequipItem {chara' : UInt32} {classId' : UInt8} {equipSlot equipSlot' : UInt16} :
    (w.unequipItem chara classId equipSlot).stored chara' classId' equipSlot' =
      if chara' = chara ∧ classId' = classId ∧ equipSlot' = equipSlot then none
      else w.stored chara' classId' equipSlot' := by
  simp only [stored, unequipItem, Table.lookup_erase_if, EquipmentKey.mk.injEq]

theorem perform_of_change (op : WardrobeOp) :
    match w.change op with
    | some (.on chara classId equipSlot id) =>
        w.perform op = w.equipItem chara classId equipSlot id (isUndergarment equipSlot)
    | some (.off chara classId equipSlot) =>
        w.perform op = w.unequipItem chara classId equipSlot
    | none => (w.perform op).equipment = w.equipment := by
  cases op with
  | event event =>
      cases event with
      | dbEquip chara equipSlot id => exact rfl
      | dbUnequip chara equipSlot => exact rfl
      | dbAdd chara item itemPackage slot =>
          change (w.addItem chara item.uniqueId.toNat itemPackage slot).equipment = w.equipment
          rw [addItem]
          split
          · rfl
          · rfl
      | _ => exact rfl
  | fillGearSlot chara srcPackage scripts gearSlot srcPosition =>
      rw [change, perform, fillGearSlot]
      cases w.resolveBagSlotItemId chara srcPackage.toUInt16 srcPosition with
      | none => split <;> simp_all
      | some id =>
          by_cases equipped : w.isGearSlotEquipped chara (w.resolvePlayerClassId chara) gearSlot
          · simp [equipped]
          · have narrowed : (w.resolvePlayerClassId chara).toUInt8 =
                w.resolveCurrentClassId chara := by
              rw [resolvePlayerClassId_eq, UInt8.toUInt8_toUInt16]
            simp [equipped, narrowed, dbEquip]
  | _ => exact rfl

theorem inBag_perform (op : WardrobeOp) {id : ℕ} (inside : w.InBag chara id)
    (other : ∀ gone, op = .event (.dbRemove chara gone) → gone.toNat ≠ id) :
    (w.perform op).InBag chara id := by
  obtain ⟨row, present, own, same⟩ := inside
  have kept {w' : Wardrobe} (items : ∀ row ∈ w.db.inventory, row ∈ w'.db.inventory) :
      w'.InBag chara id := ⟨row, items row present, own, same⟩
  cases op with
  | event event =>
      cases event with
      | dbAdd chara' item itemPackage slot =>
          apply kept
          intro row there
          change row ∈ (w.addItem chara' item.uniqueId.toNat itemPackage slot).db.inventory
          rw [addItem]
          split
          · exact there
          · exact List.mem_append_left _ there
      | dbRemove chara' gone =>
          refine ⟨row, List.mem_filter.mpr ⟨present, ?_⟩, own, same⟩
          rw [Bool.not_eq_true', decide_eq_false_iff_not]
          rintro ⟨rfl, named⟩
          subst own
          exact other gone rfl (named.symm.trans same)
      | dbPositions updates =>
          change ∃ row ∈ (w.updateItemPositions updates).db.inventory, _
          rw [updateItemPositions]
          dsimp only
          clear other kept
          generalize w.db.inventory = rows at present
          induction updates generalizing rows row with
          | nil => exact ⟨row, present, own, same⟩
          | cons item updates ih =>
              rw [List.foldl_cons]
              by_cases moved : row.serverItemId = item.uniqueId.toNat
              · apply ih { row with slot := item.slot.toNat } own same
                refine List.mem_map.mpr ⟨row, present, ?_⟩
                rw [if_pos moved]
              · apply ih row own same
                refine List.mem_map.mpr ⟨row, present, ?_⟩
                rw [if_neg moved]
      | _ => exact kept fun _ there => there
  | fillGearSlot chara' srcPackage scripts gearSlot srcPosition =>
      apply kept
      rw [perform, fillGearSlot]
      split
      · exact fun _ there => there
      · split
        · exact fun _ there => there
        · split
          · exact fun _ there => there
          · exact fun _ there => there
  | _ => exact kept fun _ there => there

theorem not_inBag_removed (gone : UInt64) :
    ¬ (w.perform (.event (.dbRemove chara gone))).InBag chara gone.toNat := by
  rintro ⟨row, inside, own, same⟩
  have kept := (List.mem_filter.mp inside).2
  rw [Bool.not_eq_true', decide_eq_false_iff_not] at kept
  exact kept ⟨own, same⟩

end Wardrobe

namespace Attire
open Wardrobe

variable {a : Attire}

theorem lists_iff {w : Wardrobe} {chara : UInt32} {classId : UInt8}
    {view : UInt16 → Option ℕ} :
    Lists (w.getEquipment chara classId.toUInt16) view ↔
      (∀ equipSlot, classId ≠ 0 →
        w.stored chara classId equipSlot = none ∨ w.stored chara 0 equipSlot = none) ∧
      ∀ equipSlot id, w.stored chara classId equipSlot = some id ∨
        w.stored chara 0 equipSlot = some id ↔ view equipSlot = some id := by
  rw [← ordered_iff]
  simp only [← mem_rows]
  exact ⟨fun lists => ⟨lists.ordered, lists.same⟩, fun both => ⟨both.1, both.2⟩⟩

/-- Undergarments and nothing else are stored under the class 0, and an equip that is still on
has its row. -/
structure Filed (a : Attire) : Prop where
  classes : ∀ chara classId equipSlot id, a.wardrobe.stored chara classId equipSlot = some id →
    (isUndergarment equipSlot = true ↔ classId = 0)
  kept : ∀ chara equipSlot classId, a.written chara equipSlot = some classId →
    (a.wardrobe.stored chara classId equipSlot).isSome = true
  shared : ∀ chara equipSlot id, isUndergarment equipSlot = true →
    a.wardrobe.stored chara 0 equipSlot = some id → a.written chara equipSlot = some 0

theorem Filed.loaded_iff (filed : a.Filed) {chara : UInt32} {classId : UInt8}
    {view : UInt16 → Option ℕ} :
    Lists (a.wardrobe.getEquipment chara classId.toUInt16) view ↔
      ∀ equipSlot, view equipSlot =
        a.wardrobe.stored chara (effectiveClass classId (isUndergarment equipSlot)) equipSlot := by
  rw [lists_iff]
  have apart (equipSlot : UInt16) (other : classId ≠ 0) :
      a.wardrobe.stored chara classId equipSlot = none ∨
        a.wardrobe.stored chara 0 equipSlot = none := by
    by_contra both
    obtain ⟨id, own⟩ := Option.ne_none_iff_exists'.mp (not_or.mp both).1
    obtain ⟨id', shared⟩ := Option.ne_none_iff_exists'.mp (not_or.mp both).2
    have under := (filed.classes _ _ _ _ shared).mpr rfl
    exact other ((filed.classes _ _ _ _ own).mp under)
  have inForce (equipSlot : UInt16) (id : ℕ) :
      a.wardrobe.stored chara classId equipSlot = some id ∨
          a.wardrobe.stored chara 0 equipSlot = some id ↔
        a.wardrobe.stored chara (effectiveClass classId (isUndergarment equipSlot)) equipSlot =
          some id := by
    rw [effectiveClass]
    split
    · next under =>
        apply or_iff_right_of_imp
        intro own
        rwa [← (filed.classes _ _ _ _ own).mp under]
    · next gear =>
        apply or_iff_left_of_imp
        intro shared
        exact absurd ((filed.classes _ _ _ _ shared).mpr rfl) gear
  simp only [inForce]
  constructor
  · rintro ⟨_, same⟩ equipSlot
    exact Option.ext fun id => (same equipSlot id).symm
  · intro same
    exact ⟨apart, fun equipSlot id => by rw [same]⟩

theorem fresh_filed (db : Database) (mainSkill : UInt32 → UInt8) : (fresh db mainSkill).Filed := by
  refine ⟨?_, ?_, ?_⟩
  · intro chara classId equipSlot id present
    cases present
  · intro chara equipSlot classId present
    cases present
  · intro chara equipSlot id _ present
    cases present

theorem fresh_valid (db : Database) (mainSkill : UInt32 → UInt8) : (fresh db mainSkill).Valid := by
  refine ⟨?_, ?_, ?_⟩
  · intro chara classId equipSlot id present
    cases present
  · intro chara classId classId' equipSlot equipSlot' id _ present
    cases present
  · intro chara classId
    exact (fresh_filed db mainSkill).loaded_iff.mpr fun _ => rfl

section Put

variable {op : WardrobeOp} {chara : UInt32} {classId : UInt8} {equipSlot : UInt16} {id : ℕ}

theorem step_on (puts : a.wardrobe.change op = some (.on chara classId equipSlot id)) :
    a.step op =
      { wardrobe := a.wardrobe.equipItem chara classId equipSlot id (isUndergarment equipSlot)
        worn := a.wear chara classId equipSlot (some id)
        written := a.write chara equipSlot
          (some (effectiveClass classId (isUndergarment equipSlot))) } := by
  have tables := perform_of_change (w := a.wardrobe) op
  rw [puts] at tables
  rw [step, puts, tables]

theorem step_off (takes : a.wardrobe.change op = some (.off chara classId equipSlot)) :
    a.step op =
      { wardrobe := a.wardrobe.unequipItem chara classId equipSlot
        worn := a.wear chara classId equipSlot none
        written := a.write chara equipSlot none } := by
  have tables := perform_of_change (w := a.wardrobe) op
  rw [takes] at tables
  rw [step, takes, tables]

theorem effectiveClass_eq {classId classId' : UInt8} {undergarment : Bool} :
    effectiveClass classId' undergarment = effectiveClass classId undergarment ↔
      undergarment = true ∨ classId' = classId := by
  cases undergarment <;> simp [effectiveClass]

theorem Filed.equip (filed : a.Filed)
    (puts : a.wardrobe.change op = some (.on chara classId equipSlot id))
    (proper : isUndergarment equipSlot = true ∨ classId ≠ 0) : (a.step op).Filed := by
  rw [step_on puts]
  refine ⟨?_, ?_, ?_⟩
  · intro chara' classId' equipSlot' id' present
    rw [stored_equipItem] at present
    split at present
    · next here =>
        obtain ⟨_, rfl, rfl⟩ := here
        rw [effectiveClass]
        split
        · next under => exact iff_of_true under rfl
        · next gear => exact iff_of_false gear (proper.resolve_left gear)
    · exact filed.classes _ _ _ _ present
  · intro chara' equipSlot' classId' present
    rw [stored_equipItem]
    split
    · rfl
    · next other =>
        dsimp only [write] at present
        split at present
        · next here => exact absurd ⟨here.1, (Option.some.inj present).symm, here.2⟩ other
        · exact filed.kept _ _ _ present
  · intro chara' equipSlot' id' under present
    rw [stored_equipItem] at present
    dsimp only [write]
    split
    · next here => rw [← here.2, under, effectiveClass, if_pos rfl]
    · next other =>
        rw [if_neg fun here => other ⟨here.1, here.2.2⟩] at present
        exact filed.shared _ _ _ under present

theorem Filed.unequip (filed : a.Filed)
    (takes : a.wardrobe.change op = some (.off chara classId equipSlot))
    (fits : ∀ classId', a.written chara equipSlot = some classId' → classId' = classId) :
    (a.step op).Filed := by
  rw [step_off takes]
  refine ⟨?_, ?_, ?_⟩
  · intro chara' classId' equipSlot' id' present
    rw [stored_unequipItem] at present
    split at present
    · cases present
    · exact filed.classes _ _ _ _ present
  · intro chara' equipSlot' classId' present
    dsimp only [write] at present
    split at present
    · cases present
    · next other =>
        rw [stored_unequipItem, if_neg fun here => other ⟨here.1, here.2.2⟩]
        exact filed.kept _ _ _ present
  · intro chara' equipSlot' id' under present
    rw [stored_unequipItem] at present
    split at present
    · cases present
    · next other =>
        have before := filed.shared _ _ _ under present
        dsimp only [write]
        split
        · next here =>
            obtain ⟨rfl, rfl⟩ := here
            exact absurd ⟨rfl, fits 0 before, rfl⟩ other
        · exact before

theorem Valid.equip_iff (filed : a.Filed) (valid : a.Valid)
    (puts : a.wardrobe.change op = some (.on chara classId equipSlot id)) :
    (a.step op).Valid ↔ a.Fits op := by
  have after (chara' : UInt32) (classId' : UInt8) (equipSlot' : UInt16) :
      (a.step op).wardrobe.stored chara' classId' equipSlot' =
        if chara' = chara ∧
            classId' = effectiveClass classId (isUndergarment equipSlot) ∧
            equipSlot' = equipSlot then some id
        else a.wardrobe.stored chara' classId' equipSlot' := by
    rw [step_on puts]
    exact stored_equipItem
  have new := (after chara (effectiveClass classId (isUndergarment equipSlot)) equipSlot).trans
    (if_pos ⟨rfl, rfl, rfl⟩)
  have worn (chara' : UInt32) (classId' : UInt8) (equipSlot' : UInt16) :
      (a.step op).worn chara' classId' equipSlot' =
        if chara' = chara ∧ equipSlot' = equipSlot ∧
            (isUndergarment equipSlot = true ∨ classId' = classId) then some id
        else a.worn chara' classId' equipSlot' := by
    rw [step_on puts]
    rfl
  have bags (chara' : UInt32) (id' : ℕ) :
      (a.step op).wardrobe.InBag chara' id' ↔ a.wardrobe.InBag chara' id' := by
    rw [step_on puts]
    exact Iff.rfl
  simp only [Fits, puts]
  constructor
  · intro valid'
    refine ⟨(bags _ _).mp (valid'.owned _ _ _ _ new), ?_, ?_⟩
    · by_contra improper
      obtain ⟨gear, zero⟩ := not_or.mp improper
      rw [not_not] at zero
      subst zero
      rw [Bool.not_eq_true] at gear
      obtain ⟨single, same⟩ := lists_iff.mp (valid'.loaded chara 1)
      have shared : (a.step op).wardrobe.stored chara 0 equipSlot = some id := by
        rwa [gear] at new
      have seen := (same equipSlot id).mp (Or.inr shared)
      rw [worn, if_neg (by simp [gear]), filed.loaded_iff.mp (valid.loaded chara 1), gear] at seen
      have own : (a.step op).wardrobe.stored chara 1 equipSlot = some id := by
        rw [after, if_neg (by simp [gear, effectiveClass])]
        exact seen
      obtain none | none := single equipSlot (by decide)
      · exact absurd own (by simp [none])
      · exact absurd shared (by simp [none])
    · intro classId' equipSlot' there together
      by_contra apart
      have still : (a.step op).wardrobe.stored chara classId' equipSlot' = some id := by
        rw [after, if_neg fun here => apart here.2.2]
        exact there
      exact apart (valid'.apart _ _ _ _ _ _ together new still).symm
  · rintro ⟨inside, proper, free⟩
    refine ⟨?_, ?_, ?_⟩
    · intro chara' classId' equipSlot' id' present
      rw [after] at present
      rw [bags]
      split at present
      · next here =>
          cases present
          exact here.1 ▸ inside
      · exact valid.owned _ _ _ _ present
    · intro chara' classId' classId'' equipSlot' equipSlot'' id' together first second
      rw [after] at first second
      split at first
      · next here =>
          cases first
          obtain ⟨rfl, rfl, rfl⟩ := here
          split at second
          · next there => exact there.2.2.symm
          · exact (free _ _ second together).symm
      · split at second
        · next there =>
            cases second
            obtain ⟨rfl, rfl, rfl⟩ := there
            refine free _ _ first ?_
            exact together.imp Eq.symm Or.symm
        · exact valid.apart _ _ _ _ _ _ together first second
    · intro chara' classId'
      rw [(filed.equip puts proper).loaded_iff]
      intro equipSlot'
      rw [worn, after]
      have before := filed.loaded_iff.mp (valid.loaded chara' classId') equipSlot'
      by_cases here : equipSlot' = equipSlot
      · subst here
        simp only [effectiveClass_eq, true_and, and_true, before]
      · rw [if_neg fun same => here same.2.1, if_neg fun same => here same.2.2]
        exact before

theorem Valid.unequip_iff (filed : a.Filed) (valid : a.Valid)
    (takes : a.wardrobe.change op = some (.off chara classId equipSlot)) :
    (a.step op).Valid ∧ a.Removes op ↔ a.Fits op := by
  have after (chara' : UInt32) (classId' : UInt8) (equipSlot' : UInt16) :
      (a.step op).wardrobe.stored chara' classId' equipSlot' =
        if chara' = chara ∧ classId' = classId ∧ equipSlot' = equipSlot then none
        else a.wardrobe.stored chara' classId' equipSlot' := by
    rw [step_off takes]
    exact stored_unequipItem
  have worn (chara' : UInt32) (classId' : UInt8) (equipSlot' : UInt16) :
      (a.step op).worn chara' classId' equipSlot' =
        if chara' = chara ∧ equipSlot' = equipSlot ∧
            (isUndergarment equipSlot = true ∨ classId' = classId) then none
        else a.worn chara' classId' equipSlot' := by
    rw [step_off takes]
    rfl
  have before {chara' : UInt32} {classId' : UInt8} {equipSlot' : UInt16} {id' : ℕ}
      (present : (a.step op).wardrobe.stored chara' classId' equipSlot' = some id') :
      a.wardrobe.stored chara' classId' equipSlot' = some id' := by
    rw [after] at present
    split at present
    · cases present
    · exact present
  simp only [Fits, Removes, takes]
  constructor
  · rintro ⟨_, removed⟩ classId' wrote
    by_contra other
    have there := filed.kept _ _ _ wrote
    have gone := removed classId' wrote
    rw [after, if_neg fun here => other here.2.1] at gone
    rw [gone] at there
    cases there
  · intro fits
    refine ⟨⟨?_, ?_, ?_⟩, ?_⟩
    · intro chara' classId' equipSlot' id' present
      have inside := valid.owned _ _ _ _ (before present)
      rw [step_off takes]
      exact inside
    · intro chara' classId' classId'' equipSlot' equipSlot'' id' together first second
      exact valid.apart _ _ _ _ _ _ together (before first) (before second)
    · intro chara' classId'
      rw [(filed.unequip takes fits).loaded_iff]
      intro equipSlot'
      rw [worn, after]
      have same := filed.loaded_iff.mp (valid.loaded chara' classId') equipSlot'
      by_cases here : chara' = chara ∧ equipSlot' = equipSlot
      · obtain ⟨rfl, rfl⟩ := here
        simp only [true_and, and_true]
        cases under : isUndergarment equipSlot' with
        | false =>
            simp only [under, effectiveClass] at same
            simp [effectiveClass, same]
        | true =>
            rw [effectiveClass, if_pos rfl, if_pos (Or.inl rfl)]
            split
            · rfl
            · next elsewhere =>
                cases there : a.wardrobe.stored chara' 0 equipSlot' with
                | none => rfl
                | some id' => exact absurd (fits 0 (filed.shared _ _ _ under there)) elsewhere
      · rw [if_neg fun same => here ⟨same.1, same.2.1⟩, if_neg fun same => here ⟨same.1, same.2.2⟩]
        exact same
    · intro classId' wrote
      rw [after, if_pos ⟨rfl, fits _ wrote, rfl⟩]

end Put

theorem Valid.other_iff {op : WardrobeOp} (valid : a.Valid) (still : a.wardrobe.change op = none) :
    (a.step op).Valid ↔ a.Fits op := by
  have tables := perform_of_change (w := a.wardrobe) op
  rw [still] at tables
  have after : a.step op = { a with wardrobe := a.wardrobe.perform op } := by
    rw [step, still]
  have stored (chara : UInt32) (classId : UInt8) (equipSlot : UInt16) :
      (a.step op).wardrobe.stored chara classId equipSlot =
        a.wardrobe.stored chara classId equipSlot := by
    rw [after, Wardrobe.stored, Wardrobe.stored, tables]
  have only_owned : (a.step op).Valid ↔ ∀ chara classId equipSlot id,
      a.wardrobe.stored chara classId equipSlot = some id →
        (a.wardrobe.perform op).InBag chara id := by
    constructor
    · intro valid' chara classId equipSlot id present
      have inside := valid'.owned chara classId equipSlot id (by rw [stored, present])
      rwa [after] at inside
    · intro owned
      refine ⟨?_, ?_, ?_⟩
      · intro chara classId equipSlot id present
        rw [stored] at present
        rw [after]
        exact owned _ _ _ _ present
      · intro chara classId classId' equipSlot equipSlot' id
        rw [stored, stored]
        exact valid.apart chara classId classId' equipSlot equipSlot' id
      · intro chara classId
        have loaded := valid.loaded chara classId
        rw [after, getEquipment, tables]
        exact loaded
  rw [only_owned]
  unfold Fits
  rw [still]
  have free (harmless : ∀ chara gone, op ≠ .event (.dbRemove chara gone)) :
      ∀ chara classId equipSlot id, a.wardrobe.stored chara classId equipSlot = some id →
        (a.wardrobe.perform op).InBag chara id := by
    intro chara classId equipSlot id present
    apply inBag_perform op (valid.owned _ _ _ _ present)
    intro gone removes
    exact absurd removes (harmless _ _)
  cases op with
  | event event =>
      cases event with
      | dbRemove chara gone =>
          constructor
          · intro owned classId equipSlot named
            exact not_inBag_removed gone (owned _ _ _ _ named)
          · intro unnamed chara' classId equipSlot id present
            apply inBag_perform _ (valid.owned _ _ _ _ present)
            intro gone' removes same
            cases removes
            exact unnamed classId equipSlot (same ▸ present)
      | _ => exact iff_of_true (free (by simp)) trivial
  | _ => exact iff_of_true (free (by simp)) trivial

theorem Valid.loadedEquipment (valid : a.Valid) (chara : UInt32) :
    Lists (a.wardrobe.loadedEquipment chara) (a.worn chara (a.wardrobe.mainSkill chara)) :=
  valid.loaded chara _

/-- A run keeps the rows valid and its unequips remove what was equipped exactly if each equip is
of an item that the character has and wears in no other slot of the class, under a class of its
own, each unequip is made in the class that the slot was equipped under, and nothing that is
still stored as worn is removed. -/
theorem equipment_valid_iff (db : Database) (mainSkill : UInt32 → UInt8) (ops : List WardrobeOp) :
    Always (fun a op => some (step a op)) Valid (fresh db mainSkill) ops ∧
        EachStep (fun a op => some (step a op)) Removes (fresh db mainSkill) ops ↔
      EachStep (fun a op => some (step a op)) Fits (fresh db mainSkill) ops := by
  apply always_and_eachStep_iff (I := Filed) _ _ (fresh_filed db mainSkill)
    (fresh_valid db mainSkill)
  · intro a op a' filed valid taken
    cases taken
    cases does : a.wardrobe.change op with
    | none =>
        have removes : a.Removes op := by
          unfold Removes
          rw [does]
          trivial
        rw [and_iff_left removes]
        exact valid.other_iff does
    | some change =>
        cases change with
        | on chara classId equipSlot id =>
            have removes : a.Removes op := by
              unfold Removes
              rw [does]
              trivial
            rw [and_iff_left removes]
            exact valid.equip_iff filed does
        | off chara classId equipSlot => exact valid.unequip_iff filed does
  · intro a op a' filed valid fits taken
    cases taken
    cases does : a.wardrobe.change op with
    | none =>
        have tables := perform_of_change (w := a.wardrobe) op
        rw [does] at tables
        have after : a.step op = { a with wardrobe := a.wardrobe.perform op } := by
          rw [step, does]
        have stored (chara : UInt32) (classId : UInt8) (equipSlot : UInt16) :
            (a.step op).wardrobe.stored chara classId equipSlot =
              a.wardrobe.stored chara classId equipSlot := by
          rw [after, Wardrobe.stored, Wardrobe.stored, tables]
        have written : (a.step op).written = a.written := by rw [after]
        refine ⟨?_, ?_, ?_⟩
        · simp only [stored]
          exact filed.classes
        · simp only [stored, written]
          exact filed.kept
        · simp only [stored, written]
          exact filed.shared
    | some change =>
        cases change with
        | on chara classId equipSlot id =>
            simp only [Fits, does] at fits
            exact filed.equip does fits.2.1
        | off chara classId equipSlot =>
            simp only [Fits, does] at fits
            exact filed.unequip does fits

/-- A character of class 3 with one item. -/
def undershirt : Database :=
  { items := fun _ => none, lastId := 7, inventory := [⟨1, 0, 7, 0⟩], retainers := [],
    bazaar := [], retainerInventory := [] }

def changeUndershirt : List WardrobeOp :=
  [.login 1, .event (.dbEquip 1 SLOT_UNDERSHIRT 7), .event (.dbUnequip 1 SLOT_UNDERSHIRT)]

theorem undershirt_stays :
    ¬ (Always (fun a op => some (step a op)) Valid (fresh undershirt fun _ => 3)
          changeUndershirt ∧
        EachStep (fun a op => some (step a op)) Removes (fresh undershirt fun _ => 3)
          changeUndershirt) ∧
      (changeUndershirt.foldl step (fresh undershirt fun _ => 3)).worn 1 3 SLOT_UNDERSHIRT =
        none ∧
      (changeUndershirt.foldl step (fresh undershirt fun _ => 3)).wardrobe.stored 1 0
        SLOT_UNDERSHIRT = some 7 := by
  refine ⟨?_, by decide, by decide⟩
  rintro ⟨_, removes⟩
  have last := EachStep.reached
    [WardrobeOp.login 1, WardrobeOp.event (.dbEquip 1 SLOT_UNDERSHIRT 7)] removes rfl rfl
  have gone := last 0 (by decide)
  revert gone
  decide

end Attire
end Garlemald.Storage
