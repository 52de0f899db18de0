import Garlemald.Inventory.Rows
import Garlemald.Inventory.Representation

/-!
The events of the packages as a journal of their contents. Replayed on rows that record the
packages to begin with, they leave rows that record the packages after every run: the
items with a unique id of the packages that are not temporary, each with its slot and its
quantity. A clear writes no event, and an item that exists must come alone.
-/

namespace Garlemald.Inventory
open Library ItemPackage

def Ledger.rows (start : Rows) (l : Ledger) : Rows := start.replay l.outbox

/-- A call that was made on `origin` is underway, and the rows have kept up with it. The rows
of a temporary package do not change. -/
structure KeptUp (start : Rows) (origin l : Ledger) : Prop where
  loose : l.package.Loose
  code_eq : l.package.code = origin.package.code
  temporary_eq : l.package.isTemporary = origin.package.isTemporary
  unchanged : origin.package.isTemporary = true → l.rows start = origin.rows start
  records : origin.package.isTemporary = false → Records l.package (l.rows start)
  elsewhere : origin.package.isTemporary = false →
    Elsewhere origin.package.code (origin.rows start) (l.rows start)

namespace KeptUp

variable {start : Rows} {origin l : Ledger}

theorem refl (loose : l.package.Loose)
    (records : l.package.isTemporary = false → Records l.package (l.rows start)) :
    KeptUp start l l :=
  ⟨loose, rfl, rfl, fun _ => rfl, records, fun _ => .refl _ _⟩

theorem pushDb (keptUp : KeptUp start origin l) {p : ItemPackage} {e : InventoryEvent}
    (loose : p.Loose) (code : p.code = l.package.code)
    (temporary : p.isTemporary = l.package.isTemporary)
    (written : l.package.isTemporary = false → Records l.package (l.rows start) →
      Records p ((l.rows start).receive e) ∧
        Elsewhere l.package.code (l.rows start) ((l.rows start).receive e)) :
    KeptUp start origin (Ledger.pushDb { l with package := p } e) := by
  have package_eq : (Ledger.pushDb { l with package := p } e).package = p :=
    Ledger.pushDb_package _ e
  cases kind : origin.package.isTemporary with
  | true =>
      have own : p.isTemporary = true := temporary.trans (keptUp.temporary_eq.trans kind)
      have outbox_eq : (Ledger.pushDb { l with package := p } e).outbox = l.outbox := by
        rw [Ledger.pushDb, if_pos own]
      refine ⟨?_, ?_, ?_, fun _ => ?_, fun impossible => ?_, fun impossible => ?_⟩
      · rw [package_eq]
        exact loose
      · rw [package_eq, code, keptUp.code_eq]
      · rw [package_eq, own, kind]
      · rw [Ledger.rows, outbox_eq]
        exact keptUp.unchanged kind
      · rw [kind] at impossible
        contradiction
      · rw [kind] at impossible
        contradiction
  | false =>
      have own : p.isTemporary = false := temporary.trans (keptUp.temporary_eq.trans kind)
      have rows_eq : (Ledger.pushDb { l with package := p } e).rows start =
          (l.rows start).receive e := by
        rw [Ledger.rows, Ledger.pushDb, if_neg (by simp [own])]
        exact Rows.replay_append start l.outbox [e]
      obtain ⟨records, elsewhere⟩ := written (keptUp.temporary_eq.trans kind) (keptUp.records kind)
      rw [keptUp.code_eq] at elsewhere
      refine ⟨?_, ?_, ?_, fun impossible => ?_, fun _ => ?_, fun _ => ?_⟩
      · rw [package_eq]
        exact loose
      · rw [package_eq, code, keptUp.code_eq]
      · rw [package_eq, own, kind]
      · rw [kind] at impossible
        contradiction
      · rw [package_eq, rows_eq]
        exact records
      · rw [rows_eq]
        exact (keptUp.elsewhere kind).trans elsewhere

theorem same (keptUp : KeptUp start origin l) {l' : Ledger} (slots : SameSlots l.package l'.package)
    (temporary : l'.package.isTemporary = l.package.isTemporary)
    (rows_eq : l'.rows start = l.rows start) : KeptUp start origin l' := by
  refine ⟨slots.loose keptUp.loose, slots.code_eq.trans keptUp.code_eq,
    temporary.trans keptUp.temporary_eq, fun kind => ?_, fun kind => ?_, fun kind => ?_⟩
  · rw [rows_eq]
    exact keptUp.unchanged kind
  · rw [rows_eq]
    exact (keptUp.records kind).congr slots.entryAt_eq slots.code_eq
  · rw [rows_eq]
    exact keptUp.elsewhere kind

end KeptUp

/-! ### Packets -/

theorem isDb_updatePackets (p : ItemPackage) : ∀ e ∈ p.updatePackets, e.isDb = false := by
  intro e member
  simp only [updatePackets, List.mem_append, List.mem_singleton] at member
  rcases member with ((rfl | items) | slots) | rfl
  · rfl
  · split at items
    · contradiction
    · simp only [List.mem_cons, List.not_mem_nil, or_false] at items
      rcases items with rfl | rfl
      · rfl
      · rfl
  · split at slots
    · contradiction
    · rw [List.mem_singleton.mp slots]
      rfl
  · rfl

theorem isDb_sendFull (p : ItemPackage) : ∀ e ∈ p.sendFull, e.isDb = false := by
  intro e member
  simp only [sendFull, List.mem_append, List.mem_singleton] at member
  rcases member with (rfl | items) | rfl
  · rfl
  · split at items
    · contradiction
    · simp only [List.mem_cons, List.not_mem_nil, or_false] at items
      rcases items with rfl | rfl
      · rfl
      · rfl
  · rfl

section Packets

variable {start : Rows} {origin : Ledger}

theorem rows_push (l : Ledger) {e : InventoryEvent} (packet : e.isDb = false) :
    (l.push e).rows start = l.rows start := by
  rw [Ledger.rows, Ledger.push, Rows.replay_append, Rows.replay_packets _ fun e' member => by
    rw [List.mem_singleton.mp member, packet]]
  rfl

theorem rows_sendUpdate (l : Ledger) : l.sendUpdate.rows start = l.rows start := by
  rw [Ledger.sendUpdate]
  split
  · rfl
  · simp only [Ledger.rows, Rows.replay_append]
    exact Rows.replay_packets _ (isDb_updatePackets l.package)

theorem rows_bracketedSendUpdate (l : Ledger) :
    l.bracketedSendUpdate.rows start = l.rows start := by
  rw [Ledger.bracketedSendUpdate]
  split
  · rfl
  · dsimp only
    rw [rows_push _ rfl, rows_sendUpdate, rows_push _ rfl]

theorem temporary_sendUpdate (l : Ledger) :
    l.sendUpdate.package.isTemporary = l.package.isTemporary := by
  rw [Ledger.sendUpdate]
  split
  · rfl
  · rfl

theorem KeptUp.sent {l : Ledger} (keptUp : KeptUp start origin l) :
    KeptUp start origin l.bracketedSendUpdate := by
  apply keptUp.same (sameSlots_bracketedSendUpdate l) _ (rows_bracketedSendUpdate l)
  rw [Ledger.bracketedSendUpdate]
  split
  · rfl
  · exact temporary_sendUpdate (l.push _)

theorem KeptUp.updates {l : Ledger} (keptUp : KeptUp start origin l) (call : UpdateCall) :
    KeptUp start origin (l.callUpdates call) := by
  have slots := sameSlots_callUpdates l call
  cases call with
  | markDirtySlot slot => exact keptUp.same slots rfl rfl
  | markDirty item =>
      apply keptUp.same slots _ rfl
      simp only [Ledger.callUpdates, markDirty]
      split
      · rfl
      · split
        · rfl
        · rfl
  | sendUpdate => exact keptUp.same slots (temporary_sendUpdate l) (rows_sendUpdate l)
  | sendFull =>
      apply keptUp.same slots rfl
      simp only [Ledger.callUpdates, Ledger.rows, Rows.replay_append]
      exact Rows.replay_packets _ (isDb_sendFull l.package)
  | startSendUpdate => exact keptUp.same slots rfl rfl
  | doneSendUpdate =>
      apply keptUp.same slots
      · exact temporary_sendUpdate _
      · exact rows_sendUpdate _

end Packets

/-! ### Calls on slots -/

section Calls

variable {start : Rows} {origin : Ledger}

variable {l : Ledger} {item : InventoryItem}

theorem keptUp_requantifyAt (keptUp : KeptUp start origin l) {i : Nat}
    (here : l.package.entryAt i = some item) (quantity : Int32) :
    KeptUp start origin (l.requantifyAt i item quantity) := by
  have edit : Edit (fun _ _ => True) (fun _ _ => True) true l.package _ :=
    .requantify i item quantity here trivial
  exact keptUp.pushDb (edit.loose keptUp.loose) rfl rfl fun _ records =>
    records_requantify records keptUp.loose here quantity

theorem keptUp_dropAt (keptUp : KeptUp start origin l) {i : Nat}
    (here : l.package.entryAt i = some item) : KeptUp start origin (l.dropAt i item.uniqueId) :=
  keptUp.pushDb (keptUp.loose.put_none i) rfl rfl fun _ records =>
    records_drop records keptUp.loose here

theorem keptUp_spawn (keptUp : KeptUp start origin l) (item : InventoryItem)
    (room : l.package.endOfListIndex < l.package.capacity.toNat)
    (slot_eq : item.slot = UInt16.ofNat l.package.endOfListIndex)
    (package_eq : item.itemPackage = l.package.code)
    (free : l.package.isTemporary = false → item.uniqueId ≠ 0 → l.rows start item.uniqueId = none) :
    KeptUp start origin (Ledger.pushDb
      { l with package := { l.package.put l.package.endOfListIndex (some item) with
          endOfListIndex := l.package.endOfListIndex + 1 } }
      (.dbAdd l.package.ownerActorId item l.package.code item.slot)) := by
  have edit : Edit (fun _ _ => True) (fun _ _ => True) true l.package _ :=
    .spawn item room slot_eq package_eq trivial trivial
  have loose := edit.loose keptUp.loose
  have inside : l.package.endOfListIndex < l.package.list.length := by
    rw [keptUp.loose.length_list]
    exact room
  have empty := keptUp.loose.behind l.package.endOfListIndex (Nat.le_refl _)
  apply keptUp.pushDb loose rfl rfl
  intro kind records
  have written := records_spawn records keptUp.loose inside empty item (free kind)
  rw [Rows.receive, slot_eq]
  exact ⟨written.1.congr (fun _ => rfl) rfl, written.2⟩

def realigned (p : ItemPackage) : Ledger.Realigning :=
  (List.range p.endOfListIndex).foldl Ledger.realignAt { package := p }

theorem realign_eq (l : Ledger) :
    l.realign.package = { (realigned l.package).package with
        endOfListIndex :=
          (realigned l.package).lastNull.getD (realigned l.package).package.endOfListIndex } ∧
      l.realign.outbox = l.outbox ++
        if (realigned l.package).updates ≠ [] ∧ ¬ (realigned l.package).package.isTemporary
        then [.dbPositions (realigned l.package).updates] else [] := by
  rw [Ledger.realign, realigned]
  dsimp only
  split
  · exact ⟨rfl, rfl⟩
  · exact ⟨rfl, (List.append_nil _).symm⟩

theorem keptUp_realign (keptUp : KeptUp start origin l) : KeptUp start origin l.realign := by
  obtain ⟨edits, shape⟩ := realign_edits (Q := fun _ _ => True) (F := fun _ _ => True)
    keptUp.loose
  have code_eq : l.realign.package.code = l.package.code :=
    congrArg (fun header => header.2.2.1) edits.header_eq
  have temporary_eq : l.realign.package.isTemporary = l.package.isTemporary :=
    congrArg (fun header => header.2.2.2.1) edits.header_eq
  obtain ⟨package_eq, outbox_eq⟩ := realign_eq l
  have kind_eq : (realigned l.package).package.isTemporary = origin.package.isTemporary := by
    rw [← keptUp.temporary_eq, ← temporary_eq, package_eq]
  rw [kind_eq] at outbox_eq
  refine ⟨shape.toLoose, code_eq.trans keptUp.code_eq, temporary_eq.trans keptUp.temporary_eq,
    fun kind => ?_, fun kind => ?_, fun kind => ?_⟩
  · rw [if_neg (by simp [kind]), List.append_nil] at outbox_eq
    rw [Ledger.rows, outbox_eq]
    exact keptUp.unchanged kind
  all_goals
    obtain ⟨_, records, elsewhere⟩ := records_realigned keptUp.loose (keptUp.records kind)
      (Nat.le_refl l.package.endOfListIndex)
    have rows_eq : l.realign.rows start =
        (l.rows start).updateItemPositions (realigned l.package).updates := by
      rw [Ledger.rows, outbox_eq, Rows.replay_append]
      split
      · rfl
      · next nothing =>
          have empty : (realigned l.package).updates = [] := by simpa [kind] using nothing
          rw [empty]
          rfl
    rw [rows_eq]
  · rw [package_eq]
    exact records.congr (fun _ => rfl) rfl
  · rw [keptUp.code_eq] at elsewhere
    exact (keptUp.elsewhere kind).trans elsewhere

theorem keptUp_additive : Additive (KeptUp start origin) where
  requantify _ _ _ quantity keptUp here := keptUp_requantifyAt keptUp here quantity
  -- the id of a new stack is 0
  spawn _ _ _ _ keptUp room :=
    keptUp_spawn keptUp _ room rfl rfl fun _ proper => absurd rfl proper
  sent _ keptUp := keptUp.sent

theorem keptUp_addExisting (keptUp : KeptUp start origin l) (catalog : ItemCatalog)
    (free : l.package.isTemporary = false → item.uniqueId ≠ 0 → l.rows start item.uniqueId = none)
    {r : InventoryResult × Ledger} (returns : l.addExisting catalog item = some r) :
    KeptUp start origin r.2 := by
  rw [Ledger.addExisting] at returns
  dsimp only at returns
  split at returns
  · cases returns
    exact keptUp_additive.add keptUp catalog item.itemId item.quantity item.quality
  · split at returns
    · cases returns
      exact keptUp
    · split at returns
      · cases returns
        exact keptUp
      · split at returns
        · contradiction
        · next room =>
            cases returns
            have inside : l.package.endOfListIndex < l.package.capacity.toNat := by
              rw [keptUp.loose.length_list] at room
              omega
            let placed : InventoryItem :=
              { item with itemPackage := l.package.code
                          slot := UInt16.ofNat l.package.endOfListIndex }
            exact (keptUp_spawn keptUp placed inside rfl rfl free).sent

theorem keptUp_takeAt {s : Ledger × Int32} (keptUp : KeptUp start origin s.1) (itemId : UInt32)
    (quality : UInt8) (i : Nat) : KeptUp start origin (Ledger.takeAt itemId quality s i).1 := by
  rw [Ledger.takeAt]
  split
  · exact keptUp
  · split
    · exact keptUp
    · next item here =>
        split
        · exact keptUp
        · split
          · exact keptUp_dropAt keptUp here
          · exact keptUp_requantifyAt keptUp here _

theorem keptUp_take {s : Ledger × Int32} (keptUp : KeptUp start origin s.1) (itemId : UInt32)
    (quality : UInt8) (slots : List Nat) :
    KeptUp start origin (slots.foldl (Ledger.takeAt itemId quality) s).1 := by
  induction slots generalizing s with
  | nil => exact keptUp
  | cons i slots ih => exact ih (keptUp_takeAt keptUp itemId quality i)

theorem keptUp_removeAtSlot (keptUp : KeptUp start origin l) (slot : UInt16) :
    KeptUp start origin (l.removeAtSlot slot) := by
  rw [Ledger.removeAtSlot]
  split
  · exact keptUp
  · cases here : l.package.entryAt slot.toNat with
    | none => exact (keptUp_realign keptUp).sent
    | some item => exact (keptUp_realign (keptUp_dropAt keptUp here)).sent

theorem keptUp_clear (keptUp : KeptUp start origin l) (temporary : l.package.isTemporary = true) :
    KeptUp start origin l.clear := by
  obtain ⟨chain, loose, end_eq, empty⟩ := clear_chain (Q := fun _ _ => True)
    (F := fun _ _ => True) l.package keptUp.loose l.package.endOfListIndex
  rw [Ledger.clear]
  generalize (List.range l.package.endOfListIndex).foldl Ledger.clearAt l.package = cleared
    at chain loose end_eq empty
  have trimmed : Edit (fun _ _ => True) (fun _ _ => True) true cleared
      { cleared with endOfListIndex := 0 } := by
    refine .trim 0 (Nat.zero_le _) fun i _ => ?_
    by_cases below : i < l.package.endOfListIndex
    · exact empty i below
    · exact loose.behind i (end_eq ▸ Nat.le_of_not_lt below)
  have edits : Edits (fun _ _ => True) (fun _ _ => True) true l
      { l with package := { cleared with endOfListIndex := 0 } } :=
    ⟨chain.tail trimmed, [], fun _ member => by contradiction, (List.append_nil _).symm⟩
  have kept := edits.header_eq
  have kind := keptUp.temporary_eq.symm.trans temporary
  apply KeptUp.sent
  refine ⟨trimmed.loose loose, (congrArg (fun header => header.2.2.1) kept).trans keptUp.code_eq,
    (congrArg (fun header => header.2.2.2.1) kept).trans keptUp.temporary_eq,
    fun _ => keptUp.unchanged kind, fun impossible => ?_, fun impossible => ?_⟩
  · rw [kind] at impossible
    contradiction
  · rw [kind] at impossible
    contradiction

def Journaled (start : Rows) (l : Ledger) : SlotCall → Prop
  | .clear => l.package.isTemporary = true
  | .addExisting item => l.package.isTemporary = false → item.uniqueId ≠ 0 →
      l.rows start item.uniqueId = none
  | _ => True

theorem keptUp_callSlots {l l' : Ledger} (keptUp : KeptUp start origin l)
    (catalog : ItemCatalog) {call : SlotCall} (journaled : Journaled start l call)
    (returns : l.callSlots catalog call = some l') : KeptUp start origin l' := by
  cases call with
  | add itemId quantity quality =>
      cases returns
      exact keptUp_additive.add keptUp catalog itemId quantity quality
  | addExisting item =>
      obtain ⟨r, returned, same⟩ := Option.map_eq_some_iff.mp returns
      cases same
      exact keptUp_addExisting keptUp catalog journaled returned
  | remove itemId quantity quality =>
      cases returns
      rw [Ledger.remove]
      split
      · exact keptUp
      · exact (keptUp_realign (keptUp_take (s := (l, quantity)) keptUp itemId quality _)).sent
  | removeItem item =>
      cases returns
      rw [Ledger.removeItem]
      split
      · exact keptUp_removeAtSlot keptUp item.slot
      · exact keptUp
  | removeByUniqueId itemDbId quantity =>
      cases returns
      rw [Ledger.removeByUniqueId]
      split
      · exact keptUp
      · next slot _ =>
          cases here : l.package.entryAt slot with
          | none => exact keptUp
          | some item =>
              dsimp only
              split
              · exact (keptUp_realign (keptUp_dropAt keptUp here)).sent
              · exact (keptUp_realign (keptUp_requantifyAt keptUp here _)).sent
  | removeAtSlot slot =>
      cases returns
      exact keptUp_removeAtSlot keptUp slot
  | removeAtSlotQty slot quantity =>
      cases returns
      rw [Ledger.removeAtSlotQty]
      split
      · exact keptUp
      · cases here : l.package.entryAt slot.toNat with
        | none => exact keptUp
        | some item =>
            dsimp only
            split
            · exact (keptUp_realign (keptUp_dropAt keptUp here)).sent
            · exact (keptUp_requantifyAt keptUp here _).sent
  | clear =>
      cases returns
      exact keptUp_clear keptUp journaled

end Calls

/-! ### Runs -/

namespace ItemPackages

variable {catalog : ItemCatalog} {start : Rows}

/-- The rows are those of the items with a unique id of the packages that are not temporary. -/
def Recorded (inv : ItemPackages) (rows : Rows) : Prop :=
  ∀ id row, id ≠ 0 → (rows id = some row ↔ ∃ code i item,
    (inv.packages code).isTemporary = false ∧ (inv.packages code).entryAt i = some item ∧
      item.uniqueId = id ∧ row = ⟨code, UInt16.ofNat i, item.quantity⟩)

variable {inv : ItemPackages} {item : InventoryItem}

theorem recorded_iff (laid : inv.Laid) {rows : Rows} :
    inv.Recorded rows ↔
      (∀ code, (inv.packages code).isTemporary = false → Records (inv.packages code) rows) ∧
        ∀ id row, id ≠ 0 → rows id = some row →
          (inv.packages row.itemPackage).isTemporary = false := by
  constructor
  · intro recorded
    refine ⟨fun code kind => ⟨fun i item here proper => ?_, fun id row proper found mine => ?_⟩,
      fun id row proper found => ?_⟩
    · rw [rowAt, (laid code).2]
      exact (recorded item.uniqueId _ proper).mpr ⟨code, i, item, kind, here, rfl, rfl⟩
    · obtain ⟨other, i, item, _, here, same, row_eq⟩ := (recorded id row proper).mp found
      have equal : other = code := by
        rw [row_eq, (laid code).2] at mine
        exact mine
      rw [equal] at here
      exact ⟨i, item, here, same⟩
    · obtain ⟨other, i, item, kind, _, _, row_eq⟩ := (recorded id row proper).mp found
      rw [row_eq]
      exact kind
  · intro split id row proper
    obtain ⟨each, kinds⟩ := split
    constructor
    · intro found
      have kind := kinds id row proper found
      obtain ⟨i, item, here, same⟩ := (each _ kind).recorded id row proper found (laid _).2.symm
      have present := (each _ kind).present i item here (same ▸ proper)
      rw [same, found, rowAt, (laid _).2] at present
      exact ⟨row.itemPackage, i, item, kind, here, same, Option.some.inj present⟩
    · intro held
      obtain ⟨code, i, item, kind, here, same, row_eq⟩ := held
      have present := (each code kind).present i item here (same ▸ proper)
      rw [same, rowAt, (laid code).2, ← row_eq] at present
      exact present

def rowsAfter (start : Rows) (inv : ItemPackages) : Rows := start.replay inv.outbox

theorem Recorded.keptUp (laid : inv.Laid) (recorded : inv.Recorded (inv.rowsAfter start))
    (code : UInt16) : KeptUp start (inv.ledger code) (inv.ledger code) := by
  have records := ((recorded_iff laid).mp recorded).1 code
  exact KeptUp.refl (l := inv.ledger code) (laid code).1.toLoose records

theorem Recorded.commit (laid : inv.Laid) (recorded : inv.Recorded (inv.rowsAfter start))
    {code : UInt16} {l : Ledger} (laid' : (inv.commit code l).Laid)
    (keptUp : KeptUp start (inv.ledger code) l) :
    (inv.commit code l).Recorded ((inv.commit code l).rowsAfter start) := by
  obtain ⟨each, kinds⟩ := (recorded_iff laid).mp recorded
  have own : (inv.commit code l).packages code = l.package := by
    rw [packages_commit, if_pos rfl]
  have rest (other : UInt16) (apart : other ≠ code) :
      (inv.commit code l).packages other = inv.packages other := by
    rw [packages_commit, if_neg apart]
  have others (id : UInt64) (row : Row) (proper : id ≠ 0) (apart : row.itemPackage ≠ code) :
      l.rows start id = some row ↔ inv.rowsAfter start id = some row := by
    cases kind : (inv.packages code).isTemporary with
    | true => rw [keptUp.unchanged kind]; rfl
    | false => exact keptUp.elsewhere kind id row proper ((laid code).2.symm ▸ apart)
  refine (recorded_iff laid').mpr ⟨fun other kind => ?_, fun id row proper found => ?_⟩
  · by_cases same : other = code
    · rw [same, own] at kind ⊢
      exact keptUp.records (keptUp.temporary_eq.symm.trans kind)
    · rw [rest other same] at kind ⊢
      have before := each other kind
      constructor
      · intro i item here proper
        have apart : (rowAt (inv.packages other) i item).itemPackage ≠ code := by
          rw [rowAt, (laid other).2]
          exact same
        exact (others item.uniqueId _ proper apart).mpr (before.present i item here proper)
      · intro id row proper found mine
        have apart : row.itemPackage ≠ code := by
          rw [mine, (laid other).2]
          exact same
        exact before.recorded id row proper ((others id row proper apart).mp found) mine
  · by_cases same : row.itemPackage = code
    · rw [same, own, keptUp.temporary_eq]
      cases kind : (inv.packages code).isTemporary with
      | true =>
          have before := keptUp.unchanged kind
          have there := kinds id row proper (by rw [← found]; exact (congrFun before id).symm)
          rw [same, kind] at there
          contradiction
      | false => exact kind
    · rw [rest _ same]
      exact kinds id row proper ((others id row proper same).mp found)

/-- No entry of a recorded package has the item's id, but for one in its own slot. -/
def Alone (inv : ItemPackages) (code slot : UInt16) (item : InventoryItem) : Prop :=
  item.uniqueId ≠ 0 → ∀ other i entry, (inv.packages other).isTemporary = false →
    (inv.packages other).entryAt i = some entry → entry.uniqueId = item.uniqueId →
      other = code ∧ i = slot.toNat

/-- An item that exists comes into a recorded package with an id that none has, or out of its
own slot. A recorded package is not cleared. -/
def Enters (inv : ItemPackages) : InventoryCall → Prop
  | .slots code .clear => (inv.packages code).isTemporary = true
  | .slots code (.addExisting item) => (inv.packages code).isTemporary = false →
      item.uniqueId ≠ 0 → ∀ other, (inv.packages other).isTemporary = false →
        ¬ (inv.packages other).Holds item.uniqueId
  | .moveTo code slot destination => (inv.packages destination).isTemporary = false →
      (inv.packages code).isTemporary = true →
        ∀ item, (inv.packages code).getAtSlot slot = some item → inv.Alone code slot item
  | .moveItem code item destination => (inv.packages destination).isTemporary = false →
      item.itemPackage = code ∧ inv.Alone code item.slot item
  | _ => True

theorem Recorded.absent {rows : Rows} (recorded : inv.Recorded rows)
    {id : UInt64} (proper : id ≠ 0)
    (none_holds : ∀ code, (inv.packages code).isTemporary = false →
      ¬ (inv.packages code).Holds id) : rows id = none := by
  cases found : rows id with
  | none => rfl
  | some row =>
      obtain ⟨code, i, item, kind, here, same, _⟩ := (recorded id row proper).mp found
      exact absurd ⟨i, item, here, same⟩ (none_holds code kind)

theorem Recorded.alone (laid : inv.Laid) {rows : Rows} (recorded : inv.Recorded rows)
    {code slot : UInt16} (kind : (inv.packages code).isTemporary = false)
    (here : (inv.packages code).getAtSlot slot = some item) : inv.Alone code slot item := by
  intro proper other i entry kind' there same
  have each := ((recorded_iff laid).mp recorded).1
  have first := (each code kind).present slot.toNat item here proper
  have second := (each other kind').present i entry there (same ▸ proper)
  rw [same, first, rowAt, rowAt, (laid code).2, (laid other).2] at second
  have equal : code = other := congrArg Row.itemPackage (Option.some.inj second)
  rw [← equal] at there
  exact ⟨equal.symm, (each code kind).distinct (laid code).1.toLoose i slot.toNat entry item there
    here same (same ▸ proper)⟩

theorem Alone.gone (laid : inv.Laid) (recorded : inv.Recorded (inv.rowsAfter start))
    {code slot : UInt16} (alone : inv.Alone code slot item) (proper : item.uniqueId ≠ 0) :
    ∀ other, ((inv.commit code ((inv.ledger code).removeAtSlot slot)).packages
        other).isTemporary = false →
    ¬ (((inv.commit code ((inv.ledger code).removeAtSlot slot)).packages other).Holds
        item.uniqueId) := by
  intro other kind held
  rw [packages_commit] at kind held
  split at held
  · next same =>
      rw [if_pos same] at kind
      have removed := removeAtSlot_spec (Q := fun _ _ => True) (F := Fresh 0) (l := inv.ledger code)
        (laid code).1 slot
      have temporary := (keptUp_removeAtSlot (recorded.keptUp laid code) slot).temporary_eq
      have before : (inv.packages code).Holds item.uniqueId :=
        (holds_of_reworked removed.reworked proper held).resolve_right proper
      obtain ⟨i, entry, here, own⟩ := before
      have recordedAs : (inv.packages code).isTemporary = false := temporary.symm.trans kind
      obtain ⟨_, at_slot⟩ := alone proper code i entry recordedAs here own
      rw [at_slot] at here
      have distinct := (((recorded_iff laid).mp recorded).1 code recordedAs).distinct
        (laid code).1.toLoose
      rw [← own] at held proper
      exact removeAtSlot_forgets (l := inv.ledger code) (laid code).1 distinct here proper held
  · next apart =>
      rw [if_neg apart] at kind
      obtain ⟨i, entry, here, own⟩ := held
      exact apart (alone proper other i entry kind here own).1

theorem Recorded.slots (laid : inv.Laid) (recorded : inv.Recorded (inv.rowsAfter start))
    (code : UInt16) {call : SlotCall} {l : Ledger}
    (journaled : Journaled start (inv.ledger code) call)
    (returns : (inv.ledger code).callSlots catalog call = some l) :
    (inv.commit code l).Recorded ((inv.commit code l).rowsAfter start) :=
  recorded.commit laid (laid.callSlots catalog code call returns)
    (keptUp_callSlots (recorded.keptUp laid code) catalog journaled returns)

theorem Recorded.moved (laid : inv.Laid)
    (recorded : inv.Recorded (inv.rowsAfter start)) (code destination : UInt16)
    (removal : SlotCall) {first second : Ledger}
    (journaled : Journaled start (inv.ledger code) removal)
    (removes : (inv.ledger code).callSlots catalog removal = some first)
    (absent : ((inv.commit code first).packages destination).isTemporary = false →
      item.uniqueId ≠ 0 → ∀ other, ((inv.commit code first).packages other).isTemporary = false →
        ¬ ((inv.commit code first).packages other).Holds item.uniqueId)
    (returns : ((inv.commit code first).ledger destination).callSlots catalog
      (.addExisting item) = some second) :
    ((inv.commit code first).commit destination second).Recorded
      (((inv.commit code first).commit destination second).rowsAfter start) := by
  have recorded' := recorded.slots laid code journaled removes
  refine recorded'.slots (laid.callSlots catalog code removal removes) destination ?_ returns
  intro kind proper
  exact recorded'.absent proper (absent kind proper)

theorem Recorded.step {inv inv' : ItemPackages} {call : InventoryCall} (laid : inv.Laid)
    (recorded : inv.Recorded (inv.rowsAfter start)) (enters : inv.Enters call)
    (taken : inv.step catalog call = some inv') : inv'.Recorded (inv'.rowsAfter start) := by
  cases call with
  | slots code call =>
      obtain ⟨l, returns, same⟩ := Option.map_eq_some_iff.mp taken
      cases same
      refine recorded.slots laid code ?_ returns
      cases call with
      | addExisting item =>
          intro kind proper
          exact recorded.absent proper (enters kind proper)
      | clear => exact enters
      | _ => trivial
  | updates code call =>
      have laid' := laid.step taken
      cases taken
      exact recorded.commit laid laid' ((recorded.keptUp laid code).updates call)
  | moveTo code slot destination =>
      obtain ⟨apart, stays | ⟨item, l, here, -, added, moved⟩⟩ := step_moveTo taken
      · rw [stays.1]
        exact recorded
      · rw [moved]
        refine recorded.moved laid code destination (.removeAtSlot slot) trivial
          rfl (fun kind proper => ?_) added
        rw [packages_commit, if_neg (Ne.symm apart)] at kind
        have alone : inv.Alone code slot item := by
          cases kind' : (inv.packages code).isTemporary with
          | true => exact enters kind kind' item here
          | false => exact recorded.alone laid kind' here
        exact alone.gone laid recorded proper
  | moveItem code item destination =>
      obtain ⟨apart, stays | ⟨l, -, added, moved⟩⟩ := step_moveItem taken
      · rw [stays.1]
        exact recorded
      · rw [moved]
        refine recorded.moved laid code destination (.removeItem item) trivial
          rfl (fun kind proper => ?_) added
        rw [packages_commit, if_neg (Ne.symm apart)] at kind
        obtain ⟨own, alone⟩ := enters kind
        have removes : (inv.ledger code).removeItem item =
            (inv.ledger code).removeAtSlot item.slot := by
          rw [Ledger.removeItem]
          exact if_pos (own.trans (laid code).2.symm)
        rw [removes]
        exact alone.gone laid recorded proper

/-- In every run in which existing items come alone, the events of the packages take rows
that record the loaded packages to rows that record the packages reached. -/
theorem journal_kept (catalog : ItemCatalog) (ownerActorId : UInt32) (capacity : UInt16 → UInt16)
    (isTemporary : UInt16 → Bool) (stored : UInt16 → List InventoryItem) {start : Rows}
    (recorded : (load ownerActorId capacity isTemporary stored).Recorded start)
    {calls : List InventoryCall}
    (enters : EachStep (ItemPackages.step catalog) Enters
      (load ownerActorId capacity isTemporary stored) calls) :
    Always (ItemPackages.step catalog) (fun inv => inv.Recorded (start.replay inv.outbox))
      (load ownerActorId capacity isTemporary stored) calls := by
  have both : Always (ItemPackages.step catalog)
      (fun inv => inv.Laid ∧ inv.Recorded (inv.rowsAfter start))
      (load ownerActorId capacity isTemporary stored) calls := by
    apply always_of_eachStep _ ⟨laid_load ownerActorId capacity isTemporary stored, recorded⟩ enters
    intro inv call inv' before enters taken
    exact ⟨before.1.step taken, before.2.step before.1 enters taken⟩
  exact both.mono fun _ held => held.2

def bag (code : UInt16) : List InventoryItem :=
  if code = pkgNormal then [{ uniqueId := 7, itemId := 42, quantity := 50, quality := 1 }] else []

def bagRows : Rows := Function.update (fun _ => none) 7 (some ⟨pkgNormal, 0, 50⟩)

theorem recorded_bag : (load 1 (fun _ => 10) (fun _ => false) bag).Recorded bagRows := by
  have entry (code : UInt16) (i : Nat) :
      ((load 1 (fun _ => 10) (fun _ => false) bag).packages code).entryAt i =
        ((bag code).take 10)[i]?.map (placed code i) :=
    entryAt_init 1 10 code false (bag code) i
  intro id row proper
  constructor
  · intro found
    have known : id = 7 := by
      by_contra other
      rw [bagRows, Function.update_of_ne other] at found
      contradiction
    rw [known, bagRows, Function.update_self] at found
    cases found
    exact ⟨pkgNormal, 0, _, rfl, entry pkgNormal 0, known.symm, rfl⟩
  · intro held
    obtain ⟨code, i, item, _, here, same, row_eq⟩ := held
    rw [entry, bag] at here
    split at here
    · next normal =>
        cases i with
        | zero =>
            cases here
            rw [row_eq, normal, ← same]
            rfl
        | succ i => contradiction
    · contradiction

theorem journal_kept_bag :
    Always (ItemPackages.step potions) (fun inv => inv.Recorded (bagRows.replay inv.outbox))
      (load 1 (fun _ => 10) (fun _ => false) bag)
      [.moveTo pkgNormal 0 pkgBazaar, .slots pkgBazaar (.removeAtSlotQty 0 20)] := by
  apply journal_kept potions 1 (fun _ => 10) (fun _ => false) bag recorded_bag
  intro inv taken
  refine ⟨fun _ temporary => ?_, fun inv' taken' => ⟨trivial, trivial⟩⟩
  contradiction

def FullyRecorded (inv : ItemPackages) (rows : Rows) : Prop :=
  ∀ id row, rows id = some row ↔ ∃ code i item, (inv.packages code).entryAt i = some item ∧
    item.uniqueId = id ∧ row = ⟨code, UInt16.ofNat i, item.quantity⟩

/-- From empty packages and no rows, the calls lead to rows that do not record all of the
packages. -/
def Diverges (isTemporary : Bool) (calls : List InventoryCall) : Prop :=
  ∃ inv, run (ItemPackages.step potions)
      (load 1 (fun _ => 10) (fun _ => isTemporary) fun _ => []) calls = some inv ∧
    ¬ inv.FullyRecorded (Rows.replay (fun _ => none) inv.outbox)

theorem fullyRecorded_empty (isTemporary : Bool) :
    (load 1 (fun _ => 10) (fun _ => isTemporary) fun _ => []).FullyRecorded fun _ => none := by
  intro id row
  constructor
  · intro impossible
    contradiction
  · intro held
    obtain ⟨code, i, item, here, _⟩ := held
    rw [load, entryAt_init] at here
    contradiction

theorem diverges_of_entry {isTemporary : Bool} {calls : List InventoryCall} (code : UInt16)
    (i : Nat)
    (facts : ((run (ItemPackages.step potions)
        (load 1 (fun _ => 10) (fun _ => isTemporary) fun _ => []) calls).bind fun inv =>
      ((inv.packages code).entryAt i).map fun item => decide
        (Rows.replay (fun _ => none) inv.outbox item.uniqueId =
          some ⟨code, UInt16.ofNat i, item.quantity⟩)) = some false) :
    Diverges isTemporary calls := by
  obtain ⟨inv, reached, seen⟩ := Option.bind_eq_some_iff.mp facts
  obtain ⟨item, here, missed⟩ := Option.map_eq_some_iff.mp seen
  refine ⟨inv, reached, fun recorded => ?_⟩
  have row := (recorded item.uniqueId ⟨code, UInt16.ofNat i, item.quantity⟩).mpr
    ⟨code, i, item, here, rfl, rfl⟩
  exact absurd row (of_decide_eq_false missed)

/-- Two new stacks share the id 0, two items may share an id of their own, a temporary package
has no rows, and the rows of a cleared package stay. -/
theorem fullyRecorded_fails : (∀ isTemporary,
      (load 1 (fun _ => 10) (fun _ => isTemporary) fun _ => []).FullyRecorded fun _ => none) ∧
    Diverges false [.slots pkgNormal (.add 42 150 1)] ∧
    Diverges true [.slots pkgNormal (.add 42 1 1)] ∧
    Diverges false [.slots pkgBazaar (.addExisting { uniqueId := 7, itemId := 42, quantity := 5 }),
      .slots pkgBazaar (.addExisting { uniqueId := 7, itemId := 42, quantity := 5 })] ∧
    Diverges false [.slots pkgBazaar (.addExisting { uniqueId := 7, itemId := 42, quantity := 5 }),
      .slots pkgBazaar .clear] := by
  refine ⟨fullyRecorded_empty, diverges_of_entry pkgNormal 1 (by decide),
    diverges_of_entry pkgNormal 0 (by decide), diverges_of_entry pkgBazaar 1 (by decide), ?_⟩
  have facts : ((run (ItemPackages.step potions)
      (load 1 (fun _ => 10) (fun _ => false) fun _ => [])
      [.slots pkgBazaar (.addExisting { uniqueId := 7, itemId := 42, quantity := 5 }),
        .slots pkgBazaar .clear]).map fun inv =>
      (Rows.replay (fun _ => none) inv.outbox 7, (inv.packages pkgBazaar).list)) =
      some (some ⟨pkgBazaar, 0, 5⟩, List.replicate 10 none) := by
    decide
  obtain ⟨inv, reached, seen⟩ := Option.map_eq_some_iff.mp facts
  obtain ⟨row, empty⟩ := Prod.mk.inj seen
  refine ⟨inv, reached, fun recorded => ?_⟩
  obtain ⟨code, i, item, here, _, own⟩ := (recorded 7 _).mp row
  have same : pkgBazaar = code := congrArg Row.itemPackage own
  rw [← same, entryAt, empty, List.getElem?_replicate] at here
  split at here
  · contradiction
  · contradiction

end ItemPackages

end Garlemald.Inventory
