import Garlemald.Inventory.Representation

/-!
A client that applies the item and remove-slot packets of the outbox to its own
map of slots. Every slot that is not dirty shows the package's entry, and an
update shows the dirty ones; an add that runs out of slots outside an update
bracket is the one call that leaves the client behind.
-/

namespace Garlemald.Inventory
open Library ItemPackage
open Function (update)

/-- The slots a client shows, by the code of the package, and the package it is told about. -/
structure Client where
  current : Option UInt16 := none
  slots : UInt16 → UInt16 → Option InventoryItem

namespace Client

def showItems (shown : UInt16 → Option InventoryItem) (items : List InventoryItem) :
    UInt16 → Option InventoryItem :=
  items.foldl (fun shown item => update shown item.slot (some item)) shown

def hideSlots (shown : UInt16 → Option InventoryItem) (slots : List UInt16) :
    UInt16 → Option InventoryItem :=
  slots.foldl (fun shown slot => update shown slot none) shown

def apply (c : Client) : InventoryEvent → Client
  | .packetSetBegin _ _ code => { c with current := some code }
  | .packetItems _ items =>
      match c.current with
      | some code => { c with slots := update c.slots code (showItems (c.slots code) items) }
      | none => c
  | .packetRemoveSlots _ slots =>
      match c.current with
      | some code => { c with slots := update c.slots code (hideSlots (c.slots code) slots) }
      | none => c
  | .packetSetEnd _ => { c with current := none }
  | _ => c

def after (c : Client) (events : List InventoryEvent) : Client := events.foldl apply c

theorem after_append (c : Client) (front back : List InventoryEvent) :
    c.after (front ++ back) = (c.after front).after back :=
  List.foldl_append

theorem after_db (c : Client) {events : List InventoryEvent}
    (db : ∀ e ∈ events, e.isDb = true) : c.after events = c := by
  induction events with
  | nil => rfl
  | cons e events ih =>
      have first : c.apply e = c := by
        have here := db e (List.mem_cons_self ..)
        cases e with
        | dbAdd => rfl
        | dbRemove => rfl
        | dbQuantity => rfl
        | dbPositions => rfl
        | _ => contradiction
      rw [after, List.foldl_cons, first]
      exact ih fun e member => db e (List.mem_cons_of_mem _ member)

theorem showItems_of_not_mem {items : List InventoryItem} {slot : UInt16}
    (absent : ∀ item ∈ items, item.slot ≠ slot) (shown : UInt16 → Option InventoryItem) :
    showItems shown items slot = shown slot := by
  induction items generalizing shown with
  | nil => rfl
  | cons item items ih =>
      have rest := ih (fun other member => absent other (List.mem_cons_of_mem _ member))
        (update shown item.slot (some item))
      rw [Function.update_of_ne (absent item (List.mem_cons_self ..)).symm] at rest
      exact rest

theorem showItems_of_mem {items : List InventoryItem} {item : InventoryItem} (here : item ∈ items)
    (only : ∀ other ∈ items, other.slot = item.slot → other = item)
    (shown : UInt16 → Option InventoryItem) : showItems shown items item.slot = some item := by
  induction items generalizing shown with
  | nil => contradiction
  | cons first items ih =>
      have later := fun other member => only other (List.mem_cons_of_mem first member)
      by_cases member : item ∈ items
      · exact ih member later (update shown first.slot (some first))
      · have head : item = first := (List.mem_cons.mp here).resolve_right member
        subst head
        have absent : ∀ other ∈ items, other.slot ≠ item.slot := by
          intro other inRest same
          exact member (later other inRest same ▸ inRest)
        exact (showItems_of_not_mem absent _).trans (Function.update_self ..)

theorem hideSlots_apply (slots : List UInt16) (shown : UInt16 → Option InventoryItem)
    (slot : UInt16) :
    hideSlots shown slots slot = if slot ∈ slots then none else shown slot := by
  induction slots generalizing shown with
  | nil => rfl
  | cons first slots ih =>
      have rest := ih (update shown first none)
      rw [hideSlots, List.foldl_cons, ← hideSlots, rest]
      by_cases same : slot = first
      · subst same
        simp
      · simp [same]

/-- What the client shows at an index; nothing beyond the 16-bit slots. -/
def shown (c : Client) (code : UInt16) (i : Nat) : Option InventoryItem :=
  if i < 65536 then c.slots code (UInt16.ofNat i) else none

theorem showItems_entries {p : ItemPackage} (shape : p.Shape) {items : List InventoryItem}
    (taken : Nat → Bool)
    (members : ∀ item, item ∈ items ↔ ∃ i, taken i = true ∧ p.entryAt i = some item)
    (shown : UInt16 → Option InventoryItem) (slot : UInt16) :
    showItems shown items slot =
      if slot.toNat < p.endOfListIndex ∧ taken slot.toNat = true then p.entryAt slot.toNat
      else shown slot := by
  have at_slot {i : Nat} {item : InventoryItem} (here : p.entryAt i = some item)
      (same : item.slot = slot) : i = slot.toNat := by
    rw [← same, shape.slot_eq i item here, UInt16.toNat_ofNat_of_lt']
    exact Nat.lt_of_lt_of_le (shape.lt_of_entryAt here)
      (Nat.le_trans shape.end_le (Nat.le_of_lt p.capacity.toNat_lt))
  split
  · next inside =>
      obtain ⟨item, here⟩ := Option.isSome_iff_exists.mp (shape.present slot.toNat inside.1)
      have own : item.slot = slot := by
        rw [shape.slot_eq slot.toNat item here, UInt16.ofNat_toNat]
      have listed : item ∈ items := (members item).mpr ⟨slot.toNat, inside.2, here⟩
      rw [here, ← own]
      apply showItems_of_mem listed
      intro other member same
      obtain ⟨i, -, there⟩ := (members other).mp member
      rw [at_slot there (same.trans own), here] at there
      exact (Option.some.inj there).symm
  · next outside =>
      apply showItems_of_not_mem
      intro item member same
      obtain ⟨i, chosen, here⟩ := (members item).mp member
      have index := at_slot here same
      exact outside ⟨index ▸ shape.lt_of_entryAt here, index ▸ chosen⟩

end Client

namespace ItemPackage

variable {p : ItemPackage}

theorem mem_iterItems (loose : p.Loose) (item : InventoryItem) :
    item ∈ p.iterItems ↔ ∃ i, p.entryAt i = some item := by
  simp only [iterItems, List.mem_filterMap, id_eq, exists_eq_right]
  constructor
  · intro member
    obtain ⟨i, here⟩ := List.mem_iff_getElem?.mp member
    rw [List.getElem?_take] at here
    split at here
    · exact ⟨i, by rw [entryAt, here, Option.join_some]⟩
    · contradiction
  · intro held
    obtain ⟨i, here⟩ := held
    rw [List.mem_iff_getElem?]
    refine ⟨i, ?_⟩
    rw [List.getElem?_take, if_pos (loose.lt_of_entryAt here)]
    exact Option.join_eq_some_iff.mp here

theorem mem_dirtyItems (loose : p.Loose) (item : InventoryItem) :
    item ∈ p.dirtyItems ↔ ∃ i, p.dirtyAt i = true ∧ p.entryAt i = some item := by
  simp only [dirtyItems, List.mem_filterMap, List.mem_range, Option.ite_none_right_eq_some]
  constructor
  · intro held
    obtain ⟨i, -, dirty, here⟩ := held
    exact ⟨i, dirty, here⟩
  · intro held
    obtain ⟨i, dirty, here⟩ := held
    exact ⟨i, loose.lt_of_entryAt here, dirty, here⟩

theorem mem_dirtyTailSlots (loose : p.Loose) (slot : UInt16) :
    slot ∈ p.dirtyTailSlots ↔
      p.endOfListIndex ≤ slot.toNat ∧ p.dirtyAt slot.toNat = true := by
  simp only [dirtyTailSlots, List.mem_map, List.mem_filter, List.mem_range'_1, freeSlots]
  constructor
  · intro held
    obtain ⟨i, ⟨⟨above, below⟩, dirty⟩, rfl⟩ := held
    have inside : i < p.capacity.toNat := by
      have fits := loose.end_le
      omega
    rw [UInt16.toNat_ofNat_of_lt' (Nat.lt_trans inside p.capacity.toNat_lt)]
    exact ⟨above, dirty⟩
  · intro held
    obtain ⟨above, dirty⟩ := held
    have inside : slot.toNat < p.capacity.toNat := by
      by_contra outside
      have clean : p.dirtyAt slot.toNat = false := by
        simp [dirtyAt, List.getElem?_eq_none (loose.length_dirty ▸ Nat.le_of_not_lt outside)]
      rw [clean] at dirty
      contradiction
    exact ⟨slot.toNat, ⟨⟨above, by omega⟩, dirty⟩, UInt16.ofNat_toNat⟩

end ItemPackage

namespace Client

variable {c : Client} {p : ItemPackage}

theorem after_updatePackets (c : Client) (p : ItemPackage) :
    c.after p.updatePackets = {
      current := none
      slots := update c.slots p.code
        (hideSlots (showItems (c.slots p.code) p.dirtyItems) p.dirtyTailSlots) } := by
  have shows : (showItems (c.slots p.code) []) = c.slots p.code := rfl
  have hides (shown : UInt16 → Option InventoryItem) : hideSlots shown [] = shown := rfl
  simp only [updatePackets, after_append]
  split
  · next clean =>
      split
      · next none_behind => simp [after, apply, clean, none_behind, shows, hides]
      · simp [after, apply, clean, shows]
  · split
    · next none_behind => simp [after, apply, none_behind, hides]
    · simp [after, apply]

theorem after_sendFull (c : Client) (p : ItemPackage) :
    c.after p.sendFull = {
      current := none
      slots := update c.slots p.code (showItems (c.slots p.code) p.iterItems) } := by
  have shows : (showItems (c.slots p.code) []) = c.slots p.code := rfl
  simp only [sendFull, after_append]
  split
  · next empty => simp [after, apply, empty, shows]
  · simp [after, apply]

def Shows (c : Client) (p : ItemPackage) : Prop :=
  ∀ slot, c.slots p.code slot = p.getAtSlot slot

/-- Every slot that is not dirty is up to date, and the client is in no update. -/
def Tracks (c : Client) (p : ItemPackage) : Prop :=
  c.current = none ∧ p.Covers (c.shown p.code)

/-- The client shows the package, unless an update bracket is open. -/
def Mirrors (c : Client) (p : ItemPackage) : Prop := p.holdingUpdates = false → c.Shows p

theorem shown_toNat (c : Client) (code slot : UInt16) :
    c.shown code slot.toNat = c.slots code slot := by
  rw [shown, if_pos slot.toNat_lt, UInt16.ofNat_toNat]

theorem Shows.covers (shows : c.Shows p) (loose : p.Loose) : p.Covers (c.shown p.code) := by
  intro i clean
  rw [shown]
  split
  · next inside =>
      rw [shows, getAtSlot, UInt16.toNat_ofNat_of_lt' inside]
  · next beyond =>
      have fits := loose.end_le
      have small : p.capacity.toNat < 65536 := p.capacity.toNat_lt
      exact (loose.behind i (by omega)).symm

theorem shows_updatePackets (shape : p.Shape) (tracks : c.Tracks p) :
    (c.after p.updatePackets).Shows p := by
  intro slot
  rw [after_updatePackets]
  simp only [Function.update_self, hideSlots_apply, mem_dirtyTailSlots shape.toLoose,
    showItems_entries shape p.dirtyAt (mem_dirtyItems shape.toLoose), getAtSlot]
  cases dirty : p.dirtyAt slot.toNat with
  | false =>
      have clean := tracks.2 slot.toNat dirty
      rw [shown_toNat] at clean
      simpa using clean
  | true =>
      by_cases inside : slot.toNat < p.endOfListIndex
      · simp [inside, Nat.not_le.mpr inside]
      · simp [Nat.le_of_not_lt inside, shape.behind slot.toNat (Nat.le_of_not_lt inside)]

theorem slots_sendFull (shape : p.Shape) (c : Client) (slot : UInt16) :
    (c.after p.sendFull).slots p.code slot =
      if slot.toNat < p.endOfListIndex then p.getAtSlot slot else c.slots p.code slot := by
  have members (item : InventoryItem) :
      item ∈ p.iterItems ↔ ∃ i, true = true ∧ p.entryAt i = some item := by
    rw [mem_iterItems shape.toLoose]
    simp
  rw [after_sendFull]
  simp only [Function.update_self, showItems_entries shape (fun _ => true) members,
    and_true]
  rfl

end Client

open Client

/-- The client still tracks the package, and shows what it did of every other package. -/
structure Follows (c : Client) (l l' : Ledger) : Prop where
  tracks : (c.after l'.outbox).Tracks l'.package
  others : ∀ code, code ≠ l.package.code →
    (c.after l'.outbox).slots code = (c.after l.outbox).slots code

section Follows

variable {c : Client} {l l' : Ledger} {Q : UInt32 → Int32 → Prop}
  {F : ItemPackage → UInt64 → Prop}

theorem Follows.refl (tracks : (c.after l.outbox).Tracks l.package) : Follows c l l :=
  ⟨tracks, fun _ _ => rfl⟩

theorem sendUpdate_follows (shape : l.package.Shape)
    (tracks : (c.after l.outbox).Tracks l.package) (flows : l.package.holdingUpdates = false) :
    Follows c l l.sendUpdate ∧ (c.after l.sendUpdate.outbox).Shows l.package := by
  have shows := shows_updatePackets shape tracks
  have cleared : l.package.clearDirty.Shape := (sameSlots_clearDirty l.package).shape shape
  have sent : l.sendUpdate =
      { package := l.package.clearDirty, outbox := l.outbox ++ l.package.updatePackets } := by
    simp [Ledger.sendUpdate, flows]
  rw [sent, after_append]
  refine ⟨⟨⟨?_, Shows.covers (p := l.package.clearDirty) ?_ cleared.toLoose⟩,
    fun code other => ?_⟩, shows⟩
  · rw [after_append, after_updatePackets]
  · rw [after_append]
    exact shows
  · rw [after_append, after_updatePackets]
    exact Function.update_of_ne other ..

theorem bracketedSendUpdate_follows (shape : l.package.Shape)
    (tracks : (c.after l.outbox).Tracks l.package) :
    Follows c l l.bracketedSendUpdate ∧
      (c.after l.bracketedSendUpdate.outbox).Mirrors l.bracketedSendUpdate.package := by
  cases holding : l.package.holdingUpdates with
  | true =>
      have same : l.bracketedSendUpdate = l := by simp [Ledger.bracketedSendUpdate, holding]
      rw [same]
      refine ⟨.refl tracks, fun flows => ?_⟩
      rw [holding] at flows
      contradiction
  | false =>
      obtain ⟨follows, shows⟩ := sendUpdate_follows shape tracks holding
      have package_eq : l.bracketedSendUpdate.package = l.sendUpdate.package := by
        simp [Ledger.bracketedSendUpdate, Ledger.sendUpdate, Ledger.push, holding]
      have client_eq : c.after l.bracketedSendUpdate.outbox = c.after l.sendUpdate.outbox := by
        simp only [Ledger.bracketedSendUpdate, Ledger.sendUpdate, Ledger.push, holding,
          Bool.false_eq_true, if_false, after_append]
        rfl
      have sent : l.sendUpdate.package = l.package.clearDirty := by
        simp [Ledger.sendUpdate, holding]
      refine ⟨⟨?_, ?_⟩, fun _ => ?_⟩
      · rw [client_eq, package_eq]
        exact follows.tracks
      · rw [client_eq]
        exact follows.others
      · rw [client_eq, package_eq, sent]
        exact shows

theorem Edits.client_eq {holes : Bool} (edits : Edits Q F holes l l') (c : Client) :
    c.after l'.outbox = c.after l.outbox := by
  obtain ⟨events, db, eq⟩ := edits.entered
  rw [eq, after_append, after_db _ db]

theorem Edits.follows {holes : Bool} (edits : Edits Q F holes l l') (loose : l.package.Loose)
    (tracks : (c.after l.outbox).Tracks l.package) : Follows c l l' := by
  have same := edits.client_eq c
  have code_eq : l'.package.code = l.package.code :=
    congrArg (fun header => header.2.2.1) edits.header_eq
  refine ⟨?_, fun code _ => by rw [same]⟩
  rw [same]
  refine ⟨tracks.1, ?_⟩
  rw [code_eq]
  exact edits.covers loose tracks.2

theorem Settles.follows (settles : Settles Q F l l') (shape : l.package.Shape)
    (tracks : (c.after l.outbox).Tracks l.package) :
    Follows c l l' ∧ ((c.after l.outbox).Mirrors l.package →
      (c.after l'.outbox).Mirrors l'.package) := by
  rcases settles with rfl | ⟨edited, edits, closed, rfl⟩
  · exact ⟨.refl tracks, id⟩
  · have first := edits.follows shape.toLoose tracks
    obtain ⟨second, mirrors⟩ := bracketedSendUpdate_follows closed first.tracks
    have code_eq : edited.package.code = l.package.code :=
      congrArg (fun header => header.2.2.1) edits.header_eq
    refine ⟨⟨second.tracks, fun code other => ?_⟩, fun _ => mirrors⟩
    exact (second.others code (code_eq ▸ other)).trans (first.others code other)

theorem Strands.follows (strands : Strands Q F l l') (shape : l.package.Shape)
    (tracks : (c.after l.outbox).Tracks l.package) :
    Follows c l l' ∧ ((c.after l.outbox).Mirrors l.package →
      ((c.after l'.outbox).Mirrors l'.package ↔ l.package.holdingUpdates = true)) := by
  refine ⟨strands.edits.follows shape.toLoose tracks, fun mirrors => ?_⟩
  have header := strands.edits.header_eq
  have holding_eq : l'.package.holdingUpdates = l.package.holdingUpdates :=
    congrArg (fun header => header.2.2.2.2) header
  have code_eq : l'.package.code = l.package.code := congrArg (fun header => header.2.2.1) header
  constructor
  · intro mirrors'
    by_contra flows
    have flows := Bool.not_eq_true _ ▸ flows
    have shape' := strands.edits.shape shape
    have small : l'.package.endOfListIndex < 65536 :=
      Nat.lt_of_le_of_lt shape'.end_le l'.package.capacity.toNat_lt
    have last : (UInt16.ofNat l.package.endOfListIndex).toNat = l.package.endOfListIndex :=
      UInt16.toNat_ofNat_of_lt' (Nat.lt_trans strands.filled small)
    have before := mirrors flows (UInt16.ofNat l.package.endOfListIndex)
    have after := mirrors' (holding_eq.trans flows) (UInt16.ofNat l.package.endOfListIndex)
    rw [strands.edits.client_eq, code_eq, before] at after
    simp only [getAtSlot, last] at after
    have filled := shape'.present l.package.endOfListIndex strands.filled
    rw [← after, shape.behind _ (Nat.le_refl _)] at filled
    contradiction
  · intro holding flows
    rw [holding_eq, holding] at flows
    contradiction

theorem dirtyAt_markDirtySlot {p : ItemPackage} {slot : UInt16} {i : Nat}
    (clean : (p.markDirtySlot slot).dirtyAt i = false) : p.dirtyAt i = false := by
  simp only [dirtyAt, markDirtySlot] at clean ⊢
  by_cases same : slot.toNat = i
  · subst same
    by_cases inside : slot.toNat < p.isDirty.length
    · simp [inside] at clean
    · simp [List.getElem?_eq_none (Nat.le_of_not_lt inside)]
  · rw [List.getElem?_set_ne same] at clean
    exact clean

theorem callUpdates_follows (shape : l.package.Shape)
    (tracks : (c.after l.outbox).Tracks l.package) (call : UpdateCall) :
    Follows c l (l.callUpdates call) ∧ ((c.after l.outbox).Mirrors l.package →
      (c.after (l.callUpdates call).outbox).Mirrors (l.callUpdates call).package) := by
  have marked (slot : UInt16) :
      Follows c l { l with package := l.package.markDirtySlot slot } :=
    ⟨⟨tracks.1, fun i clean => tracks.2 i (dirtyAt_markDirtySlot clean)⟩, fun _ _ => rfl⟩
  cases call with
  | markDirtySlot slot => exact ⟨marked slot, id⟩
  | markDirty item =>
      simp only [Ledger.callUpdates, markDirty]
      split
      · exact ⟨.refl tracks, id⟩
      · split
        · exact ⟨marked item.slot, id⟩
        · exact ⟨.refl tracks, id⟩
  | sendUpdate =>
      cases holding : l.package.holdingUpdates with
      | true =>
          have same : l.sendUpdate = l := by simp [Ledger.sendUpdate, holding]
          rw [Ledger.callUpdates, same]
          exact ⟨.refl tracks, id⟩
      | false =>
          obtain ⟨follows, shows⟩ := sendUpdate_follows shape tracks holding
          have sent : l.sendUpdate.package = l.package.clearDirty := by
            simp [Ledger.sendUpdate, holding]
          refine ⟨follows, fun _ _ => ?_⟩
          rw [Ledger.callUpdates, sent]
          exact shows
  | sendFull =>
      have slots_eq := slots_sendFull shape (c.after l.outbox)
      refine ⟨⟨⟨?_, fun i clean => ?_⟩, fun code other => ?_⟩, fun mirrors flows slot => ?_⟩
      · simp only [Ledger.callUpdates, after_append, Client.after_sendFull]
      · have before := tracks.2 i clean
        simp only [Ledger.callUpdates, after_append]
        rw [Client.shown] at before ⊢
        split
        · next inside =>
            rw [if_pos inside] at before
            rw [slots_eq, getAtSlot, UInt16.toNat_ofNat_of_lt' inside]
            split
            · rfl
            · exact before
        · next beyond =>
            rw [if_neg beyond] at before
            exact before
      · simp only [Ledger.callUpdates, after_append, Client.after_sendFull]
        exact Function.update_of_ne other ..
      · simp only [Ledger.callUpdates, after_append]
        rw [slots_eq]
        split
        · rfl
        · exact mirrors flows slot
  | startSendUpdate =>
      refine ⟨⟨tracks, fun _ _ => rfl⟩, fun _ flows => ?_⟩
      contradiction
  | doneSendUpdate =>
      let freed : Ledger := { l with package := { l.package with holdingUpdates := false } }
      have unheld : SameSlots l.package freed.package := ⟨rfl, rfl, rfl, rfl, rfl⟩
      obtain ⟨follows, shows⟩ := sendUpdate_follows (l := freed) (unheld.shape shape) tracks rfl
      have done := (sameSlots_callUpdates l .doneSendUpdate).shape shape
      refine ⟨⟨⟨follows.tracks.1, ?_⟩, follows.others⟩, fun _ _ => shows⟩
      exact Shows.covers (p := (l.callUpdates .doneSendUpdate).package) shows done.toLoose

end Follows

/-! ### The packages of a character -/

/-- The call runs out of slots in a package whose updates are not held back. -/
def CutShort (catalog : ItemCatalog) (p : ItemPackage) (call : SlotCall) : Prop :=
  p.holdingUpdates = false ∧ OverrunsCall catalog p call

theorem callSlots_follows {catalog : ItemCatalog} {c : Client} {l l' : Ledger} {call : SlotCall}
    (shape : l.package.Shape) (tracks : (c.after l.outbox).Tracks l.package)
    (returns : l.callSlots catalog call = some l') :
    Follows c l l' ∧ ((c.after l.outbox).Mirrors l.package →
      ((c.after l'.outbox).Mirrors l'.package ↔ ¬ CutShort catalog l.package call)) := by
  obtain ⟨strands, settles⟩ := callSlots_spec (Q := fun _ _ => True) (F := fun _ _ => True)
    (fun _ => trivial) (fun _ _ _ _ _ _ => trivial) shape (fun _ _ _ => trivial)
    (ItemPackages.permits_any l.package call) returns
  by_cases overruns : OverrunsCall catalog l.package call
  · obtain ⟨follows, mirrors⟩ := (strands overruns).follows shape tracks
    refine ⟨follows, fun now => (mirrors now).trans ?_⟩
    simp [CutShort, overruns]
  · obtain ⟨follows, mirrors⟩ := (settles overruns).follows shape tracks
    exact ⟨follows, fun now => iff_of_true (mirrors now) fun cut => overruns cut.2⟩

namespace ItemPackages

variable {catalog : ItemCatalog} {c : Client} {inv inv' : ItemPackages}

def Tracked (c : Client) (inv : ItemPackages) : Prop :=
  ∀ code, (c.after inv.outbox).Tracks (inv.packages code)

/-- The client shows every package, but for those in an update bracket. -/
def Mirrored (c : Client) (inv : ItemPackages) : Prop :=
  ∀ code, (c.after inv.outbox).Mirrors (inv.packages code)

theorem slots_commit (laid : inv.Laid) {code other : UInt16} {l : Ledger}
    (follows : Follows c (inv.ledger code) l) (apart : other ≠ code) :
    (c.after (inv.commit code l).outbox).slots other = (c.after inv.outbox).slots other := by
  apply follows.others
  have own : (inv.ledger code).package.code = code := (laid code).2
  rw [own]
  exact apart

theorem Tracked.commit (tracked : inv.Tracked c) (laid : inv.Laid) {code : UInt16} {l : Ledger}
    (follows : Follows c (inv.ledger code) l) : (inv.commit code l).Tracked c := by
  intro other
  rw [packages_commit]
  split
  · exact follows.tracks
  · next apart =>
      refine ⟨follows.tracks.1, fun i clean => ?_⟩
      rw [← (tracked other).2 i clean, (laid other).2]
      simp only [Client.shown]
      rw [slots_commit laid follows apart]

theorem Mirrored.commit_iff (mirrored : inv.Mirrored c) (laid : inv.Laid) {code : UInt16}
    {l : Ledger} (follows : Follows c (inv.ledger code) l) :
    (inv.commit code l).Mirrored c ↔ (c.after l.outbox).Mirrors l.package := by
  constructor
  · intro all
    have here := all code
    rw [packages_commit, if_pos rfl] at here
    exact here
  · intro here other
    rw [packages_commit]
    split
    · exact here
    · next apart =>
        intro flows slot
        rw [(laid other).2, slots_commit laid follows apart, ← mirrored other flows slot,
          (laid other).2]

theorem callSlots_mirrored (laid : inv.Laid) (tracked : inv.Tracked c)
    (mirrored : inv.Mirrored c) (code : UInt16) (call : SlotCall) {l : Ledger}
    (returns : (inv.ledger code).callSlots catalog call = some l) :
    (inv.commit code l).Tracked c ∧
      ((inv.commit code l).Mirrored c ↔ ¬ CutShort catalog (inv.packages code) call) := by
  obtain ⟨follows, mirrors⟩ := callSlots_follows (laid code).1 (tracked code) returns
  exact ⟨tracked.commit laid follows,
    (mirrored.commit_iff laid follows).trans (mirrors (mirrored code))⟩

theorem move_mirrored (laid : inv.Laid) (tracked : inv.Tracked c) (mirrored : inv.Mirrored c)
    {code destination : UInt16} (apart : code ≠ destination) (removal : SlotCall)
    {item : InventoryItem} {removed l : Ledger}
    (settles : ∀ p, ¬ OverrunsCall catalog p removal)
    (taken : (inv.ledger code).callSlots catalog removal = some removed)
    (added : ((inv.commit code removed).ledger destination).callSlots catalog
      (.addExisting item) = some l) :
    ((inv.commit code removed).commit destination l).Tracked c ∧
      (((inv.commit code removed).commit destination l).Mirrored c ↔
        ¬ CutShort catalog (inv.packages destination) (.addExisting item)) := by
  obtain ⟨tracked', mirrors⟩ := callSlots_mirrored laid tracked mirrored code removal taken
  have mirrored' := mirrors.mpr fun cut => settles _ cut.2
  have there : (inv.commit code removed).packages destination = inv.packages destination := by
    rw [packages_commit, if_neg (Ne.symm apart)]
  have second := callSlots_mirrored (laid.callSlots catalog code removal taken) tracked' mirrored'
    destination (.addExisting item) added
  rw [there] at second
  exact second

/-- No add outside an update bracket runs out of slots. -/
def Fits (catalog : ItemCatalog) (inv : ItemPackages) : InventoryCall → Prop
  | .slots code call => ¬ CutShort catalog (inv.packages code) call
  | .updates _ _ => True
  | .moveTo code slot destination => ∀ item, (inv.packages code).getAtSlot slot = some item →
      ¬ CutShort catalog (inv.packages destination) (.addExisting item)
  | .moveItem _ item destination =>
      ¬ CutShort catalog (inv.packages destination) (.addExisting item)

theorem not_cutShort_of_isFull {p : ItemPackage} (full : p.isFull = true) (item : InventoryItem) :
    ¬ CutShort catalog p (.addExisting item) := by
  intro held
  obtain ⟨-, -, -, room, -⟩ := held
  rw [full] at room
  contradiction

theorem step_mirrored {call : InventoryCall} (laid : inv.Laid) (tracked : inv.Tracked c)
    (mirrored : inv.Mirrored c) (taken : inv.step catalog call = some inv') :
    inv'.Tracked c ∧ (inv'.Mirrored c ↔ inv.Fits catalog call) := by
  cases call with
  | slots code call =>
      obtain ⟨l, returns, rfl⟩ := Option.map_eq_some_iff.mp taken
      exact callSlots_mirrored laid tracked mirrored code call returns
  | updates code call =>
      cases taken
      obtain ⟨follows, mirrors⟩ := callUpdates_follows (l := inv.ledger code) (laid code).1
        (tracked code) call
      refine ⟨tracked.commit laid follows, iff_of_true ?_ trivial⟩
      exact (mirrored.commit_iff laid follows).mpr (mirrors (mirrored code))
  | moveTo code slot destination =>
      obtain ⟨apart, ⟨same, full⟩ | ⟨item, l, here, -, added, moved⟩⟩ := step_moveTo taken
      · rw [same]
        exact ⟨tracked, iff_of_true mirrored fun item here =>
          not_cutShort_of_isFull (full item here) item⟩
      · rw [moved]
        obtain ⟨tracked', mirrors⟩ := move_mirrored laid tracked mirrored apart
          (.removeAtSlot slot) (fun _ impossible => impossible) rfl added
        refine ⟨tracked', mirrors.trans ⟨fun fits other there => ?_, fun fits => ?_⟩⟩
        · rw [here] at there
          exact Option.some.inj there ▸ fits
        · exact fits item here
  | moveItem code item destination =>
      obtain ⟨apart, ⟨same, full⟩ | ⟨l, -, added, moved⟩⟩ := step_moveItem taken
      · rw [same]
        exact ⟨tracked, iff_of_true mirrored (not_cutShort_of_isFull full item)⟩
      · rw [moved]
        exact move_mirrored laid tracked mirrored apart (.removeItem item)
          (fun _ impossible => impossible) rfl added

def shownTo (inv : ItemPackages) : Client where
  slots := fun code slot => (inv.packages code).getAtSlot slot

variable (catalog : ItemCatalog) (ownerActorId : UInt32) (capacity : UInt16 → UInt16)
  (isTemporary : UInt16 → Bool) (stored : UInt16 → List InventoryItem)

/-- The client shows every package outside its update brackets throughout a run, exactly when
no add outside an update bracket runs out of slots midway. -/
theorem mirrored_iff (calls : List InventoryCall) :
    let loaded := load ownerActorId capacity isTemporary stored
    Always (step catalog) (Mirrored loaded.shownTo) loaded calls ↔
      EachStep (step catalog) (Fits catalog) loaded calls := by
  intro loaded
  have laid : loaded.Laid := laid_load ownerActorId capacity isTemporary stored
  have shows (code : UInt16) : loaded.shownTo.Shows (loaded.packages code) := by
    intro slot
    change (loaded.packages (loaded.packages code).code).getAtSlot slot = _
    rw [(laid code).2]
  apply always_iff_eachStep (I := fun inv => inv.Laid ∧ inv.Tracked loaded.shownTo)
  · intro inv call inv' held mirrored taken
    exact (step_mirrored held.1 held.2 mirrored taken).2
  · intro inv call inv' held mirrored _ taken
    exact ⟨held.1.step taken, (step_mirrored held.1 held.2 mirrored taken).1⟩
  · exact ⟨laid, fun code => ⟨rfl, (shows code).covers (laid code).1.toLoose⟩⟩
  · exact fun code _ => shows code

/-- In a package of one slot 150 potions fill the slot and are then refused, and the client
is not told of the stack that stays. -/
theorem overrun_not_mirrored :
    let loaded := load 1 (fun _ => 1) (fun _ => false) fun _ => []
    ¬ Always (step potions) (Mirrored loaded.shownTo) loaded
      [.slots pkgNormal (.add 42 150 1)] := by
  intro loaded always
  have facts : (run (step potions) loaded [.slots pkgNormal (.add 42 150 1)]).map (fun inv =>
      ((inv.packages pkgNormal).holdingUpdates, ((inv.packages pkgNormal).getAtSlot 0).isSome,
        ((loaded.shownTo.after inv.outbox).slots (inv.packages pkgNormal).code 0).isSome)) =
      some (false, true, false) := by
    decide
  obtain ⟨inv, reached, same⟩ := Option.map_eq_some_iff.mp facts
  simp only [Prod.mk.injEq] at same
  obtain ⟨flows, filled, hidden⟩ := same
  have mirrored := always_iff_reached.mp always _ (List.prefix_refl _) inv reached
  rw [mirrored pkgNormal flows 0, filled] at hidden
  contradiction

end ItemPackages
end Garlemald.Inventory
