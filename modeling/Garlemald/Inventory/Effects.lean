import Garlemald.Inventory.Edits

/-!
What each operation does to a package and its outbox: a chain of edits entered in
the database, and then an update. An add that runs out of slots while it spills
is the one operation that edits the package and sends no update.
-/

namespace Garlemald.Inventory
open ItemPackage
open Relation (ReflTransGen)

/-- The event is a write to the rows of the items, which the client does not see. -/
def InventoryEvent.isDb : InventoryEvent → Bool
  | dbAdd .. | dbRemove .. | dbQuantity .. | dbPositions .. => true
  | _ => false

section Effects

variable (Q : UInt32 → Int32 → Prop) (F : ItemPackage → UInt64 → Prop)

/-- A chain of edits whose only events are writes to the database. -/
structure Edits (holes : Bool) (l l' : Ledger) : Prop where
  chain : ReflTransGen (Edit Q F holes) l.package l'.package
  entered : ∃ events, (∀ e ∈ events, e.isDb = true) ∧ l'.outbox = l.outbox ++ events

/-- The package is as it was, or has been edited and the client updated. -/
def Settles (l l' : Ledger) : Prop :=
  l' = l ∨ ∃ edited, Edits Q F true l edited ∧ edited.package.Shape ∧
    l' = edited.bracketedSendUpdate

structure Strands (l l' : Ledger) : Prop where
  edits : Edits Q F false l l'
  filled : l.package.endOfListIndex < l'.package.endOfListIndex

/-- The slots below `n` have been passed: those below the first hole are filled, and the
others are holes. -/
structure Passed (p : ItemPackage) (n : Nat) (s : Ledger.Realigning) : Prop where
  chain : ReflTransGen (Edit Q F true) p s.package
  loose : s.package.Loose
  end_eq : s.package.endOfListIndex = p.endOfListIndex
  filled : ∀ i, i < s.lastNull.getD n → (s.package.entryAt i).isSome
  holes : ∀ dst, s.lastNull = some dst →
    dst < n ∧ ∀ i, dst ≤ i → i < n → s.package.entryAt i = none

variable {Q F}

namespace Edits

variable {holes : Bool} {l l' l'' : Ledger}

theorem refl (l : Ledger) : Edits Q F holes l l :=
  ⟨.refl, [], fun _ member => by contradiction, (List.append_nil _).symm⟩

theorem trans (first : Edits Q F holes l l') (second : Edits Q F holes l' l'') :
    Edits Q F holes l l'' := by
  obtain ⟨front, frontDb, eq⟩ := first.entered
  obtain ⟨back, backDb, eq'⟩ := second.entered
  refine ⟨first.chain.trans second.chain, front ++ back, fun e member => ?_, ?_⟩
  · rcases List.mem_append.mp member with inFront | inBack
    · exact frontDb e inFront
    · exact backDb e inBack
  · rw [eq', eq, List.append_assoc]

theorem weaken (edits : Edits Q F holes l l') : Edits Q F true l l' :=
  ⟨ReflTransGen.mono (fun _ _ => Edit.weaken) _ _ edits.chain, edits.entered⟩

theorem pushDb {p : ItemPackage} {e : InventoryEvent} (edit : Edit Q F holes l.package p)
    (db : e.isDb = true) : Edits Q F holes l (Ledger.pushDb { l with package := p } e) := by
  rw [Ledger.pushDb]
  split
  · exact ⟨.single edit, [], fun _ member => by contradiction, (List.append_nil _).symm⟩
  · refine ⟨.single edit, [e], fun e' member => ?_, rfl⟩
    rw [List.mem_singleton.mp member]
    exact db

theorem keep {I : ItemPackage → Prop} (step : ∀ p p', Edit Q F holes p p' → I p → I p')
    (edits : Edits Q F holes l l') (before : I l.package) : I l'.package := by
  obtain ⟨chain, -⟩ := edits
  generalize l'.package = last at chain
  induction chain with
  | refl => exact before
  | tail _ edit ih => exact step _ _ edit ih

theorem header_eq (edits : Edits Q F holes l l') : l'.package.header = l.package.header :=
  edits.keep (I := fun p => p.header = l.package.header)
    (fun _ _ edit same => edit.header_eq.trans same) rfl

theorem loose (edits : Edits Q F holes l l') (before : l.package.Loose) : l'.package.Loose :=
  edits.keep (fun _ _ edit => edit.loose) before

theorem shape (edits : Edits Q F false l l') (before : l.package.Shape) : l'.package.Shape :=
  edits.keep (fun _ _ edit => edit.shape) before

theorem every (edits : Edits Q F holes l l') (before : l.package.Every Q) :
    l'.package.Every Q :=
  edits.keep (fun _ _ edit => edit.every) before

theorem holds (edits : Edits Q F holes l l') {id : UInt64} (held : l'.package.Holds id) :
    l.package.Holds id ∨ ∃ p, F p id := by
  refine edits.keep (I := fun p => p.Holds id → l.package.Holds id ∨ ∃ p, F p id) ?_ Or.inl held
  intro p p' edit before held
  rcases edit.holds held with earlier | new
  · exact before earlier
  · exact Or.inr new

theorem covers {shown : Nat → Option InventoryItem} (edits : Edits Q F holes l l')
    (loose : l.package.Loose) (before : l.package.Covers shown) : l'.package.Covers shown :=
  (edits.keep (I := fun p => p.Loose ∧ p.Covers shown)
    (fun _ _ edit both => ⟨edit.loose both.1, edit.covers both.1 both.2⟩) ⟨loose, before⟩).2

end Edits

/-! ### Realign -/

variable {item : InventoryItem}

section Passed

variable {p : ItemPackage} {n : Nat} {s : Ledger.Realigning}

theorem Passed.empty (passed : Passed Q F p n s) (here : s.package.entryAt n = none) :
    Passed Q F p (n + 1) (Ledger.realignAt s n) := by
  rw [Ledger.realignAt, here]
  cases hole : s.lastNull with
  | none =>
      refine ⟨passed.chain, passed.loose, passed.end_eq, fun i below => ?_, ?_⟩
      · have filled := passed.filled i
        rw [hole] at filled
        exact filled below
      · intro _ own
        cases own
        refine ⟨Nat.lt_succ_self n, fun i above below => ?_⟩
        obtain rfl : i = n := by omega
        exact here
  | some dst =>
      obtain ⟨before, empty⟩ := passed.holes dst hole
      refine ⟨passed.chain, passed.loose, passed.end_eq, fun i below => ?_, ?_⟩
      · have filled := passed.filled i
        rw [hole] at filled
        simp only [hole, Option.getD_some] at below
        exact filled below
      · intro dst' same
        obtain rfl := Option.some.inj (hole.symm.trans same)
        refine ⟨by omega, fun i above below => ?_⟩
        by_cases last : i = n
        · rw [last]
          exact here
        · exact empty i above (by omega)

theorem Passed.stays (passed : Passed Q F p n s) (here : s.package.entryAt n = some item)
    (hole : s.lastNull = none) :
    Passed Q F p (n + 1) (Ledger.realignAt s n) := by
  rw [Ledger.realignAt, here, hole]
  refine ⟨passed.chain, passed.loose, passed.end_eq, fun i below => ?_, ?_⟩
  · have filled := passed.filled i
    rw [hole] at filled
    simp only [hole, Option.getD_none] at below
    by_cases last : i = n
    · rw [last, here]
      rfl
    · exact filled (by simp only [Option.getD_none]; omega)
  · intro dst impossible
    rw [hole] at impossible
    contradiction

theorem Passed.moves (passed : Passed Q F p n s) (inside : n < p.endOfListIndex)
    (here : s.package.entryAt n = some item) {dst : Nat} (hole : s.lastNull = some dst) :
    Passed Q F p (n + 1) (Ledger.realignAt s n) := by
  rw [Ledger.realignAt, here, hole]
  have room : n < s.package.list.length := by
    rw [passed.loose.length_list]
    exact Nat.lt_of_lt_of_le (passed.end_eq ▸ inside) passed.loose.end_le
  obtain ⟨before, empty⟩ := passed.holes dst hole
  have edit : Edit Q F true s.package _ := .shift n dst item here before
  have erased : (s.package.put n none).list.length = s.package.list.length := by
    simp [put]
  refine ⟨passed.chain.tail edit, edit.loose passed.loose, passed.end_eq,
    fun i below => ?_, ?_⟩
  · simp only [Option.getD_some] at below
    have filled := passed.filled i
    rw [hole] at filled
    by_cases last : i = dst
    · rw [last, entryAt_put_self _ (by omega)]
      rfl
    · rw [entryAt_put_of_ne _ last, entryAt_put_of_ne _ (by omega)]
      exact filled (by simp only [Option.getD_some]; omega)
  · intro _ own
    cases own
    refine ⟨by omega, fun i above below => ?_⟩
    rw [entryAt_put_of_ne _ (by omega)]
    by_cases last : i = n
    · rw [last, entryAt_put_self _ room]
    · rw [entryAt_put_of_ne _ last]
      exact empty i (by omega) (by omega)

theorem Passed.step (passed : Passed Q F p n s) (inside : n < p.endOfListIndex) :
    Passed Q F p (n + 1) (Ledger.realignAt s n) := by
  cases here : s.package.entryAt n with
  | none => exact passed.empty here
  | some item =>
      cases hole : s.lastNull with
      | none => exact passed.stays here hole
      | some dst => exact passed.moves inside here hole

end Passed

theorem passed_all {p : ItemPackage} (loose : p.Loose) {n : Nat} (inside : n ≤ p.endOfListIndex) :
    Passed Q F p n ((List.range n).foldl Ledger.realignAt { package := p }) := by
  induction n with
  | zero =>
      refine ⟨.refl, loose, rfl, fun i below => ?_, fun dst impossible => ?_⟩
      · exact absurd below (Nat.not_lt_zero i)
      · contradiction
  | succ n ih =>
      rw [List.range_succ, List.foldl_append]
      exact (ih (Nat.le_of_succ_le inside)).step inside

theorem realign_edits {l : Ledger} (loose : l.package.Loose) :
    Edits Q F true l l.realign ∧ l.realign.package.Shape := by
  have passed := passed_all (Q := Q) (F := F) loose (Nat.le_refl l.package.endOfListIndex)
  generalize result : (List.range l.package.endOfListIndex).foldl Ledger.realignAt
    { package := l.package } = s at passed
  have package_eq : l.realign.package =
      { s.package with endOfListIndex := s.lastNull.getD s.package.endOfListIndex } := by
    simp only [Ledger.realign, result]
    split <;> rfl
  have entered : ∃ events, (∀ e ∈ events, e.isDb = true) ∧
      l.realign.outbox = l.outbox ++ events := by
    simp only [Ledger.realign, result]
    split
    · refine ⟨_, fun e member => ?_, rfl⟩
      rw [List.mem_singleton.mp member]
      rfl
    · exact ⟨[], fun _ member => by contradiction, (List.append_nil _).symm⟩
  cases hole : s.lastNull with
  | none =>
      rw [hole, Option.getD_none] at package_eq
      refine ⟨⟨package_eq ▸ passed.chain, entered⟩, ?_⟩
      rw [package_eq]
      refine ⟨passed.loose, fun i below => ?_⟩
      have filled := passed.filled i
      rw [hole] at filled
      exact filled (passed.end_eq ▸ below)
  | some dst =>
      obtain ⟨before, empty⟩ := passed.holes dst hole
      rw [hole, Option.getD_some] at package_eq
      have behind (i : Nat) (above : dst ≤ i) : s.package.entryAt i = none := by
        by_cases below : i < l.package.endOfListIndex
        · exact empty i above below
        · exact passed.loose.behind i (passed.end_eq ▸ Nat.le_of_not_lt below)
      have trimmed : Edit Q F true s.package _ :=
        .trim dst (passed.end_eq ▸ Nat.le_of_lt before) behind
      refine ⟨⟨package_eq ▸ passed.chain.tail trimmed, entered⟩, ?_⟩
      rw [package_eq]
      refine ⟨trimmed.loose passed.loose, fun i below => ?_⟩
      have filled := passed.filled i
      rw [hole] at filled
      exact filled below

/-! ### Add -/

def leftover (itemId : UInt32) (quality : UInt8) (maxStack : Int32) (items : List InventoryItem)
    (quantity : Int32) : Int32 :=
  items.foldl (fun quantity item =>
    if quantity ≤ 0 then quantity
    else if takesMore itemId quality maxStack item then quantity - (maxStack - item.quantity)
    else quantity) quantity

theorem leftover_append (itemId : UInt32) (quality : UInt8) (maxStack : Int32)
    (front back : List InventoryItem) (quantity : Int32) :
    leftover itemId quality maxStack (front ++ back) quantity =
      leftover itemId quality maxStack back (leftover itemId quality maxStack front quantity) :=
  List.foldl_append

def stackedOff (maxStack : Int32) : Nat → Int32 → Int32
  | 0, quantity => quantity
  | n + 1, quantity =>
      if quantity ≤ 0 then quantity else stackedOff maxStack n (quantity - min quantity maxStack)

/-- An add that no early check turns away finds room for a stack, and yet the quantity left
by the partial stacks takes more stacks than there are free slots. -/
def Overruns (catalog : ItemCatalog) (p : ItemPackage) (itemId : UInt32) (quantity : Int32)
    (quality : UInt8) : Prop :=
  0 < quantity ∧ p.isFull = false ∧ ∃ gd, catalog itemId = some gd ∧
    ¬ (gd.isExclusive ∧ p.hasItem itemId) ∧
      0 < stackedOff gd.maxStack p.freeSlots
        (leftover itemId quality gd.maxStack p.iterItems quantity)

/-- Quantities in a set stay in it while stacks are topped up and spawned, and leave allowed
stacks behind. -/
structure Stacks (Q : UInt32 → Int32 → Prop) (S : Int32 → Prop) (itemId : UInt32)
    (maxStack : Int32) : Prop where
  topUp : ∀ old quantity, Q itemId old → old < maxStack → 0 < quantity → S quantity →
    Q itemId (min (old + quantity) maxStack) ∧ S (quantity - (maxStack - old))
  spawn : ∀ quantity, 0 < quantity → S quantity →
    Q itemId (min quantity maxStack) ∧ S (quantity - min quantity maxStack)

section Add

variable {S : Int32 → Prop} {itemId : UInt32} {quality : UInt8} {maxStack : Int32}

variable (quality) in
theorem mergeAt_edits (stacking : Stacks Q S itemId maxStack) {s : Ledger × Int32}
    (every : s.1.package.Every Q) (inS : S s.2) (i : Nat) :
    Edits Q F false s.1 (Ledger.mergeAt itemId quality maxStack s i).1 ∧
      S (Ledger.mergeAt itemId quality maxStack s i).2 := by
  rw [Ledger.mergeAt]
  split
  · exact ⟨.refl s.1, inS⟩
  · next positive =>
      cases here : s.1.package.entryAt i with
      | none => exact ⟨.refl s.1, inS⟩
      | some item =>
          dsimp only
          split
          · next takes =>
              simp only [takesMore, decide_eq_true_eq] at takes
              obtain ⟨sameId, -, less⟩ := takes
              obtain ⟨allowed, stays⟩ := stacking.topUp item.quantity s.2
                (sameId ▸ every i item here) less (Int32.not_le.mp positive) inS
              exact ⟨Edits.pushDb (.requantify i item _ here (sameId ▸ allowed)) rfl, stays⟩
          · exact ⟨.refl s.1, inS⟩

variable (quality) in
theorem merge_edits (stacking : Stacks Q S itemId maxStack) {s : Ledger × Int32}
    (every : s.1.package.Every Q) (inS : S s.2) (slots : List Nat) :
    Edits Q F false s.1 (slots.foldl (Ledger.mergeAt itemId quality maxStack) s).1 ∧
      S (slots.foldl (Ledger.mergeAt itemId quality maxStack) s).2 := by
  induction slots generalizing s with
  | nil => exact ⟨.refl s.1, inS⟩
  | cons i slots ih =>
      obtain ⟨first, stays⟩ := mergeAt_edits (F := F) quality stacking every inS i
      obtain ⟨rest, last⟩ := ih (first.every every) stays
      exact ⟨first.trans rest, last⟩

variable {quantity : Int32} {catalog : ItemCatalog} {l : Ledger}

variable (quality) in
theorem spill_edits (stacking : Stacks Q S itemId maxStack) (placeholder : ∀ p, F p 0)
    (fuel : Nat) (every : l.package.Every Q) (inS : S quantity) :
    Edits Q F false l (Ledger.spill itemId quality maxStack fuel quantity l).2 := by
  induction fuel generalizing quantity l with
  | zero =>
      rw [Ledger.spill]
      split
      · exact .refl l
      · exact .refl l
  | succ fuel ih =>
      rw [Ledger.spill]
      split
      · exact .refl l
      · next positive =>
          split
          · exact .refl l
          · next room =>
              obtain ⟨allowed, stays⟩ := stacking.spawn quantity (Int32.not_le.mp positive) inS
              have free : l.package.endOfListIndex < l.package.capacity.toNat := by
                simpa [isFull] using room
              have first : Edits Q F false l
                  (l.spawn itemId quality (min quantity maxStack)) :=
                Edits.pushDb (.spawn _ free rfl rfl allowed (placeholder l.package)) rfl
              exact first.trans (ih (first.every every) stays)

variable (itemId quality maxStack) in
theorem mergeAt_keeps (s : Ledger × Int32) (i : Nat) :
    (Ledger.mergeAt itemId quality maxStack s i).1.package.endOfListIndex =
        s.1.package.endOfListIndex ∧
      ∀ j, j ≠ i → (Ledger.mergeAt itemId quality maxStack s i).1.package.entryAt j =
        s.1.package.entryAt j := by
  rw [Ledger.mergeAt]
  split
  · exact ⟨rfl, fun _ _ => rfl⟩
  · split
    · exact ⟨rfl, fun _ _ => rfl⟩
    · split
      · refine ⟨?_, fun j other => ?_⟩
        · rw [Ledger.pushDb_package]
          rfl
        · rw [Ledger.pushDb_package]
          exact entryAt_put_of_ne s.1.package other _
      · exact ⟨rfl, fun _ _ => rfl⟩

theorem mergeAt_left (s : Ledger × Int32) (i : Nat) :
    (Ledger.mergeAt itemId quality maxStack s i).2 =
      leftover itemId quality maxStack (s.1.package.entryAt i).toList s.2 := by
  rw [Ledger.mergeAt, leftover]
  cases s.1.package.entryAt i with
  | none => split <;> rfl
  | some item =>
      simp only [Option.toList_some, List.foldl_cons, List.foldl_nil]
      split
      · rfl
      · split
        · rfl
        · rfl

variable (itemId quality maxStack) in
theorem merge_leftover (l : Ledger) (quantity : Int32) (n : Nat) :
    let s := (List.range n).foldl (Ledger.mergeAt itemId quality maxStack) (l, quantity)
    s.1.package.endOfListIndex = l.package.endOfListIndex ∧
      s.2 = leftover itemId quality maxStack ((l.package.list.take n).filterMap id) quantity ∧
        ∀ j, n ≤ j → s.1.package.entryAt j = l.package.entryAt j := by
  induction n with
  | zero => exact ⟨rfl, rfl, fun _ _ => rfl⟩
  | succ n ih =>
      obtain ⟨end_eq, left_eq, ahead⟩ := ih
      rw [List.range_succ, List.foldl_append]
      simp only [List.foldl_cons, List.foldl_nil]
      generalize (List.range n).foldl (Ledger.mergeAt itemId quality maxStack) (l, quantity) = s
        at end_eq left_eq ahead
      obtain ⟨end_kept, others⟩ :=
        mergeAt_keeps itemId quality maxStack s n
      refine ⟨end_kept.trans end_eq, ?_, fun j above => ?_⟩
      · have items : (l.package.list[n]?.toList).filterMap id = (l.package.entryAt n).toList := by
          rw [entryAt]
          cases l.package.list[n]? with
          | none => rfl
          | some entry => cases entry <;> rfl
        rw [List.take_add_one, List.filterMap_append, leftover_append, ← left_eq, items,
          ← ahead n (Nat.le_refl n)]
        exact mergeAt_left s n
      · rw [others j (by omega)]
        exact ahead j (by omega)

variable (itemId quality maxStack) in
theorem spill_result (fuel : Nat) (quantity : Int32) (exact_fuel : fuel = l.package.freeSlots) :
    (stackedOff maxStack fuel quantity ≤ 0 →
        (Ledger.spill itemId quality maxStack fuel quantity l).1 = .ok ()) ∧
      (¬ stackedOff maxStack fuel quantity ≤ 0 →
        (Ledger.spill itemId quality maxStack fuel quantity l).1 = .error .full ∧
          (Ledger.spill itemId quality maxStack fuel quantity l).2.package.isFull = true) := by
  induction fuel generalizing quantity l with
  | zero =>
      rw [Ledger.spill, stackedOff]
      split
      · next done => exact ⟨fun _ => rfl, fun more => absurd done more⟩
      · next more =>
          refine ⟨fun done => absurd done more, fun _ => ⟨rfl, ?_⟩⟩
          simp only [freeSlots] at exact_fuel
          simpa [isFull] using Nat.le_of_sub_eq_zero exact_fuel.symm
  | succ fuel ih =>
      have room : l.package.isFull = false := by
        simp only [freeSlots] at exact_fuel
        simp only [isFull, decide_eq_false_iff_not]
        omega
      rw [Ledger.spill, stackedOff]
      split
      · next done => exact ⟨fun _ => rfl, fun more => absurd done more⟩
      · simp only [room, Bool.false_eq_true, if_false]
        apply ih
        simp only [Ledger.spawn, freeSlots, Ledger.pushDb_package] at exact_fuel ⊢
        change fuel = l.package.capacity.toNat - (l.package.endOfListIndex + 1)
        omega

variable (quality) in
theorem store_spec (stacking : Stacks Q S itemId maxStack) (placeholder : ∀ p, F p 0)
    (every : l.package.Every Q) (inS : S quantity) :
    ∃ edited, Edits Q F false l edited ∧
      (stackedOff maxStack l.package.freeSlots
          (leftover itemId quality maxStack l.package.iterItems quantity) ≤ 0 →
        (l.store itemId quantity quality maxStack).2 = edited.bracketedSendUpdate) ∧
      (¬ stackedOff maxStack l.package.freeSlots
          (leftover itemId quality maxStack l.package.iterItems quantity) ≤ 0 →
        (l.store itemId quantity quality maxStack).2 = edited ∧ edited.package.isFull = true) := by
  obtain ⟨merged, stays⟩ := merge_edits (F := F) quality stacking
    (s := (l, quantity)) every inS (List.range l.package.endOfListIndex)
  have spilled := spill_edits quality stacking placeholder l.package.freeSlots
    (merged.every every) stays
  obtain ⟨end_eq, left_eq, -⟩ :=
    merge_leftover itemId quality maxStack l quantity l.package.endOfListIndex
  have capacity_eq := congrArg (fun header => header.2.1) merged.header_eq
  have free_eq : l.package.freeSlots = ((List.range l.package.endOfListIndex).foldl
      (Ledger.mergeAt itemId quality maxStack) (l, quantity)).1.package.freeSlots := by
    simp only [freeSlots]
    rw [end_eq]
    exact congrArg (fun c : UInt16 => c.toNat - _) capacity_eq.symm
  obtain ⟨fits, overruns⟩ := spill_result itemId quality maxStack l.package.freeSlots
    (leftover itemId quality maxStack l.package.iterItems quantity) free_eq
  rw [left_eq] at spilled
  refine ⟨_, merged.trans spilled, fun done => ?_, fun more => ?_⟩
  · unfold Ledger.store
    dsimp only
    rw [left_eq]
    have ok := fits done
    rw [iterItems] at ok
    split
    · next edited result => rw [result]
    · next result => rw [result] at ok; contradiction
  · obtain ⟨failed, full⟩ := overruns more
    unfold Ledger.store
    dsimp only
    rw [left_eq]
    rw [iterItems] at failed full
    split
    · next result => rw [result] at failed; contradiction
    · next result => rw [result] at full ⊢; exact ⟨rfl, full⟩

theorem leftover_of_nonpos (items : List InventoryItem) (done : quantity ≤ 0) :
    leftover itemId quality maxStack items quantity = quantity := by
  rw [leftover]
  induction items with
  | nil => rfl
  | cons item items ih => rw [List.foldl_cons, if_pos done, ih]

theorem stackedOff_of_nonpos (n : Nat) (done : quantity ≤ 0) :
    stackedOff maxStack n quantity = quantity := by
  cases n with
  | zero => rfl
  | succ n => rw [stackedOff, if_pos done]

variable (itemId quality maxStack) in
theorem remainingAfter_leftover (items : List InventoryItem) (positive : 0 < quantity) :
    (remainingAfter itemId quality maxStack items quantity = none →
        leftover itemId quality maxStack items quantity ≤ 0) ∧
      ∀ left, remainingAfter itemId quality maxStack items quantity = some left →
        leftover itemId quality maxStack items quantity = left := by
  induction items generalizing quantity with
  | nil => exact ⟨fun impossible => by contradiction, fun _ same => Option.some.inj same⟩
  | cons item items ih =>
      have more : ¬ quantity ≤ 0 := Int32.not_le.mpr positive
      have unrolled : leftover itemId quality maxStack (item :: items) quantity =
          leftover itemId quality maxStack items
            (if takesMore itemId quality maxStack item then quantity - (maxStack - item.quantity)
              else quantity) := by
        rw [leftover, List.foldl_cons, if_neg more]
        rfl
      rw [unrolled, remainingAfter]
      split
      · dsimp only
        split
        · next done =>
            rw [leftover_of_nonpos items done]
            exact ⟨fun _ => done, fun _ impossible => by contradiction⟩
        · next more => exact ih (Int32.not_le.mp more)
      · exact ih positive

theorem isSpaceForAdd_iff {gd : ItemData} (known : catalog itemId = some gd) (p : ItemPackage)
    (positive : 0 < quantity) :
    p.isSpaceForAdd catalog itemId quantity quality = true ↔
      leftover itemId quality gd.maxStack p.iterItems quantity ≤ 0 ∨ p.isFull = false := by
  obtain ⟨all, some_left⟩ := remainingAfter_leftover itemId quality gd.maxStack p.iterItems
    positive
  simp only [isSpaceForAdd, known]
  split
  · next result => exact iff_of_true rfl (Or.inl (all result))
  · next left result =>
      rw [some_left left result]
      simp

theorem isSpaceForAdd_open {p : ItemPackage} (free : p.isFull = false) :
    p.isSpaceForAdd catalog itemId quantity quality = true := by
  rw [isSpaceForAdd]
  split
  · rw [free]
    rfl
  · split
    · rfl
    · rw [free, Bool.not_false, Bool.or_true]

variable (quality) in
theorem add_spec (shape : l.package.Shape)
    (every : l.package.Every Q) (placeholder : ∀ p, F p 0)
    (stacking : ∀ gd, catalog itemId = some gd → 0 < quantity →
      ∃ S, Stacks Q S itemId gd.maxStack ∧ S quantity) :
    (Overruns catalog l.package itemId quantity quality →
        Strands Q F l (l.add catalog itemId quantity quality).2) ∧
      (¬ Overruns catalog l.package itemId quantity quality →
        Settles Q F l (l.add catalog itemId quantity quality).2) := by
  rw [Ledger.add]
  split
  · next none_asked =>
      exact ⟨fun overruns => absurd none_asked (Int32.not_le.mpr overruns.1), fun _ => Or.inl rfl⟩
  · next positive =>
      have positive := Int32.not_le.mp positive
      split
      · next noSpace =>
          refine ⟨fun overruns => ?_, fun _ => Or.inl rfl⟩
          obtain ⟨-, room, gd, known, -⟩ := overruns
          exact absurd ((isSpaceForAdd_iff known l.package positive).mpr (Or.inr room)) noSpace
      · next space =>
          have space := not_not.mp space
          split
          · next unknown =>
              refine ⟨fun overruns => ?_, fun _ => Or.inl rfl⟩
              obtain ⟨-, -, gd, known, -⟩ := overruns
              rw [unknown] at known
              contradiction
          · next gd known =>
              split
              · next unique =>
                  refine ⟨fun overruns => ?_, fun _ => Or.inl rfl⟩
                  obtain ⟨-, -, gd', known', notUnique, -⟩ := overruns
                  rw [known] at known'
                  cases known'
                  exact absurd unique notUnique
              · next notUnique =>
                  obtain ⟨S, stacking, inS⟩ := stacking gd known positive
                  obtain ⟨edited, edits, fits, fails⟩ :=
                    store_spec quality stacking placeholder every inS
                  constructor
                  · intro held
                    obtain ⟨-, room, gd', known', -, more⟩ := held
                    rw [known] at known'
                    cases known'
                    obtain ⟨result, full⟩ := fails (Int32.not_le.mpr more)
                    rw [result]
                    refine ⟨edits, ?_⟩
                    have capacity_eq := congrArg (fun header => header.2.1) edits.header_eq
                    simp only [header] at capacity_eq
                    simp only [isFull, decide_eq_false_iff_not, decide_eq_true_eq] at room full
                    rw [capacity_eq] at full
                    omega
                  · intro fitting
                    by_cases done : stackedOff gd.maxStack l.package.freeSlots
                        (leftover itemId quality gd.maxStack l.package.iterItems quantity) ≤ 0
                    · rw [fits done]
                      exact Or.inr ⟨edited, edits.weaken, edits.shape shape, rfl⟩
                    · have more := Int32.not_le.mp done
                      rcases (isSpaceForAdd_iff known l.package positive).mp space with
                        none_left | room
                      · rw [stackedOff_of_nonpos _ none_left] at done
                        exact absurd none_left done
                      · exact absurd ⟨positive, room, gd, known, notUnique, more⟩ fitting

end Add

/-- An existing item that does not stack in the package keeps its quantity and its id. -/
def TakenAsIs (catalog : ItemCatalog) (p : ItemPackage) (item : InventoryItem) : Prop :=
  ¬ (p.code ≠ pkgBazaar ∧ 1 < Ledger.existingMaxStack catalog item.itemId)

instance (catalog : ItemCatalog) (p : ItemPackage) (item : InventoryItem) :
    Decidable (TakenAsIs catalog p item) := inferInstanceAs (Decidable (¬ _))

def OverrunsExisting (catalog : ItemCatalog) (p : ItemPackage) (item : InventoryItem) : Prop :=
  ¬ TakenAsIs catalog p item ∧ Overruns catalog p item.itemId item.quantity item.quality

/-- The ledger after an item that exists already has been put behind the last one. -/
def Ledger.appended (l : Ledger) (item : InventoryItem) : Ledger :=
  let p := l.package
  let slot := UInt16.ofNat p.endOfListIndex
  let item := { item with itemPackage := p.code, slot }
  let filled := p.put p.endOfListIndex (some item)
  ({ l with package := { filled with endOfListIndex := p.endOfListIndex + 1 } } : Ledger).pushDb
    (.dbAdd p.ownerActorId item p.code slot)

inductive Brings (catalog : ItemCatalog) (l : Ledger) (item : InventoryItem) :
    InventoryResult × Ledger → Prop where
  | stacked (merges : ¬ TakenAsIs catalog l.package item) :
      Brings catalog l item (l.add catalog item.itemId item.quantity item.quality)
  | full (asIs : TakenAsIs catalog l.package item)
      (blocked : ¬ l.package.isSpaceForAdd catalog item.itemId item.quantity item.quality) :
      Brings catalog l item (.error .full, l)
  | unknown (asIs : TakenAsIs catalog l.package item) (unknown : catalog item.itemId = none) :
      Brings catalog l item (.error .system, l)
  | appended (asIs : TakenAsIs catalog l.package item) (gd : ItemData)
      (known : catalog item.itemId = some gd)
      (room : l.package.endOfListIndex < l.package.list.length) :
      Brings catalog l item (.ok (), (l.appended item).bracketedSendUpdate)

theorem addExisting_brings {catalog : ItemCatalog} {l : Ledger} {r : InventoryResult × Ledger}
    (returns : l.addExisting catalog item = some r) :
    Brings catalog l item r := by
  rw [Ledger.addExisting] at returns
  dsimp only at returns
  split at returns
  · next merges =>
      cases returns
      exact .stacked fun asIs => asIs merges
  · next asIs =>
      split at returns
      · next blocked =>
          cases returns
          exact .full asIs blocked
      · split at returns
        · next unknown =>
            cases returns
            exact .unknown asIs (Option.isNone_iff_eq_none.mp unknown)
        · next known =>
            split at returns
            · contradiction
            · next room =>
                obtain ⟨gd, known⟩ := Option.ne_none_iff_exists'.mp
                  (mt Option.isNone_iff_eq_none.mpr known)
                cases returns
                exact .appended asIs gd known (Nat.not_le.mp room)

theorem addExisting_spec {catalog : ItemCatalog} {l : Ledger} (shape : l.package.Shape)
    (every : l.package.Every Q) (placeholder : ∀ p, F p 0) {item : InventoryItem}
    (stacking : ¬ TakenAsIs catalog l.package item → ∀ gd, catalog item.itemId = some gd →
      0 < item.quantity → ∃ S, Stacks Q S item.itemId gd.maxStack ∧ S item.quantity)
    (asIs : TakenAsIs catalog l.package item →
      Q item.itemId item.quantity ∧ F l.package item.uniqueId)
    {r : InventoryResult × Ledger} (returns : l.addExisting catalog item = some r) :
    (OverrunsExisting catalog l.package item → Strands Q F l r.2) ∧
      (¬ OverrunsExisting catalog l.package item → Settles Q F l r.2) := by
  have settling {l' : Ledger} (keeps : TakenAsIs catalog l.package item)
      (settles : Settles Q F l l') : (OverrunsExisting catalog l.package item → Strands Q F l l') ∧
        (¬ OverrunsExisting catalog l.package item → Settles Q F l l') :=
    ⟨fun overruns => absurd keeps overruns.1, fun _ => settles⟩
  cases addExisting_brings returns with
  | stacked merges =>
      obtain ⟨strands, settles⟩ := add_spec item.quality shape every placeholder (stacking merges)
      exact ⟨fun overruns => strands overruns.2,
        fun fits => settles fun overruns => fits ⟨merges, overruns⟩⟩
  | full keeps blocked => exact settling keeps (Or.inl rfl)
  | unknown keeps unknown => exact settling keeps (Or.inl rfl)
  | appended keeps gd known room =>
      obtain ⟨allowed, fresh⟩ := asIs keeps
      have free : l.package.endOfListIndex < l.package.capacity.toNat := shape.length_list ▸ room
      have edits : Edits Q F false l (l.appended item) :=
        Edits.pushDb (.spawn _ free rfl rfl allowed fresh) rfl
      exact settling keeps (Or.inr ⟨_, edits.weaken, edits.shape shape, rfl⟩)

/-! ### Remove -/

section Remove

variable {l : Ledger}

theorem dropAt_edits (l : Ledger) (i : Nat) (uniqueId : UInt64) :
    Edits Q F true l (l.dropAt i uniqueId) :=
  Edits.pushDb (.erase i) rfl

variable {quantity : Int32}

theorem requantifyAt_edits (holes : Bool) {i : Nat} (here : l.package.entryAt i = some item)
    (allowed : Q item.itemId quantity) :
    Edits Q F holes l (l.requantifyAt i item quantity) :=
  Edits.pushDb (.requantify i item quantity here allowed) rfl

theorem Edits.settles {edited : Ledger} {holes : Bool} (edits : Edits Q F holes l edited)
    (shape : l.package.Shape) : Settles Q F l edited.realign.bracketedSendUpdate := by
  obtain ⟨realigned, closed⟩ := realign_edits (Q := Q) (F := F) (edits.loose shape.toLoose)
  exact Or.inr ⟨edited.realign, edits.weaken.trans realigned, closed, rfl⟩

variable (lowers : ∀ id old taken, Q id old → 0 < taken → 0 < old - taken → Q id (old - taken))

include lowers in
theorem takeAt_edits (itemId : UInt32) (quality : UInt8) {s : Ledger × Int32}
    (every : s.1.package.Every Q) (i : Nat) :
    Edits Q F true s.1 (Ledger.takeAt itemId quality s i).1 := by
  rw [Ledger.takeAt]
  split
  · exact .refl s.1
  · next positive =>
      cases here : s.1.package.entryAt i with
      | none => exact .refl s.1
      | some item =>
          dsimp only
          split
          · exact .refl s.1
          · split
            · exact dropAt_edits s.1 i item.uniqueId
            · next left =>
                exact requantifyAt_edits true here (lowers item.itemId item.quantity s.2
                  (every i item here) (Int32.not_le.mp positive) (Int32.not_le.mp left))

include lowers in
theorem remove_spec (shape : l.package.Shape) (every : l.package.Every Q) (itemId : UInt32)
    (quantity : Int32) (quality : UInt8) :
    Settles Q F l (l.remove itemId quantity quality) := by
  have taken (slots : List Nat) (s : Ledger × Int32) (every : s.1.package.Every Q) :
      Edits Q F true s.1 (slots.foldl (Ledger.takeAt itemId quality) s).1 := by
    induction slots generalizing s with
    | nil => exact .refl s.1
    | cons i slots ih =>
        have first := takeAt_edits (F := F) lowers itemId quality every i
        exact first.trans (ih _ (first.every every))
  rw [Ledger.remove]
  split
  · exact Or.inl rfl
  · exact (taken _ (l, quantity) every).settles shape

theorem removeByUniqueId_spec (shape : l.package.Shape) (every : l.package.Every Q)
    (itemDbId : UInt64) (lowers : ∀ id old, Q id old → quantity < old → Q id (old - quantity)) :
    Settles Q F l (l.removeByUniqueId itemDbId quantity) := by
  rw [Ledger.removeByUniqueId]
  split
  · exact Or.inl rfl
  · next slot _ =>
      cases here : l.package.entryAt slot with
      | none => exact Or.inl rfl
      | some item =>
          dsimp only
          split
          · exact (dropAt_edits l slot item.uniqueId).settles shape
          · next less =>
              exact (requantifyAt_edits true here (lowers item.itemId item.quantity
                (every slot item here) (Int32.not_le.mp less))).settles shape

theorem removeAtSlot_spec (shape : l.package.Shape) (slot : UInt16) :
    Settles Q F l (l.removeAtSlot slot) := by
  rw [Ledger.removeAtSlot]
  split
  · exact Or.inl rfl
  · cases l.package.entryAt slot.toNat with
    | none =>
        have kept : Edits Q F true l l := .refl l
        exact kept.settles shape
    | some item => exact (dropAt_edits l slot.toNat item.uniqueId).settles shape

theorem removeItem_spec (shape : l.package.Shape) (item : InventoryItem) :
    Settles Q F l (l.removeItem item) := by
  rw [Ledger.removeItem]
  split
  · exact removeAtSlot_spec shape item.slot
  · exact Or.inl rfl

theorem removeAtSlotQty_spec (shape : l.package.Shape) (every : l.package.Every Q) (slot : UInt16)
    (lowers : ∀ id old, Q id old → 0 < old - quantity → Q id (old - quantity)) :
    Settles Q F l (l.removeAtSlotQty slot quantity) := by
  rw [Ledger.removeAtSlotQty]
  split
  · exact Or.inl rfl
  · cases here : l.package.entryAt slot.toNat with
    | none => exact Or.inl rfl
    | some item =>
        dsimp only
        split
        · exact (dropAt_edits l slot.toNat item.uniqueId).settles shape
        · next left =>
            have edits : Edits Q F false l _ := requantifyAt_edits false here
              (lowers item.itemId item.quantity (every slot.toNat item here) (Int32.not_le.mp left))
            exact Or.inr ⟨_, edits.weaken, edits.shape shape, rfl⟩

theorem clear_chain (p : ItemPackage) (loose : p.Loose) (n : Nat) :
    let cleared := (List.range n).foldl Ledger.clearAt p
    ReflTransGen (Edit Q F true) p cleared ∧ cleared.Loose ∧
      cleared.endOfListIndex = p.endOfListIndex ∧ ∀ i, i < n → cleared.entryAt i = none := by
  induction n with
  | zero => exact ⟨.refl, loose, rfl, fun i below => absurd below (Nat.not_lt_zero i)⟩
  | succ n ih =>
      rw [List.range_succ, List.foldl_append]
      simp only [List.foldl_cons, List.foldl_nil]
      generalize (List.range n).foldl Ledger.clearAt p = cleared at ih
      obtain ⟨chain, loose, end_eq, empty⟩ := ih
      rw [Ledger.clearAt]
      cases here : cleared.entryAt n with
      | none =>
          refine ⟨chain, loose, end_eq, fun i below => ?_⟩
          rcases Nat.lt_succ_iff_lt_or_eq.mp below with before | rfl
          · exact empty i before
          · exact here
      | some item =>
          have edit : Edit Q F true cleared (cleared.put n none) := .erase n
          simp only [Option.isSome_some, if_true]
          refine ⟨chain.tail edit, edit.loose loose, end_eq, fun i below => ?_⟩
          rcases Nat.lt_succ_iff_lt_or_eq.mp below with before | rfl
          · rw [entryAt_put_of_ne _ (Nat.ne_of_lt before)]
            exact empty i before
          · exact entryAt_put_self _ (lt_length_of_entryAt here) none

theorem clear_spec (shape : l.package.Shape) : Settles Q F l l.clear := by
  obtain ⟨chain, loose, end_eq, empty⟩ :=
    clear_chain (Q := Q) (F := F) l.package shape.toLoose l.package.endOfListIndex
  rw [Ledger.clear]
  generalize (List.range l.package.endOfListIndex).foldl Ledger.clearAt l.package = cleared
    at chain loose end_eq empty
  have none_left (i : Nat) : cleared.entryAt i = none := by
    by_cases below : i < l.package.endOfListIndex
    · exact empty i below
    · exact loose.behind i (end_eq ▸ Nat.le_of_not_lt below)
  have trimmed : Edit Q F true cleared { cleared with endOfListIndex := 0 } :=
    .trim 0 (Nat.zero_le _) fun i _ => none_left i
  have edits : Edits Q F true l { l with package := { cleared with endOfListIndex := 0 } } :=
    ⟨chain.tail trimmed, [], fun _ member => by contradiction, (List.append_nil _).symm⟩
  refine Or.inr ⟨_, edits, ⟨edits.loose shape.toLoose, fun i below => ?_⟩, rfl⟩
  exact absurd below (Nat.not_lt_zero i)

end Remove

/-! ### Invariants of an add -/

/-- Topping up a stack, starting a new one and an update of the client keep the invariant. -/
structure Additive (I : Ledger → Prop) : Prop where
  requantify : ∀ l i item quantity, I l → l.package.entryAt i = some item →
    I (l.requantifyAt i item quantity)
  spawn : ∀ l itemId quality quantity, I l → l.package.endOfListIndex < l.package.capacity.toNat →
    I (l.spawn itemId quality quantity)
  sent : ∀ l, I l → I l.bracketedSendUpdate

namespace Additive

variable {I : Ledger → Prop} (additive : Additive I)

include additive

theorem mergeAt {s : Ledger × Int32} (holds : I s.1) (itemId : UInt32) (quality : UInt8)
    (maxStack : Int32) (i : Nat) : I (Ledger.mergeAt itemId quality maxStack s i).1 := by
  rw [Ledger.mergeAt]
  split
  · exact holds
  · split
    · exact holds
    · next item here =>
        split
        · exact additive.requantify s.1 i item _ holds here
        · exact holds

theorem merge {s : Ledger × Int32} (holds : I s.1) (itemId : UInt32) (quality : UInt8)
    (maxStack : Int32) (slots : List Nat) :
    I (slots.foldl (Ledger.mergeAt itemId quality maxStack) s).1 := by
  induction slots generalizing s with
  | nil => exact holds
  | cons i slots ih => exact ih (additive.mergeAt holds itemId quality maxStack i)

theorem spill (itemId : UInt32) (quality : UInt8) (maxStack : Int32) (fuel : Nat)
    (quantity : Int32) {l : Ledger} (holds : I l) :
    I (Ledger.spill itemId quality maxStack fuel quantity l).2 := by
  induction fuel generalizing quantity l with
  | zero =>
      rw [Ledger.spill]
      split
      · exact holds
      · exact holds
  | succ fuel ih =>
      rw [Ledger.spill]
      split
      · exact holds
      · split
        · exact holds
        · next room =>
            have free : l.package.endOfListIndex < l.package.capacity.toNat := by
              simpa [isFull] using room
            exact ih _ (additive.spawn l itemId quality _ holds free)

theorem add {l : Ledger} (holds : I l) (catalog : ItemCatalog) (itemId : UInt32)
    (quantity : Int32) (quality : UInt8) : I (l.add catalog itemId quantity quality).2 := by
  rw [Ledger.add]
  split
  · exact holds
  · split
    · exact holds
    · split
      · exact holds
      · next gd _ =>
          split
          · exact holds
          · have merged := additive.merge (s := (l, quantity)) holds itemId quality gd.maxStack
              (List.range l.package.endOfListIndex)
            have spilled := additive.spill itemId quality gd.maxStack l.package.freeSlots
              ((List.range l.package.endOfListIndex).foldl
                (Ledger.mergeAt itemId quality gd.maxStack) (l, quantity)).2 merged
            rw [Ledger.store]
            split
            · next _ stored result =>
                rw [result] at spilled
                exact additive.sent stored spilled
            · next _ stored result =>
                rw [result] at spilled
                exact spilled

end Additive

/-! ### Calls -/

variable (Q F)

def Permits (catalog : ItemCatalog) (p : ItemPackage) : SlotCall → Prop
  | .add itemId quantity _ => ∀ gd, catalog itemId = some gd → 0 < quantity →
      ∃ S, Stacks Q S itemId gd.maxStack ∧ S quantity
  | .addExisting item =>
      (¬ TakenAsIs catalog p item → ∀ gd, catalog item.itemId = some gd → 0 < item.quantity →
        ∃ S, Stacks Q S item.itemId gd.maxStack ∧ S item.quantity) ∧
      (TakenAsIs catalog p item → Q item.itemId item.quantity ∧ F p item.uniqueId)
  | .removeByUniqueId _ quantity =>
      ∀ id old, Q id old → quantity < old → Q id (old - quantity)
  | .removeAtSlotQty _ quantity =>
      ∀ id old, Q id old → 0 < old - quantity → Q id (old - quantity)
  | _ => True

def OverrunsCall (catalog : ItemCatalog) (p : ItemPackage) : SlotCall → Prop
  | .add itemId quantity quality => Overruns catalog p itemId quantity quality
  | .addExisting item => OverrunsExisting catalog p item
  | _ => False

variable {Q F}

theorem callSlots_spec {catalog : ItemCatalog} {l l' : Ledger} {call : SlotCall}
    (placeholder : ∀ p, F p 0)
    (lowers : ∀ id old taken, Q id old → 0 < taken → 0 < old - taken → Q id (old - taken))
    (shape : l.package.Shape) (every : l.package.Every Q)
    (permits : Permits Q F catalog l.package call)
    (returns : l.callSlots catalog call = some l') :
    (OverrunsCall catalog l.package call → Strands Q F l l') ∧
      (¬ OverrunsCall catalog l.package call → Settles Q F l l') := by
  have settling {l' : Ledger} (settles : Settles Q F l l') :
      (False → Strands Q F l l') ∧ (¬ False → Settles Q F l l') :=
    ⟨False.elim, fun _ => settles⟩
  cases call with
  | add itemId quantity quality =>
      cases returns
      exact add_spec quality shape every placeholder permits
  | addExisting item =>
      obtain ⟨r, returned, rfl⟩ := Option.map_eq_some_iff.mp returns
      exact addExisting_spec shape every placeholder permits.1 permits.2 returned
  | remove itemId quantity quality =>
      cases returns
      exact settling (remove_spec lowers shape every itemId quantity quality)
  | removeItem item =>
      cases returns
      exact settling (removeItem_spec shape item)
  | removeByUniqueId itemDbId quantity =>
      cases returns
      exact settling (removeByUniqueId_spec shape every itemDbId permits)
  | removeAtSlot slot =>
      cases returns
      exact settling (removeAtSlot_spec shape slot)
  | removeAtSlotQty slot quantity =>
      cases returns
      exact settling (removeAtSlotQty_spec shape every slot permits)
  | clear =>
      cases returns
      exact settling (clear_spec shape)

end Effects
end Garlemald.Inventory
