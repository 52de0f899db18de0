import Garlemald.Storage.Dealings
import Mathlib.Algebra.Order.Group.Unbundled.Int

/-!
When the bag takes a grant. What the stacks of the item have no room for goes on in new stacks,
and the last of them has a slot that is a number of 32 bits; so is the total that is read back.
-/

namespace Garlemald.Storage

namespace Database

variable {db : Database} {chara : UInt32}

def spare (m : ℤ) (existing : List (ℕ × ℤ)) : ℤ :=
  (existing.map fun stack => max (m - stack.2) 0).sum

/-- What there is no room for in the stacks of the item, if the bag has it, goes into stacks with
slots of 32 bits, and the total stays a number of 32 bits. -/
def HasRoom (maxStack : UInt32 → Option ℤ) (db : Database) (chara itemId : UInt32)
    (quality : UInt8) (delta : ℤ) : Prop :=
  ∃ m, stackMax maxStack itemId = some m ∧
    (0 < delta - spare m (db.existing chara itemId quality) →
      -2 ^ 31 ≤ db.nextSlot chara PKG_NORMAL ∧
        db.nextSlot chara PKG_NORMAL +
          (delta - spare m (db.existing chara itemId quality) - 1) / m < 2 ^ 31) ∧
    db.total chara PKG_NORMAL { itemId, quality } + delta < 2 ^ 31

theorem spare_nonneg (m : ℤ) (existing : List (ℕ × ℤ)) : 0 ≤ spare m existing := by
  apply List.sum_nonneg
  intro n inside
  obtain ⟨stack, _, rfl⟩ := List.mem_map.mp inside
  exact le_max_right _ _

theorem topUp_left (m : ℤ) (existing : List (ℕ × ℤ)) {remaining : ℤ} (asked : 0 ≤ remaining)
    (db : Database) :
    (topUp m remaining existing db).1 = max (remaining - spare m existing) 0 := by
  induction existing generalizing remaining db with
  | nil =>
      rw [topUp, spare, List.map_nil, List.sum_nil]
      omega
  | cons stack existing ih =>
      obtain ⟨id, quantity⟩ := stack
      have rest := spare_nonneg m existing
      have first : spare m ((id, quantity) :: existing) =
          max (m - quantity) 0 + spare m existing := rfl
      rw [topUp, first]
      split
      · omega
      · split
        · rw [ih asked]
          omega
        · dsimp only
          rw [if_pos (by omega), ih (by omega)]
          omega

theorem total_topUp (m : ℤ) (kind : Kind) (existing : List (ℕ × ℤ))
    (distinct : (existing.map Prod.fst).Nodup) (remaining : ℤ) (sound : db.Sound)
    (stored : ∀ id quantity, (id, quantity) ∈ existing →
      ∃ item, (id, item) ∈ db.held chara PKG_NORMAL kind) :
    (topUp m remaining existing db).2.Sound ∧
      (topUp m remaining existing db).2.total chara PKG_NORMAL kind =
        db.total chara PKG_NORMAL kind + (remaining - (topUp m remaining existing db).1) := by
  induction existing generalizing db remaining with
  | nil =>
      rw [topUp]
      refine ⟨sound, ?_⟩
      dsimp only
      omega
  | cons stack existing ih =>
      obtain ⟨id, quantity⟩ := stack
      obtain ⟨apart, others⟩ := List.nodup_cons.mp distinct
      have behind := fun id quantity inside =>
        stored id quantity (List.mem_cons_of_mem _ inside)
      rw [topUp]
      split
      · refine ⟨sound, ?_⟩
        dsimp only
        omega
      · split
        · exact ih others remaining sound behind
        · dsimp only
          split
          · obtain ⟨item, held⟩ := stored id quantity List.mem_cons_self
            have added := total_addQuantity sound held (min remaining (m - quantity))
            obtain ⟨kept, total⟩ := ih others (remaining - min remaining (m - quantity))
              (sound.changeQuantity id (· + min remaining (m - quantity))) (by
                intro id' quantity' later
                obtain ⟨item', held'⟩ := behind id' quantity' later
                have present := List.mem_map_of_mem (f := Prod.fst) later
                have other : id' ≠ id := by
                  rintro rfl
                  exact apart present
                exact ⟨item', held_changeQuantity_ne held' other _⟩)
            refine ⟨kept, total.trans ?_⟩
            rw [addQuantity] at added ⊢
            omega
          · exact ih others remaining sound behind

theorem nextSlot_insertItem_next (package : UInt16) (item : ServerItem) :
    (db.insertItem chara package (db.nextSlot chara package) item).nextSlot chara package =
      db.nextSlot chara package + 1 := by
  have shown (db : Database) :
      db.nextSlot chara package = ((db.slots chara package).max?).getD (-1) + 1 := rfl
  have free := nextSlot_free db chara package
  have top : (db.slots chara package ++ [db.nextSlot chara package]).max? =
      some (db.nextSlot chara package) := by
    rw [List.max?_eq_some_iff]
    refine ⟨List.mem_append_right _ (List.mem_singleton_self _), fun slot taken => ?_⟩
    obtain old | new := List.mem_append.mp taken
    · exact (free slot old).le
    · exact (List.mem_singleton.mp new).le
  rw [shown (db.insertItem _ _ _ _), slots_insertItem, if_pos ⟨rfl, rfl⟩, top, Option.getD_some]

theorem stacks_left {m : ℤ} (some_room : 1 ≤ m) (remaining : ℤ) :
    (remaining - 1) / m = (remaining - m - 1) / m + 1 := by
  have shifted : remaining - 1 = remaining - m - 1 + 1 * m := by omega
  rw [shifted, Int.add_mul_ediv_right _ _ (by omega)]

theorem spill_isSome_iff (m : { m : ℤ // 1 ≤ m }) (chara itemId : UInt32) (quality : UInt8)
    (remaining : ℤ) (db : Database) :
    (db.spill m chara itemId quality remaining).isSome = true ↔
      (0 < remaining → -2 ^ 31 ≤ db.nextSlot chara PKG_NORMAL ∧
        db.nextSlot chara PKG_NORMAL + (remaining - 1) / m < 2 ^ 31) := by
  induction remaining, db using spill.induct m chara itemId quality with
  | case1 remaining db left ih =>
      have some_room := m.2
      have count : 0 ≤ (remaining - 1) / m.1 := Int.ediv_nonneg (by omega) (by omega)
      rw [spill, if_pos left]
      by_cases readable : -2 ^ 31 ≤ db.nextSlot chara PKG_NORMAL ∧
          db.nextSlot chara PKG_NORMAL < 2 ^ 31
      · rw [readI32, if_pos readable, Option.bind_some, ih, nextSlot_insertItem_next]
        by_cases more : 0 < remaining - m.1
        · have one := stacks_left some_room remaining
          rw [min_eq_right (by omega)]
          simp only [more, left, true_imp_iff, one]
          omega
        · have last : (remaining - 1) / m.1 = 0 :=
            Int.ediv_eq_zero_of_lt (by omega) (by omega)
          rw [min_eq_left (by omega), last]
          omega
      · rw [readI32, if_neg readable, Option.bind_none]
        simp only [left, true_imp_iff, Option.isSome_none, Bool.false_eq_true, false_iff]
        omega
  | case2 remaining db none_left =>
      rw [spill, if_neg none_left]
      simp [none_left]

theorem total_spill (m : { m : ℤ // 1 ≤ m }) {itemId : UInt32} {quality : UInt8} {remaining : ℤ}
    {db' : Database} (asked : 0 ≤ remaining) (sound : db.Sound)
    (done : db.spill m chara itemId quality remaining = some db') :
    db'.total chara PKG_NORMAL { itemId, quality } =
      db.total chara PKG_NORMAL { itemId, quality } + remaining := by
  revert asked sound
  refine spill_run ?_ ?_ done
  · intro remaining db slot left _ later asked sound
    have fits : Kind.matches { itemId, quality } ⟨itemId, min remaining m, quality⟩ = true := by
      simp [Kind.matches]
    rw [later (by omega) (sound.insertItem _ _ _ _), total_insertItem sound,
      if_pos ⟨rfl, rfl, fits⟩]
    dsimp only
    omega
  · intro remaining none_left asked _
    omega

theorem addHarvestItem_isSome_iff {maxStack : UInt32 → Option ℤ} (sound : db.Sound)
    (tidy : Tidy (stackLimit maxStack) db chara) {itemId : UInt32} {delta : Int32}
    {quality : UInt8} (asked : ¬ (delta ≤ 0 ∨ itemId = 0)) :
    (db.addHarvestItem maxStack chara itemId delta quality).isSome = true ↔
      db.HasRoom maxStack chara itemId quality delta.toInt := by
  have some_asked := positive_of_not_le (not_or.mp asked).1
  have known : ((db.getItemPackage chara PKG_NORMAL).filter
      (Kind.matches { itemId, quality } ·.2)).mapM (fun stack : ℕ × ServerItem =>
        (readI32 stack.2.quantity).map (stack.1, ·)) = some (db.existing chara itemId quality) := by
    apply mapM_readI32
    intro stack inside
    exact (tidy.held_fit ((filter_getItemPackage _ _).mem_iff.mp inside)).read
  rw [addHarvestItem, if_neg asked, HasRoom]
  cases limit : stackMax maxStack itemId with
  | none => simp
  | some m =>
      have room := spare_nonneg m (db.existing chara itemId quality)
      obtain ⟨low, _, added⟩ := effect_topUp_existing limit chara quality some_asked.le sound tidy
      have left := topUp_left m (db.existing chara itemId quality) some_asked.le db
      have rows : (topUp m delta.toInt (db.existing chara itemId quality) db).2.nextSlot chara
          PKG_NORMAL = db.nextSlot chara PKG_NORMAL := by
        rw [nextSlot, inventory_topUp, nextSlot]
      have keys : ((db.existing chara itemId quality).map Prod.fst).Nodup := by
        rw [existing, List.map_map]
        exact ((filter_getItemPackage PKG_NORMAL { itemId, quality }).map Prod.fst).nodup_iff.mpr
          (held_keys sound _ _)
      obtain ⟨_, topped⟩ := total_topUp m { itemId, quality }
        (db.existing chara itemId quality) keys delta.toInt sound fun id quantity inside => by
          obtain ⟨stack, kept, same⟩ := List.mem_map.mp inside
          cases same
          exact ⟨stack.2, (filter_getItemPackage _ _).mem_iff.mp kept⟩
      have some_held := (tidy.total_le PKG_NORMAL { itemId, quality }).1
      have poured := spill_isSome_iff m chara itemId quality
        (topUp m delta.toInt (db.existing chara itemId quality) db).1
        (topUp m delta.toInt (db.existing chara itemId quality) db).2
      rw [left, rows] at poured
      have reach : (0 < max (delta.toInt - spare m (db.existing chara itemId quality)) 0 →
            -2 ^ 31 ≤ db.nextSlot chara PKG_NORMAL ∧ db.nextSlot chara PKG_NORMAL +
              (max (delta.toInt - spare m (db.existing chara itemId quality)) 0 - 1) / m <
                2 ^ 31) ↔
          (0 < delta.toInt - spare m (db.existing chara itemId quality) →
            -2 ^ 31 ≤ db.nextSlot chara PKG_NORMAL ∧ db.nextSlot chara PKG_NORMAL +
              (delta.toInt - spare m (db.existing chara itemId quality) - 1) / m < 2 ^ 31) := by
        by_cases beyond : 0 < delta.toInt - spare m (db.existing chara itemId quality)
        · rw [max_eq_left beyond.le]
        · rw [max_eq_right (not_lt.mp beyond)]
          simp only [lt_irrefl, beyond, false_imp_iff]
      simp only [known, Option.bind_eq_bind, Option.bind_some, Option.some.injEq, exists_eq_left',
        ← reach, ← poured, left]
      cases done : (topUp m delta.toInt (db.existing chara itemId quality) db).2.spill m chara
          itemId quality (max (delta.toInt - spare m (db.existing chara itemId quality)) 0) with
      | none => simp
      | some spilled =>
          rw [← left] at done
          have total := total_spill m low added.sound done
          simp only [Option.bind_some, Option.isSome_some, true_and, total, topped, readI32]
          split
          · next small =>
              simp only [Option.bind_some, Option.isSome_some, true_iff]
              omega
          · next large =>
              simp only [Option.bind_none, Option.isSome_none, Bool.false_eq_true, false_iff]
              omega

end Database
end Garlemald.Storage
