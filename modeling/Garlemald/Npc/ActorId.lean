import Garlemald.Common.Murmur

/-!
The ids of actors that are no players. An id packs the zone and a number of nineteen bits; the
numbers come from a counter at boot, from the id of a battle npc or from the hash of a name.
-/

namespace Garlemald.Npc

open Library Common

def compositeId (areaId actorNumber : UInt32) : UInt32 :=
  ((4 : UInt32) <<< 28) ||| (areaId <<< 19) ||| (actorNumber &&& 0x7FFFF)

def zoneBits (areaId : UInt32) : UInt32 := areaId &&& 0x17FF

theorem testBit_low : ∀ i < 32, Nat.testBit 0x7FFFF i = decide (i < 19) := by decide

theorem testBit_zone : ∀ i < 32, Nat.testBit 0x17FF i = decide (i < 13 ∧ i ≠ 11) := by decide

theorem getLsbD_compositeId {areaId actorNumber : UInt32} {i : ℕ} (small : i < 32) :
    (compositeId areaId actorNumber).toBitVec.getLsbD i =
      (decide (i = 30) || (decide (19 ≤ i) && areaId.toBitVec.getLsbD (i - 19)) ||
        (actorNumber.toBitVec.getLsbD i && decide (i < 19))) := by
  have tag : ∀ i < 32, ((4 : UInt32) <<< 28).toBitVec.getLsbD i = decide (i = 30) := by decide
  have low : (0x7FFFF : UInt32).toBitVec.getLsbD i = decide (i < 19) := testBit_low i small
  have zone : (areaId <<< 19).toBitVec.getLsbD i =
      (decide (19 ≤ i) && areaId.toBitVec.getLsbD (i - 19)) := by
    change (areaId.toBitVec <<< 19).getLsbD i = _
    rw [BitVec.getLsbD_shiftLeft]
    by_cases below : i < 19 <;> simp [small, below, Nat.not_le.mpr, Nat.not_lt.mp]
  rw [compositeId, UInt32.toBitVec_or, UInt32.toBitVec_or, UInt32.toBitVec_and, BitVec.getLsbD_or,
    BitVec.getLsbD_or, BitVec.getLsbD_and, tag i small, zone, low]

theorem getLsbD_zoneBits {areaId : UInt32} {i : ℕ} (small : i < 32) :
    (zoneBits areaId).toBitVec.getLsbD i =
      (areaId.toBitVec.getLsbD i && decide (i < 13 ∧ i ≠ 11)) := by
  have zone : (0x17FF : UInt32).toBitVec.getLsbD i = decide (i < 13 ∧ i ≠ 11) :=
    testBit_zone i small
  rw [zoneBits, UInt32.toBitVec_and, BitVec.getLsbD_and, zone]

theorem low_compositeId (areaId actorNumber : UInt32) :
    compositeId areaId actorNumber &&& 0x7FFFF = actorNumber &&& 0x7FFFF := by
  apply UInt32.toBitVec_inj.mp
  apply BitVec.eq_of_getLsbD_eq
  intro i small
  have low : (0x7FFFF : UInt32).toBitVec.getLsbD i = decide (i < 19) := testBit_low i small
  rw [UInt32.toBitVec_and, UInt32.toBitVec_and, BitVec.getLsbD_and, BitVec.getLsbD_and, low,
    getLsbD_compositeId small]
  by_cases below : i < 19
  · simp [below, show i ≠ 30 by omega, show ¬ 19 ≤ i by omega]
  · simp [below]

theorem zone_compositeId (areaId actorNumber : UInt32) :
    zoneBits (compositeId areaId actorNumber >>> 19) = zoneBits areaId := by
  apply UInt32.toBitVec_inj.mp
  apply BitVec.eq_of_getLsbD_eq
  intro i small
  rw [getLsbD_zoneBits small, getLsbD_zoneBits small]
  by_cases inside : i < 13 ∧ i ≠ 11
  · have shifted : (compositeId areaId actorNumber >>> 19).toBitVec.getLsbD i =
        (compositeId areaId actorNumber).toBitVec.getLsbD (19 + i) :=
      BitVec.getLsbD_ushiftRight ..
    rw [shifted, getLsbD_compositeId (by omega)]
    simp [show 19 + i ≠ 30 by omega, show ¬ 19 + i < 19 by omega]
  · simp [inside]

theorem compositeId_low (areaId actorNumber : UInt32) :
    compositeId (zoneBits areaId) (actorNumber &&& 0x7FFFF) = compositeId areaId actorNumber := by
  apply UInt32.toBitVec_inj.mp
  apply BitVec.eq_of_getLsbD_eq
  intro i small
  have low : (0x7FFFF : UInt32).toBitVec.getLsbD i = decide (i < 19) := testBit_low i small
  rw [getLsbD_compositeId small, getLsbD_compositeId small, getLsbD_zoneBits (by omega),
    UInt32.toBitVec_and, BitVec.getLsbD_and, low]
  by_cases tag : i = 30
  · simp [tag]
  · simp [show i - 19 < 13 ∧ i - 19 ≠ 11 by omega]

theorem toNat_low (number : UInt32) : (number &&& 0x7FFFF).toNat = number.toNat % 2 ^ 19 := by
  rw [UInt32.toNat_and]
  exact Nat.and_two_pow_sub_one_eq_mod number.toNat 19

theorem compositeId_eq_iff (zone zone' number number' : UInt32) :
    compositeId zone number = compositeId zone' number' ↔
      zoneBits zone = zoneBits zone' ∧ number.toNat % 2 ^ 19 = number'.toNat % 2 ^ 19 := by
  rw [← toNat_low number, ← toNat_low number', UInt32.toNat_inj]
  constructor
  · intro same
    rw [← zone_compositeId zone number, ← low_compositeId zone number, same, zone_compositeId,
      low_compositeId]
    exact ⟨rfl, rfl⟩
  · intro parts
    rw [← compositeId_low zone number, parts.1, parts.2, compositeId_low]

def battleNpcNumber (id : UInt32) : UInt32 := 0x40000 ||| (id &&& 0x3FFFF)

theorem toNat_battleNpcNumber (id : UInt32) :
    (battleNpcNumber id).toNat = 2 ^ 18 + id.toNat % 2 ^ 18 := by
  have small : id.toNat % 2 ^ 18 < 2 ^ 18 := Nat.mod_lt _ (by decide)
  have marked := Nat.two_pow_add_eq_or_of_lt small 1
  have low : (id &&& 0x3FFFF).toNat = id.toNat % 2 ^ 18 := by
    rw [UInt32.toNat_and]
    exact Nat.and_two_pow_sub_one_eq_mod id.toNat 18
  rw [battleNpcNumber, UInt32.toNat_or, low]
  exact marked.symm

def namedNumber (uniqueId : Text) : UInt32 := (0x60000 ||| (murmurHash2 uniqueId 0 &&& 0xFFF)) + 5

theorem toNat_namedNumber (uniqueId : Text) : (namedNumber uniqueId).toNat =
    2 ^ 18 + 2 ^ 17 + (murmurHash2 uniqueId 0).toNat % 2 ^ 12 + 5 := by
  have small : (murmurHash2 uniqueId 0).toNat % 2 ^ 12 < 2 ^ 12 := Nat.mod_lt _ (by decide)
  have marked := Nat.two_pow_add_eq_or_of_lt small 96
  have low : (murmurHash2 uniqueId 0 &&& 0xFFF).toNat =
      (murmurHash2 uniqueId 0).toNat % 2 ^ 12 := by
    rw [UInt32.toNat_and]
    exact Nat.and_two_pow_sub_one_eq_mod (murmurHash2 uniqueId 0).toNat 12
  have whole : (0x60000 ||| (murmurHash2 uniqueId 0 &&& 0xFFF)).toNat =
      2 ^ 18 + 2 ^ 17 + (murmurHash2 uniqueId 0).toNat % 2 ^ 12 := by
    rw [UInt32.toNat_or, low]
    exact marked.symm
  have five : (5 : UInt32).toNat = 5 := rfl
  rw [namedNumber, UInt32.toNat_add, whole, five]
  exact Nat.mod_eq_of_lt (by omega)

end Garlemald.Npc
