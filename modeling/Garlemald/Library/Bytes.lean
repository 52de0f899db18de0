import Mathlib.Data.Nat.ModEq

/-!
Little-endian byte strings. A natural number is laid out least significant byte
first in a fixed width, and the machine words of 8, 16, 32 and 64 bits are the
widths 1, 2, 4 and 8 of that one layout.
-/

namespace Library

abbrev Bytes := List UInt8

/-- The `width` low bytes of `n`, least significant first. -/
def leBytes : Nat → Nat → Bytes
  | 0, _ => []
  | width + 1, n => UInt8.ofNat n :: leBytes width (n / 256)

def leValue : Bytes → Nat
  | [] => 0
  | b :: bs => b.toNat + 256 * leValue bs

def zeros (n : Nat) : Bytes := List.replicate n 0

@[simp] theorem length_zeros (n : Nat) : (zeros n).length = n := List.length_replicate

theorem zeros_add (n m : Nat) : zeros (n + m) = zeros n ++ zeros m :=
  List.replicate_append_replicate.symm

@[simp] theorem length_leBytes (width n : Nat) : (leBytes width n).length = width := by
  induction width generalizing n with
  | zero => rfl
  | succ width ih => simp only [leBytes, List.length_cons, ih]

theorem leValue_leBytes (width n : Nat) : leValue (leBytes width n) = n % 256 ^ width := by
  induction width generalizing n with
  | zero => simp only [leBytes, leValue, Nat.pow_zero, Nat.mod_one]
  | succ width ih =>
      have low : (UInt8.ofNat n).toNat = n % 256 := UInt8.toNat_ofNat' ..
      rw [leBytes, leValue, ih, low, Nat.pow_succ', Nat.mod_mul]

theorem leValue_leBytes_of_lt {width n : Nat} (h : n < 256 ^ width) :
    leValue (leBytes width n) = n := by
  rw [leValue_leBytes, Nat.mod_eq_of_lt h]

theorem leValue_zeros (n : Nat) : leValue (zeros n) = 0 := by
  induction n with
  | zero => rfl
  | succ n ih =>
      change (0 : UInt8).toNat + 256 * leValue (zeros n) = 0
      rw [ih]
      rfl

theorem leBytes_leValue (bs : Bytes) : leBytes bs.length (leValue bs) = bs := by
  induction bs with
  | nil => rfl
  | cons b bs ih =>
      have low : UInt8.ofNat (b.toNat + 256 * leValue bs) = b := by
        apply UInt8.toNat_inj.mp
        have small := b.toNat_lt
        rw [UInt8.toNat_ofNat']
        omega
      have high : (b.toNat + 256 * leValue bs) / 256 = leValue bs := by
        have small := b.toNat_lt
        omega
      rw [List.length_cons, leValue, leBytes, low, high, ih]

theorem leValue_lt (bs : Bytes) : leValue bs < 256 ^ bs.length := by
  induction bs with
  | nil => exact Nat.one_pos
  | cons b bs ih =>
      have small := b.toNat_lt
      rw [leValue, List.length_cons, Nat.pow_succ]
      omega

def u16Bytes (x : UInt16) : Bytes := leBytes 2 x.toNat

def u32Bytes (x : UInt32) : Bytes := leBytes 4 x.toNat

def u64Bytes (x : UInt64) : Bytes := leBytes 8 x.toNat

def u16Value (bs : Bytes) : UInt16 := UInt16.ofNat (leValue bs)

def u32Value (bs : Bytes) : UInt32 := UInt32.ofNat (leValue bs)

def u64Value (bs : Bytes) : UInt64 := UInt64.ofNat (leValue bs)

theorem u16Bytes_eq (x : UInt16) :
    u16Bytes x = [UInt8.ofNat x.toNat, UInt8.ofNat (x.toNat / 256)] := rfl

@[simp] theorem length_u16Bytes (x : UInt16) : (u16Bytes x).length = 2 := length_leBytes ..

@[simp] theorem length_u32Bytes (x : UInt32) : (u32Bytes x).length = 4 := length_leBytes ..

@[simp] theorem length_u64Bytes (x : UInt64) : (u64Bytes x).length = 8 := length_leBytes ..

@[simp] theorem u16Value_u16Bytes (x : UInt16) : u16Value (u16Bytes x) = x := by
  rw [u16Value, u16Bytes, leValue_leBytes_of_lt x.toNat_lt, UInt16.ofNat_toNat]

@[simp] theorem u32Value_u32Bytes (x : UInt32) : u32Value (u32Bytes x) = x := by
  rw [u32Value, u32Bytes, leValue_leBytes_of_lt x.toNat_lt, UInt32.ofNat_toNat]

@[simp] theorem u64Value_u64Bytes (x : UInt64) : u64Value (u64Bytes x) = x := by
  rw [u64Value, u64Bytes, leValue_leBytes_of_lt x.toNat_lt, UInt64.ofNat_toNat]

theorem u32Bytes_u32Value {bs : Bytes} (h : bs.length = 4) : u32Bytes (u32Value bs) = bs := by
  have small := leValue_lt bs
  rw [h] at small
  have whole := leBytes_leValue bs
  rw [h] at whole
  rw [u32Bytes, u32Value, UInt32.toNat_ofNat_of_lt' small, whole]

/-! ### Most significant byte first -/

def u16BytesBe (x : UInt16) : Bytes := (u16Bytes x).reverse

def u32BytesBe (x : UInt32) : Bytes := (u32Bytes x).reverse

def u64BytesBe (x : UInt64) : Bytes := (u64Bytes x).reverse

def u16ValueBe (bs : Bytes) : UInt16 := u16Value bs.reverse

def u32ValueBe (bs : Bytes) : UInt32 := u32Value bs.reverse

def u64ValueBe (bs : Bytes) : UInt64 := u64Value bs.reverse

@[simp] theorem u32ValueBe_u32BytesBe (x : UInt32) : u32ValueBe (u32BytesBe x) = x := by
  rw [u32ValueBe, u32BytesBe, List.reverse_reverse, u32Value_u32Bytes]

@[simp] theorem u64ValueBe_u64BytesBe (x : UInt64) : u64ValueBe (u64BytesBe x) = x := by
  rw [u64ValueBe, u64BytesBe, List.reverse_reverse, u64Value_u64Bytes]

@[simp] theorem length_u32BytesBe (x : UInt32) : (u32BytesBe x).length = 4 := by
  rw [u32BytesBe, List.length_reverse, length_u32Bytes]

@[simp] theorem length_u64BytesBe (x : UInt64) : (u64BytesBe x).length = 8 := by
  rw [u64BytesBe, List.length_reverse, length_u64Bytes]

end Library
