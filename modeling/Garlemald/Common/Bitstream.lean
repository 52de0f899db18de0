import Mathlib.Data.Fin.Basic
import Mathlib.Logic.Function.Basic

/-!
The bit field of completed quests: bit `k` is in byte `k / 8`, the low bits of a byte first.
-/

namespace Garlemald.Common

def BITSTREAM_BITS : ℕ := 2048
def BITSTREAM_BYTES : ℕ := BITSTREAM_BITS / 8

structure Bitstream2048 where
  data : Fin BITSTREAM_BYTES → UInt8

namespace Bitstream2048

def new : Bitstream2048 := ⟨fun _ => 0⟩

def fromSlice (bytes : List UInt8) : Bitstream2048 := ⟨fun i => bytes.getD i 0⟩

def asBytes (b : Bitstream2048) : List UInt8 := List.ofFn b.data

theorem fromSlice_asBytes (b : Bitstream2048) : fromSlice b.asBytes = b := by
  cases b with
  | mk data => simp [fromSlice, asBytes]

theorem bytePos_lt {bit : ℕ} (inside : bit < BITSTREAM_BITS) : bit / 8 < BITSTREAM_BYTES := by
  simp only [BITSTREAM_BITS, BITSTREAM_BYTES] at *
  omega

def mask (bit : ℕ) : UInt8 := 1 <<< UInt8.ofNat (bit % 8)

def get (b : Bitstream2048) (bit : ℕ) : Bool :=
  if inside : bit < BITSTREAM_BITS then b.data ⟨bit / 8, bytePos_lt inside⟩ &&& mask bit != 0
  else false

def set (b : Bitstream2048) (bit : ℕ) : Bitstream2048 :=
  if inside : bit < BITSTREAM_BITS then
    let bytePos := ⟨bit / 8, bytePos_lt inside⟩
    ⟨Function.update b.data bytePos (b.data bytePos ||| mask bit)⟩
  else b

def clear (b : Bitstream2048) (bit : ℕ) : Bitstream2048 :=
  if inside : bit < BITSTREAM_BITS then
    let bytePos := ⟨bit / 8, bytePos_lt inside⟩
    ⟨Function.update b.data bytePos (b.data bytePos &&& ~~~ mask bit)⟩
  else b

theorem toBitVec_mask (bit : ℕ) : (mask bit).toBitVec = BitVec.twoPow 8 (bit % 8) := by
  have bits : ∀ k < 8, (1 <<< UInt8.ofNat k).toBitVec = BitVec.twoPow 8 k := by decide
  exact bits (bit % 8) (Nat.mod_lt _ (by decide))

theorem or_mask {byte : UInt8} {bit : ℕ} (present : byte &&& mask bit ≠ 0) :
    byte ||| mask bit = byte := by
  have held : byte.toBitVec.getLsbD (bit % 8) = true := by
    by_contra clear
    refine present (UInt8.toBitVec_inj.mp ?_)
    rw [UInt8.toBitVec_and, toBitVec_mask, BitVec.and_twoPow, if_neg clear]
    rfl
  apply UInt8.toBitVec_inj.mp
  rw [UInt8.toBitVec_or, toBitVec_mask]
  ext k inside
  rw [BitVec.getElem_or, BitVec.getElem_twoPow]
  by_cases here : k = bit % 8
  · subst here
    rw [← BitVec.getLsbD_eq_getElem, held, Bool.true_or]
  · rw [decide_eq_false here, Bool.or_false]

theorem set_of_get {b : Bitstream2048} {bit : ℕ} (present : b.get bit = true) : b.set bit = b := by
  by_cases inside : bit < BITSTREAM_BITS
  · simp only [get, inside, dite_true, bne_iff_ne, set] at *
    rw [or_mask present, Function.update_eq_self]
  · simp only [set, inside, dite_false]

end Bitstream2048
end Garlemald.Common
