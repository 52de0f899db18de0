import Garlemald.Common.Murmur

/-!
The hash of a key beside MurmurHash2 as it is published. The walk from the end of the key, whose
blocks have their bytes exchanged, is the published walk over the bytes in reverse order, and none
of its indices leaves the key.
-/

namespace Garlemald.Common

open Library

/-! ### The published hash -/

def murmurScramble (k : UInt32) : UInt32 :=
  let k := k * murmurM
  let k := k ^^^ (k >>> 24)
  k * murmurM

/-- Blocks of four bytes from the front, then what is left of them. -/
def murmurReferenceBody : UInt32 → Bytes → UInt32
  | h, b0 :: b1 :: b2 :: b3 :: rest =>
      murmurReferenceBody ((h * murmurM) ^^^ murmurScramble (u32Value [b0, b1, b2, b3])) rest
  | h, [b0, b1, b2] =>
      (h ^^^ (b2.toUInt32 <<< 16) ^^^ (b1.toUInt32 <<< 8) ^^^ b0.toUInt32) * murmurM
  | h, [b0, b1] => (h ^^^ (b1.toUInt32 <<< 8) ^^^ b0.toUInt32) * murmurM
  | h, [b0] => (h ^^^ b0.toUInt32) * murmurM
  | h, [] => h

def murmurFinish (h : UInt32) : UInt32 :=
  let h := h ^^^ (h >>> 13)
  let h := h * murmurM
  h ^^^ (h >>> 15)

def murmurReference (key : Bytes) (seed : UInt32) : UInt32 :=
  murmurFinish (murmurReferenceBody (seed ^^^ .ofNat key.length) key)

/-! ### The walk with its indices -/

/-- The byte at a signed index; `none` is the panic of an index that is out of range. -/
def byteAt (data : Bytes) (index : ℤ) : Option UInt8 :=
  if 0 ≤ index then data[index.toNat]? else none

def murmurSwap (raw : UInt32) : UInt32 :=
  ((raw >>> 24) &&& (0xff : UInt32)) ||| ((raw <<< 8) &&& (0x00ff0000 : UInt32)) |||
    ((raw >>> 8) &&& (0x0000ff00 : UInt32)) ||| ((raw <<< 24) &&& (0xff000000 : UInt32))

def murmurTail (data : Bytes) (h : UInt32) : ℕ → Option UInt32
  | 3 => do
      let b0 ← byteAt data 0
      let b1 ← byteAt data 1
      let b2 ← byteAt data 2
      return (h ^^^ (b0.toUInt32 <<< 16) ^^^ (b1.toUInt32 <<< 8) ^^^ b2.toUInt32) * murmurM
  | 2 => do
      let b0 ← byteAt data 0
      let b1 ← byteAt data 1
      return (h ^^^ (b0.toUInt32 <<< 8) ^^^ b1.toUInt32) * murmurM
  | 1 => do
      let b0 ← byteAt data 0
      return (h ^^^ b0.toUInt32) * murmurM
  | _ => some h

/-- The loop over `len` and `dataIndex`, and the bytes that it leaves at the start. -/
def murmurWalk (data : Bytes) : UInt32 → ℤ → ℕ → Option UInt32
  | h, dataIndex, len + 4 => do
      let b0 ← byteAt data dataIndex
      let b1 ← byteAt data (dataIndex + 1)
      let b2 ← byteAt data (dataIndex + 2)
      let b3 ← byteAt data (dataIndex + 3)
      let k := murmurScramble (murmurSwap (u32Value [b0, b1, b2, b3]))
      murmurWalk data ((h * murmurM) ^^^ k) (dataIndex - 4) len
  | h, _, len => murmurTail data h len

def murmurHash2Checked (key : Text) (seed : UInt32) : Option UInt32 :=
  let data := utf8 key
  (murmurWalk data (seed ^^^ .ofNat data.length) (data.length - 4) data.length).map murmurFinish

/-! ### Words byte by byte -/

theorem toNat_u32Value (a b c d : UInt8) : (u32Value [a, b, c, d]).toNat =
    2 ^ 24 * d.toNat + (2 ^ 16 * c.toNat + (2 ^ 8 * b.toNat + a.toNat)) := by
  have ha := a.toNat_lt
  have hb := b.toNat_lt
  have hc := c.toNat_lt
  have hd := d.toNat_lt
  rw [u32Value, UInt32.toNat_ofNat']
  simp only [leValue]
  omega

theorem or_bytes {a b c d : ℕ} (ha : a < 2 ^ 8) (hb : b < 2 ^ 8) (hc : c < 2 ^ 8) :
    a ||| 2 ^ 16 * c ||| 2 ^ 8 * b ||| 2 ^ 24 * d =
      2 ^ 24 * d + (2 ^ 16 * c + (2 ^ 8 * b + a)) := by
  rw [Nat.two_pow_add_eq_or_of_lt (by omega), Nat.two_pow_add_eq_or_of_lt (by omega),
    Nat.two_pow_add_eq_or_of_lt (by omega)]
  ac_rfl

theorem and_byte (n i : ℕ) : n &&& (2 ^ 8 - 1) * 2 ^ i = 2 ^ i * (n / 2 ^ i % 2 ^ 8) := by
  rw [← Nat.shiftLeft_eq]
  apply Nat.eq_of_testBit_eq
  intro j
  rw [Nat.testBit_and, Nat.testBit_shiftLeft, Nat.testBit_two_pow_sub_one, Nat.mul_comm,
    ← Nat.shiftLeft_eq, Nat.testBit_shiftLeft, Nat.testBit_mod_two_pow,
    ← Nat.shiftRight_eq_div_pow, Nat.testBit_shiftRight]
  by_cases behind : i ≤ j
  · rw [show i + (j - i) = j by omega]
    simp [behind, Bool.and_comm]
  · simp [behind]

theorem murmurSwap_u32Value (a b c d : UInt8) :
    murmurSwap (u32Value [a, b, c, d]) = u32Value [d, c, b, a] := by
  have ha := a.toNat_lt
  have hb := b.toNat_lt
  have hc := c.toNat_lt
  have hd := d.toNat_lt
  have whole := toNat_u32Value a b c d
  rw [murmurSwap]
  generalize u32Value [a, b, c, d] = raw at whole ⊢
  have first : ((raw >>> 24) &&& (0xff : UInt32)).toNat = d.toNat := by
    rw [UInt32.toNat_and, UInt32.toNat_shiftRight, whole]
    change (_ >>> 24) &&& (2 ^ 8 - 1) * 2 ^ 0 = _
    rw [and_byte, Nat.shiftRight_eq_div_pow]
    omega
  have second : ((raw <<< 8) &&& (0x00ff0000 : UInt32)).toNat = 2 ^ 16 * b.toNat := by
    rw [UInt32.toNat_and, UInt32.toNat_shiftLeft, whole]
    change ((_ <<< 8) % 2 ^ 32) &&& (2 ^ 8 - 1) * 2 ^ 16 = _
    rw [and_byte, Nat.shiftLeft_eq]
    omega
  have third : ((raw >>> 8) &&& (0x0000ff00 : UInt32)).toNat = 2 ^ 8 * c.toNat := by
    rw [UInt32.toNat_and, UInt32.toNat_shiftRight, whole]
    change (_ >>> 8) &&& (2 ^ 8 - 1) * 2 ^ 8 = _
    rw [and_byte, Nat.shiftRight_eq_div_pow]
    omega
  have fourth : ((raw <<< 24) &&& (0xff000000 : UInt32)).toNat = 2 ^ 24 * a.toNat := by
    rw [UInt32.toNat_and, UInt32.toNat_shiftLeft, whole]
    change ((_ <<< 24) % 2 ^ 32) &&& (2 ^ 8 - 1) * 2 ^ 24 = _
    rw [and_byte, Nat.shiftLeft_eq]
    omega
  apply UInt32.toNat_inj.mp
  rw [toNat_u32Value, UInt32.toNat_or, UInt32.toNat_or, UInt32.toNat_or, first, second, third,
    fourth, or_bytes hd hc hb]

/-! ### The two walks -/

theorem byteAt_append (front : Bytes) {back : Bytes} {i : ℕ} {b : UInt8}
    (found : back[i]? = some b) : byteAt (front ++ back) (front.length + i) = some b := by
  have index : ((front.length : ℤ) + i).toNat = front.length + i := by omega
  rw [byteAt, if_pos (by omega), index, List.getElem?_append_right (by omega),
    Nat.add_sub_cancel_left, found]

/-- The code that walks `data` is left with the bytes that the published walk has still to read,
in reverse order; behind them lies what both have read. -/
theorem murmurWalk_reverse (key done : Bytes) (h : UInt32) :
    murmurWalk (key.reverse ++ done) h (key.length - 4) key.length =
      some (murmurReferenceBody h key) := by
  induction h, key using murmurReferenceBody.induct generalizing done with
  | case1 h b0 b1 b2 b3 rest ih =>
      have split : (b0 :: b1 :: b2 :: b3 :: rest).reverse ++ done =
          rest.reverse ++ (b3 :: b2 :: b1 :: b0 :: done) := by simp
      have index : (((b0 :: b1 :: b2 :: b3 :: rest).length : ℕ) : ℤ) - 4 = rest.length := by
        simp only [List.length_cons]
        omega
      have block (i : ℕ) {b : UInt8} (found : (b3 :: b2 :: b1 :: b0 :: done)[i]? = some b) :
          byteAt (rest.reverse ++ (b3 :: b2 :: b1 :: b0 :: done)) (rest.length + i) = some b := by
        rw [← List.length_reverse]
        exact byteAt_append rest.reverse found
      have at0 : byteAt _ rest.length = some b3 := block 0 rfl
      have at1 : byteAt _ (rest.length + 1) = some b2 := block 1 rfl
      have at2 : byteAt _ (rest.length + 2) = some b1 := block 2 rfl
      have at3 : byteAt _ (rest.length + 3) = some b0 := block 3 rfl
      rw [index, split]
      change murmurWalk _ h _ (rest.length + 4) = _
      rw [murmurWalk, at0, at1, at2, at3]
      simp only [Option.bind_eq_bind, Option.bind_some, murmurSwap_u32Value]
      rw [murmurReferenceBody]
      exact ih (b3 :: b2 :: b1 :: b0 :: done)
  | case2 h b0 b1 b2 => rfl
  | case3 h b0 b1 => rfl
  | case4 h b0 => rfl
  | case5 h => rfl

-- An equation of functions: over a given hash, `rfl` evaluates the products.
theorem murmurBlocks_block (data : Bytes) (len : ℕ) :
    murmurBlocks data (len + 4) = fun h =>
      murmurBlocks data len ((h * murmurM) ^^^ murmurBlock data len) := rfl

theorem murmurBlock_eq (data : Bytes) (index : ℕ) : murmurBlock data index =
    murmurScramble (murmurSwap (u32Value ((data.drop index).take 4))) := by
  simp only [murmurBlock, murmurScramble, murmurSwap]

theorem murmurBlocks_reverse (key done : Bytes) (h : UInt32) :
    murmurBlocks (key.reverse ++ done) key.length h = murmurReferenceBody h key := by
  induction h, key using murmurReferenceBody.induct generalizing done with
  | case1 h b0 b1 b2 b3 rest ih =>
      have split : (b0 :: b1 :: b2 :: b3 :: rest).reverse ++ done =
          rest.reverse ++ (b3 :: b2 :: b1 :: b0 :: done) := by simp
      have block : ((rest.reverse ++ (b3 :: b2 :: b1 :: b0 :: done)).drop rest.length).take 4 =
          [b3, b2, b1, b0] := by
        rw [List.drop_left' List.length_reverse]
        rfl
      rw [split]
      change murmurBlocks _ (rest.length + 4) h = _
      rw [murmurBlocks_block]
      dsimp only
      rw [murmurBlock_eq, block, murmurSwap_u32Value, murmurReferenceBody]
      exact ih (b3 :: b2 :: b1 :: b0 :: done)
  | case2 h b0 b1 b2 => rfl
  | case3 h b0 b1 => rfl
  | case4 h b0 => rfl
  | case5 h => rfl

/-- The hash reads no byte outside its key and is the published hash of the key's bytes in
reverse order. -/
theorem murmurHash2_eq_reference (key : Text) (seed : UInt32) :
    murmurHash2Checked key seed = some (murmurHash2 key seed) ∧
      murmurHash2 key seed = murmurReference (utf8 key).reverse seed := by
  have walk := murmurWalk_reverse (utf8 key).reverse [] (seed ^^^ .ofNat (utf8 key).length)
  have blocks := murmurBlocks_reverse (utf8 key).reverse [] (seed ^^^ .ofNat (utf8 key).length)
  rw [List.append_nil, List.reverse_reverse, List.length_reverse] at walk blocks
  have whole : murmurHash2 key seed = murmurReference (utf8 key).reverse seed := by
    rw [murmurHash2, blocks, murmurReference, List.length_reverse]
    rfl
  refine ⟨?_, whole⟩
  rw [whole, murmurHash2Checked, walk, murmurReference, List.length_reverse]
  rfl

end Garlemald.Common
