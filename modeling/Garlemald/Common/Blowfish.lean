import Garlemald.Library.Feistel
import Garlemald.Common.Decoders

/-!
The Blowfish cipher over 64-bit blocks and over stretches of a buffer, in place.
Nothing here depends on the contents of the key tables: deciphering undoes
enciphering under every P-array and all four S-boxes.
-/

namespace Garlemald.Common
open Library

inductive CipherError where
  | packet (e : PacketError)
  | blowfishBlockMisaligned (length : Nat)
deriving DecidableEq, Repr

/-- A computed key schedule: the P-array and the S-boxes. -/
structure Blowfish where
  p : Fin 18 → UInt32
  s : Fin 4 → UInt8 → UInt32

abbrev InPlace := Outcome CipherError Unit × Bytes

abbrev Block := Feistel.Halves UInt32

namespace Blowfish

variable (bf : Blowfish)

local instance fourBoxes : NeZero 4 := ⟨by decide⟩

def f (x : UInt32) : UInt32 :=
  let d := x.toUInt8
  let x := x >>> 8
  let c := x.toUInt8
  let x := x >>> 8
  let b := x.toUInt8
  let x := x >>> 8
  let a := x.toUInt8
  let y := bf.s 0 a + bf.s 1 b
  let y := y ^^^ bf.s 2 c
  y + bf.s 3 d

def key (i : Nat) : UInt32 := bf.p (Fin.ofNat 18 i)

def encipherBlock (x : Block) : Block :=
  Feistel.finish (· ^^^ ·) (bf.key 16) (bf.key 17)
    (Feistel.rounds (· ^^^ ·) bf.f bf.key (List.range 16) x)

def decipherBlock (x : Block) : Block :=
  Feistel.finish (· ^^^ ·) (bf.key 1) (bf.key 0)
    (Feistel.rounds (· ^^^ ·) bf.f bf.key (List.range' 2 16).reverse x)

theorem xor_cancel (a b : UInt32) : (a ^^^ b) ^^^ b = a := by
  rw [UInt32.xor_assoc, UInt32.xor_self, UInt32.xor_zero]

theorem xor_swap (a b c : UInt32) : (a ^^^ b) ^^^ c = (a ^^^ c) ^^^ b := by
  rw [UInt32.xor_assoc, UInt32.xor_comm b c, UInt32.xor_assoc]

theorem decipherBlock_encipherBlock (x : Block) : bf.decipherBlock (bf.encipherBlock x) = x :=
  Feistel.backward_forward xor_cancel xor_swap bf.key 16 x

theorem encipherBlock_decipherBlock (x : Block) : bf.encipherBlock (bf.decipherBlock x) = x :=
  Feistel.forward_backward xor_cancel xor_swap bf.key 16 x

end Blowfish

def loadU32Le (bytes : Bytes) (i : Nat) : Option UInt32 :=
  if i + 4 ≤ bytes.length then some (u32Value ((bytes.drop i).take 4)) else none

/-- `bytes[i..i + 4].copy_from_slice(&x.to_le_bytes())` -/
def storeU32Le (bytes : Bytes) (i : Nat) (x : UInt32) : Option Bytes :=
  if i + 4 ≤ bytes.length then some (bytes.take i ++ (u32Bytes x ++ bytes.drop (i + 4))) else none

/-- `block` over `n` consecutive blocks from `i` on; `none` leaves the buffer. -/
def cipherBlocks (block : Block → Block) : Nat → Nat → Bytes → Option Bytes
  | 0, _, data => some data
  | n + 1, i, data => do
      let xl ← loadU32Le data i
      let xr ← loadU32Le data (i + 4)
      let (xl, xr) := block (xl, xr)
      let data ← storeU32Le data i xl
      let data ← storeU32Le data (i + 4) xr
      cipherBlocks block n (i + 8) data

/-- The loop of `encipher` and `decipher`: `i` runs from `offset` in steps of 8 while it is
below the end. -/
def cipher (m : Machine) (block : Block → Block) (data : Bytes) (offset length : Nat) : InPlace :=
  if length % 8 ≠ 0 then (.err (.blowfishBlockMisaligned length), data)
  else match m.add offset length with
    | .ok last =>
        match cipherBlocks block ((last - offset + 7) / 8) offset data with
        | some data => (.ok (), data)
        | none => (.panic, data)
    | .err e => (.err (.packet e), data)
    | .panic => (.panic, data)

def Blowfish.encipher (m : Machine) (bf : Blowfish) (data : Bytes) (offset length : Nat) :
    InPlace :=
  cipher m bf.encipherBlock data offset length

def Blowfish.decipher (m : Machine) (bf : Blowfish) (data : Bytes) (offset length : Nat) :
    InPlace :=
  cipher m bf.decipherBlock data offset length

/-! ### What the loop computes -/

/-- The first `n` blocks of a byte string put through `block`. -/
def blocks (block : Block → Block) : Nat → Bytes → Bytes
  | 0, bs => bs
  | n + 1, bs =>
      let x := block (u32Value (bs.take 4), u32Value ((bs.drop 4).take 4))
      u32Bytes x.1 ++ (u32Bytes x.2 ++ blocks block n (bs.drop 8))

variable {block unblock : Block → Block}

theorem exists_words (bs : Bytes) (enough : 8 ≤ bs.length) : ∃ left right rest : Bytes,
    left.length = 4 ∧ right.length = 4 ∧ bs = left ++ (right ++ rest) := by
  refine ⟨bs.take 4, (bs.drop 4).take 4, (bs.drop 4).drop 4, ?_, ?_, ?_⟩
  · rw [List.length_take]; omega
  · rw [List.length_take, List.length_drop]; omega
  · rw [List.take_append_drop, List.take_append_drop]

theorem blocks_words (block : Block → Block) (n : Nat) {left right : Bytes} (rest : Bytes)
    (four : left.length = 4) (four' : right.length = 4) :
    blocks block (n + 1) (left ++ (right ++ rest)) =
      u32Bytes (block (u32Value left, u32Value right)).1 ++
        (u32Bytes (block (u32Value left, u32Value right)).2 ++ blocks block n rest) := by
  have second : (left ++ (right ++ rest)).drop 4 = right ++ rest := List.drop_left' four
  have third : (left ++ (right ++ rest)).drop 8 = rest := by
    rw [← List.drop_drop (i := 4) (j := 4), second, List.drop_left' four']
  rw [blocks, second, third, List.take_left' four, List.take_left' four']

theorem length_blocks {n : Nat} {bs : Bytes} (enough : 8 * n ≤ bs.length) :
    (blocks block n bs).length = bs.length := by
  induction n generalizing bs with
  | zero => rfl
  | succ n ih =>
      have later := @ih (bs.drop 8) (by rw [List.length_drop]; omega)
      simp only [blocks, List.length_append, length_u32Bytes, later, List.length_drop]
      omega

theorem blocks_inverse (inverse : ∀ x, unblock (block x) = x) {n : Nat} {bs : Bytes}
    (enough : 8 * n ≤ bs.length) : blocks unblock n (blocks block n bs) = bs := by
  induction n generalizing bs with
  | zero => rfl
  | succ n ih =>
      obtain ⟨left, right, rest, four, four', rfl⟩ := exists_words bs (by omega)
      simp only [List.length_append] at enough
      rw [blocks_words block n rest four four', blocks_words unblock n _ (length_u32Bytes _)
        (length_u32Bytes _), ih (by omega)]
      simp only [u32Value_u32Bytes, Prod.mk.eta, inverse, u32Bytes_u32Value four,
        u32Bytes_u32Value four']

theorem loadU32Le_append (front : Bytes) {bs : Bytes} (back : Bytes) {i : Nat}
    (at_front : i = front.length) (four : bs.length = 4) :
    loadU32Le (front ++ (bs ++ back)) i = some (u32Value bs) := by
  have inside : i + 4 ≤ (front ++ (bs ++ back)).length := by
    simp only [List.length_append]; omega
  rw [loadU32Le, if_pos inside, at_front, List.drop_left, List.take_left' four]

theorem storeU32Le_append (front : Bytes) {bs : Bytes} (back : Bytes) {i : Nat}
    (at_front : i = front.length) (four : bs.length = 4) (x : UInt32) :
    storeU32Le (front ++ (bs ++ back)) i x = some (front ++ (u32Bytes x ++ back)) := by
  have inside : i + 4 ≤ (front ++ (bs ++ back)).length := by
    simp only [List.length_append]; omega
  have behind : (front ++ (bs ++ back)).drop (i + 4) = back := by
    rw [at_front, ← List.drop_drop, List.drop_left, List.drop_left' four]
  rw [storeU32Le, if_pos inside, behind, at_front, List.take_left]

theorem cipherBlocks_eq (block : Block → Block) (front back : Bytes) {n : Nat} {bs : Bytes}
    (exact : bs.length = 8 * n) :
    cipherBlocks block n front.length (front ++ (bs ++ back)) =
      some (front ++ (blocks block n bs ++ back)) := by
  induction n generalizing front bs with
  | zero => rfl
  | succ n ih =>
      obtain ⟨left, right, rest, four, four', rfl⟩ := exists_words bs (by omega)
      have tail : rest.length = 8 * n := by
        simp only [List.length_append] at exact
        omega
      have shape : front ++ ((left ++ (right ++ rest)) ++ back) =
          front ++ (left ++ (right ++ (rest ++ back))) := by simp only [List.append_assoc]
      have loadLeft := loadU32Le_append front (right ++ (rest ++ back)) rfl four
      have loadRight := loadU32Le_append (front ++ left) (i := front.length + 4)
        (rest ++ back) (by simp [four]) four'
      rw [List.append_assoc] at loadRight
      rw [blocks_words block n rest four four', shape]
      generalize words : block (u32Value left, u32Value right) = x
      have storeLeft := storeU32Le_append front (right ++ (rest ++ back)) rfl four x.1
      have storeRight := storeU32Le_append (front ++ u32Bytes x.1)
        (i := front.length + 4) (rest ++ back) (by simp) four' x.2
      rw [List.append_assoc] at storeRight
      have later := ih (front ++ (u32Bytes x.1 ++ u32Bytes x.2)) tail
      have position : (front ++ (u32Bytes x.1 ++ u32Bytes x.2)).length = front.length + 8 := by
        simp
      rw [position] at later
      simp only [List.append_assoc] at storeRight later ⊢
      simp only [cipherBlocks, Option.bind_eq_bind, loadLeft, loadRight, words, storeLeft,
        storeRight, later, Option.bind_some]

theorem cipher_eq (m : Machine) (block : Block → Block) (front body back : Bytes)
    (held : front.length + body.length < m.range) :
    cipher m block (front ++ (body ++ back)) front.length body.length =
      if body.length % 8 = 0 then
        (.ok (), front ++ (blocks block (body.length / 8) body ++ back))
      else (.err (.blowfishBlockMisaligned body.length), front ++ (body ++ back)) := by
  by_cases whole : body.length % 8 = 0
  · have count : (front.length + body.length - front.length + 7) / 8 = body.length / 8 := by omega
    have exact_blocks : body.length = 8 * (body.length / 8) := by omega
    have ran := cipherBlocks_eq block front back exact_blocks
    simp only [cipher, whole, ne_eq, not_true_eq_false, if_false, Machine.add, held, if_true, count,
      ran]
  · rw [cipher, if_pos whole, if_neg whole]

end Garlemald.Common
