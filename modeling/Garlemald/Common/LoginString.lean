import Garlemald.Library.Utf8
import Mathlib.Data.List.Basic
import Mathlib.Logic.Function.Iterate

/-!
The login string: a count and the bytes of a text under a key of 16 bits that is stepped
from the last byte to the first, and then twice more. The decoder steps it back from the
front. It does not mask its subtraction, so a borrow reaches the rotation that follows.
-/

namespace Garlemald.Common
open Library

def rotateLeft (value bits : UInt32) : UInt32 := (value <<< bits) ||| (value >>> (16 - bits))

def rotateRight (value bits : UInt32) : UInt32 := (value >>> bits) ||| (value <<< (16 - bits))

def encodeStep (key : UInt32) : UInt32 := rotateLeft ((key + 0x22AF) &&& 0xFFFF) 1 &&& 0xFFFF

def decodeStep (key : UInt32) : UInt32 := (rotateRight key 1 &&& 0xFFFF) - 0x22AF

def lowByte (key : UInt32) : UInt8 := (key &&& 0xFF).toUInt8

/-- The loop of the encoder, which goes from the last byte to the first. -/
def encodeBytes (key : UInt32) : Bytes → Bytes × UInt32
  | [] => ([], key)
  | b :: bs =>
      let later := encodeBytes key bs
      ((b ^^^ lowByte later.2) :: later.1, encodeStep later.2)

def ffxivLoginStringEncode (key : UInt32) (text : Text) : Bytes :=
  let ascii := utf8 text
  let (body, key) := encodeBytes (key &&& 0xFFFF) ascii
  let count := UInt32.ofNat ascii.length ^^^ key
  let key' := encodeStep key
  let key'' := encodeStep key'
  [lowByte (key'' >>> 8), lowByte key'', lowByte key', lowByte count] ++ body

/-- The loop of the decoder; `none` is a read behind the data. -/
def decodeChars (data : Bytes) : Nat → Nat → UInt32 → Option Text
  | 0, _, _ => some []
  | count + 1, idx, finalKey => do
      let encrypted ← data[4 + idx]?
      let finalKey := decodeStep finalKey
      let ch := encrypted.toUInt32 ^^^ (finalKey &&& 0xFF)
      let rest ← decodeChars data count (idx + 1) finalKey
      return Char.ofNat ch.toUInt8.toNat :: rest

def ffxivLoginStringDecode (data : Bytes) : Option Text := do
  let key := ((← data[0]?).toUInt32 <<< 8) ||| (← data[1]?).toUInt32
  let key2 := (← data[2]?).toUInt32
  let key := decodeStep key
  let key2 := key2 ^^^ key
  let finalKey := decodeStep key
  let k3 := (← data[3]?).toUInt32
  let k3 := (k3 ^^^ finalKey) &&& 0xFF
  let count := ((key2 &&& 0xFF) <<< 8) ||| k3
  decodeChars data count.toNat 0 finalKey

/-! ### The steps as arithmetic -/

def summed (k : ℕ) : ℕ := (k + 0x22AF) % 65536

theorem toNat_encodeStep (key : UInt32) :
    (encodeStep key).toNat = 2 * summed key.toNat % 65536 + summed key.toNat / 32768 := by
  have masked : ((key + 0x22AF) &&& 0xFFFF).toNat = summed key.toNat := by
    rw [UInt32.toNat_and, UInt32.toNat_add]
    change (key.toNat + 0x22AF) % 2 ^ 32 &&& (2 ^ 16 - 1) = _
    rw [Nat.and_two_pow_sub_one_eq_mod, summed]
    omega
  have below : summed key.toNat < 65536 := Nat.mod_lt _ (by decide)
  rw [encodeStep, rotateLeft, UInt32.toNat_and, UInt32.toNat_or, UInt32.toNat_shiftLeft,
    UInt32.toNat_shiftRight, masked]
  generalize summed key.toNat = s at below
  change (s <<< 1 % 2 ^ 32 ||| s >>> 15) &&& (2 ^ 16 - 1) = _
  rw [Nat.and_two_pow_sub_one_eq_mod, Nat.or_mod_two_pow, Nat.shiftLeft_eq,
    Nat.shiftRight_eq_div_pow]
  have high : s / 2 ^ 15 % 2 ^ 16 = s / 32768 := by omega
  have low : s * 2 ^ 1 % 2 ^ 32 % 2 ^ 16 = 2 ^ 1 * (s % 32768) := by omega
  rw [high, low, ← Nat.two_pow_add_eq_or_of_lt (by omega)]
  omega

theorem encodeStep_lt (key : UInt32) : (encodeStep key).toNat < 65536 := by
  rw [toNat_encodeStep]
  have below : summed key.toNat < 65536 := Nat.mod_lt _ (by decide)
  omega

/-- The bit that the rotation of a decoder step brings to the top: a borrow comes in, too. -/
def carried (d : ℕ) : ℕ := if d / 65536 % 2 = 1 ∨ d % 2 = 1 then 1 else 0

theorem toNat_decodeStep (key : UInt32) : (decodeStep key).toNat =
    (key.toNat / 2 % 32768 + 32768 * carried key.toNat + (2 ^ 32 - 0x22AF)) % 2 ^ 32 := by
  have rotated : (rotateRight key 1 &&& 0xFFFF).toNat =
      key.toNat / 2 % 32768 + 32768 * carried key.toNat := by
    rw [rotateRight, UInt32.toNat_and, UInt32.toNat_or, UInt32.toNat_shiftLeft,
      UInt32.toNat_shiftRight]
    generalize key.toNat = d
    change (d >>> 1 ||| d <<< 15 % 2 ^ 32) &&& (2 ^ 16 - 1) = _
    rw [Nat.and_two_pow_sub_one_eq_mod, Nat.or_mod_two_pow, Nat.shiftLeft_eq,
      Nat.shiftRight_eq_div_pow]
    have top : d * 2 ^ 15 % 2 ^ 32 % 2 ^ 16 = 2 ^ 15 * (d % 2) := by omega
    have low : d / 2 ^ 1 % 2 ^ 16 = 2 ^ 15 * (d / 65536 % 2) + d / 2 % 32768 := by omega
    have either : 2 ^ 15 * (d / 65536 % 2) ||| 2 ^ 15 * (d % 2) = 2 ^ 15 * carried d := by
      rw [carried]
      rcases Nat.mod_two_eq_zero_or_one (d / 65536) with clear | set <;>
      rcases Nat.mod_two_eq_zero_or_one d with even | odd <;> simp [*]
    have small : d / 2 % 32768 < 2 ^ 15 := Nat.mod_lt _ (by decide)
    rw [top, low, Nat.two_pow_add_eq_or_of_lt small, Nat.or_assoc, Nat.or_comm (d / 2 % 32768),
      ← Nat.or_assoc, either,
      ← Nat.two_pow_add_eq_or_of_lt small]
    omega
  rw [decodeStep, UInt32.toNat_sub, rotated]
  change (2 ^ 32 - 0x22AF + _) % 2 ^ 32 = _
  rw [Nat.add_comm]

/-! ### How far the decoder's key is right -/

def Near (b : ℕ) (d k : UInt32) : Prop := d.toNat ≡ k.toNat [MOD 2 ^ b]

def Off (b : ℕ) (d k : UInt32) : Prop := d.toNat ≡ k.toNat + 2 ^ b [MOD 2 ^ (b + 1)]

/-- The decoder's key is the encoder's, and has a borrow above it if the sum of the
encoder's step is more than 16 bits. -/
structure Tracks (d k : UInt32) : Prop where
  near : Near 16 d k
  borrow : d.toNat / 65536 % 2 = 1 ↔ 0xDD51 ≤ k.toNat

/-- A key at which a borrow makes no difference to the next rotation, or there is none. -/
def Steady (k : UInt32) : Prop := k.toNat % 2 = 1 ∨ k.toNat < 0xDD51

instance (k : UInt32) : Decidable (Steady k) := inferInstanceAs (Decidable (_ ∨ _))

variable {d k : UInt32} {b : ℕ}

theorem encodeStep_half (k : UInt32) (inside : b ≤ 15) :
    k.toNat + 0x22AF ≡ (encodeStep k).toNat / 2 [MOD 2 ^ b] := by
  have halved : (encodeStep k).toNat / 2 = (k.toNat + 0x22AF) % 2 ^ 15 := by
    have below : summed k.toNat < 65536 := Nat.mod_lt _ (by decide)
    rw [toNat_encodeStep]
    have fits : (k.toNat + 0x22AF) % 2 ^ 15 = summed k.toNat % 32768 := by
      rw [summed]
      omega
    omega
  rw [halved]
  exact ((Nat.mod_modEq _ _).of_dvd (pow_dvd_pow 2 inside)).symm

theorem decodeStep_half (d : UInt32) (inside : b ≤ 15) :
    (decodeStep d).toNat + 0x22AF ≡ d.toNat / 2 [MOD 2 ^ b] := by
  have whole : (decodeStep d).toNat + 0x22AF ≡ d.toNat / 2 [MOD 2 ^ 15] := by
    rw [toNat_decodeStep, Nat.ModEq]
    omega
  exact whole.of_dvd (pow_dvd_pow 2 inside)

theorem half_modEq {m n b : ℕ} (same : m ≡ n [MOD 2 ^ (b + 1)]) : m / 2 ≡ n / 2 [MOD 2 ^ b] := by
  rw [Nat.ModEq, pow_succ'] at same
  rw [Nat.ModEq, ← Nat.mod_mul_right_div_self, ← Nat.mod_mul_right_div_self, same]

theorem Near.step (inside : b ≤ 15) (near : Near (b + 1) d (encodeStep k)) :
    Near b (decodeStep d) k := by
  have sums : (decodeStep d).toNat + 0x22AF ≡ k.toNat + 0x22AF [MOD 2 ^ b] :=
    ((decodeStep_half d inside).trans (half_modEq near)).trans (encodeStep_half k inside).symm
  exact Nat.ModEq.add_right_cancel' 0x22AF sums

theorem Off.step (inside : b ≤ 14) (off : Off (b + 1) d (encodeStep k)) :
    Off b (decodeStep d) k := by
  have halves : d.toNat / 2 ≡ (encodeStep k).toNat / 2 + 2 ^ b [MOD 2 ^ (b + 1)] := by
    have half : ((encodeStep k).toNat + 2 ^ (b + 1)) / 2 = (encodeStep k).toNat / 2 + 2 ^ b := by
      rw [pow_succ']
      omega
    rw [← half]
    exact half_modEq off
  have sums : (decodeStep d).toNat + 0x22AF ≡ k.toNat + 2 ^ b + 0x22AF [MOD 2 ^ (b + 1)] := by
    have known := ((encodeStep_half k (Nat.succ_le_succ inside)).add_right (2 ^ b)).symm
    rw [Nat.add_right_comm] at known
    exact ((decodeStep_half d (Nat.succ_le_succ inside)).trans halves).trans known
  exact Nat.ModEq.add_right_cancel' 0x22AF sums

theorem near_halves (near : Near 16 d (encodeStep k)) :
    d.toNat / 2 % 32768 = summed k.toNat % 32768 ∧ d.toNat % 2 = summed k.toNat / 32768 := by
  have below : summed k.toNat < 65536 := Nat.mod_lt _ (by decide)
  have rotated : 2 * summed k.toNat % 65536 = 2 * (summed k.toNat % 32768) := by omega
  have low : summed k.toNat % 32768 < 32768 := Nat.mod_lt _ (by decide)
  have top : summed k.toNat / 32768 < 2 := by omega
  rw [Near, Nat.ModEq, toNat_encodeStep, rotated] at near
  generalize summed k.toNat % 32768 = l at *
  generalize summed k.toNat / 32768 = t at *
  omega

theorem tracks_step (short : k.toNat < 65536) (near : Near 16 d (encodeStep k))
    (clear : d.toNat / 65536 % 2 = 1 → d.toNat % 2 = 1) : Tracks (decodeStep d) k := by
  obtain ⟨low, top⟩ := near_halves near
  have carry : carried d.toNat = d.toNat % 2 := by
    rw [carried]
    split
    · omega
    · omega
  have value : (decodeStep d).toNat = (summed k.toNat + (2 ^ 32 - 0x22AF)) % 2 ^ 32 := by
    have whole : summed k.toNat % 32768 + 32768 * (summed k.toNat / 32768) = summed k.toNat :=
      Nat.mod_add_div _ _
    rw [toNat_decodeStep, carry, low, top, whole]
  rw [summed] at value
  constructor
  · rw [Near, Nat.ModEq]
    omega
  · omega

theorem off_start (near : Near 16 d (encodeStep k)) (borrow : d.toNat / 65536 % 2 = 1)
    (even : d.toNat % 2 = 0) : Off 15 (decodeStep d) k := by
  obtain ⟨low, top⟩ := near_halves near
  have carry : carried d.toNat = 1 := if_pos (Or.inl borrow)
  have value : (decodeStep d).toNat =
      (summed k.toNat + 32768 + (2 ^ 32 - 0x22AF)) % 2 ^ 32 := by
    have below : summed k.toNat % 32768 = summed k.toNat := by
      rw [even] at top
      omega
    rw [toNat_decodeStep, carry, low, below]
  rw [summed] at value
  rw [Off, Nat.ModEq]
  omega

/-! ### The bytes of the text -/

theorem toNat_lowByte (k : UInt32) : (lowByte k).toNat = k.toNat % 2 ^ 8 := by
  rw [lowByte, UInt32.toNat_toUInt8, UInt32.toNat_and]
  change (k.toNat &&& (2 ^ 8 - 1)) % 2 ^ 8 = _
  rw [Nat.and_two_pow_sub_one_eq_mod, Nat.mod_mod]

theorem lowByte_eq_iff : lowByte d = lowByte k ↔ Near 8 d k := by
  rw [← UInt8.toNat_inj, toNat_lowByte, toNat_lowByte]
  rfl

theorem Near.lowByte_eq (enough : 8 ≤ b) (near : Near b d k) : lowByte d = lowByte k :=
  lowByte_eq_iff.mpr (Nat.ModEq.of_dvd (pow_dvd_pow 2 enough) near)

theorem Off.lowByte_ne (off : Off 7 d k) : lowByte d ≠ lowByte k := by
  intro same
  have near := lowByte_eq_iff.mp same
  rw [Near, Nat.ModEq] at near
  rw [Off, Nat.ModEq] at off
  omega

def decodeBytes (d : UInt32) : Bytes → Bytes
  | [] => []
  | e :: es => (e ^^^ lowByte (decodeStep d)) :: decodeBytes (decodeStep d) es

section Bytes

variable {k : UInt32}

theorem encodeBytes_key (k : UInt32) (bs : Bytes) :
    (encodeBytes k bs).2 = encodeStep^[bs.length] k := by
  induction bs with
  | nil => rfl
  | cons b bs ih => rw [encodeBytes, ih, List.length_cons, Function.iterate_succ_apply']

@[simp] theorem length_encodeBytes (k : UInt32) (bs : Bytes) :
    (encodeBytes k bs).1.length = bs.length := by
  induction bs with
  | nil => rfl
  | cons b bs ih => rw [encodeBytes, List.length_cons, List.length_cons, ih]

theorem decodeBytes_cons (k d : UInt32) (b : UInt8) (bs : Bytes) :
    decodeBytes d (encodeBytes k (b :: bs)).1 =
      (b ^^^ lowByte (encodeStep^[bs.length] k) ^^^ lowByte (decodeStep d)) ::
        decodeBytes (decodeStep d) (encodeBytes k bs).1 := by
  rw [encodeBytes, decodeBytes, encodeBytes_key]

theorem xor_xor_self (b m : UInt8) : b ^^^ m ^^^ m = b := by
  rw [UInt8.xor_assoc, UInt8.xor_self, UInt8.xor_zero]

theorem xor_xor_eq_iff {b m n : UInt8} : b ^^^ m ^^^ n = b ↔ n = m := by
  constructor
  · intro same
    have mask := congrArg (b ^^^ m ^^^ ·) same
    rw [← UInt8.xor_assoc, UInt8.xor_self, UInt8.zero_xor, UInt8.xor_comm b m,
      xor_xor_self] at mask
    exact mask
  · rintro rfl
    exact xor_xor_self b n

theorem iterate_lt (short : k.toNat < 65536) (m : ℕ) : (encodeStep^[m] k).toNat < 65536 := by
  cases m with
  | zero => exact short
  | succ m =>
      rw [Function.iterate_succ_apply']
      exact encodeStep_lt _

theorem decodeBytes_near (bs : Bytes) {b : ℕ} {d : UInt32} (inside : b ≤ 16)
    (enough : 8 + bs.length ≤ b) (near : Near b d (encodeStep^[bs.length] k)) :
    decodeBytes d (encodeBytes k bs).1 = bs := by
  induction bs generalizing b d with
  | nil => rfl
  | cons x bs ih =>
      rw [List.length_cons] at enough near
      obtain ⟨b, rfl⟩ : ∃ b', b = b' + 1 := ⟨b - 1, by omega⟩
      rw [Function.iterate_succ_apply'] at near
      have back := near.step (by omega)
      rw [decodeBytes_cons, ih (by omega) (by omega) back,
        xor_xor_eq_iff.mpr (back.lowByte_eq (by omega))]

theorem decodeBytes_off (bs : Bytes) {b : ℕ} {d : UInt32} (above : 8 ≤ b) (inside : b ≤ 15)
    (long : b ≤ bs.length + 7) (off : Off b d (encodeStep^[bs.length] k)) :
    decodeBytes d (encodeBytes k bs).1 ≠ bs := by
  induction bs generalizing b d with
  | nil =>
      rw [List.length_nil] at long
      omega
  | cons x bs ih =>
      rw [List.length_cons] at long off
      obtain ⟨b, rfl⟩ : ∃ b', b = b' + 1 := ⟨b - 1, by omega⟩
      rw [Function.iterate_succ_apply'] at off
      have back := off.step (by omega)
      rw [decodeBytes_cons]
      intro same
      obtain ⟨head, tail⟩ := List.cons.inj same
      by_cases last : b = 7
      · subst last
        exact back.lowByte_ne (xor_xor_eq_iff.mp head)
      · exact ih (by omega) (by omega) (by omega) back tail

/-- From the very key, with its borrow, the bytes are decoded exactly if the keys they are
decoded from are steady, the last eight of them apart. -/
theorem decodeBytes_tracks (short : k.toNat < 65536) (bs : Bytes) {d : UInt32}
    (tracks : Tracks d (encodeStep^[bs.length] k)) :
    decodeBytes d (encodeBytes k bs).1 = bs ↔
      ∀ i, 9 ≤ i → i ≤ bs.length → Steady (encodeStep^[i] k) := by
  induction bs generalizing d with
  | nil =>
      refine iff_of_true rfl fun i low high => ?_
      rw [List.length_nil] at high
      omega
  | cons x bs ih =>
      have near := tracks.near
      rw [List.length_cons, Function.iterate_succ_apply'] at near
      have back := near.step le_rfl
      have below := iterate_lt short bs.length
      have borrow := tracks.borrow
      rw [List.length_cons, Function.iterate_succ_apply'] at borrow
      have parity : d.toNat % 2 = (encodeStep (encodeStep^[bs.length] k)).toNat % 2 :=
        Nat.ModEq.of_dvd (by decide) near
      rw [decodeBytes_cons, xor_xor_eq_iff.mpr (back.lowByte_eq (by decide)),
        List.cons_inj_right, List.length_cons]
      by_cases steady : Steady (encodeStep^[bs.length + 1] k)
      · have next := steady
        rw [Function.iterate_succ_apply'] at next
        rw [ih (tracks_step below near fun carry => ?_)]
        · refine ⟨fun all i low high => ?_, fun all i low high => all i low (by omega)⟩
          rcases Nat.lt_succ_iff_lt_or_eq.mp (Nat.lt_succ_of_le high) with before | rfl
          · exact all i low (by omega)
          · exact steady
        · have large := borrow.mp carry
          rcases next with odd | small
          · omega
          · omega
      · by_cases few : bs.length ≤ 7
        · exact iff_of_true (decodeBytes_near bs (by decide) (by omega) back)
            fun i low high => by omega
        · have unsteady := steady
          rw [Function.iterate_succ_apply', Steady, not_or] at unsteady
          have off := off_start near (borrow.mpr (by omega)) (by omega)
          refine iff_of_false (decodeBytes_off bs (by decide) le_rfl (by omega) off) fun all => ?_
          exact steady (all _ (by omega) le_rfl)

end Bytes

/-! ### The characters of the text -/

def latin1 (b : UInt8) : Char := Char.ofNat b.toNat

theorem toNat_latin1 (b : UInt8) : (latin1 b).toNat = b.toNat := by
  have valid : b.toNat.isValidChar := Or.inl (Nat.lt_trans b.toNat_lt (by decide))
  rw [latin1, Char.ofNat, dif_pos valid]
  rfl

theorem latin1_injective : Function.Injective latin1 := by
  intro a b same
  rw [← UInt8.toNat_inj, ← toNat_latin1, ← toNat_latin1, same]

theorem latin1_utf8 {text : Text} (ascii : ∀ c ∈ text, c.toNat < 128) :
    (utf8 text).map latin1 = text := by
  induction text with
  | nil => rfl
  | cons c text ih =>
      have low := ascii c (List.mem_cons_self ..)
      have single : String.utf8EncodeChar c = [UInt8.ofNat c.toNat] := by
        have value : c.val.toNat = c.toNat := rfl
        rw [String.utf8EncodeChar, value, if_pos (by omega)]
      have back : latin1 (UInt8.ofNat c.toNat) = c := by
        rw [latin1, UInt8.toNat_ofNat', Nat.mod_eq_of_lt (by omega), Char.ofNat_toNat]
      rw [utf8_cons, single, List.singleton_append, List.map_cons, back,
        ih fun d member => ascii d (List.mem_cons_of_mem c member)]

theorem length_utf8_ascii {text : Text} (ascii : ∀ c ∈ text, c.toNat < 128) :
    (utf8 text).length = text.length := by
  rw [← congrArg List.length (latin1_utf8 ascii), List.length_map]

/-! ### The whole string -/

theorem masked (x : UInt32) : x &&& 0xFF = x.toUInt8.toUInt32 := by
  rw [← UInt32.toNat_inj, UInt32.toNat_and, UInt8.toNat_toUInt32, UInt32.toNat_toUInt8]
  exact Nat.and_two_pow_sub_one_eq_mod x.toNat 8

theorem lowByte_eq (x : UInt32) : lowByte x = x.toUInt8 := by
  rw [lowByte, masked, UInt8.toUInt8_toUInt32]

theorem lowByte_xor (a b : UInt32) : lowByte (a ^^^ b) = lowByte a ^^^ lowByte b := by
  rw [lowByte_eq, lowByte_eq, lowByte_eq, UInt32.toUInt8_xor]

theorem masked_xor (b : UInt8) (d : UInt32) :
    (b.toUInt32 ^^^ d) &&& 0xFF = (b ^^^ lowByte d).toUInt32 := by
  rw [masked, UInt32.toUInt8_xor, UInt8.toUInt8_toUInt32, lowByte_eq]

theorem xor_masked (b : UInt8) (d : UInt32) :
    (b.toUInt32 ^^^ (d &&& 0xFF)).toUInt8 = b ^^^ lowByte d := by
  rw [UInt32.toUInt8_xor, UInt8.toUInt8_toUInt32]
  rfl

theorem decodeChars_eq (front body : Bytes) (idx : ℕ) (at_front : front.length = 4 + idx)
    (d : UInt32) : decodeChars (front ++ body) body.length idx d =
      some ((decodeBytes d body).map latin1) := by
  induction body generalizing front idx d with
  | nil => rfl
  | cons e es ih =>
      have here : (front ++ e :: es)[4 + idx]? = some e := by
        rw [List.getElem?_append_right (by omega), at_front, Nat.sub_self]
        rfl
      have later := ih (front ++ [e]) (idx + 1) (by rw [List.length_append, at_front]; rfl)
        (decodeStep d)
      rw [List.append_assoc, List.singleton_append] at later
      rw [List.length_cons, decodeChars, here]
      simp only [Option.bind_eq_bind, Option.bind_some, later, xor_masked]
      rfl

theorem length_decodeChars {data : Bytes} {count idx : ℕ} {d : UInt32} {text : Text}
    (decoded : decodeChars data count idx d = some text) : text.length = count := by
  induction count generalizing idx d text with
  | zero =>
      cases decoded
      rfl
  | succ count ih =>
      rw [decodeChars] at decoded
      obtain ⟨encrypted, -, decoded⟩ := Option.bind_eq_some_iff.mp decoded
      obtain ⟨rest, found, same⟩ := Option.bind_eq_some_iff.mp decoded
      cases same
      rw [List.length_cons, ih found]

def keyAfter (key : UInt32) (i : ℕ) : UInt32 := encodeStep^[i] (key &&& 0xFFFF)

theorem short_key (key : UInt32) : (key &&& 0xFFFF).toNat < 65536 := by
  rw [UInt32.toNat_and]
  exact Nat.lt_of_le_of_lt Nat.and_le_right (by decide)

theorem joined {k : UInt32} (short : k.toNat < 65536) :
    ((lowByte (k >>> 8)).toUInt32 <<< 8) ||| (lowByte k).toUInt32 = k := by
  have high : (k >>> 8).toNat = k.toNat / 256 := by
    rw [UInt32.toNat_shiftRight]
    exact Nat.shiftRight_eq_div_pow k.toNat 8
  rw [← UInt32.toNat_inj, UInt32.toNat_or, UInt32.toNat_shiftLeft, UInt8.toNat_toUInt32,
    UInt8.toNat_toUInt32, toNat_lowByte, toNat_lowByte, high]
  change (k.toNat / 256 % 2 ^ 8) <<< 8 % 2 ^ 32 ||| k.toNat % 2 ^ 8 = k.toNat
  have shifted : (k.toNat / 256 % 2 ^ 8) <<< 8 % 2 ^ 32 = 2 ^ 8 * (k.toNat / 256) := by
    rw [Nat.shiftLeft_eq]
    omega
  rw [shifted, ← Nat.two_pow_add_eq_or_of_lt (Nat.mod_lt _ (by decide))]
  omega

/-- The string is the last key, the key before it, and under the keys before that the low byte
of the count and the text. -/
theorem encode_eq (key : UInt32) (text : Text) {n : ℕ} (length : (utf8 text).length = n) :
    ffxivLoginStringEncode key text =
      [lowByte (keyAfter key (n + 2) >>> 8), lowByte (keyAfter key (n + 2)),
        lowByte (keyAfter key (n + 1)), lowByte (UInt32.ofNat n) ^^^ lowByte (keyAfter key n)] ++
      (encodeBytes (key &&& 0xFFFF) (utf8 text)).1 := by
  subst length
  simp only [ffxivLoginStringEncode, encodeBytes_key, lowByte_xor, keyAfter,
    Function.iterate_succ_apply']

theorem decode_eq (b0 b1 b2 b3 : UInt8) (body : Bytes) {d : UInt32}
    (first : decodeStep ((b0.toUInt32 <<< 8) ||| b1.toUInt32) = d) :
    ffxivLoginStringDecode ([b0, b1, b2, b3] ++ body) =
      decodeChars ([b0, b1, b2, b3] ++ body)
        (((b2 ^^^ lowByte d).toUInt32 <<< 8) |||
          (b3 ^^^ lowByte (decodeStep d)).toUInt32).toNat 0 (decodeStep d) := by
  subst first
  rw [← masked_xor, ← masked_xor]
  rfl

theorem first_steps (key : UInt32) (n : ℕ) :
    let d := decodeStep (keyAfter key (n + 2))
    Tracks d (keyAfter key (n + 1)) ∧ Near 15 (decodeStep d) (keyAfter key n) := by
  have short := iterate_lt (short_key key) (n + 1)
  have whole := iterate_lt (short_key key) (n + 2)
  have last : keyAfter key (n + 2) = encodeStep (keyAfter key (n + 1)) :=
    Function.iterate_succ_apply' ..
  have before : keyAfter key (n + 1) = encodeStep (keyAfter key n) :=
    Function.iterate_succ_apply' ..
  have tracks : Tracks (decodeStep (keyAfter key (n + 2))) (keyAfter key (n + 1)) := by
    apply tracks_step short
    · rw [last]
      exact Nat.ModEq.refl _
    · intro carry
      rw [keyAfter] at carry
      omega
  refine ⟨tracks, Near.step le_rfl ?_⟩
  rw [← before]
  exact tracks.near

theorem decode_encode (key : UInt32) (text : Text) {n : ℕ} (length : (utf8 text).length = n) :
    ffxivLoginStringDecode (ffxivLoginStringEncode key text) =
      decodeChars (ffxivLoginStringEncode key text) (n % 256) 0
        (decodeStep (decodeStep (keyAfter key (n + 2)))) := by
  obtain ⟨tracks, near⟩ := first_steps key n
  have high : lowByte (keyAfter key (n + 1)) ^^^ lowByte (decodeStep (keyAfter key (n + 2))) =
      0 := by
    rw [tracks.near.lowByte_eq (by decide), UInt8.xor_self]
  have low : lowByte (UInt32.ofNat n) ^^^ lowByte (keyAfter key n) ^^^
      lowByte (decodeStep (decodeStep (keyAfter key (n + 2)))) = lowByte (UInt32.ofNat n) :=
    xor_xor_eq_iff.mpr (near.lowByte_eq (by decide))
  have count : ((0 : UInt8).toUInt32 <<< 8 ||| (lowByte (UInt32.ofNat n)).toUInt32).toNat =
      n % 256 := by
    have none_high : (0 : UInt8).toUInt32 <<< 8 = 0 := rfl
    rw [none_high, UInt32.zero_or, UInt8.toNat_toUInt32, toNat_lowByte, UInt32.toNat_ofNat']
    omega
  have known : ((lowByte (keyAfter key (n + 2) >>> 8)).toUInt32 <<< 8 |||
      (lowByte (keyAfter key (n + 2))).toUInt32) = keyAfter key (n + 2) :=
    joined (iterate_lt (short_key key) (n + 2))
  rw [encode_eq key text length, decode_eq _ _ _ _ _ (congrArg decodeStep known), high, low, count]

/-- A string is decoded to its text exactly if the count fits a byte and the keys are steady
from the tenth on. -/
theorem login_string_roundTrips_iff (key : UInt32) {text : Text}
    (ascii : ∀ c ∈ text, c.toNat < 128) (_fits : text.length < 2 ^ 16) :
    ffxivLoginStringDecode (ffxivLoginStringEncode key text) = some text ↔
      text.length < 256 ∧ ∀ i, 9 ≤ i → i ≤ text.length + 1 → Steady (keyAfter key i) := by
  have length := length_utf8_ascii ascii
  rw [decode_encode key text length]
  by_cases small : text.length < 256
  · obtain ⟨tracks, near⟩ := first_steps key text.length
    have all : decodeBytes (decodeStep (decodeStep (keyAfter key (text.length + 2))))
        (encodeBytes (key &&& 0xFFFF) (utf8 text)).1 = utf8 text ↔
          ∀ i, 9 ≤ i → i ≤ text.length + 1 → Steady (keyAfter key i) := by
      -- The low byte of the count is one more byte in front of the text.
      have counted := decodeBytes_tracks (short_key key)
        (lowByte (UInt32.ofNat text.length) :: utf8 text)
        (by rw [List.length_cons, length]; exact tracks)
      rw [decodeBytes_cons, length, ← keyAfter,
        xor_xor_eq_iff.mpr (near.lowByte_eq (by decide)), List.cons_inj_right, List.length_cons,
        length] at counted
      exact counted
    have whole : text.length % 256 = (encodeBytes (key &&& 0xFFFF) (utf8 text)).1.length := by
      rw [length_encodeBytes, length, Nat.mod_eq_of_lt small]
    have back (bs : Bytes) : bs.map latin1 = text ↔ bs = utf8 text := by
      have same := (List.map_injective_iff.mpr latin1_injective).eq_iff (a := bs) (b := utf8 text)
      rwa [latin1_utf8 ascii] at same
    rw [encode_eq key text length, whole, decodeChars_eq _ _ 0 rfl, Option.some_inj, back, all]
    exact (and_iff_right small).symm
  · refine iff_of_false (fun decoded => ?_) fun both => small both.1
    have short := length_decodeChars decoded
    omega

theorem login_string_roundTrips_hello :
    ffxivLoginStringDecode (ffxivLoginStringEncode 0x1234 ['h', 'e', 'l', 'l', 'o']) =
      some ['h', 'e', 'l', 'l', 'o'] := by
  apply (login_string_roundTrips_iff 0x1234 (by simp) (by decide)).mpr
  exact ⟨by decide, fun i low high => absurd (Nat.le_trans low high) (by decide)⟩

theorem login_string_garbled :
    ffxivLoginStringDecode
        (ffxivLoginStringEncode 0x1234 ['p', 'a', 's', 's', 'w', 'o', 'r', 'd']) ≠
      some ['p', 'a', 's', 's', 'w', 'o', 'r', 'd'] := by
  decide

end Garlemald.Common
