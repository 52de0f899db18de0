import Garlemald.Common.Blowfish

/-!
Encryption of a base packet in place. The walk follows the declared subpacket
sizes and puts every body through the cipher; a body that is not a whole number
of blocks stops it with an error, in both directions at the same subpacket.
-/

namespace Garlemald.Common
open Library

/-- The body of the subpacket at `offset` as start and length, and the offset behind it. -/
def bodyAt (m : Machine) (data : Bytes) (offset : Nat) :
    Outcome PacketError (Nat × Nat × Nat) := do
  let headerEnd ← m.add offset subpacketSize
  if data.length < headerEnd then .err (.tooSmall headerEnd data.length)
  else
    let size := (u16Value ((data.drop offset).take 2)).toNat
    let dataEnd ← m.add offset size
    if data.length < dataEnd then .err (.sizeMismatch size (← m.sub data.length offset))
    else
      let length ← m.sub size subpacketSize
      return (headerEnd, length, dataEnd)

/-- The walk of `encrypt` and `decrypt` from `offset` on. Only a subpacket of size zero does
not move it on, so `none` is a walk that never ends. -/
def cryptFrom (m : Machine) (block : Block → Block) : Nat → Nat → Bytes → Option InPlace
  | 0, _, _ => none
  | fuel + 1, offset, data =>
      if offset < data.length then
        match bodyAt m data offset with
        | .ok (start, length, next) =>
            match cipher m block data start length with
            | (.ok (), data) => cryptFrom m block fuel next data
            | stopped => some stopped
        | .err e => some (.err (.packet e), data)
        | .panic => some (.panic, data)
      else some (.ok (), data)

def crypt (m : Machine) (block : Block → Block) (p : BasePacket) :
    Option (Outcome CipherError Unit × BasePacket) :=
  (cryptFrom m block (p.data.length + 1) 0 p.data).map
    fun (result, data) => (result, { p with data })

def BasePacket.encrypt (m : Machine) (bf : Blowfish) (p : BasePacket) :
    Option (Outcome CipherError Unit × BasePacket) :=
  crypt m bf.encipherBlock p

def BasePacket.decrypt (m : Machine) (bf : Blowfish) (p : BasePacket) :
    Option (Outcome CipherError Unit × BasePacket) :=
  crypt m bf.decipherBlock p

/-! ### Well-formed data -/

/-- The bytes of a subpacket that declares its own size. -/
structure Frame where
  header : Bytes
  body : Bytes
  header_length : header.length = subpacketSize
  declared : (u16Value (header.take 2)).toNat = subpacketSize + body.length

namespace Frame

def bytes (f : Frame) : Bytes := f.header ++ f.body

def Whole (f : Frame) : Prop := f.body.length % 8 = 0

instance (f : Frame) : Decidable f.Whole := inferInstanceAs (Decidable (_ = _))

theorem length_bytes (f : Frame) : f.bytes.length = subpacketSize + f.body.length := by
  rw [bytes, List.length_append, f.header_length]

/-- The subpacket with its body put through `block`. -/
def crypted (block : Block → Block) (f : Frame) : Frame where
  header := f.header
  body := blocks block (f.body.length / 8) f.body
  header_length := f.header_length
  declared := by rw [length_blocks (by omega), f.declared]

@[simp] theorem length_crypted (block : Block → Block) (f : Frame) :
    (f.crypted block).body.length = f.body.length := length_blocks (by omega)

theorem whole_crypted (block : Block → Block) (f : Frame) :
    (f.crypted block).Whole ↔ f.Whole := by
  rw [Whole, Whole, length_crypted]

theorem crypted_inverse {block unblock : Block → Block} (inverse : ∀ x, unblock (block x) = x)
    (f : Frame) : (f.crypted block).crypted unblock = f := by
  have back : blocks unblock (f.body.length / 8) (blocks block (f.body.length / 8) f.body) =
      f.body := blocks_inverse inverse (by omega)
  have same : blocks unblock ((f.crypted block).body.length / 8) (f.crypted block).body =
      f.body := by
    rw [length_crypted]
    exact back
  obtain ⟨header, body, _, _⟩ := f
  simp only [crypted, mk.injEq, true_and]
  exact same

end Frame

def framesData (frames : List Frame) : Bytes := frames.flatMap Frame.bytes

theorem framesData_cons (f : Frame) (frames : List Frame) :
    framesData (f :: frames) = f.header ++ (f.body ++ framesData frames) := by
  rw [framesData, List.flatMap_cons, Frame.bytes, List.append_assoc]
  rfl

/-- The subpackets after the walk: up to the first body that is not whole blocks. -/
def cryptFrames (block : Block → Block) : List Frame → List Frame
  | [] => []
  | f :: frames => if f.Whole then f.crypted block :: cryptFrames block frames else f :: frames

def cryptResult : List Frame → Outcome CipherError Unit
  | [] => .ok ()
  | f :: frames =>
      if f.Whole then cryptResult frames else .err (.blowfishBlockMisaligned f.body.length)

/-- Byte `k` of the subpackets lies in a whole block of a body. -/
def InBlocks : List Frame → Nat → Prop
  | [], _ => False
  | f :: frames, k =>
      (subpacketSize ≤ k ∧ k < subpacketSize + 8 * (f.body.length / 8)) ∨
        (f.bytes.length ≤ k ∧ InBlocks frames (k - f.bytes.length))

section Walked

variable {f : Frame} {frames : List Frame}

theorem cryptFrames_whole (block : Block → Block) (whole : f.Whole) :
    cryptFrames block (f :: frames) = f.crypted block :: cryptFrames block frames := if_pos whole

theorem cryptFrames_cut (block : Block → Block) (cut : ¬ f.Whole) :
    cryptFrames block (f :: frames) = f :: frames := if_neg cut

theorem cryptResult_whole (whole : f.Whole) : cryptResult (f :: frames) = cryptResult frames :=
  if_pos whole

theorem cryptResult_cut (cut : ¬ f.Whole) :
    cryptResult (f :: frames) = .err (.blowfishBlockMisaligned f.body.length) := if_neg cut

end Walked

theorem cryptFrames_inverse {block unblock : Block → Block}
    (inverse : ∀ x, unblock (block x) = x) (frames : List Frame) :
    cryptFrames unblock (cryptFrames block frames) = frames := by
  induction frames with
  | nil => rfl
  | cons f frames ih =>
      by_cases whole : f.Whole
      · have still : (f.crypted block).Whole := (f.whole_crypted block).mpr whole
        rw [cryptFrames_whole block whole, cryptFrames_whole unblock still, ih,
          f.crypted_inverse inverse]
      · rw [cryptFrames_cut block whole, cryptFrames_cut unblock whole]

theorem cryptResult_cryptFrames (block : Block → Block) (frames : List Frame) :
    cryptResult (cryptFrames block frames) = cryptResult frames := by
  induction frames with
  | nil => rfl
  | cons f frames ih =>
      by_cases whole : f.Whole
      · have still : (f.crypted block).Whole := (f.whole_crypted block).mpr whole
        rw [cryptFrames_whole block whole, cryptResult_whole still, ih, cryptResult_whole whole]
      · rw [cryptFrames_cut block whole]

theorem cryptResult_eq_ok (frames : List Frame) :
    cryptResult frames = .ok () ↔ ∀ f ∈ frames, f.Whole := by
  induction frames with
  | nil => exact iff_of_true rfl (List.forall_mem_nil _)
  | cons f frames ih =>
      by_cases whole : f.Whole
      · simp [cryptResult_whole whole, whole, ih]
      · simp [cryptResult_cut whole, whole]

theorem length_framesData_cryptFrames (block : Block → Block) (frames : List Frame) :
    (framesData (cryptFrames block frames)).length = (framesData frames).length := by
  induction frames with
  | nil => rfl
  | cons f frames ih =>
      by_cases whole : f.Whole
      · rw [cryptFrames_whole block whole, framesData_cons, framesData_cons]
        simp only [List.length_append, ih, f.length_crypted, Frame.header_length]
      · rw [cryptFrames_cut block whole]

theorem cryptFrames_getElem? (block : Block → Block) (frames : List Frame) {k : Nat}
    (outside : ¬ InBlocks frames k) :
    (framesData (cryptFrames block frames))[k]? = (framesData frames)[k]? := by
  induction frames generalizing k with
  | nil => rfl
  | cons f frames ih =>
      obtain ⟨notHere, notLater⟩ := not_or.mp outside
      by_cases whole : f.Whole
      · have size := f.length_bytes
        rw [cryptFrames_whole block whole]
        by_cases inside : k < f.bytes.length
        · have header : k < subpacketSize := by
            rw [Frame.Whole] at whole
            omega
          rw [framesData_cons, framesData_cons, List.getElem?_append_left,
            List.getElem?_append_left]
          · rfl
          · rw [f.header_length]; exact header
          · rw [Frame.header_length]; exact header
        · have same : (f.crypted block).bytes.length = f.bytes.length := by
            rw [Frame.length_bytes, f.length_crypted, f.length_bytes]
          have later := ih fun within => notLater ⟨by omega, within⟩
          simp only [framesData, List.flatMap_cons] at later ⊢
          rw [List.getElem?_append_right (by omega), List.getElem?_append_right (by omega), same]
          exact later
      · rw [cryptFrames_cut block whole]

/-! ### The walk over well-formed data -/

theorem bodyAt_frame (m : Machine) (front : Bytes) (f : Frame) (rest : Bytes)
    (held : (front ++ (f.header ++ (f.body ++ rest))).length < m.range) :
    bodyAt m (front ++ (f.header ++ (f.body ++ rest))) front.length =
      .ok (front.length + subpacketSize, f.body.length,
        front.length + subpacketSize + f.body.length) := by
  have declared : (u16Value (((front ++ (f.header ++ (f.body ++ rest))).drop
      front.length).take 2)).toNat = subpacketSize + f.body.length := by
    rw [List.drop_left, List.take_append_of_le_length, f.declared]
    rw [f.header_length, subpacketSize]
    omega
  have size := f.header_length
  simp only [List.length_append] at held
  have start : m.add front.length subpacketSize = .ok (front.length + subpacketSize) := by
    rw [Machine.add, if_pos]
    omega
  have stop : m.add front.length (subpacketSize + f.body.length) =
      .ok (front.length + (subpacketSize + f.body.length)) := by
    rw [Machine.add, if_pos]
    omega
  have body : m.sub (subpacketSize + f.body.length) subpacketSize = .ok f.body.length := by
    rw [Machine.sub, if_pos (by omega), Nat.add_sub_cancel_left]
  have enough : ¬ (front ++ (f.header ++ (f.body ++ rest))).length <
      front.length + subpacketSize := by
    simp only [List.length_append]; omega
  have whole : ¬ (front ++ (f.header ++ (f.body ++ rest))).length <
      front.length + (subpacketSize + f.body.length) := by
    simp only [List.length_append]; omega
  simp only [bodyAt, start, Outcome.ok_bind, enough, if_false, declared, stop, whole, body,
    Outcome.pure_eq_ok, Nat.add_assoc]

theorem cryptFrom_frame (m : Machine) (block : Block → Block) (fuel : Nat) (front : Bytes)
    (f : Frame) (rest : Bytes) (held : (front ++ (f.bytes ++ rest)).length < m.range) :
    cryptFrom m block (fuel + 1) front.length (front ++ (f.bytes ++ rest)) =
      if f.Whole then
        cryptFrom m block fuel (front ++ (f.crypted block).bytes).length
          (front ++ (f.crypted block).bytes ++ rest)
      else some (.err (.blowfishBlockMisaligned f.body.length), front ++ (f.bytes ++ rest)) := by
  have size := f.header_length
  have shape : f.bytes ++ rest = f.header ++ (f.body ++ rest) := List.append_assoc ..
  rw [shape] at held ⊢
  have found := bodyAt_frame m front f rest held
  simp only [List.length_append] at held
  have inside : front.length < (front ++ (f.header ++ (f.body ++ rest))).length := by
    simp only [List.length_append, size, subpacketSize]; omega
  have ciphered := cipher_eq m block (front ++ f.header) f.body rest
    (by simp only [List.length_append]; omega)
  rw [List.append_assoc, List.length_append, size] at ciphered
  rw [cryptFrom, if_pos inside, found]
  simp only [ciphered]
  by_cases whole : f.Whole
  · have blocksWhole : f.body.length % 8 = 0 := whole
    have next : (front ++ (f.crypted block).bytes).length =
        front.length + subpacketSize + f.body.length := by
      rw [List.length_append, Frame.length_bytes, f.length_crypted, Nat.add_assoc]
    have passed : front ++ f.header ++ (blocks block (f.body.length / 8) f.body ++ rest) =
        front ++ (f.crypted block).bytes ++ rest := by
      simp only [Frame.bytes, Frame.crypted, List.append_assoc]
    simp only [blocksWhole, if_true, passed, next, whole]
  · have broken : ¬ f.body.length % 8 = 0 := whole
    simp only [broken, if_false, whole, List.append_assoc]

theorem cryptFrom_frames (m : Machine) (block : Block → Block) (frames : List Frame)
    (front : Bytes) {fuel : Nat} (enough : (framesData frames).length < fuel)
    (held : (front ++ framesData frames).length < m.range) :
    cryptFrom m block fuel front.length (front ++ framesData frames) =
      some (cryptResult frames, front ++ framesData (cryptFrames block frames)) := by
  induction frames generalizing front fuel with
  | nil =>
      cases fuel with
      | zero => omega
      | succ fuel => simp [cryptFrom, framesData, cryptResult, cryptFrames]
  | cons f frames ih =>
      have size := f.length_bytes
      have later : framesData (f :: frames) = f.bytes ++ framesData frames := rfl
      rw [later] at enough held ⊢
      cases fuel with
      | zero => omega
      | succ fuel =>
          rw [cryptFrom_frame m block fuel front f _ held]
          simp only [List.length_append] at enough held
          by_cases whole : f.Whole
          · rw [if_pos whole, cryptResult_whole whole, cryptFrames_whole block whole,
              @ih (front ++ (f.crypted block).bytes) fuel
                (by simp only [subpacketSize] at size; omega)
                (by rw [List.length_append, List.length_append, Frame.length_bytes,
                      f.length_crypted]
                    omega), List.append_assoc]
            rfl
          · rw [if_neg whole, cryptResult_cut whole, cryptFrames_cut block whole, later]

/-- A packet whose data is subpackets that declare their own sizes; there is an offset for
each of its bytes. -/
structure WellFormedPacket (m : Machine) where
  packet : BasePacket
  frames : List Frame
  split : packet.data = framesData frames
  held : packet.data.length < m.range

namespace WellFormedPacket

variable {m : Machine}

/-- The packet after a walk with `block`. -/
def crypted (block : Block → Block) (w : WellFormedPacket m) : WellFormedPacket m where
  packet := { w.packet with data := framesData (cryptFrames block w.frames) }
  frames := cryptFrames block w.frames
  split := rfl
  held := by
    have held := w.held
    rw [w.split] at held
    rw [length_framesData_cryptFrames]
    exact held

theorem crypt_eq (block : Block → Block) (w : WellFormedPacket m) :
    crypt m block w.packet = some (cryptResult w.frames, (w.crypted block).packet) := by
  have walked := cryptFrom_frames m block w.frames [] (Nat.lt_succ_self _)
    (by rw [List.nil_append, ← w.split]; exact w.held)
  rw [List.nil_append, List.nil_append, List.length_nil] at walked
  rw [crypt, w.split, walked]
  rfl

theorem crypted_inverse {block unblock : Block → Block} (inverse : ∀ x, unblock (block x) = x)
    (w : WellFormedPacket m) : ((w.crypted block).crypted unblock).packet = w.packet := by
  simp only [crypted, cryptFrames_inverse inverse, ← w.split]

/-- The header and every byte outside the whole blocks of the bodies are as they were. -/
def Untouched (w : WellFormedPacket m) (after : BasePacket) : Prop :=
  after.header = w.packet.header ∧ after.data.length = w.packet.data.length ∧
    ∀ k, ¬ InBlocks w.frames k → after.data[k]? = w.packet.data[k]?

theorem untouched (block : Block → Block) (w : WellFormedPacket m) :
    w.Untouched (w.crypted block).packet := by
  refine ⟨rfl, ?_, fun k outside => ?_⟩
  · rw [w.split]
    exact length_framesData_cryptFrames block w.frames
  · rw [w.split]
    exact cryptFrames_getElem? block w.frames outside

end WellFormedPacket

/-- Either direction undoes the other, also where both stop at a body that is not whole
blocks, and neither touches a byte outside the whole blocks of the bodies. -/
theorem encrypt_decrypt_restore (m : Machine) (bf : Blowfish) (w : WellFormedPacket m) :
    ∃ result encrypted decrypted,
      w.packet.encrypt m bf = some (result, encrypted) ∧
      encrypted.decrypt m bf = some (result, w.packet) ∧
      w.packet.decrypt m bf = some (result, decrypted) ∧
      decrypted.encrypt m bf = some (result, w.packet) ∧
      (result = .ok () ↔ ∀ f ∈ w.frames, f.Whole) ∧
      w.Untouched encrypted ∧ w.Untouched decrypted := by
  refine ⟨cryptResult w.frames, (w.crypted bf.encipherBlock).packet,
    (w.crypted bf.decipherBlock).packet, w.crypt_eq _, ?_, w.crypt_eq _, ?_,
    cryptResult_eq_ok w.frames, w.untouched _, w.untouched _⟩
  · have back := (w.crypted bf.encipherBlock).crypt_eq bf.decipherBlock
    rw [w.crypted_inverse bf.decipherBlock_encipherBlock] at back
    rw [BasePacket.decrypt, back]
    exact congrArg (fun r => some (r, w.packet)) (cryptResult_cryptFrames _ w.frames)
  · have back := (w.crypted bf.decipherBlock).crypt_eq bf.encipherBlock
    rw [w.crypted_inverse bf.encipherBlock_decipherBlock] at back
    rw [BasePacket.encrypt, back]
    exact congrArg (fun r => some (r, w.packet)) (cryptResult_cryptFrames _ w.frames)

end Garlemald.Common
