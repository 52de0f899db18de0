import Garlemald.Common.Encryption
import Garlemald.Common.FastPaths

/-!
Encryption in place of data that nobody has checked. The walk trusts every declared
size that stays inside the data: one below the subpacket header makes the length of
the body a difference below zero. An error found at a later subpacket is returned
with the bodies before it already put through the cipher.
-/

namespace Garlemald.Common
open Library

namespace Machine

variable {m : Machine}

def guarded (m : Machine) : Machine := { m with checked := true }

theorem add_guarded {a b : Nat} (h : m.guarded.add a b ≠ .panic) :
    m.guarded.add a b = m.add a b := by
  rw [add, add] at *
  by_cases inside : a + b < m.range
  · rw [if_pos inside]
    exact if_pos inside
  · exact absurd (if_neg inside) h

theorem sub_guarded {a b : Nat} (h : m.guarded.sub a b ≠ .panic) :
    m.guarded.sub a b = m.sub a b := by
  rw [sub, sub] at *
  by_cases inside : b ≤ a
  · rw [if_pos inside, if_pos inside]
  · rw [if_neg inside] at h
    exact absurd rfl h

end Machine

/-! ### The build that catches nothing does as the one that does -/

section Guarded

variable {m : Machine}

theorem bind_guarded {α β ε : Type} {x y : Outcome ε α} {f g : α → Outcome ε β}
    (first : x ≠ .panic → x = y) (later : ∀ a, x = .ok a → f a ≠ .panic → f a = g a)
    (h : (x >>= f) ≠ .panic) : (x >>= f) = (y >>= g) := by
  have returns : x ≠ .panic := fun failed => by
    rw [failed] at h
    exact h rfl
  rw [← first returns]
  cases x with
  | ok a => exact later a rfl h
  | err e => rfl
  | panic => exact absurd rfl returns

theorem bodyAt_guarded {data : Bytes} {offset : Nat} (h : bodyAt m.guarded data offset ≠ .panic) :
    bodyAt m.guarded data offset = bodyAt m data offset := by
  apply bind_guarded Machine.add_guarded _ h
  intro headerEnd _ h
  by_cases cut : data.length < headerEnd
  · rw [if_pos cut, if_pos cut]
  rw [if_neg cut] at h ⊢
  rw [if_neg cut]
  apply bind_guarded Machine.add_guarded _ h
  intro dataEnd _ h
  by_cases outside : data.length < dataEnd
  · rw [if_pos outside] at h ⊢
    rw [if_pos outside]
    exact bind_guarded Machine.sub_guarded (fun _ _ _ => rfl) h
  · rw [if_neg outside] at h ⊢
    rw [if_neg outside]
    exact bind_guarded Machine.sub_guarded (fun _ _ _ => rfl) h

theorem cipher_guarded {block : Block → Block} {data : Bytes} {offset length : Nat}
    (h : (cipher m.guarded block data offset length).1 ≠ .panic) :
    cipher m.guarded block data offset length = cipher m block data offset length := by
  rw [cipher] at h
  rw [cipher, cipher]
  by_cases whole : length % 8 ≠ 0
  · rw [if_pos whole, if_pos whole]
  rw [if_neg whole] at h ⊢
  rw [if_neg whole]
  have returns : m.guarded.add offset length ≠ .panic := fun failed => by
    rw [failed] at h
    exact h rfl
  rw [Machine.add_guarded returns]

theorem cryptFrom_guarded {block : Block → Block} {fuel offset : Nat} {data : Bytes} {r : InPlace}
    (h : cryptFrom m.guarded block fuel offset data = some r) (returns : r.1 ≠ .panic) :
    cryptFrom m block fuel offset data = some r := by
  induction fuel generalizing offset data with
  | zero => exact h
  | succ fuel ih =>
      rw [cryptFrom] at h ⊢
      by_cases inside : offset < data.length
      · rw [if_pos inside] at h ⊢
        have body : bodyAt m.guarded data offset ≠ .panic := fun failed => by
          rw [failed] at h
          cases h
          exact returns rfl
        rw [← bodyAt_guarded body]
        cases found : bodyAt m.guarded data offset with
        | panic => exact absurd found body
        | err e =>
            rw [found] at h
            exact h
        | ok place =>
            rw [found] at h
            simp only at h ⊢
            have ciphered : (cipher m.guarded block data place.1 place.2.1).1 ≠ .panic := by
              intro failed
              rw [← Prod.eta (cipher m.guarded block data place.1 place.2.1), failed] at h
              cases h
              exact returns rfl
            rw [← cipher_guarded ciphered]
            generalize cipher m.guarded block data place.1 place.2.1 = done at h ⊢
            cases done with
            | mk result data =>
                cases result with
                | ok u => exact ih h
                | err e => exact h
                | panic => exact h
      · rw [if_neg inside] at h ⊢
        exact h

end Guarded

/-! ### What the walk finds -/

/-- The data is subpackets of whole blocks. -/
inductive Ends : Bytes → Prop
  | nil : Ends []
  | cons (f : Frame) {rest : Bytes} : f.Whole → Ends rest → Ends (f.bytes ++ rest)

/-- The walk finds an error, and every body before it is one that `block` leaves as it is. -/
inductive StopsUntouched (block : Block → Block) : Bytes → Prop
  | cut {data : Bytes} : 0 < data.length → data.length < subpacketSize →
      StopsUntouched block data
  | outside {data : Bytes} : subpacketSize ≤ data.length → data.length < declaredSize data 0 →
      StopsUntouched block data
  | misaligned (f : Frame) (rest : Bytes) : ¬ f.Whole → StopsUntouched block (f.bytes ++ rest)
  | passed (f : Frame) {rest : Bytes} : f.Whole → f.crypted block = f →
      StopsUntouched block rest → StopsUntouched block (f.bytes ++ rest)

theorem exists_frame {data : Bytes} (low : subpacketSize ≤ declaredSize data 0)
    (high : declaredSize data 0 ≤ data.length) : ∃ (f : Frame) (rest : Bytes),
      data = f.bytes ++ rest := by
  have header : (data.take subpacketSize).length = subpacketSize := by
    rw [List.length_take]
    omega
  have body : ((data.drop subpacketSize).take (declaredSize data 0 - subpacketSize)).length =
      declaredSize data 0 - subpacketSize := by
    rw [List.length_take, List.length_drop]
    omega
  refine ⟨⟨data.take subpacketSize,
    (data.drop subpacketSize).take (declaredSize data 0 - subpacketSize), header, ?_⟩,
    data.drop (declaredSize data 0), ?_⟩
  · rw [List.take_take, body]
    change declaredSize data 0 = _
    omega
  · have behind : data.drop (declaredSize data 0) =
        (data.drop subpacketSize).drop (declaredSize data 0 - subpacketSize) := by
      rw [List.drop_drop]
      congr 1
      omega
    rw [Frame.bytes, List.append_assoc, behind, List.take_append_drop, List.take_append_drop]

section Walk

variable (m : Machine) (block : Block → Block)

variable {data : Bytes} {fuel : Nat}

theorem bodyAt_cut (front : Bytes) (short : data.length < subpacketSize)
    (held : 2 * (front ++ data).length < m.range) :
    bodyAt m (front ++ data) front.length =
      .err (.tooSmall (front.length + subpacketSize) (front ++ data).length) := by
  have wide := m.wide
  rw [List.length_append] at held
  rw [bodyAt, Machine.add, if_pos (by simp only [subpacketSize]; omega), Outcome.ok_bind,
    if_pos (by rw [List.length_append]; omega)]

theorem bodyAt_declared (front : Bytes) (header : subpacketSize ≤ data.length)
    (held : 2 * (front ++ data).length < m.range) :
    bodyAt m (front ++ data) front.length =
      if data.length < declaredSize data 0 then
        .err (.sizeMismatch (declaredSize data 0) data.length)
      else do
        let length ← m.sub (declaredSize data 0) subpacketSize
        return (front.length + subpacketSize, length, front.length + declaredSize data 0) := by
  have wide := m.wide
  have small : declaredSize data 0 < 2 ^ 16 := UInt16.toNat_lt _
  have size : (u16Value (((front ++ data).drop front.length).take 2)).toNat =
      declaredSize data 0 := declaredSize_drop front data
  rw [List.length_append] at held
  rw [bodyAt, Machine.add, if_pos (by simp only [subpacketSize]; omega), Outcome.ok_bind,
    if_neg (by rw [List.length_append]; omega), size]
  simp only [Machine.add]
  rw [if_pos (by omega), Outcome.ok_bind, List.length_append]
  by_cases outside : data.length < declaredSize data 0
  · rw [if_pos outside, if_pos (by omega), Machine.sub, if_pos (by omega), Nat.add_sub_cancel_left]
    rfl
  · rw [if_neg outside, if_neg (by omega)]

theorem cryptFrom_stopped (front : Bytes) {e : PacketError} (some_left : 0 < data.length)
    (found : bodyAt m (front ++ data) front.length = .err e) :
    cryptFrom m block (fuel + 1) front.length (front ++ data) =
      some (.err (.packet e), front ++ data) := by
  rw [cryptFrom, if_pos (by rw [List.length_append]; omega), found]

theorem Ends.cryptFrom (h : Ends data) (front : Bytes) (enough : data.length < fuel)
    (held : 2 * (front ++ data).length < m.range) :
    ∃ after, cryptFrom m block fuel front.length (front ++ data) = some (.ok (), after) := by
  induction h generalizing front fuel with
  | nil =>
      cases fuel with
      | zero => omega
      | succ fuel => exact ⟨_, by rw [Common.cryptFrom, if_neg (by simp)]⟩
  | @cons f rest whole ends ih =>
      have size := f.length_bytes
      have header : 0 < subpacketSize := by decide
      cases fuel with
      | zero => omega
      | succ fuel =>
          rw [cryptFrom_frame m block fuel front f rest (by omega), if_pos whole]
          simp only [List.length_append] at enough held
          apply ih (front ++ (f.crypted block).bytes) (by omega)
          simp only [List.length_append, Frame.length_bytes, f.length_crypted]
          omega

theorem StopsUntouched.cryptFrom (h : StopsUntouched block data) (front : Bytes)
    (enough : data.length < fuel) (held : 2 * (front ++ data).length < m.range) :
    ∃ e, cryptFrom m block fuel front.length (front ++ data) = some (.err e, front ++ data) := by
  induction h generalizing front fuel with
  | cut left short =>
      cases fuel with
      | zero => omega
      | succ fuel =>
          exact ⟨_, cryptFrom_stopped m block front left (bodyAt_cut m front short held)⟩
  | outside header past =>
      have found := bodyAt_declared m front header held
      rw [if_pos past] at found
      have left := Nat.lt_of_lt_of_le (show 0 < subpacketSize by decide) header
      cases fuel with
      | zero => omega
      | succ fuel => exact ⟨_, cryptFrom_stopped m block front left found⟩
  | misaligned f rest broken =>
      cases fuel with
      | zero => omega
      | succ fuel =>
          exact ⟨_, by rw [cryptFrom_frame m block fuel front f rest (by omega), if_neg broken]⟩
  | @passed f rest whole fixed stops ih =>
      have size := f.length_bytes
      have header : 0 < subpacketSize := by decide
      cases fuel with
      | zero => omega
      | succ fuel =>
          rw [cryptFrom_frame m block fuel front f rest (by omega), if_pos whole, fixed,
            ← List.append_assoc]
          simp only [List.length_append] at enough held
          apply ih (front ++ f.bytes) (by omega)
          simp only [List.length_append]
          omega

theorem Frame.crypted_same {f : Frame} {after rest : Bytes}
    (unchanged : (f.crypted block).bytes ++ after = f.bytes ++ rest) :
    f.crypted block = f ∧ after = rest := by
  have length : (f.crypted block).bytes.length = f.bytes.length := by
    rw [Frame.length_bytes, f.length_crypted, f.length_bytes]
  obtain ⟨body, behind⟩ := List.append_inj unchanged length
  obtain ⟨_, bodies⟩ := List.append_inj body rfl
  refine ⟨?_, behind⟩
  cases f
  simp only [Frame.crypted, Frame.mk.injEq, true_and]
  exact bodies

theorem cryptFrom_small (front : Bytes) (held : 2 * (front ++ data).length < m.range)
    (header : subpacketSize ≤ data.length) (small : declaredSize data 0 < subpacketSize) :
    cryptFrom m.guarded block (fuel + 1) front.length (front ++ data) =
      some (.panic, front ++ data) := by
  have found := bodyAt_declared m.guarded front header held
  have underflow : m.guarded.sub (declaredSize data 0) subpacketSize = .panic := by
    rw [Machine.sub, if_neg (by omega)]
    rfl
  rw [if_neg (by omega), underflow] at found
  have some_left : 0 < data.length :=
    Nat.lt_of_lt_of_le (show 0 < subpacketSize by decide) header
  rw [cryptFrom, if_pos (by rw [List.length_append]; omega), found]
  rfl

/-- In a build that catches every underflow, a walk that returns ends, or stops with an
error; the bytes are the same after an error only where the bodies before it are. -/
theorem cryptFrom_checked (front : Bytes) {data out : Bytes} {result : Outcome CipherError Unit}
    (held : 2 * (front ++ data).length < m.range)
    (walked : cryptFrom m.guarded block fuel front.length (front ++ data) = some (result, out)) :
    ∃ after, out = front ++ after ∧ after.length = data.length ∧
      (result = .ok () → Ends data) ∧
      (∀ e, result = .err e → after = data → StopsUntouched block data) := by
  induction fuel generalizing front data with
  | zero => contradiction
  | succ fuel ih =>
      by_cases empty : data.length = 0
      · cases List.eq_nil_of_length_eq_zero empty
        rw [cryptFrom, if_neg (by simp)] at walked
        cases walked
        exact ⟨[], rfl, rfl, fun _ => .nil, by simp⟩
      by_cases short : data.length < subpacketSize
      · rw [cryptFrom_stopped m.guarded block front (by omega)
          (bodyAt_cut m.guarded front short held)] at walked
        cases walked
        exact ⟨data, rfl, rfl, by simp, fun _ _ _ => .cut (by omega) short⟩
      have header := Nat.not_lt.mp short
      by_cases past : data.length < declaredSize data 0
      · have found := bodyAt_declared m.guarded front header held
        rw [if_pos past] at found
        rw [cryptFrom_stopped m.guarded block front (by omega) found] at walked
        cases walked
        exact ⟨data, rfl, rfl, by simp, fun _ _ _ => .outside header past⟩
      by_cases small : declaredSize data 0 < subpacketSize
      · rw [cryptFrom_small m block front held header small] at walked
        cases walked
        exact ⟨data, rfl, rfl, by simp, by simp⟩
      obtain ⟨f, rest, split⟩ := exists_frame (Nat.not_lt.mp small) (Nat.not_lt.mp past)
      rw [split] at walked held ⊢
      have within : (front ++ (f.bytes ++ rest)).length < m.guarded.range := by
        change _ < m.range
        omega
      rw [cryptFrom_frame m.guarded block fuel front f rest within] at walked
      by_cases whole : f.Whole
      · rw [if_pos whole] at walked
        have same : (f.crypted block).bytes.length = f.bytes.length := by
          rw [Frame.length_bytes, f.length_crypted, f.length_bytes]
        obtain ⟨after, shape, length, ends, stops⟩ := ih (front ++ (f.crypted block).bytes)
          (by simp only [List.length_append] at held ⊢; omega) walked
        rw [List.append_assoc] at shape
        refine ⟨(f.crypted block).bytes ++ after, shape, ?_, fun ok => .cons f whole (ends ok), ?_⟩
        · simp only [List.length_append]
          omega
        · intro e failed unchanged
          obtain ⟨fixed, behind⟩ := Frame.crypted_same block unchanged
          exact .passed f whole fixed (stops e failed behind)
      · rw [if_neg whole] at walked
        cases walked
        exact ⟨_, rfl, rfl, by simp, fun _ _ _ => .misaligned f rest whole⟩

end Walk

abbrev Call := Machine → BasePacket → Option (Outcome CipherError Unit × BasePacket)

/-- No difference underflows and no index is out of range: the build that catches them
returns. -/
def Safe (m : Machine) (call : Call) (p : BasePacket) : Prop :=
  ∃ result after, call m.guarded p = some (result, after) ∧ result ≠ .panic

/-- A call that returns an error leaves the packet as it was. -/
def Atomic (m : Machine) (call : Call) (p : BasePacket) : Prop :=
  ∀ e after, call m p = some (.err e, after) → after = p

theorem crypt_eq_some {m : Machine} {block : Block → Block} {p after : BasePacket}
    {result : Outcome CipherError Unit} (h : crypt m block p = some (result, after)) :
    after.header = p.header ∧
      cryptFrom m block (p.data.length + 1) 0 p.data = some (result, after.data) := by
  obtain ⟨r, walked, same⟩ := Option.map_eq_some_iff.mp h
  cases same
  exact ⟨rfl, walked⟩

theorem crypt_safe_iff (m : Machine) (block : Block → Block) (header : BasePacketHeader)
    (data : m.Held) :
    (Safe m (crypt · block) ⟨header, data.1⟩ ∧ Atomic m (crypt · block) ⟨header, data.1⟩) ↔
      Ends data.1 ∨ StopsUntouched block data.1 := by
  have held : 2 * (([] : Bytes) ++ data.1).length < m.range := data.2
  constructor
  · intro ⟨⟨result, after, walked, returns⟩, atomic⟩
    obtain ⟨kept, walk⟩ := crypt_eq_some walked
    obtain ⟨bytes, same, _, ends, stops⟩ := cryptFrom_checked m block [] held walk
    cases result with
    | ok u => exact .inl (ends rfl)
    | panic => exact absurd rfl returns
    | err e =>
        have ran : crypt m block ⟨header, data.1⟩ = some (.err e, after) := by
          rw [crypt, cryptFrom_guarded walk returns]
          cases after
          cases kept
          rfl
        have unchanged := atomic e after ran
        rw [unchanged] at same
        exact .inr (stops e rfl same.symm)
  · intro ends
    cases ends with
    | inl ends =>
        obtain ⟨out, guarded⟩ := ends.cryptFrom m.guarded block [] (Nat.lt_succ_self _) held
        obtain ⟨out', walk⟩ := ends.cryptFrom m block [] (Nat.lt_succ_self _) held
        refine ⟨⟨_, _, congrArg (Option.map _) guarded, by simp⟩, ?_⟩
        intro e after failed
        obtain ⟨_, stopped⟩ := crypt_eq_some failed
        cases stopped.symm.trans walk
    | inr stops =>
        obtain ⟨e, guarded⟩ := stops.cryptFrom m.guarded block [] (Nat.lt_succ_self _) held
        obtain ⟨e', walk⟩ := stops.cryptFrom m block [] (Nat.lt_succ_self _) held
        refine ⟨⟨_, _, congrArg (Option.map _) guarded, by simp⟩, ?_⟩
        intro e after failed
        obtain ⟨kept, stopped⟩ := crypt_eq_some failed
        have same := stopped.symm.trans walk
        cases after
        cases kept
        cases same
        rfl

/-- Encryption and decryption are safe and atomic for the data that is whole subpackets of
whole blocks, and for the data whose first error is behind bodies the cipher leaves as they
are; a declared size below the header is neither. -/
theorem encrypt_decrypt_safe_iff (m : Machine) (bf : Blowfish) (header : BasePacketHeader)
    (data : m.Held) :
    ((Safe m (BasePacket.encrypt · bf) ⟨header, data.1⟩ ∧
        Atomic m (BasePacket.encrypt · bf) ⟨header, data.1⟩) ↔
      Ends data.1 ∨ StopsUntouched bf.encipherBlock data.1) ∧
    ((Safe m (BasePacket.decrypt · bf) ⟨header, data.1⟩ ∧
        Atomic m (BasePacket.decrypt · bf) ⟨header, data.1⟩) ↔
      Ends data.1 ∨ StopsUntouched bf.decipherBlock data.1) :=
  ⟨crypt_safe_iff m bf.encipherBlock header data, crypt_safe_iff m bf.decipherBlock header data⟩

def trailingByte : BasePacket :=
  ⟨{}, [24, 0] ++ zeros 14 ++ [1, 0, 0, 0, 0, 0, 0, 0] ++ [0]⟩

def blankTables : Blowfish := ⟨fun _ => 0, fun _ _ => 0⟩

def machine64 : Machine := ⟨2 ^ 64, true, by decide⟩

/-- Sixteen zero bytes declare a body of minus sixteen bytes, in both directions; the byte
behind a subpacket is found when its body has been rewritten. -/
theorem decrypt_underflows :
    ¬ Safe machine64 (BasePacket.encrypt · blankTables) ⟨{}, zeros 16⟩ ∧
    ¬ Safe machine64 (BasePacket.decrypt · blankTables) ⟨{}, zeros 16⟩ ∧
    ¬ Atomic machine64 (BasePacket.encrypt · blankTables) trailingByte ∧
    ¬ Atomic machine64 (BasePacket.decrypt · blankTables) trailingByte := by
  refine ⟨?_, ?_, ?_, ?_⟩
  · intro ⟨result, after, failed, returns⟩
    cases failed
    exact returns rfl
  · intro ⟨result, after, failed, returns⟩
    cases failed
    exact returns rfl
  · intro atomic
    exact absurd (atomic _ _ rfl) (by decide)
  · intro atomic
    exact absurd (atomic _ _ rfl) (by decide)

end Garlemald.Common
