import Garlemald.Common.Container

/-!
The decoders over the machine's own offsets, whose sums panic in a checked build and
wrap round in an unchecked one. What a peer declares never makes the subpacket
decoders leave their input; the packet decoders lack the guard against a declared
size below their own header, and that, with an offset at the very end of the address
range, is the only way they fail to return.
-/

namespace Garlemald.Common
open Library

/-- How a build computes with offsets: how many there are, and whether a sum out of
range is caught. -/
structure Machine where
  range : Nat
  checked : Bool
  wide : 2 ^ 32 ≤ range

variable {bytes : Bytes} {offset : Nat}

namespace Machine

variable (m : Machine)

/-- A byte string the machine can hold: at most half of its addresses. -/
abbrev Held := { bytes : Bytes // 2 * bytes.length < m.range }

abbrev Offset := Fin m.range

def add (a b : Nat) : Outcome PacketError Nat :=
  if a + b < m.range then .ok (a + b) else if m.checked then .panic else .ok (a + b - m.range)

def sub (a b : Nat) : Outcome PacketError Nat :=
  if b ≤ a then .ok (a - b) else if m.checked then .panic else .ok (m.range + a - b)

def byteAt (bytes : Bytes) (i : Nat) : Outcome PacketError UInt8 := .unwrap bytes[i]?

def parse (bytes : Bytes) (offset : Nat) : Outcome PacketError (SubPacket × Nat) := do
  let headerEnd ← m.add offset subpacketSize
  if bytes.length < headerEnd then .err (.tooSmall headerEnd bytes.length)
  else
    let window ← .slice bytes offset headerEnd
    let header ← SubPacketHeader.read window
    let minSize :=
      if header.type = subpacketTypeGamemessage then subpacketSize + gamemessageSize
      else subpacketSize
    if header.size.toNat < minSize then
      .err (.sizeMismatch header.size.toNat (← m.sub bytes.length offset))
    else
      let dataEnd ← m.add offset header.size.toNat
      if bytes.length < dataEnd then
        .err (.sizeMismatch header.size.toNat (← m.sub bytes.length offset))
      else if header.type = subpacketTypeGamemessage then
        let dataStart ← m.add headerEnd gamemessageSize
        let gameMessage ← GameMessageHeader.read (← .slice bytes headerEnd dataStart)
        let data ← .slice bytes dataStart dataEnd
        return ({ header, gameMessage, data }, dataEnd)
      else
        let data ← .slice bytes headerEnd dataEnd
        return ({ header, gameMessage := {}, data }, dataEnd)

def fromBuffer (bytes : Bytes) (offset : Nat) : Outcome PacketError (BasePacket × Nat) := do
  let headerEnd ← m.add offset basepacketSize
  if bytes.length < headerEnd then .err (.tooSmall headerEnd bytes.length)
  else
    let window ← .slice bytes offset headerEnd
    let header ← BasePacketHeader.read window
    let packetEnd ← m.add offset header.packetSize.toNat
    if bytes.length < packetEnd then
      .err (.sizeMismatch header.packetSize.toNat (← m.sub bytes.length offset))
    else
      let data ← .slice bytes headerEnd packetEnd
      return ({ header, data }, packetEnd)

def tryFromBuffer (buffer : Bytes) (offset bytesRead : Nat) :
    Outcome PacketError (Option (BasePacket × Nat)) := do
  if bytesRead ≤ offset then return none
  else
    let sizeEnd ← m.add offset 2
    if buffer.length < sizeEnd then return none
    else
      let low ← byteAt buffer offset
      let high ← byteAt buffer (← m.add offset 1)
      let packetEnd ← m.add offset (u16Value [low, high]).toNat
      if bytesRead < packetEnd ∨ buffer.length < packetEnd then return none
      else match m.fromBuffer buffer offset with
        | .ok parsed => return some parsed
        | .err _ => return none
        | .panic => .panic

/-- The loop of `get_subpackets` from `offset` on: one parse a turn, until the data is
used up or a parse fails. -/
inductive Walks (data : Bytes) : Nat → Outcome PacketError (List SubPacket) → Prop
  | done {offset : Nat} : data.length ≤ offset → Walks data offset (.ok [])
  | rejected {offset : Nat} {e : PacketError} : offset < data.length →
      m.parse data offset = .err e → Walks data offset (.err e)
  | panicked {offset : Nat} : offset < data.length →
      m.parse data offset = .panic → Walks data offset .panic
  | pushed {offset next : Nat} {sub : SubPacket} {rest : Outcome PacketError (List SubPacket)} :
      offset < data.length → m.parse data offset = .ok (sub, next) →
      Walks data next rest → Walks data offset (do return sub :: (← rest))

/-- The first sum of a decoder stays in range or wraps round to an end past the bytes. -/
def Addressable (bytes : Bytes) (offset width : Nat) : Prop :=
  offset + width < m.range ∨ m.checked = false ∧ bytes.length < offset + width - m.range

variable {m}

theorem add_ok {a b : Nat} (inside : a + b < m.range) : m.add a b = .ok (a + b) :=
  if_pos inside

theorem sub_ok {a b : Nat} (inside : b ≤ a) : m.sub a b = .ok (a - b) :=
  if_pos inside

theorem add_wrapped {a b : Nat} (past : m.range ≤ a + b) :
    m.add a b = if m.checked then .panic else .ok (a + b - m.range) :=
  if_neg (Nat.not_lt.mpr past)

/-- A decoder whose first sum leaves the range returns only where the wrapped end is
past the bytes, as it would begin behind that end. -/
theorem wrapped_returns_iff {α : Type} {offset width : Nat} (past : m.range ≤ offset + width)
    {short : Nat → Outcome PacketError α} (returns : ∀ sumEnd, short sumEnd ≠ .panic)
    {whole : Nat → Outcome PacketError α} (panics : whole (offset + width - m.range) = .panic) :
    (do
      let sumEnd ← m.add offset width
      if bytes.length < sumEnd then short sumEnd else whole sumEnd) ≠ .panic ↔
      m.Addressable bytes offset width := by
  have outside := Nat.not_lt.mpr past
  rw [add_wrapped past]
  cases build : m.checked with
  | true => simp [Addressable, outside, build]
  | false =>
      by_cases cut : bytes.length < offset + width - m.range
      · simp [Addressable, build, cut, returns]
      · simp [Addressable, build, cut, outside, panics]

theorem slice_wrapped {offset width : Nat} (widthFits : width < m.range)
    (past : m.range ≤ offset + width) :
    (.slice bytes offset (offset + width - m.range) : Outcome PacketError Bytes) = .panic := by
  rw [Outcome.slice, if_neg (by omega)]

theorem parse_eq (held : 2 * bytes.length < m.range) (inside : offset + subpacketSize < m.range) :
    m.parse bytes offset = SubPacket.parse bytes offset := by
  have wide := m.wide
  rw [parse, SubPacket.parse, add_ok inside, Outcome.ok_bind]
  by_cases short : bytes.length < offset + subpacketSize
  · rw [if_pos short, if_pos short]
  rw [if_neg short, if_neg short]
  simp only [subpacketSize] at short
  apply bind_congr
  intro window
  apply bind_congr
  intro header
  have small := header.size.toNat_lt
  have messageEnd : m.add (offset + subpacketSize) gamemessageSize =
      .ok (offset + subpacketSize + gamemessageSize) :=
    add_ok (by simp only [subpacketSize, gamemessageSize]; omega)
  rw [sub_ok (by omega), add_ok (by omega)]
  simp only [messageEnd, Outcome.ok_bind]

theorem fromBuffer_eq (held : 2 * bytes.length < m.range)
    (inside : offset + basepacketSize < m.range) :
    m.fromBuffer bytes offset = BasePacket.fromBuffer bytes offset := by
  have wide := m.wide
  rw [fromBuffer, BasePacket.fromBuffer, add_ok inside, Outcome.ok_bind]
  by_cases short : bytes.length < offset + basepacketSize
  · rw [if_pos short, if_pos short]
  rw [if_neg short, if_neg short]
  simp only [basepacketSize] at short
  apply bind_congr
  intro window
  apply bind_congr
  intro header
  have small := header.packetSize.toNat_lt
  rw [sub_ok (by omega), add_ok (by omega)]
  rfl

end Machine

theorem SubPacketHeader.read_ne_panic (buf : Bytes) : read buf ≠ .panic := by
  rw [read]
  split
  · simp
  · split <;> simp

theorem GameMessageHeader.read_ne_panic (buf : Bytes) : read buf ≠ .panic := by
  rw [read]
  split
  · simp
  · split <;> simp

theorem SubPacket.parse_ne_panic (bytes : Bytes) (offset : Nat) :
    parse bytes offset ≠ .panic := by
  rw [parse]
  by_cases short : bytes.length < offset + subpacketSize
  · rw [if_pos short]
    simp
  rw [if_neg short, Outcome.slice_ok (by omega) (by omega), Outcome.ok_bind]
  cases read :
      SubPacketHeader.read ((bytes.drop offset).take (offset + subpacketSize - offset)) with
  | err e => simp
  | panic => exact absurd read (SubPacketHeader.read_ne_panic _)
  | ok header =>
      simp only [Outcome.ok_bind]
      by_cases game : header.type = subpacketTypeGamemessage
      · simp only [game, if_true]
        by_cases small : header.size.toNat < subpacketSize + gamemessageSize
        · rw [if_pos small]
          simp
        by_cases cut : bytes.length < offset + header.size.toNat
        · rw [if_neg small, if_pos cut]
          simp
        rw [if_neg small, if_neg cut, Outcome.slice_ok (by omega) (by omega), Outcome.ok_bind]
        cases second : GameMessageHeader.read ((bytes.drop (offset + subpacketSize)).take
            (offset + subpacketSize + gamemessageSize - (offset + subpacketSize))) with
        | err e => simp
        | panic => exact absurd second (GameMessageHeader.read_ne_panic _)
        | ok gameMessage =>
            rw [Outcome.ok_bind, Outcome.slice_ok (by omega) (by omega)]
            simp
      · simp only [game, if_false]
        by_cases small : header.size.toNat < subpacketSize
        · rw [if_pos small]
          simp
        by_cases cut : bytes.length < offset + header.size.toNat
        · rw [if_neg small, if_pos cut]
          simp
        rw [if_neg small, if_neg cut, Outcome.slice_ok (by omega) (by omega)]
        simp

/-- A whole header at `offset` that declares a frame smaller than the header itself. -/
def ShortFrame (bytes : Bytes) (offset : Nat) : Prop :=
  offset + basepacketSize ≤ bytes.length ∧
    (u16Value ((bytes.drop (offset + 4)).take 2)).toNat < basepacketSize

theorem BasePacket.fromBuffer_panic_iff (bytes : Bytes) (offset : Nat) :
    fromBuffer bytes offset = .panic ↔ ShortFrame bytes offset := by
  rw [fromBuffer, ShortFrame]
  by_cases short : bytes.length < offset + basepacketSize
  · rw [if_pos short]
    simp [Nat.not_le.mpr short]
  rw [if_neg short, Outcome.slice_ok (by omega) (by omega), Outcome.ok_bind]
  have window : basepacketSize ≤
      ((bytes.drop offset).take (offset + basepacketSize - offset)).length := by
    rw [List.length_take, List.length_drop]
    omega
  obtain ⟨header, read, declared⟩ := BasePacketHeader.read_window window
  have field : (((bytes.drop offset).take (offset + basepacketSize - offset)).drop 4).take 2 =
      (bytes.drop (offset + 4)).take 2 := by
    rw [Nat.add_sub_cancel_left, List.drop_take, List.take_take, List.drop_drop]
    rfl
  rw [field] at declared
  rw [read, Outcome.ok_bind, ← declared]
  by_cases cut : bytes.length < offset + header.packetSize.toNat
  · rw [if_pos cut]
    simp only [basepacketSize] at short ⊢
    simp
    omega
  · rw [if_neg cut]
    by_cases small : header.packetSize.toNat < basepacketSize
    · have backwards : ¬ offset + basepacketSize ≤ offset + header.packetSize.toNat := by omega
      simp only [Outcome.slice, backwards, false_and, if_false, Outcome.panic_bind, small,
        Nat.not_lt.mp short, and_self]
    · dsimp only
      rw [Outcome.slice_ok (by omega) (by omega)]
      simp [small]

theorem BasePacket.fromBytes_panic_iff (bytes : Bytes) :
    fromBytes bytes = .panic ↔ ShortFrame bytes 0 := by
  rw [fromBytes_eq, ← fromBuffer_panic_iff]
  cases fromBuffer bytes 0 <;> simp

namespace Machine

variable {m : Machine}

theorem parse_returns_iff (bytes : m.Held) (offset : m.Offset) :
    m.parse bytes.1 offset.1 ≠ .panic ↔ m.Addressable bytes.1 offset.1 subpacketSize := by
  by_cases inside : offset.1 + subpacketSize < m.range
  · rw [parse_eq bytes.2 inside]
    exact iff_of_true (SubPacket.parse_ne_panic _ _) (Or.inl inside)
  · have wide := m.wide
    have past := Nat.not_lt.mp inside
    apply wrapped_returns_iff past (fun _ => by simp)
    rw [slice_wrapped (by simp only [subpacketSize]; omega) past]
    rfl

theorem fromBuffer_returns_iff (bytes : m.Held) (offset : m.Offset) :
    m.fromBuffer bytes.1 offset.1 ≠ .panic ↔
      m.Addressable bytes.1 offset.1 basepacketSize ∧ ¬ ShortFrame bytes.1 offset.1 := by
  by_cases inside : offset.1 + basepacketSize < m.range
  · rw [fromBuffer_eq bytes.2 inside, Ne, BasePacket.fromBuffer_panic_iff]
    exact (and_iff_right (Or.inl inside)).symm
  · have wide := m.wide
    have held := bytes.2
    have outside : ¬ ShortFrame bytes.1 offset.1 := fun whole => by
      have within := whole.1
      omega
    rw [and_iff_left outside]
    have past := Nat.not_lt.mp inside
    apply wrapped_returns_iff past (fun _ => by simp)
    rw [slice_wrapped (by simp only [basepacketSize]; omega) past]
    rfl

theorem peekedSize_bytes (arrived : offset + 2 ≤ bytes.length) :
    ∃ low high, byteAt bytes offset = .ok low ∧ byteAt bytes (offset + 1) = .ok high ∧
      (u16Value [low, high]).toNat = BasePacket.peekedSize bytes offset := by
  refine ⟨bytes[offset], bytes[offset + 1], ?_, ?_, ?_⟩
  · rw [byteAt, List.getElem?_eq_getElem]
    rfl
  · rw [byteAt, List.getElem?_eq_getElem]
    rfl
  · have front : (bytes.drop offset).take 2 = [bytes[offset], bytes[offset + 1]] := by
      rw [List.drop_eq_getElem_cons (by omega), List.take_succ_cons,
        List.drop_eq_getElem_cons (by omega)]
      rfl
    rw [BasePacket.peekedSize, front]

theorem tryFromBuffer_returns_iff (buffer : m.Held) (offset : m.Offset) (bytesRead : Nat) :
    m.tryFromBuffer buffer.1 offset.1 bytesRead ≠ .panic ↔
      bytesRead ≤ offset.1 ∨ m.Addressable buffer.1 offset.1 2 ∧
        ¬ (offset.1 + BasePacket.peekedSize buffer.1 offset.1 ≤ min bytesRead buffer.1.length ∧
          ShortFrame buffer.1 offset.1) := by
  have wide := m.wide
  have held := buffer.2
  rw [tryFromBuffer]
  by_cases early : bytesRead ≤ offset.1
  · rw [if_pos early]
    simp [early]
  rw [if_neg early, or_iff_right early]
  by_cases inside : offset.1 + 2 < m.range
  · have addressable : m.Addressable buffer.1 offset.1 2 := Or.inl inside
    rw [add_ok inside, Outcome.ok_bind, and_iff_right addressable]
    by_cases short : buffer.1.length < offset.1 + 2
    · rw [if_pos short]
      have outside : ¬ ShortFrame buffer.1 offset.1 := fun whole => by
        have within := whole.1
        simp only [basepacketSize] at within
        omega
      simp [outside]
    · obtain ⟨low, high, first, second, size⟩ := peekedSize_bytes (Nat.not_lt.mp short)
      have small : BasePacket.peekedSize buffer.1 offset.1 < 2 ^ 16 := UInt16.toNat_lt _
      rw [if_neg short, first, Outcome.ok_bind, add_ok (by omega), Outcome.ok_bind, second,
        Outcome.ok_bind, size, add_ok (by omega), Outcome.ok_bind]
      by_cases waits : bytesRead < offset.1 + BasePacket.peekedSize buffer.1 offset.1 ∨
          buffer.1.length < offset.1 + BasePacket.peekedSize buffer.1 offset.1
      · have pending : ¬ offset.1 + BasePacket.peekedSize buffer.1 offset.1 ≤
            min bytesRead buffer.1.length := by omega
        rw [if_pos waits]
        simp [pending]
      · have arrived : offset.1 + BasePacket.peekedSize buffer.1 offset.1 ≤
            min bytesRead buffer.1.length := by omega
        have packet := BasePacket.fromBuffer_panic_iff buffer.1 offset.1
        rw [if_neg waits, and_iff_right arrived, ← packet,
          fromBuffer_eq held (by simp only [basepacketSize]; omega)]
        cases BasePacket.fromBuffer buffer.1 offset.1 <;> simp
  · have past := Nat.not_lt.mp inside
    have outside : ¬ ShortFrame buffer.1 offset.1 := fun whole => by
      have within := whole.1
      omega
    simp only [outside, and_false, not_false_eq_true, and_true]
    apply wrapped_returns_iff past (fun _ => by simp)
    rw [byteAt, List.getElem?_eq_none (by omega)]
    rfl

theorem parse_inside (data : m.Held) (inside : offset < data.1.length) :
    m.parse data.1 offset = SubPacket.parse data.1 offset := by
  have held := data.2
  have wide := m.wide
  exact parse_eq held (by simp only [subpacketSize]; omega)

theorem walks_subpacketsFrom (data : m.Held) {fuel offset : Nat}
    (enough : data.1.length ≤ offset + fuel) :
    m.Walks data.1 offset (BasePacket.subpacketsFrom data.1 fuel offset) := by
  induction fuel generalizing offset with
  | zero => exact .done enough
  | succ fuel ih =>
      by_cases more : offset < data.1.length
      · have same := parse_inside data more
        simp only [BasePacket.subpacketsFrom, more, if_true]
        cases parsed : SubPacket.parse data.1 offset with
        | err e => exact .rejected more (same.trans parsed)
        | panic => exact absurd parsed (SubPacket.parse_ne_panic _ _)
        | ok found =>
            obtain ⟨sub, next⟩ := found
            obtain ⟨_, behind, _⟩ := SubPacket.parse_ok parsed
            have header := sub.length_encoding
            simp only [subpacketSize] at header
            exact .pushed more (same.trans parsed) (ih (by omega))
      · have stop : BasePacket.subpacketsFrom data.1 (fuel + 1) offset = .ok [] := by
          simp only [BasePacket.subpacketsFrom, more, if_false]
          rfl
        rw [stop]
        exact .done (Nat.not_lt.mp more)

theorem Walks.ne_panic {data : m.Held} {result : Outcome PacketError (List SubPacket)}
    (walk : m.Walks data.1 offset result) :
    result ≠ .panic := by
  induction walk with
  | done _ => simp
  | rejected _ _ => simp
  | panicked more failed =>
      rw [parse_inside data more] at failed
      exact absurd failed (SubPacket.parse_ne_panic _ _)
  | @pushed _ _ sub rest _ _ _ ih => cases rest <;> simp_all

/-- Each decoder returns exactly where its first sum does not lead it astray and, for the
packet decoders, no frame that is reached declares less than its header. -/
theorem decoders_return_iff (m : Machine) (bytes : m.Held) (offset : m.Offset) (bytesRead : Nat)
    (header : BasePacketHeader) (data : m.Held) :
    (BasePacket.fromBytes bytes.1 ≠ .panic ↔ ¬ ShortFrame bytes.1 0) ∧
    (m.fromBuffer bytes.1 offset.1 ≠ .panic ↔
      m.Addressable bytes.1 offset.1 basepacketSize ∧ ¬ ShortFrame bytes.1 offset.1) ∧
    (m.tryFromBuffer bytes.1 offset.1 bytesRead ≠ .panic ↔
      bytesRead ≤ offset.1 ∨ m.Addressable bytes.1 offset.1 2 ∧
        ¬ (offset.1 + BasePacket.peekedSize bytes.1 offset.1 ≤ min bytesRead bytes.1.length ∧
          ShortFrame bytes.1 offset.1)) ∧
    (m.parse bytes.1 offset.1 ≠ .panic ↔ m.Addressable bytes.1 offset.1 subpacketSize) ∧
    m.Walks data.1 0 (BasePacket.getSubpackets ⟨header, data.1⟩) ∧
    BasePacket.getSubpackets ⟨header, data.1⟩ ≠ .panic := by
  have walk : m.Walks data.1 0 (BasePacket.getSubpackets ⟨header, data.1⟩) :=
    walks_subpacketsFrom data (Nat.le_add_left ..)
  exact ⟨not_congr (BasePacket.fromBytes_panic_iff _), fromBuffer_returns_iff bytes offset,
    tryFromBuffer_returns_iff bytes offset bytesRead, parse_returns_iff bytes offset, walk,
    walk.ne_panic⟩

end Machine

/-- A frame header of zeros declares no bytes at all. -/
theorem fromBytes_zeros : BasePacket.fromBytes (zeros 16) = .panic := by decide

end Garlemald.Common
