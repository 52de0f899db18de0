import Garlemald.Common.BasePacket

/-!
Building a frame from subpackets: the encodings are copied one behind the other
into a buffer of the summed declared sizes, which the frame header then counts and
measures. The zlib deflater and inflater are parameters. What is packed and sent is
what the receiver splits off, with one exception the constructors do not exclude: a
subpacket given the game-message type without its header cannot be written at all.
-/

namespace Garlemald.Common
open Library

namespace SubPacket

theorem parse_ok {bytes : Bytes} {offset next : Nat} {p : SubPacket}
    (h : parse bytes offset = .ok (p, next)) :
    p.Sized ∧ next = offset + p.encoding.length ∧ next ≤ bytes.length := by
  by_cases short : bytes.length < offset + subpacketSize
  · simp only [parse, short, if_true] at h
    contradiction
  simp only [parse, short, if_false] at h
  obtain ⟨window, _, h⟩ := Outcome.bind_eq_ok.mp h
  obtain ⟨header, _, h⟩ := Outcome.bind_eq_ok.mp h
  by_cases game : header.type = subpacketTypeGamemessage
  · simp only [game, if_true] at h
    by_cases small : header.size.toNat < subpacketSize + gamemessageSize
    · rw [if_pos small] at h
      contradiction
    by_cases cut : bytes.length < offset + header.size.toNat
    · rw [if_neg small, if_pos cut] at h
      contradiction
    rw [if_neg small, if_neg cut] at h
    obtain ⟨_, _, h⟩ := Outcome.bind_eq_ok.mp h
    obtain ⟨gameMessage, _, h⟩ := Outcome.bind_eq_ok.mp h
    obtain ⟨data, content, h⟩ := Outcome.bind_eq_ok.mp h
    cases h
    obtain ⟨_, _, length⟩ := Outcome.slice_eq_ok content
    have size : header.size.toNat = (encoding ⟨header, gameMessage, data⟩).length := by
      rw [length_encoding, if_pos game]
      simp only [length]
      omega
    exact ⟨⟨size, fun other => absurd game other⟩, by rw [size], Nat.not_lt.mp cut⟩
  · simp only [game, if_false] at h
    by_cases small : header.size.toNat < subpacketSize
    · rw [if_pos small] at h
      contradiction
    by_cases cut : bytes.length < offset + header.size.toNat
    · rw [if_neg small, if_pos cut] at h
      contradiction
    rw [if_neg small, if_neg cut] at h
    obtain ⟨data, content, h⟩ := Outcome.bind_eq_ok.mp h
    cases h
    obtain ⟨_, _, length⟩ := Outcome.slice_eq_ok content
    have size : header.size.toNat = (encoding ⟨header, {}, data⟩).length := by
      rw [length_encoding, if_neg game]
      simp only [length]
      omega
    exact ⟨⟨size, fun _ => rfl⟩, by rw [size], Nat.not_lt.mp cut⟩

/-- The subpackets a server sends: built as game messages or as other subpackets and
targeted, or taken from the wire. -/
inductive Sendable : SubPacket → Prop
  | new (now : UInt32) (opcode : UInt16) (sourceId target : UInt32) (data : Bytes) :
      Sendable ((SubPacket.new now opcode sourceId data).setTargetId target)
  | plain (now : UInt32) (opcode : UInt16) (sourceId target : UInt32) (data : Bytes) :
      opcode ≠ subpacketTypeGamemessage →
        Sendable ((newWithFlag now false opcode sourceId data).setTargetId target)
  | parsed {bytes : Bytes} {offset next : Nat} {p : SubPacket} :
      parse bytes offset = .ok (p, next) → Sendable p

theorem Sendable.sized {p : SubPacket} (h : p.Sendable) (fits : p.encoding.length < 0x10000) :
    p.Sized := by
  cases h with
  | new now opcode sourceId target data =>
      rw [setTargetId_length] at fits
      apply Sized.setTargetId
      exact newWithFlag_fits fits (fun other => Bool.noConfusion other)
  | plain now opcode sourceId target data other =>
      rw [setTargetId_length] at fits
      apply Sized.setTargetId
      exact newWithFlag_fits fits (fun _ => other)
  | parsed fromWire => exact (parse_ok fromWire).1

end SubPacket

section Pack

variable (deflate : Bytes → Option Bytes) (now : UInt64)

namespace BasePacket

def fromBytes (bytes : Bytes) : Outcome PacketError BasePacket := do
  if bytes.length < basepacketSize then .err (.tooSmall basepacketSize bytes.length)
  else
    let header ← BasePacketHeader.read (← .slice bytes 0 basepacketSize)
    if bytes.length < header.packetSize.toNat then
      .err (.sizeMismatch header.packetSize.toNat bytes.length)
    else
      let data ← .slice bytes basepacketSize header.packetSize.toNat
      return { header, data }

/-- `now` is the Unix time in milliseconds. -/
def createFromSubpackets (subpackets : List SubPacket) (isAuthed isCompressed : Bool) :
    Outcome PacketError BasePacket := do
  let bodySize := (subpackets.map fun s => s.header.size.toNat).sum
  let encoded ← subpackets.mapM SubPacket.toBytes
  let data ← .unwrap (Writer.fill bodySize (encoded.forM Writer.all))
  let (data, packetSize) ←
    if isCompressed then
      match deflate data with
      | some compressed =>
          pure (compressed, UInt16.ofNat (basepacketSize + compressed.length))
      | none => .err .io
    else pure (data, UInt16.ofNat (basepacketSize + bodySize))
  return {
    header := {
      isAuthenticated := if isAuthed then 1 else 0
      isCompressed := if isCompressed then 1 else 0
      connectionType := 0
      packetSize
      numSubpackets := UInt16.ofNat subpackets.length
      timestamp := now }
    data }

theorem fromBytes_eq (bytes : Bytes) :
    fromBytes bytes = (do let (packet, _) ← fromBuffer bytes 0; return packet) := by
  simp only [fromBytes, fromBuffer, Nat.zero_add, Nat.sub_zero]
  by_cases short : bytes.length < basepacketSize
  · simp only [short, if_true]
    rfl
  simp only [short, if_false]
  cases Outcome.slice (ε := PacketError) bytes 0 basepacketSize with
  | err e => rfl
  | panic => rfl
  | ok window =>
      simp only [Outcome.ok_bind]
      cases BasePacketHeader.read window with
      | err e => rfl
      | panic => rfl
      | ok header =>
          simp only [Outcome.ok_bind]
          by_cases cut : bytes.length < header.packetSize.toNat
          · rw [if_pos cut, if_pos cut]
            rfl
          rw [if_neg cut, if_neg cut]
          cases Outcome.slice (ε := PacketError) bytes basepacketSize header.packetSize.toNat <;>
            rfl

theorem fromBytes_encoding {p : BasePacket} (h : p.Sized) : fromBytes p.encoding = .ok p := by
  have whole := fromBuffer_encoding h [] []
  rw [List.nil_append, List.append_nil, List.length_nil] at whole
  rw [fromBytes_eq, whole]
  rfl

/-- The header a frame of `subpackets` carries when its data is `data`. -/
def containerHeader (subpackets : List SubPacket) (isAuthed isCompressed : Bool) (data : Bytes) :
    BasePacketHeader :=
  { isAuthenticated := if isAuthed then 1 else 0
    isCompressed := if isCompressed then 1 else 0
    connectionType := 0
    packetSize := UInt16.ofNat (basepacketSize + data.length)
    numSubpackets := UInt16.ofNat subpackets.length
    timestamp := now }

theorem bodySize_eq {ps : List SubPacket} (sized : ∀ p ∈ ps, p.Sized) :
    (ps.map fun s => s.header.size.toNat).sum = (ps.flatMap SubPacket.encoding).length := by
  rw [List.length_flatMap]
  congr 1
  exact List.map_congr_left fun p member => (sized p member).size_eq

theorem createFromSubpackets_sized {ps : List SubPacket} (sized : ∀ p ∈ ps, p.Sized)
    (isAuthed isCompressed : Bool) {data : Bytes}
    (packed : (if isCompressed then deflate (ps.flatMap SubPacket.encoding)
      else some (ps.flatMap SubPacket.encoding)) = some data) :
    createFromSubpackets deflate now ps isAuthed isCompressed =
      .ok ⟨containerHeader now ps isAuthed isCompressed data, data⟩ := by
  have encoded := Outcome.mapM_ok fun p member => SubPacket.toBytes_sized (sized p member)
  have filled := Writer.fill_parts (ps.map SubPacket.encoding)
  rw [← List.flatMap_def] at filled
  rw [createFromSubpackets, encoded]
  simp only [Outcome.ok_bind, bodySize_eq sized, filled, Outcome.unwrap_some]
  cases isCompressed with
  | false =>
      cases packed
      rfl
  | true =>
      rw [if_pos rfl] at packed
      rw [if_pos rfl, packed]
      rfl

theorem length_encodings_ge (ps : List SubPacket) :
    subpacketSize * ps.length ≤ (ps.flatMap SubPacket.encoding).length := by
  induction ps with
  | nil => simp
  | cons p ps ih =>
      have one := p.length_encoding
      rw [List.flatMap_cons, List.length_append, List.length_cons, Nat.mul_succ]
      omega

variable (inflate : Bytes → Option Bytes)

theorem container_sized (ps : List SubPacket) (isAuthed isCompressed : Bool) {data : Bytes}
    (fits : basepacketSize + data.length < 0x10000) :
    Sized ⟨containerHeader now ps isAuthed isCompressed data, data⟩ := by
  change (UInt16.ofNat (basepacketSize + data.length)).toNat = basepacketSize + data.length
  rw [UInt16.toNat_ofNat', Nat.mod_eq_of_lt fits]

theorem container_count {ps : List SubPacket}
    (fits : basepacketSize + (ps.flatMap SubPacket.encoding).length < 0x10000)
    (isAuthed isCompressed : Bool) (data : Bytes) :
    (containerHeader now ps isAuthed isCompressed data).numSubpackets.toNat = ps.length := by
  have few := length_encodings_ge ps
  simp only [subpacketSize] at few
  change (UInt16.ofNat ps.length).toNat = ps.length
  rw [UInt16.toNat_ofNat', Nat.mod_eq_of_lt (by omega)]

theorem sendable_sized {ps : List SubPacket} (sendable : ∀ p ∈ ps, p.Sendable)
    (fits : basepacketSize + (ps.flatMap SubPacket.encoding).length < 0x10000) :
    ∀ p ∈ ps, p.Sized := by
  intro p member
  apply (sendable p member).sized
  obtain ⟨front, back, rfl⟩ := List.append_of_mem member
  simp only [List.flatMap_append, List.flatMap_cons, List.length_append] at fits
  omega

variable (inflate : Bytes → Option Bytes)

/-- A frame built from subpackets whose encodings fit it gives the same subpackets back
and counts them; a compressed one does so once it is inflated. -/
theorem createFromSubpackets_roundTrip {ps : List SubPacket} (sendable : ∀ p ∈ ps, p.Sendable)
    (fits : basepacketSize + (ps.flatMap SubPacket.encoding).length < 0x10000)
    (isAuthed : Bool) :
    (∃ packet, createFromSubpackets deflate now ps isAuthed false = .ok packet ∧
      packet.header.numSubpackets.toNat = ps.length ∧
      (do (← fromBytes (← packet.toBytes)).getSubpackets) = .ok ps) ∧
    ∀ data, deflate (ps.flatMap SubPacket.encoding) = some data →
      inflate data = some (ps.flatMap SubPacket.encoding) →
      basepacketSize + data.length < 0x10000 →
      ∃ packet, createFromSubpackets deflate now ps isAuthed true = .ok packet ∧
        packet.header.numSubpackets.toNat = ps.length ∧
        (do (← (← fromBytes (← packet.toBytes)).inflated inflate).getSubpackets) = .ok ps := by
  have sized := sendable_sized sendable fits
  constructor
  · have built := createFromSubpackets_sized deflate now sized isAuthed false rfl
    have size := container_sized now ps isAuthed false fits
    refine ⟨_, built, container_count now fits isAuthed false _, ?_⟩
    rw [toBytes_sized size, Outcome.ok_bind, fromBytes_encoding size]
    exact getSubpackets_encodings ps sized _
  · intro data packed restored dataFits
    have built := createFromSubpackets_sized deflate now sized isAuthed true packed
    have size := container_sized now ps isAuthed true dataFits
    refine ⟨_, built, container_count now fits isAuthed true _, ?_⟩
    rw [toBytes_sized size, Outcome.ok_bind, fromBytes_encoding size, Outcome.ok_bind]
    have compressed : (containerHeader now ps isAuthed true data).isCompressed = 0x01 := rfl
    rw [inflated, if_pos compressed, decompress, restored]
    exact getSubpackets_encodings ps sized _

theorem createFromSubpackets_roundTrip_chat :
    let chat := SubPacket.new 7 0x03 0x11 [1, 2, 3]
    let ping := (SubPacket.newWithFlag 7 false 0x08 0x11 []).setTargetId 5
    ∃ packet, createFromSubpackets (fun _ => none) 9 [chat, ping] true false = .ok packet ∧
      packet.header.numSubpackets.toNat = 2 ∧
      (do (← fromBytes (← packet.toBytes)).getSubpackets) = .ok [chat, ping] := by
  intro chat ping
  have sendable : ∀ p ∈ [chat, ping], p.Sendable := by
    intro p member
    simp only [List.mem_cons, List.not_mem_nil, or_false] at member
    cases member with
    | inl same =>
        rw [same]
        exact .new 7 0x03 0x11 0 [1, 2, 3]
    | inr same =>
        rw [same]
        exact .plain 7 0x08 0x11 5 [] (by decide)
  exact (createFromSubpackets_roundTrip (fun _ => none) 9 (fun _ => none) sendable
    (by decide) true).1

end BasePacket
end Pack
end Garlemald.Common
