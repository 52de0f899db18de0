import Garlemald.Common.SubPacket

/-!
Base packets: the 16-byte frame header, the framing parsers over a receive
buffer, and the split of a frame's data into subpackets. The zlib inflater is a
parameter; every other operation is computed as the frame code computes it.
-/

namespace Garlemald.Common
open Library

def packetTypeZone : UInt16 := 1

def packetTypeChat : UInt16 := 2

def basepacketSize : Nat := 0x10

structure BasePacketHeader where
  isAuthenticated : UInt8 := 0
  isCompressed : UInt8 := 0
  connectionType : UInt16 := 0
  packetSize : UInt16 := 0
  numSubpackets : UInt16 := 0
  timestamp : UInt64 := 0
deriving DecidableEq, Repr

structure BasePacket where
  header : BasePacketHeader
  data : Bytes
deriving DecidableEq, Repr

namespace BasePacketHeader

def fields : Reader BasePacketHeader := do
  let isAuthenticated ← Reader.u8
  let isCompressed ← Reader.u8
  let connectionType ← Reader.u16
  let packetSize ← Reader.u16
  let numSubpackets ← Reader.u16
  let timestamp ← Reader.u64
  return { isAuthenticated, isCompressed, connectionType, packetSize, numSubpackets, timestamp }

def read (buf : Bytes) : Outcome PacketError BasePacketHeader :=
  if buf.length < basepacketSize then .err (.tooSmall basepacketSize buf.length)
  else match Reader.parse fields buf with
    | some header => .ok header
    | none => .err .io

def write (h : BasePacketHeader) : Bytes :=
  h.isAuthenticated :: h.isCompressed :: (u16Bytes h.connectionType ++ (u16Bytes h.packetSize ++
    (u16Bytes h.numSubpackets ++ u64Bytes h.timestamp)))

@[simp] theorem length_write (h : BasePacketHeader) : h.write.length = basepacketSize := by
  simp [write, basepacketSize]

@[simp] theorem read_write (h : BasePacketHeader) : read h.write = .ok h := by
  have last := Reader.u64_append h.timestamp []
  rw [List.append_nil] at last
  have parsed : Reader.parse fields h.write = some h := by
    simp [Reader.parse, fields, write, last]
  simp [read, parsed]

theorem read_window {buf : Bytes} (enough : basepacketSize ≤ buf.length) :
    ∃ header, read buf = .ok header ∧ header.packetSize = u16Value ((buf.drop 4).take 2) := by
  have short : ¬ buf.length < basepacketSize := Nat.not_lt.mpr enough
  simp only [basepacketSize] at enough
  have auth := Reader.u8_run buf (by omega)
  have comp := Reader.u8_run (buf.drop 1) (by rw [List.length_drop]; omega)
  have conn := Reader.u16_run (buf.drop 2) (by rw [List.length_drop]; omega)
  have size := Reader.u16_run (buf.drop 4) (by rw [List.length_drop]; omega)
  have num := Reader.u16_run (buf.drop 6) (by rw [List.length_drop]; omega)
  have time := Reader.u64_run (buf.drop 8) (by rw [List.length_drop]; omega)
  simp only [List.drop_drop, Nat.reduceAdd] at comp conn size num time
  have parsed : ∃ header, Reader.parse fields buf = some header ∧
      header.packetSize = u16Value ((buf.drop 4).take 2) := by
    simp only [Reader.parse, fields, StateT.run_bind, auth, comp, conn, size, num, time,
      Option.bind_eq_bind, Option.bind_some]
    exact ⟨_, rfl, rfl⟩
  obtain ⟨header, found, declared⟩ := parsed
  refine ⟨header, ?_, declared⟩
  rw [read, if_neg short, found]

end BasePacketHeader

namespace BasePacket

/-- Parse one packet at `offset` and return the offset behind it. -/
def fromBuffer (bytes : Bytes) (offset : Nat) : Outcome PacketError (BasePacket × Nat) := do
  if bytes.length < offset + basepacketSize then
    .err (.tooSmall (offset + basepacketSize) bytes.length)
  else
    let header ← BasePacketHeader.read (← .slice bytes offset (offset + basepacketSize))
    if bytes.length < offset + header.packetSize.toNat then
      .err (.sizeMismatch header.packetSize.toNat (bytes.length - offset))
    else
      let packetEnd := offset + header.packetSize.toNat
      let data ← .slice bytes (offset + basepacketSize) packetEnd
      return ({ header, data }, packetEnd)

def peekedSize (buffer : Bytes) (offset : Nat) : Nat :=
  (u16Value ((buffer.drop offset).take 2)).toNat

/-- `ok none` while the buffer does not hold the packet yet. -/
def tryFromBuffer (buffer : Bytes) (offset bytesRead : Nat) :
    Outcome PacketError (Option (BasePacket × Nat)) :=
  if bytesRead ≤ offset ∨ buffer.length < offset + 2 then .ok none
  else if bytesRead < offset + peekedSize buffer offset ∨
      buffer.length < offset + peekedSize buffer offset then .ok none
  else match fromBuffer buffer offset with
    | .ok parsed => .ok (some parsed)
    | .err _ => .ok none
    | .panic => .panic

/-- A declared size too small for the content is an out-of-range copy. -/
def toBytes (p : BasePacket) : Outcome PacketError Bytes :=
  let content := p.header.write ++ p.data
  if content.length ≤ p.header.packetSize.toNat then
    .ok (content ++ zeros (p.header.packetSize.toNat - content.length))
  else .panic

/-- The subpackets from `offset` on. Every parse moves at least one byte on, so the
length of the data is enough fuel. -/
def subpacketsFrom (data : Bytes) : Nat → Nat → Outcome PacketError (List SubPacket)
  | 0, _ => .ok []
  | fuel + 1, offset => do
      if offset < data.length then
        let (sub, next) ← SubPacket.parse data offset
        return sub :: (← subpacketsFrom data fuel next)
      else return []

def getSubpackets (p : BasePacket) : Outcome PacketError (List SubPacket) :=
  subpacketsFrom p.data p.data.length 0

def decompress (inflate : Bytes → Option Bytes) (p : BasePacket) :
    Outcome PacketError BasePacket :=
  match inflate p.data with
  | some out =>
      .ok { data := out, header := { p.header with
        isCompressed := 0, packetSize := UInt16.ofNat (basepacketSize + out.length) } }
  | none => .err .io

def Sized (p : BasePacket) : Prop :=
  p.header.packetSize.toNat = basepacketSize + p.data.length

def encoding (p : BasePacket) : Bytes := p.header.write ++ p.data

theorem length_encoding (p : BasePacket) :
    p.encoding.length = basepacketSize + p.data.length := by
  simp [encoding]

theorem toBytes_sized {p : BasePacket} (h : p.Sized) : p.toBytes = .ok p.encoding := by
  have size : p.header.packetSize.toNat = (p.header.write ++ p.data).length := by
    rw [h]; simp
  simp only [toBytes, size, Nat.le_refl, if_true, Nat.sub_self, encoding]
  simp [zeros]

theorem fromBuffer_encoding {p : BasePacket} (h : p.Sized) (front rest : Bytes) :
    fromBuffer (front ++ (p.encoding ++ rest)) front.length =
      .ok (p, front.length + p.encoding.length) := by
  have len := p.length_encoding
  have size : p.header.packetSize.toNat = p.encoding.length := h.trans len.symm
  have enough : ¬ (front ++ (p.encoding ++ rest)).length < front.length + basepacketSize := by
    simp only [List.length_append]; omega
  have whole : ¬ (front ++ (p.encoding ++ rest)).length < front.length + p.encoding.length := by
    simp only [List.length_append]; omega
  have headerAt := Outcome.slice_middle (ε := PacketError) front p.header.write (p.data ++ rest)
  have dataAt := Outcome.slice_middle (ε := PacketError) (front ++ p.header.write) p.data rest
  simp only [List.append_assoc, List.length_append, BasePacketHeader.length_write]
    at headerAt dataAt
  have behind : front.length + basepacketSize + p.data.length =
      front.length + p.encoding.length := by omega
  have content : p.encoding ++ rest = p.header.write ++ (p.data ++ rest) :=
    List.append_assoc ..
  rw [behind] at dataAt
  rw [← content] at headerAt dataAt
  simp only [fromBuffer, enough, if_false, headerAt, Outcome.ok_bind,
    BasePacketHeader.read_write, size, whole, dataAt, Outcome.pure_eq_ok]

theorem subpacketsFrom_encodings {ps : List SubPacket} (h : ∀ p ∈ ps, p.Sized) (front : Bytes)
    {fuel : Nat} (enough : (ps.flatMap SubPacket.encoding).length ≤ fuel) :
    subpacketsFrom (front ++ ps.flatMap SubPacket.encoding) fuel front.length = .ok ps := by
  induction ps generalizing front fuel with
  | nil => cases fuel <;> simp [subpacketsFrom]
  | cons p ps ih =>
      have positive : 0 < p.encoding.length := by
        rw [SubPacket.length_encoding]; simp only [subpacketSize]; omega
      rw [List.flatMap_cons, List.length_append] at enough
      cases fuel with
      | zero => omega
      | succ fuel =>
          have inside : front.length <
              (front ++ (p :: ps).flatMap SubPacket.encoding).length := by
            rw [List.flatMap_cons]; simp only [List.length_append]; omega
          have parsed := SubPacket.parse_encoding (h p (List.mem_cons_self ..)) front
            (ps.flatMap SubPacket.encoding)
          have remaining : (ps.flatMap SubPacket.encoding).length ≤ fuel := by omega
          have later := ih (fun q member => h q (List.mem_cons_of_mem _ member))
            (front ++ p.encoding) remaining
          rw [List.append_assoc, List.length_append] at later
          rw [List.flatMap_cons] at inside ⊢
          simp only [subpacketsFrom, inside, if_true, parsed, Outcome.ok_bind, later,
            Outcome.pure_eq_ok]

theorem getSubpackets_encodings (ps : List SubPacket) (h : ∀ p ∈ ps, p.Sized)
    (header : BasePacketHeader) :
    getSubpackets ⟨header, ps.flatMap SubPacket.encoding⟩ = .ok ps :=
  subpacketsFrom_encodings h [] (Nat.le_refl _)

end BasePacket

/-- The number of whole subpackets at the front of `data`, by their size fields. -/
def countSubpackets (data : Bytes) : Nat → Nat → UInt16 → UInt16
  | 0, _, count => count
  | fuel + 1, off, count =>
      if off + subpacketSize ≤ data.length then
        let size := (u16Value ((data.drop off).take 2)).toNat
        if size < subpacketSize ∨ off + size > data.length then count
        else countSubpackets data fuel (off + size) (count + 1)
      else count

/-- The header a write task puts before already serialised subpackets; `now` is the
Unix time in milliseconds. -/
def wrapHeader (now : UInt64) (data : Bytes) : BasePacketHeader :=
  let count := countSubpackets data data.length 0 0
  { isAuthenticated := 1
    isCompressed := 0
    connectionType := 0
    packetSize := UInt16.ofNat (basepacketSize + data.length)
    numSubpackets := if count = 0 then 1 else count
    timestamp := now }

def wrapSubpacketsInBasepacket (now : UInt64) (data : Bytes) : Bytes :=
  (wrapHeader now data).write ++ data

section Receive

variable (inflate : Bytes → Option Bytes)

/-- A compressed packet is inflated before it is split. -/
def BasePacket.inflated (p : BasePacket) : Outcome PacketError BasePacket :=
  if p.header.isCompressed = 0x01 then p.decompress inflate else .ok p

def subpacketsOf (frame : Bytes) : Outcome PacketError (List SubPacket) := do
  let (packet, _) ← BasePacket.fromBuffer frame 0
  let packet ← packet.inflated inflate
  packet.getSubpackets

theorem subpacketsOf_wrap (now : UInt64) {p : SubPacket} (sized : p.Sized)
    (fits : basepacketSize + p.encoding.length < 0x10000) :
    subpacketsOf inflate (wrapSubpacketsInBasepacket now p.encoding) = .ok [p] := by
  have size : (UInt16.ofNat (basepacketSize + p.encoding.length)).toNat =
      basepacketSize + p.encoding.length := by
    rw [UInt16.toNat_ofNat', Nat.mod_eq_of_lt fits]
  have parsed := BasePacket.fromBuffer_encoding (p := ⟨wrapHeader now p.encoding, p.encoding⟩)
    size [] []
  have split := BasePacket.getSubpackets_encodings [p] (by simpa using sized)
    (wrapHeader now p.encoding)
  rw [List.flatMap_singleton] at split
  rw [List.nil_append, List.append_nil] at parsed
  have plain : (⟨wrapHeader now p.encoding, p.encoding⟩ : BasePacket).inflated inflate =
      .ok ⟨wrapHeader now p.encoding, p.encoding⟩ := rfl
  rw [subpacketsOf, wrapSubpacketsInBasepacket]
  simp only [BasePacket.encoding, List.length_nil] at parsed
  simp only [parsed, Outcome.ok_bind, plain, split]

end Receive
end Garlemald.Common
