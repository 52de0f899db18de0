import Garlemald.Library.Cursor
import Garlemald.Library.Outcome

/-!
Subpackets: a 16-byte header, a second 16-byte header on game messages, and a
payload. The type of a subpacket is the game-message type or, for every other
subpacket, its opcode. Parsing an encoded subpacket gives it back.
-/

namespace Garlemald.Common
open Library

inductive PacketError where
  | tooSmall (needed available : Nat)
  | sizeMismatch (declared available : Nat)
  | io
deriving DecidableEq, Repr

def subpacketSize : Nat := 0x10

def gamemessageSize : Nat := 0x10

def subpacketTypeGamemessage : UInt16 := 0x03

structure SubPacketHeader where
  size : UInt16 := 0
  type : UInt16 := 0
  sourceId : UInt32 := 0
  targetId : UInt32 := 0
  unknown1 : UInt32 := 0
deriving DecidableEq, Repr

structure GameMessageHeader where
  unknown4 : UInt16 := 0
  opcode : UInt16 := 0
  unknown5 : UInt32 := 0
  timestamp : UInt32 := 0
  unknown6 : UInt32 := 0
deriving DecidableEq, Repr

structure SubPacket where
  header : SubPacketHeader
  gameMessage : GameMessageHeader
  data : Bytes
deriving DecidableEq, Repr

namespace SubPacketHeader

def fields : Reader SubPacketHeader := do
  let size ← Reader.u16
  let type ← Reader.u16
  let sourceId ← Reader.u32
  let targetId ← Reader.u32
  let unknown1 ← Reader.u32
  return { size, type, sourceId, targetId, unknown1 }

def read (buf : Bytes) : Outcome PacketError SubPacketHeader :=
  if buf.length < subpacketSize then .err (.tooSmall subpacketSize buf.length)
  else match Reader.parse fields buf with
    | some header => .ok header
    | none => .err .io

def write (h : SubPacketHeader) : Bytes :=
  u16Bytes h.size ++ (u16Bytes h.type ++ (u32Bytes h.sourceId ++
    (u32Bytes h.targetId ++ u32Bytes h.unknown1)))

@[simp] theorem length_write (h : SubPacketHeader) : h.write.length = subpacketSize := by
  simp [write, subpacketSize]

@[simp] theorem read_write (h : SubPacketHeader) : read h.write = .ok h := by
  have last := Reader.u32_append h.unknown1 []
  rw [List.append_nil] at last
  have parsed : Reader.parse fields h.write = some h := by
    simp [Reader.parse, fields, write, last]
  simp [read, parsed]

end SubPacketHeader

namespace GameMessageHeader

def fields : Reader GameMessageHeader := do
  let unknown4 ← Reader.u16
  let opcode ← Reader.u16
  let unknown5 ← Reader.u32
  let timestamp ← Reader.u32
  let unknown6 ← Reader.u32
  return { unknown4, opcode, unknown5, timestamp, unknown6 }

def read (buf : Bytes) : Outcome PacketError GameMessageHeader :=
  if buf.length < gamemessageSize then .err (.tooSmall gamemessageSize buf.length)
  else match Reader.parse fields buf with
    | some header => .ok header
    | none => .err .io

def write (h : GameMessageHeader) : Bytes :=
  u16Bytes h.unknown4 ++ (u16Bytes h.opcode ++ (u32Bytes h.unknown5 ++
    (u32Bytes h.timestamp ++ u32Bytes h.unknown6)))

@[simp] theorem length_write (h : GameMessageHeader) : h.write.length = gamemessageSize := by
  simp [write, gamemessageSize]

@[simp] theorem read_write (h : GameMessageHeader) : read h.write = .ok h := by
  have last := Reader.u32_append h.unknown6 []
  rw [List.append_nil] at last
  have parsed : Reader.parse fields h.write = some h := by
    simp [Reader.parse, fields, write, last]
  simp [read, parsed]

end GameMessageHeader

namespace SubPacket

/-- `now` is the Unix time the constructor stamps on a game message. -/
def newWithFlag (now : UInt32) (isGameMessage : Bool) (opcode : UInt16) (sourceId : UInt32)
    (data : Bytes) : SubPacket :=
  let gameMessage : GameMessageHeader :=
    if isGameMessage then { opcode, timestamp := now, unknown4 := 0x14 } else {}
  let size := UInt16.ofNat (subpacketSize + data.length)
  { header :=
      { sourceId
        type := if isGameMessage then subpacketTypeGamemessage else opcode
        size := if isGameMessage then size + UInt16.ofNat gamemessageSize else size }
    gameMessage, data }

def new (now : UInt32) (opcode : UInt16) (sourceId : UInt32) (data : Bytes) : SubPacket :=
  newWithFlag now true opcode sourceId data

def setTargetId (p : SubPacket) (target : UInt32) : SubPacket :=
  { p with header := { p.header with targetId := target } }

def parse (bytes : Bytes) (offset : Nat) : Outcome PacketError (SubPacket × Nat) := do
  if bytes.length < offset + subpacketSize then
    .err (.tooSmall (offset + subpacketSize) bytes.length)
  else
    let header ← SubPacketHeader.read (← .slice bytes offset (offset + subpacketSize))
    let minSize :=
      if header.type = subpacketTypeGamemessage then subpacketSize + gamemessageSize
      else subpacketSize
    if header.size.toNat < minSize then
      .err (.sizeMismatch header.size.toNat (bytes.length - offset))
    else if bytes.length < offset + header.size.toNat then
      .err (.sizeMismatch header.size.toNat (bytes.length - offset))
    else if header.type = subpacketTypeGamemessage then
      let dataStart := offset + subpacketSize + gamemessageSize
      let gameMessage ←
        GameMessageHeader.read (← .slice bytes (offset + subpacketSize) dataStart)
      let data ← .slice bytes dataStart (offset + header.size.toNat)
      return ({ header, gameMessage, data }, offset + header.size.toNat)
    else
      let data ← .slice bytes (offset + subpacketSize) (offset + header.size.toNat)
      return ({ header, gameMessage := {}, data }, offset + header.size.toNat)

/-- The headers and the payload, before they are laid into a buffer of the declared size. -/
def encoding (p : SubPacket) : Bytes :=
  if p.header.type = subpacketTypeGamemessage then
    p.header.write ++ (p.gameMessage.write ++ p.data)
  else p.header.write ++ p.data

def toBytes (p : SubPacket) : Outcome PacketError Bytes :=
  if p.encoding.length ≤ p.header.size.toNat then
    .ok (p.encoding ++ zeros (p.header.size.toNat - p.encoding.length))
  else .panic

/-- The declared size is the size of the content, and only a game message has a
game-message header. -/
structure Sized (p : SubPacket) : Prop where
  size_eq : p.header.size.toNat = p.encoding.length
  plain : p.header.type ≠ subpacketTypeGamemessage → p.gameMessage = {}

theorem toBytes_sized {p : SubPacket} (h : p.Sized) : p.toBytes = .ok p.encoding := by
  simp [toBytes, h.size_eq, zeros]

theorem length_encoding (p : SubPacket) :
    p.encoding.length = subpacketSize + p.data.length +
      (if p.header.type = subpacketTypeGamemessage then gamemessageSize else 0) := by
  rw [encoding]
  split
  · simp only [List.length_append, SubPacketHeader.length_write, GameMessageHeader.length_write]
    omega
  · simp only [List.length_append, SubPacketHeader.length_write]
    omega

theorem parse_encoding {p : SubPacket} (h : p.Sized) (front rest : Bytes) :
    parse (front ++ (p.encoding ++ rest)) front.length =
      .ok (p, front.length + p.encoding.length) := by
  have len := p.length_encoding
  have size := h.size_eq
  have enough : ¬ (front ++ (p.encoding ++ rest)).length < front.length + subpacketSize := by
    simp only [List.length_append]; omega
  have whole : ¬ (front ++ (p.encoding ++ rest)).length < front.length + p.encoding.length := by
    simp only [List.length_append]; omega
  by_cases game : p.header.type = subpacketTypeGamemessage
  · rw [if_pos game] at len
    have content : p.encoding ++ rest =
        p.header.write ++ (p.gameMessage.write ++ (p.data ++ rest)) := by
      simp [encoding, game]
    have headerAt := Outcome.slice_middle (ε := PacketError) front p.header.write
      (p.gameMessage.write ++ (p.data ++ rest))
    have gameAt := Outcome.slice_middle (ε := PacketError) (front ++ p.header.write)
      p.gameMessage.write (p.data ++ rest)
    have dataAt := Outcome.slice_middle (ε := PacketError)
      (front ++ (p.header.write ++ p.gameMessage.write)) p.data rest
    simp only [List.append_assoc, List.length_append, SubPacketHeader.length_write,
      GameMessageHeader.length_write] at headerAt gameAt dataAt
    have behind : front.length + (subpacketSize + gamemessageSize) + p.data.length =
        front.length + p.encoding.length := by omega
    rw [behind, ← Nat.add_assoc] at dataAt
    have min : ¬ p.encoding.length < subpacketSize + gamemessageSize := by omega
    rw [← content] at headerAt gameAt dataAt
    simp only [parse, enough, if_false, headerAt, Outcome.ok_bind, SubPacketHeader.read_write,
      game, if_true, size, min, whole, gameAt, dataAt, GameMessageHeader.read_write,
      Outcome.pure_eq_ok]
  · rw [if_neg game] at len
    have content : p.encoding ++ rest = p.header.write ++ (p.data ++ rest) := by
      simp [encoding, game]
    have headerAt := Outcome.slice_middle (ε := PacketError) front p.header.write (p.data ++ rest)
    have dataAt := Outcome.slice_middle (ε := PacketError) (front ++ p.header.write) p.data rest
    simp only [List.append_assoc, List.length_append, SubPacketHeader.length_write]
      at headerAt dataAt
    have behind : front.length + subpacketSize + p.data.length =
        front.length + p.encoding.length := by omega
    rw [behind] at dataAt
    have min : ¬ p.encoding.length < subpacketSize := by omega
    rw [← content] at headerAt dataAt
    simp only [parse, enough, if_false, headerAt, Outcome.ok_bind, SubPacketHeader.read_write,
      game, size, min, whole, dataAt, Outcome.pure_eq_ok, ← h.plain game]

@[simp] theorem setTargetId_data (p : SubPacket) (target : UInt32) :
    (p.setTargetId target).data = p.data := rfl

@[simp] theorem setTargetId_header (p : SubPacket) (target : UInt32) :
    (p.setTargetId target).header = { p.header with targetId := target } := rfl

theorem setTargetId_length (p : SubPacket) (target : UInt32) :
    (p.setTargetId target).encoding.length = p.encoding.length := by
  simp only [length_encoding, setTargetId_data, setTargetId_header]
  rfl

theorem Sized.setTargetId {p : SubPacket} (h : p.Sized) (target : UInt32) :
    (p.setTargetId target).Sized := by
  refine ⟨?_, h.plain⟩
  rw [setTargetId_length]
  exact h.size_eq

theorem newWithFlag_fits {now : UInt32} {isGameMessage : Bool} {opcode : UInt16}
    {sourceId : UInt32} {data : Bytes}
    (fits : (newWithFlag now isGameMessage opcode sourceId data).encoding.length < 0x10000)
    (plain : isGameMessage = false → opcode ≠ subpacketTypeGamemessage) :
    (newWithFlag now isGameMessage opcode sourceId data).Sized := by
  have content : (newWithFlag now isGameMessage opcode sourceId data).data = data := rfl
  rw [length_encoding, content] at fits
  have size : (UInt16.ofNat (subpacketSize + data.length)).toNat = subpacketSize + data.length := by
    rw [UInt16.toNat_ofNat', Nat.mod_eq_of_lt (by omega)]
  cases isGameMessage with
  | true =>
      refine ⟨?_, fun other => absurd rfl other⟩
      have game : (newWithFlag now true opcode sourceId data).header.type =
          subpacketTypeGamemessage := rfl
      rw [if_pos game] at fits
      rw [length_encoding, if_pos game, content]
      simp only [newWithFlag, if_true, UInt16.toNat_add, size]
      simp only [subpacketSize, gamemessageSize] at *
      have : (UInt16.ofNat 0x10).toNat = 0x10 := rfl
      omega
  | false =>
      refine ⟨?_, fun _ => rfl⟩
      have other : (newWithFlag now false opcode sourceId data).header.type ≠
          subpacketTypeGamemessage := plain rfl
      rw [length_encoding, if_neg other]
      exact size

theorem newWithFlag_sized {now : UInt32} {isGameMessage : Bool} {opcode : UInt16}
    {sourceId : UInt32} {data : Bytes} (fits : data.length < 0x10000 - 0x20)
    (plain : isGameMessage = false → opcode ≠ subpacketTypeGamemessage) :
    (newWithFlag now isGameMessage opcode sourceId data).Sized := by
  apply newWithFlag_fits _ plain
  have content : (newWithFlag now isGameMessage opcode sourceId data).data = data := rfl
  rw [length_encoding, content]
  simp only [subpacketSize, gamemessageSize]
  split <;> omega

end SubPacket
end Garlemald.Common
