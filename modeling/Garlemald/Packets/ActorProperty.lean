import Garlemald.Common.Murmur
import Garlemald.Packets.Inventory

/-!
The packets that set the properties of an actor. Writes are staged in a buffer; a write
that would leave the budget of a packet seals the buffer first, and the last seal says that
nothing follows.
-/

namespace Garlemald.Packets

open Library Common

def OP_SET_ACTOR_PROPERTY : UInt16 := 0x0137

structure ActorPropertyPacketBuilder where
  actorId : UInt32
  target : Text
  packets : List SubPacket := []
  /-- What is staged for the next packet, behind the byte for its length. -/
  buf : Bytes := []

def moreMarker (target : Text) : UInt8 := 0x60 + .ofNat (utf8 target).length

def doneMarker (target : Text) : UInt8 := 0x82 + .ofNat (utf8 target).length

namespace ActorPropertyPacketBuilder

def MAX_BYTES : ℕ := 0x7D

-- The clock gives the time at which a packet behind so many others is made.
variable (clock : ℕ → UInt32) (b : ActorPropertyPacketBuilder)

def targetMarkerCost : ℕ := 1 + (utf8 b.target).length

def sealCurrent (marker : UInt8) : Option ActorPropertyPacketBuilder := do
  let runningTotal := b.buf.length + b.targetMarkerCost
  let data ← Writer.fill (body 0xA8)
    ([[UInt8.ofNat runningTotal], b.buf, [marker], utf8 b.target].forM Writer.all)
  let packet := .new (clock b.packets.length) OP_SET_ACTOR_PROPERTY b.actorId data
  some { b with packets := b.packets ++ [packet], buf := [] }

def flushIfNeeded (needed : ℕ) : Option ActorPropertyPacketBuilder :=
  if b.buf.length + needed + b.targetMarkerCost > MAX_BYTES then
    b.sealCurrent clock (moreMarker b.target)
  else some b

/-- A property of a type that is staged when there is room for it. -/
def stage (needed : ℕ) (type : UInt8) (name : Text) (value : Bytes) :
    Option ActorPropertyPacketBuilder := do
  let b ← b.flushIfNeeded clock needed
  some { b with buf := b.buf ++ ([type] ++ (u32Bytes (murmurHash2 name 0) ++ value)) }

def addByte (name : Text) (value : UInt8) := b.stage clock 6 1 name [value]

def addShort (name : Text) (value : UInt16) := b.stage clock 7 2 name (u16Bytes value)

def addInt (name : Text) (value : UInt32) := b.stage clock 9 4 name (u32Bytes value)

def addFloat (name : Text) (bits : UInt32) := b.addInt clock name bits

def done : Option (List SubPacket) :=
  (b.sealCurrent clock (doneMarker b.target)).map (·.packets)

end ActorPropertyPacketBuilder

inductive PropertyWrite where
  | byte (name : Text) (value : UInt8)
  | short (name : Text) (value : UInt16)
  | int (name : Text) (value : UInt32)
  | float (name : Text) (bits : UInt32)

def PropertyWrite.apply (clock : ℕ → UInt32) (b : ActorPropertyPacketBuilder) :
    PropertyWrite → Option ActorPropertyPacketBuilder
  | .byte name value => b.addByte clock name value
  | .short name value => b.addShort clock name value
  | .int name value => b.addInt clock name value
  | .float name bits => b.addFloat clock name bits

/-- The packets of a sequence of writes; nothing where one of them panics. -/
def propertyPackets (clock : ℕ → UInt32) (actorId : UInt32) (target : Text)
    (writes : List PropertyWrite) : Option (List SubPacket) := do
  let b ← writes.foldlM (PropertyWrite.apply clock) { actorId, target }
  b.done clock

inductive PropertyValue where
  | byte (value : UInt8)
  | short (value : UInt16)
  | int (value : UInt32)
deriving DecidableEq

structure PropertyEntry where
  id : UInt32
  value : PropertyValue
deriving DecidableEq

namespace PropertyValue

def tag : PropertyValue → UInt8
  | .byte _ => 1
  | .short _ => 2
  | .int _ => 4

def bytes : PropertyValue → Bytes
  | .byte value => [value]
  | .short value => u16Bytes value
  | .int value => u32Bytes value

end PropertyValue

namespace PropertyEntry

def bytes (entry : PropertyEntry) : Bytes :=
  [entry.value.tag] ++ (u32Bytes entry.id ++ entry.value.bytes)

def read (tag : UInt8) : Option (Reader PropertyEntry) :=
  if tag = 1 then some do
    let id ← Reader.u32
    let value ← Reader.u8
    return ⟨id, .byte value⟩
  else if tag = 2 then some do
    let id ← Reader.u32
    let value ← Reader.u16
    return ⟨id, .short value⟩
  else if tag = 4 then some do
    let id ← Reader.u32
    let value ← Reader.u32
    return ⟨id, .int value⟩
  else none

end PropertyEntry

def PropertyWrite.entry : PropertyWrite → PropertyEntry
  | .byte name value => ⟨murmurHash2 name 0, .byte value⟩
  | .short name value => ⟨murmurHash2 name 0, .short value⟩
  | .int name value => ⟨murmurHash2 name 0, .int value⟩
  | .float name bits => ⟨murmurHash2 name 0, .int bits⟩

structure PropertyPacket where
  entries : List PropertyEntry
  marker : UInt8
  path : Bytes
deriving DecidableEq

namespace PropertyPacket

/-- Entries up to the first byte that is no tag, which is the marker; the path is the rest. -/
def readEntries : ℕ → Bytes → Option PropertyPacket
  | fuel + 1, tag :: rest =>
      match PropertyEntry.read tag with
      | none => some ⟨[], tag, rest⟩
      | some read => do
          let (entry, rest) ← read.run rest
          let packet ← readEntries fuel rest
          some { packet with entries := entry :: packet.entries }
  | _, _ => none

def read : Bytes → Option PropertyPacket
  | [] => none
  | total :: rest =>
      if total.toNat ≤ rest.length then readEntries total.toNat (rest.take total.toNat) else none

def bytes (packet : PropertyPacket) : Bytes :=
  packet.entries.flatMap PropertyEntry.bytes ++ (packet.marker :: packet.path)

end PropertyPacket

namespace PropertyEntry

theorem length_bytes_pos (entry : PropertyEntry) : 0 < entry.bytes.length := by
  simp [bytes]

theorem read_bytes (entry : PropertyEntry) (rest : Bytes) :
    ∃ reader, read entry.value.tag = some reader ∧
      reader.run (u32Bytes entry.id ++ entry.value.bytes ++ rest) = some (entry, rest) := by
  obtain ⟨id, value⟩ := entry
  cases value with
  | byte value =>
      refine ⟨_, rfl, ?_⟩
      simp only [PropertyValue.bytes, List.append_assoc, StateT.run_bind, Reader.u32_append,
        List.singleton_append, Reader.u8_cons, Option.bind_eq_bind, Option.bind_some]
      rfl
  | short value =>
      refine ⟨_, rfl, ?_⟩
      simp only [PropertyValue.bytes, List.append_assoc, StateT.run_bind, Reader.u32_append,
        Reader.u16_append, Option.bind_eq_bind, Option.bind_some]
      rfl
  | int value =>
      refine ⟨_, rfl, ?_⟩
      simp only [PropertyValue.bytes, List.append_assoc, StateT.run_bind, Reader.u32_append,
        Option.bind_eq_bind, Option.bind_some]
      rfl

end PropertyEntry

namespace PropertyPacket

theorem readEntries_bytes (packet : PropertyPacket)
    (untagged : PropertyEntry.read packet.marker = none) {fuel : ℕ}
    (enough : packet.entries.length < fuel) : readEntries fuel packet.bytes = some packet := by
  obtain ⟨entries, marker, path⟩ := packet
  induction entries generalizing fuel with
  | nil =>
      cases fuel with
      | zero => cases enough
      | succ fuel => simp only [bytes, List.flatMap_nil, List.nil_append, readEntries, untagged]
  | cons entry entries ih =>
      cases fuel with
      | zero => cases enough
      | succ fuel =>
          have rest := ih untagged (Nat.lt_of_succ_lt_succ enough)
          obtain ⟨reader, tagged, read⟩ := entry.read_bytes (bytes ⟨entries, marker, path⟩)
          have front : bytes ⟨entry :: entries, marker, path⟩ = entry.value.tag ::
              (u32Bytes entry.id ++ entry.value.bytes ++ bytes ⟨entries, marker, path⟩) := by
            simp [bytes, PropertyEntry.bytes]
          rw [front, readEntries, tagged]
          simp only [read, rest, Option.bind_eq_bind, Option.bind_some]

theorem length_entries_lt (packet : PropertyPacket) :
    packet.entries.length < packet.bytes.length := by
  have each : ∀ entries : List PropertyEntry,
      entries.length ≤ (entries.flatMap PropertyEntry.bytes).length := by
    intro entries
    induction entries with
    | nil => exact Nat.zero_le _
    | cons entry entries ih =>
        have some := entry.length_bytes_pos
        rw [List.flatMap_cons, List.length_append, List.length_cons]
        omega
  have entries := each packet.entries
  rw [bytes, List.length_append, List.length_cons]
  omega

/-- A subpacket whose body is a packet, its length before it and zeros behind. -/
structure Sealed (p : SubPacket) (packet : PropertyPacket) : Prop where
  opcode : p.gameMessage.opcode = OP_SET_ACTOR_PROPERTY
  data : p.data = UInt8.ofNat packet.bytes.length ::
    (packet.bytes ++ zeros (body 0xA8 - (1 + packet.bytes.length)))
  budget : packet.bytes.length ≤ 0x7D
  untagged : PropertyEntry.read packet.marker = none

theorem Sealed.read {p : SubPacket} {packet : PropertyPacket} (h : Sealed p packet) :
    read p.data = some packet := by
  have small : (UInt8.ofNat packet.bytes.length).toNat = packet.bytes.length := by
    have budget := h.budget
    rw [UInt8.toNat_ofNat']
    omega
  rw [h.data, PropertyPacket.read, small, if_pos (by simp), List.take_left' rfl]
  exact packet.readEntries_bytes h.untagged packet.length_entries_lt

end PropertyPacket
variable {target : Text}

theorem moreMarker_toNat (short : (utf8 target).length ≤ 33) :
    (moreMarker target).toNat = 0x60 + (utf8 target).length := by
  have each : ∀ n < 34, (0x60 + UInt8.ofNat n).toNat = 0x60 + n := by decide
  exact each _ (by omega)

theorem doneMarker_toNat (short : (utf8 target).length ≤ 33) :
    (doneMarker target).toNat = 0x82 + (utf8 target).length := by
  have each : ∀ n < 34, (0x82 + UInt8.ofNat n).toNat = 0x82 + n := by decide
  exact each _ (by omega)

theorem read_untagged {marker : UInt8} (large : 0x60 ≤ marker.toNat) :
    PropertyEntry.read marker = none := by
  have other : ∀ tag : UInt8, tag.toNat < 0x60 → marker ≠ tag := by
    rintro tag small rfl
    omega
  rw [PropertyEntry.read, if_neg (other 1 (by decide)), if_neg (other 2 (by decide)),
    if_neg (other 4 (by decide))]

theorem more_untagged (short : (utf8 target).length ≤ 33) :
    PropertyEntry.read (moreMarker target) = none := by
  have more := moreMarker_toNat short
  exact read_untagged (by omega)

theorem done_untagged (short : (utf8 target).length ≤ 33) :
    PropertyEntry.read (doneMarker target) = none := by
  have done := doneMarker_toNat short
  exact read_untagged (by omega)

namespace ActorPropertyPacketBuilder

variable {clock : ℕ → UInt32} {b : ActorPropertyPacketBuilder}

variable (clock) in
theorem sealCurrent_eq (room : b.buf.length + b.targetMarkerCost ≤ MAX_BYTES) {marker : UInt8}
    (untagged : PropertyEntry.read marker = none) {entries : List PropertyEntry}
    (staged : b.buf = entries.flatMap PropertyEntry.bytes) :
    ∃ p, b.sealCurrent clock marker = some { b with packets := b.packets ++ [p], buf := [] } ∧
      PropertyPacket.Sealed p ⟨entries, marker, utf8 b.target⟩ := by
  unfold targetMarkerCost MAX_BYTES at room
  let parts := [[UInt8.ofNat (b.buf.length + b.targetMarkerCost)], b.buf, [marker],
    utf8 b.target]
  have length : parts.flatten.length = 2 + b.buf.length + (utf8 b.target).length := by
    simp [parts]
    omega
  have wrote : Writer.Extends (body 0xA8) (parts.forM Writer.all) [] ([] ++ parts.flatten) := by
    refine Writer.extends_parts ?_
    rw [length, List.length_nil]
    unfold body
    omega
  have bytes : PropertyPacket.bytes ⟨entries, marker, utf8 b.target⟩ =
      b.buf ++ (marker :: utf8 b.target) := by
    rw [PropertyPacket.bytes, staged]
  have total : (b.buf ++ (marker :: utf8 b.target)).length =
      b.buf.length + b.targetMarkerCost := by
    rw [List.length_append, List.length_cons, targetMarkerCost, Nat.add_comm 1]
  refine ⟨.new (clock b.packets.length) OP_SET_ACTOR_PROPERTY b.actorId
    (padTo (body 0xA8) ([] ++ parts.flatten)), ?_, rfl, ?_, ?_, untagged⟩
  · rw [sealCurrent, Writer.fill_behind wrote]
    rfl
  · have flat : [] ++ parts.flatten = UInt8.ofNat (b.buf.length + b.targetMarkerCost) ::
        (b.buf ++ (marker :: utf8 b.target)) := by simp [parts]
    show padTo (body 0xA8) ([] ++ parts.flatten) = _
    rw [bytes, total, padTo, flat, List.length_cons, total, Nat.add_comm 1, List.cons_append]
  · rw [bytes, total]
    exact room

/-- What is in the buffer and in the packets, with the writes that were made so far. -/
structure Holds (b : ActorPropertyPacketBuilder) (target : Text)
    (chunks : List (List PropertyEntry)) (staged : List PropertyEntry) : Prop where
  target_eq : b.target = target
  buf : b.buf = staged.flatMap PropertyEntry.bytes
  room : b.buf.length + b.targetMarkerCost ≤ MAX_BYTES
  packets : List.Forall₂ (fun p entries =>
    PropertyPacket.Sealed p ⟨entries, moreMarker target, utf8 target⟩) b.packets chunks
  filled : ∀ entries ∈ chunks, entries ≠ []

variable {chunks : List (List PropertyEntry)} {staged : List PropertyEntry}

theorem stage_holds {target : Text} (short : (utf8 target).length ≤ 33)
    (h : b.Holds target chunks staged) {needed : ℕ} {name : Text} (entry : PropertyEntry)
    (id : entry.id = murmurHash2 name 0) (size : entry.bytes.length = needed) (small : needed ≤ 9) :
    ∃ b' chunks' staged', b.stage clock needed entry.value.tag name entry.value.bytes = some b' ∧
      b'.Holds target chunks' staged' ∧
        chunks'.flatten ++ staged' = chunks.flatten ++ staged ++ [entry] := by
  obtain ⟨rfl, buf, room, packets, filled⟩ := h
  have staging : b.stage clock needed entry.value.tag name entry.value.bytes =
      (b.flushIfNeeded clock needed).map fun b => { b with buf := b.buf ++ entry.bytes } := by
    rw [stage, PropertyEntry.bytes, id]
    cases b.flushIfNeeded clock needed <;> rfl
  rw [staging, flushIfNeeded]
  by_cases beyond : b.buf.length + needed + b.targetMarkerCost > MAX_BYTES
  · obtain ⟨p, built, sealed⟩ := sealCurrent_eq clock room (more_untagged short) buf
    have held : staged ≠ [] := by
      rintro rfl
      rw [List.flatMap_nil] at buf
      rw [buf, List.length_nil, targetMarkerCost] at beyond
      unfold MAX_BYTES at beyond
      omega
    refine ⟨{ b with packets := b.packets ++ [p], buf := entry.bytes }, chunks ++ [staged],
      [entry], ?_, ⟨rfl, ?_, ?_, ?_, ?_⟩, ?_⟩
    · rw [if_pos beyond, built]
      rfl
    · rw [List.flatMap_singleton]
    · show entry.bytes.length + (1 + (utf8 b.target).length) ≤ MAX_BYTES
      unfold MAX_BYTES
      omega
    · exact List.rel_append packets (.cons sealed .nil)
    · intro entries member
      rcases List.mem_append.mp member with before | last
      · exact filled entries before
      · rw [List.mem_singleton.mp last]
        exact held
    · simp
  · refine ⟨{ b with buf := b.buf ++ entry.bytes }, chunks, staged ++ [entry], ?_,
      ⟨rfl, ?_, ?_, packets, filled⟩, ?_⟩
    · rw [if_neg beyond]
      rfl
    · rw [List.flatMap_append, List.flatMap_singleton, buf]
    · show (b.buf ++ entry.bytes).length + b.targetMarkerCost ≤ MAX_BYTES
      rw [List.length_append, size]
      omega
    · rw [List.append_assoc]

theorem apply_holds {target : Text} (short : (utf8 target).length ≤ 33)
    (h : b.Holds target chunks staged) (write : PropertyWrite) :
    ∃ b' chunks' staged', write.apply clock b = some b' ∧ b'.Holds target chunks' staged' ∧
      chunks'.flatten ++ staged' = chunks.flatten ++ staged ++ [write.entry] := by
  cases write with
  | byte name value =>
      exact stage_holds short h ⟨murmurHash2 name 0, .byte value⟩ rfl rfl (by decide)
  | short name value =>
      exact stage_holds short h ⟨murmurHash2 name 0, .short value⟩ rfl rfl (by decide)
  | int name value =>
      exact stage_holds short h ⟨murmurHash2 name 0, .int value⟩ rfl rfl (by decide)
  | float name bits =>
      exact stage_holds short h ⟨murmurHash2 name 0, .int bits⟩ rfl rfl (by decide)

variable (clock) in
theorem writes_hold {target : Text} (short : (utf8 target).length ≤ 33)
    (h : b.Holds target chunks staged) (writes : List PropertyWrite) :
    ∃ b' chunks' staged', writes.foldlM (PropertyWrite.apply clock) b = some b' ∧
      b'.Holds target chunks' staged' ∧
        chunks'.flatten ++ staged' =
          chunks.flatten ++ staged ++ writes.map PropertyWrite.entry := by
  induction writes generalizing b chunks staged with
  | nil => exact ⟨b, chunks, staged, rfl, h, by rw [List.map_nil, List.append_nil]⟩
  | cons write writes ih =>
      obtain ⟨b₁, chunks₁, staged₁, applied, holds₁, order₁⟩ := apply_holds short h write
      obtain ⟨b₂, chunks₂, staged₂, run, holds₂, order₂⟩ := ih holds₁
      refine ⟨b₂, chunks₂, staged₂, ?_, holds₂, ?_⟩
      · rw [List.foldlM_cons, applied]
        exact run
      · rw [order₂, order₁, List.map_cons, List.append_assoc, List.singleton_append]

end ActorPropertyPacketBuilder

/-- All packets but the last say that more follows. -/
def propertyStream (target : Text) (chunks : List (List PropertyEntry))
    (last : List PropertyEntry) : List PropertyPacket :=
  (chunks.map fun entries => ⟨entries, moreMarker target, utf8 target⟩) ++
    [⟨last, doneMarker target, utf8 target⟩]

theorem done_packets {b : ActorPropertyPacketBuilder} {target : Text}
    (short : (utf8 target).length ≤ 33) {chunks : List (List PropertyEntry)}
    {staged : List PropertyEntry} (h : b.Holds target chunks staged) (clock : ℕ → UInt32) :
    ∃ packets, b.done clock = some packets ∧
      List.Forall₂ PropertyPacket.Sealed packets (propertyStream target chunks staged) := by
  obtain ⟨rfl, buf, room, packets, _⟩ := h
  obtain ⟨p, built, sealed⟩ := ActorPropertyPacketBuilder.sealCurrent_eq clock room
    (done_untagged short) buf
  refine ⟨b.packets ++ [p], ?_, ?_⟩
  · rw [ActorPropertyPacketBuilder.done, built]
    rfl
  · exact List.rel_append (List.forall₂_map_right_iff.mpr packets) (.cons sealed .nil)

/-- A body reads as a packet. It starts with the number of bytes that the packet takes, at
most `0x7D`, and is zero behind them. -/
structure PropertyPacket.Read (p : SubPacket) (packet : PropertyPacket) : Prop where
  read : PropertyPacket.read p.data = some packet
  data : p.data = UInt8.ofNat packet.bytes.length ::
    (packet.bytes ++ zeros (body 0xA8 - (1 + packet.bytes.length)))
  budget : packet.bytes.length ≤ 0x7D

/-- The packets of any writes read back as the writes, in their order: each packet holds
whole entries, all but the last hold some and say that more follows, and no marker is the
other one or a tag. -/
theorem properties_round_trip (clock : ℕ → UInt32) (actorId : UInt32) {target : Text}
    (short : (utf8 target).length ≤ 33) (writes : List PropertyWrite) :
    (∃ (packets : List SubPacket) (chunks : List (List PropertyEntry)) (last : List PropertyEntry),
      propertyPackets clock actorId target writes = some packets ∧
        List.Forall₂ PropertyPacket.Read packets (propertyStream target chunks last) ∧
          chunks.flatten ++ last = writes.map PropertyWrite.entry ∧
            ∀ entries ∈ chunks, entries ≠ []) ∧
    (∀ other : Text, (utf8 other).length ≤ 33 → moreMarker target ≠ doneMarker other) ∧
    PropertyEntry.read (moreMarker target) = none ∧
      PropertyEntry.read (doneMarker target) = none := by
  refine ⟨?_, ?_, more_untagged short, done_untagged short⟩
  · have start : ActorPropertyPacketBuilder.Holds { actorId, target } target [] [] := by
      refine ⟨rfl, rfl, ?_, .nil, by rintro _ ⟨⟩⟩
      show 0 + (1 + (utf8 target).length) ≤ 0x7D
      omega
    obtain ⟨b, chunks, last, run, holds, order⟩ :=
      ActorPropertyPacketBuilder.writes_hold clock short start writes
    obtain ⟨packets, built, sealed⟩ := done_packets short holds clock
    refine ⟨packets, chunks, last, ?_, ?_, order, holds.filled⟩
    · rw [propertyPackets, run, Option.bind_eq_bind, Option.bind_some, built]
    · exact sealed.imp fun p packet h => ⟨h.read, h.data, h.budget⟩
  · intro other short' same
    have more := moreMarker_toNat short
    have done := doneMarker_toNat short'
    rw [same] at more
    omega

theorem init_round_trip : (utf8 ['/', '_', 'i', 'n', 'i', 't']).length ≤ 33 ∧
    ∃ packets chunks last, propertyPackets (fun _ => 0) 1 ['/', '_', 'i', 'n', 'i', 't']
        [.byte ['a'] 1, .float ['b'] 0x3F800000] = some packets ∧
      List.Forall₂ PropertyPacket.Read packets
        (propertyStream ['/', '_', 'i', 'n', 'i', 't'] chunks last) ∧
      chunks.flatten ++ last =
        [PropertyWrite.byte ['a'] 1, PropertyWrite.float ['b'] 0x3F800000].map PropertyWrite.entry ∧
      ∀ entries ∈ chunks, entries ≠ [] :=
  ⟨by decide, (properties_round_trip (fun _ => 0) 1 (by decide) _).1⟩

end Garlemald.Packets
