import Garlemald.Common.Container

/-!
Compressing a frame. `compress` hands data it has deflated already to a constructor
that deflates what it is given, so that one pass of the receiver's inflater gives
back the deflated data. The deflater and the inflater are parameters.
-/

namespace Garlemald.Common.BasePacket
open Library

section Compression

variable (deflate inflate : Bytes → Option Bytes) (now : UInt64)

def compressData (data : Bytes) : Outcome PacketError Bytes :=
  match deflate data with
  | some compressed => .ok compressed
  | none => .err .io

/-- `now` is the Unix time in milliseconds. -/
def createFromData (data : Bytes) (isAuthed isCompressed : Bool) :
    Outcome PacketError BasePacket := do
  let data ← if isCompressed then compressData deflate data else pure data
  return {
    header := {
      isAuthenticated := if isAuthed then 1 else 0
      isCompressed := if isCompressed then 1 else 0
      connectionType := 0
      packetSize := UInt16.ofNat (basepacketSize + data.length)
      numSubpackets := 1
      timestamp := now }
    data }

def compress (p : BasePacket) : Outcome PacketError BasePacket := do
  let compressed ← compressData deflate p.data
  createFromData deflate now compressed (p.header.isAuthenticated == 1) true

/-- The frame `compress` builds around data deflated twice. -/
def compressedFrame (p : BasePacket) (data : Bytes) : BasePacket :=
  { header := {
      isAuthenticated := if p.header.isAuthenticated == 1 then 1 else 0
      isCompressed := 1
      connectionType := 0
      packetSize := UInt16.ofNat (basepacketSize + data.length)
      numSubpackets := 1
      timestamp := now }
    data }

theorem compress_eq_ok {p sent : BasePacket} :
    compress deflate now p = .ok sent ↔
      ∃ once twice, deflate p.data = some once ∧ deflate once = some twice ∧
        sent = compressedFrame now p twice := by
  rw [compress, compressData]
  cases first : deflate p.data with
  | none => simp
  | some once =>
      rw [Outcome.ok_bind, createFromData, if_pos rfl, compressData]
      cases second : deflate once with
      | none => simp [second]
      | some twice =>
          change .ok (compressedFrame now p twice) = Outcome.ok sent ↔ _
          constructor
          · intro built
            cases built
            exact ⟨once, twice, rfl, second, rfl⟩
          · intro ⟨once', twice', same, second', built⟩
            cases same
            rw [second] at second'
            cases second'
            rw [built]

theorem compressedFrame_sized_iff (p : BasePacket) (data : Bytes) :
    (compressedFrame now p data).Sized ↔ basepacketSize + data.length < 0x10000 := by
  change (UInt16.ofNat (basepacketSize + data.length)).toNat = basepacketSize + data.length ↔ _
  rw [UInt16.toNat_ofNat']
  exact Nat.mod_eq_iff_lt (by decide)

/-- What a receiver makes of the bytes of a frame before it inflates again: the data
deflated once. -/
theorem decompress_fromBytes {p : BasePacket} {once twice : Bytes}
    (restored : inflate twice = some once)
    (sized : (compressedFrame now p twice).Sized) :
    (do (← fromBytes (compressedFrame now p twice).encoding).decompress inflate) =
      .ok { data := once, header := { (compressedFrame now p twice).header with
        isCompressed := 0, packetSize := UInt16.ofNat (basepacketSize + once.length) } } := by
  rw [fromBytes_encoding sized, Outcome.ok_bind, decompress]
  have data : (compressedFrame now p twice).data = twice := rfl
  rw [data, restored]

/-- The frame `compress` makes of `p` declares the length that is sent, and the receiver's
`decompress` gives the data of `p` and its subpacket count back, no longer marked as
compressed. -/
def CompressionRoundTrips (p : BasePacket) : Prop :=
  ∃ sent wire received, compress deflate now p = .ok sent ∧ sent.toBytes = .ok wire ∧
    sent.header.packetSize.toNat = basepacketSize + sent.data.length ∧
    wire.length = sent.header.packetSize.toNat ∧
    (do (← fromBytes wire).decompress inflate) = .ok received ∧
    received.data = p.data ∧ received.header.numSubpackets = p.header.numSubpackets ∧
    received.header.isCompressed = 0

/-- With an inflater that inverts the deflater, the round trip holds for the data the
deflater leaves as it is, sent as one subpacket in a frame of at most 65535 bytes. -/
theorem compressionRoundTrips_iff
    (inverse : ∀ data compressed, deflate data = some compressed → inflate compressed = some data)
    (p : BasePacket) :
    CompressionRoundTrips deflate inflate now p ↔
      deflate p.data = some p.data ∧ p.header.numSubpackets = 1 ∧
        basepacketSize + p.data.length < 0x10000 := by
  constructor
  · intro ⟨sent, wire, received, built, written, sized, _, read, data, count, _⟩
    obtain ⟨once, twice, first, second, frame⟩ := (compress_eq_ok deflate now).mp built
    rw [frame] at sized written
    rw [toBytes_sized sized] at written
    cases written
    rw [decompress_fromBytes inflate now (inverse once twice second) sized] at read
    cases read
    have unchanged : once = p.data := data
    rw [unchanged] at first second
    rw [first] at second
    cases second
    exact ⟨first, count.symm, (compressedFrame_sized_iff now p p.data).mp sized⟩
  · intro ⟨fixed, count, fits⟩
    have sized := (compressedFrame_sized_iff now p p.data).mpr fits
    refine ⟨_, _, _, (compress_eq_ok deflate now).mpr ⟨_, _, fixed, fixed, rfl⟩,
      toBytes_sized sized, sized, ?_, decompress_fromBytes inflate now (inverse _ _ fixed) sized,
      rfl, count.symm, rfl⟩
    rw [length_encoding]
    exact sized.symm

end Compression

def deflatedOnce : Bytes := [0x78, 0x9c, 0x63, 0x64, 0x62, 0x06, 0x00, 0x00, 0x0d, 0x00, 0x07]

/-- What the deflater makes of `deflatedOnce`. -/
def deflatedTwice : Bytes :=
  [0x78, 0x9c, 0xab, 0x98, 0x93, 0x9c, 0x92, 0xc4, 0xc6, 0xc0, 0xc0, 0xcb, 0xc0, 0x0e, 0x00,
    0x14, 0xe6, 0x02, 0x58]

def sampleDeflate (data : Bytes) : Option Bytes :=
  if data = [1, 2, 3] then some deflatedOnce
  else if data = deflatedOnce then some deflatedTwice
  else none

def sampleInflate (data : Bytes) : Option Bytes :=
  if data = deflatedOnce then some [1, 2, 3]
  else if data = deflatedTwice then some deflatedOnce
  else none

theorem sampleInflate_sampleDeflate (data compressed : Bytes)
    (h : sampleDeflate data = some compressed) : sampleInflate compressed = some data := by
  rw [sampleDeflate] at h
  split at h
  · next same =>
      cases h
      rw [same]
      rfl
  · split at h
    · next same =>
        cases h
        rw [same]
        rfl
    · contradiction

def sampleFrame : BasePacket :=
  ⟨{ isAuthenticated := 1, packetSize := 19, numSubpackets := 1 }, [1, 2, 3]⟩

theorem compressionRoundTrips_sample :
    CompressionRoundTrips sampleDeflate sampleInflate 7 sampleFrame ↔
      sampleDeflate sampleFrame.data = some sampleFrame.data ∧
        sampleFrame.header.numSubpackets = 1 ∧
        basepacketSize + sampleFrame.data.length < 0x10000 :=
  compressionRoundTrips_iff sampleDeflate sampleInflate 7 sampleInflate_sampleDeflate sampleFrame

theorem compressed_stays_deflated :
    (∀ data compressed, sampleDeflate data = some compressed →
      sampleInflate compressed = some data) ∧
    ¬ CompressionRoundTrips sampleDeflate sampleInflate 7 sampleFrame := by
  refine ⟨sampleInflate_sampleDeflate, ?_⟩
  intro ⟨sent, wire, received, built, written, _, _, read, data, _⟩
  cases built
  cases written
  cases read
  exact absurd data (by decide)

end Garlemald.Common.BasePacket
