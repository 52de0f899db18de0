import Garlemald.Common.BasePacket
import Garlemald.Library.Framing

/-!
The socket read loop the three servers share: every read is appended to the
bytes carried over, whole packets are taken from the front, and the remainder is
carried over in turn. The loop is the draining of the packet decoder, so what it
yields does not depend on how the stream is cut; when it yields does.
-/

namespace Garlemald.Common
open Library

def bufferSize : Nat := 0xFFFF

namespace BasePacket

/-- The packets the inner loop yields from `offset` on, and the offset it stops at. -/
def packetsFrom (buffer : Bytes) : Nat → Nat → Outcome PacketError (List BasePacket × Nat)
  | 0, offset => .ok ([], offset)
  | fuel + 1, offset => do
      match ← tryFromBuffer buffer offset buffer.length with
      | none => return ([], offset)
      | some (packet, next) =>
          let (packets, stop) ← packetsFrom buffer fuel next
          return (packet :: packets, stop)

end BasePacket

/-- One turn of the loop. A packet takes up at least one byte, so the length of the
buffer bounds the inner loop. -/
def readTurn (pending read : Bytes) : Outcome PacketError (List BasePacket × Bytes) := do
  let buffer := pending ++ read
  let (packets, offset) ← BasePacket.packetsFrom buffer (buffer.length + 1) 0
  return (packets, buffer.drop offset)

/-- The packets yielded over a list of reads and the bytes still pending after them.
A read of no bytes is the end of the connection. -/
def readLoop (pending : Bytes) : List Bytes → Outcome PacketError (List BasePacket × Bytes)
  | [] => .ok ([], pending)
  | read :: reads =>
      if read = [] then .ok ([], pending)
      else do
        let (packets, rest) ← readTurn pending read
        let (later, last) ← readLoop rest reads
        return (packets ++ later, last)

namespace BasePacket

def decoder : Decoder PacketError BasePacket :=
  fun pending => tryFromBuffer pending 0 pending.length

theorem fromBuffer_extend {bytes : Bytes} {offset : Nat}
    (h : ∀ e, fromBuffer bytes offset ≠ .err e) (more : Bytes) :
    fromBuffer (bytes ++ more) offset = fromBuffer bytes offset := by
  by_cases short : bytes.length < offset + basepacketSize
  · exact absurd (by simp only [fromBuffer, short, if_true]; rfl) (h _)
  · have longer : ¬ (bytes ++ more).length < offset + basepacketSize := by
      rw [List.length_append]; omega
    simp only [fromBuffer, short, longer, if_false,
      Outcome.slice_extend bytes more (Nat.not_lt.mp short),
      Outcome.slice_ok (Nat.le_add_right ..) (Nat.not_lt.mp short), Outcome.ok_bind] at h ⊢
    cases read : BasePacketHeader.read
        ((bytes.drop offset).take (offset + basepacketSize - offset)) with
    | err e => rfl
    | panic => rfl
    | ok header =>
        simp only [read, Outcome.ok_bind] at h ⊢
        by_cases cut : bytes.length < offset + header.packetSize.toNat
        · exact absurd (if_pos cut) (h _)
        · have all : ¬ (bytes ++ more).length < offset + header.packetSize.toNat := by
            rw [List.length_append]; omega
          rw [if_neg cut, if_neg all, Outcome.slice_extend bytes more (Nat.not_lt.mp cut)]

theorem fromBuffer_ok {bytes : Bytes} {offset next : Nat} {p : BasePacket}
    (h : fromBuffer bytes offset = .ok (p, next)) :
    offset + basepacketSize ≤ next ∧ next ≤ bytes.length := by
  by_cases short : bytes.length < offset + basepacketSize
  · simp only [fromBuffer, short, if_true] at h
    contradiction
  · simp only [fromBuffer, short, if_false] at h
    obtain ⟨window, _, h⟩ := Outcome.bind_eq_ok.mp h
    obtain ⟨header, _, h⟩ := Outcome.bind_eq_ok.mp h
    by_cases cut : bytes.length < offset + header.packetSize.toNat
    · rw [if_pos cut] at h
      contradiction
    · rw [if_neg cut] at h
      obtain ⟨data, content, h⟩ := Outcome.bind_eq_ok.mp h
      cases h
      by_cases order : offset + basepacketSize ≤ offset + header.packetSize.toNat
      · exact ⟨order, Nat.not_lt.mp cut⟩
      · simp only [Outcome.slice, order, false_and, if_false] at content
        contradiction

theorem fromBuffer_shift (front bytes : Bytes) :
    match fromBuffer bytes 0 with
    | .ok (p, used) => fromBuffer (front ++ bytes) front.length = .ok (p, front.length + used)
    | .err _ => ∃ e, fromBuffer (front ++ bytes) front.length = .err e
    | .panic => fromBuffer (front ++ bytes) front.length = .panic := by
  have bound (n : Nat) : (front ++ bytes).length < front.length + n ↔ bytes.length < n := by
    rw [List.length_append]; omega
  have window (low high : Nat) := Outcome.slice_append (ε := PacketError) front bytes low high
  by_cases short : bytes.length < basepacketSize
  · simp [fromBuffer, short]
  · have headerAt := window 0 basepacketSize
    rw [Nat.add_zero] at headerAt
    simp only [fromBuffer, bound, Nat.zero_add, short, if_false, headerAt]
    cases Outcome.slice (ε := PacketError) bytes 0 basepacketSize with
    | err e => exact ⟨e, rfl⟩
    | panic => rfl
    | ok content =>
        simp only [Outcome.ok_bind]
        cases BasePacketHeader.read content with
        | err e => exact ⟨e, rfl⟩
        | panic => rfl
        | ok header =>
            by_cases cut : bytes.length < header.packetSize.toNat
            · simp [cut]
            · have dataAt := window basepacketSize header.packetSize.toNat
              simp only [Outcome.ok_bind, cut, if_false, dataAt]
              cases Outcome.slice (ε := PacketError) bytes basepacketSize
                header.packetSize.toNat with
              | err e => exact ⟨e, rfl⟩
              | panic => rfl
              | ok data => rfl

theorem tryFromBuffer_shift (front bytes : Bytes) :
    tryFromBuffer (front ++ bytes) front.length (front ++ bytes).length =
      (do match ← decoder bytes with
          | none => return none
          | some (p, used) => return some (p, front.length + used)) := by
  have peek : peekedSize (front ++ bytes) front.length = peekedSize bytes 0 := by
    rw [peekedSize, List.drop_left]
    rfl
  have bound (n : Nat) : (front ++ bytes).length < front.length + n ↔ bytes.length < n := by
    rw [List.length_append]; omega
  have some_left : (front ++ bytes).length ≤ front.length ↔ bytes.length ≤ 0 := by
    rw [List.length_append]; omega
  have parsed := fromBuffer_shift front bytes
  simp only [decoder, tryFromBuffer, peek, bound, some_left, Nat.zero_add]
  by_cases early : bytes.length ≤ 0 ∨ bytes.length < 2
  · simp only [early, if_true, Outcome.ok_bind]
    rfl
  · by_cases waits : bytes.length < peekedSize bytes 0
    · simp only [early, waits, if_true, if_false, or_self, Outcome.ok_bind]
      rfl
    · simp only [early, waits, if_false, or_self]
      cases found : fromBuffer bytes 0 with
      | err e =>
          rw [found] at parsed
          obtain ⟨e', failed⟩ := parsed
          rw [failed]
          rfl
      | panic =>
          rw [found] at parsed
          rw [parsed]
          rfl
      | ok result =>
          rw [found] at parsed
          rw [parsed]
          rfl

theorem decoder_stable : decoder.Stable where
  progress := by
    intro pending p used found
    simp only [decoder, tryFromBuffer] at found
    split at found
    · cases found
    · split at found
      · cases found
      · split at found
        · next parsed whole =>
            cases found
            obtain ⟨past, inside⟩ := fromBuffer_ok whole
            simp only [basepacketSize] at past
            omega
        · cases found
        · cases found
  decided := by
    intro pending settled more
    simp only [decoder, tryFromBuffer, Nat.zero_add] at settled ⊢
    by_cases early : pending.length ≤ 0 ∨ pending.length < 2
    · exact absurd (if_pos early) settled
    · have peek : peekedSize (pending ++ more) 0 = peekedSize pending 0 := by
        rw [peekedSize, List.drop_zero, List.take_append_of_le_length (by omega)]
        rfl
      have longer : ¬ ((pending ++ more).length ≤ 0 ∨ (pending ++ more).length < 2) := by
        rw [List.length_append]; omega
      rw [if_neg early] at settled ⊢
      rw [if_neg longer, peek]
      by_cases waits : pending.length < peekedSize pending 0
      · exact absurd (if_pos (Or.inl waits)) settled
      · have arrived : ¬ (pending ++ more).length < peekedSize pending 0 := by
          rw [List.length_append]; omega
        simp only [waits, arrived, or_self, if_false] at settled ⊢
        have no_error (e : PacketError) : fromBuffer pending 0 ≠ .err e := by
          intro failed
          exact settled (by rw [failed])
        rw [fromBuffer_extend no_error]

theorem packetsFrom_eq_drainFuel (fuel : Nat) (front bytes : Bytes) :
    (do let (packets, offset) ← packetsFrom (front ++ bytes) fuel front.length
        return (packets, (front ++ bytes).drop offset)) = decoder.drainFuel fuel bytes := by
  induction fuel generalizing front bytes with
  | zero => simp [packetsFrom, Decoder.drainFuel]
  | succ fuel ih =>
      rw [packetsFrom, Decoder.drainFuel, tryFromBuffer_shift]
      cases found : decoder bytes with
      | err e => rfl
      | panic => rfl
      | ok frame =>
          cases frame with
          | none => simp
          | some frame =>
              obtain ⟨p, used⟩ := frame
              obtain ⟨_, inside⟩ := decoder_stable.progress found
              have later := ih (front ++ bytes.take used) (bytes.drop used)
              rw [List.append_assoc, List.take_append_drop, List.length_append,
                List.length_take_of_le inside] at later
              simp only [Outcome.ok_bind, Outcome.pure_eq_ok, ← later]
              cases packetsFrom (front ++ bytes) fuel (front.length + used) <;> rfl

theorem readTurn_eq_drain (pending read : Bytes) :
    readTurn pending read = decoder.drain (pending ++ read) :=
  packetsFrom_eq_drainFuel _ [] _

theorem readLoop_eq_feed (pending : Bytes) {reads : List Bytes} (live : ∀ read ∈ reads, read ≠ []) :
    readLoop pending reads = decoder.feed pending reads := by
  induction reads generalizing pending with
  | nil => rfl
  | cons read reads ih =>
      have here := live read (List.mem_cons_self ..)
      have later (rest : Bytes) := ih rest fun r member => live r (List.mem_cons_of_mem _ member)
      rw [readLoop, if_neg here, Decoder.feed, readTurn_eq_drain]
      simp only [later]

/-- What the parser waits for: the flags of the header read as a size, or the packet. -/
def needed (p : BasePacket) : Nat :=
  max (p.header.isAuthenticated.toNat + 256 * p.header.isCompressed.toNat) p.encoding.length

theorem peekedSize_encoding (p : BasePacket) {pending rest : Bytes} (two : 2 ≤ pending.length)
    (h : pending <+: p.encoding ++ rest) :
    peekedSize pending 0 = p.header.isAuthenticated.toNat + 256 * p.header.isCompressed.toNat := by
  obtain ⟨missing, split⟩ := h
  have front : pending.take 2 = [p.header.isAuthenticated, p.header.isCompressed] := by
    rw [← @List.take_append_of_le_length _ _ missing _ two, split]
    rfl
  have first := p.header.isAuthenticated.toNat_lt
  have second := p.header.isCompressed.toNat_lt
  rw [peekedSize, List.drop_zero, front, u16Value, UInt16.toNat_ofNat']
  simp only [leValue]
  omega

theorem fromBuffer_partial {p : BasePacket} (h : p.Sized) {pending rest : Bytes}
    (arrived : pending <+: p.encoding ++ rest) (cut : pending.length < p.encoding.length) :
    ∃ e, fromBuffer pending 0 = .err e := by
  by_cases short : pending.length < basepacketSize
  · simp [fromBuffer, short]
  · have size : p.header.packetSize.toNat = p.encoding.length := by
      rw [h, length_encoding]
    have front : pending.take basepacketSize = p.header.write := by
      obtain ⟨missing, split⟩ := arrived
      rw [← @List.take_append_of_le_length _ _ missing _ (Nat.not_lt.mp short), split, encoding,
        List.append_assoc, ← p.header.length_write, List.take_left]
    have headerAt : (Outcome.slice pending 0 basepacketSize : Outcome PacketError Bytes) =
        .ok p.header.write := by
      rw [Outcome.slice_ok (Nat.zero_le _) (Nat.not_lt.mp short), List.drop_zero, Nat.sub_zero,
        front]
    simp [fromBuffer, short, headerAt, size, cut]

theorem decoder_yields {p : BasePacket} (h : p.Sized) :
    decoder.Yields encoding needed p where
  positive := by rw [length_encoding, basepacketSize]; omega
  covers := Nat.le_max_right ..
  next_eq := by
    intro pending rest arrived
    have long : basepacketSize ≤ p.encoding.length := by rw [length_encoding]; omega
    have bound : needed p ≤ pending.length ↔
        p.header.isAuthenticated.toNat + 256 * p.header.isCompressed.toNat ≤ pending.length ∧
          p.encoding.length ≤ pending.length := Nat.max_le
    simp only [basepacketSize] at long
    simp only [decoder, tryFromBuffer, Nat.zero_add]
    by_cases early : pending.length ≤ 0 ∨ pending.length < 2
    · rw [if_pos early, if_neg (by omega)]
    · have peek := peekedSize_encoding p (by omega) arrived
      rw [if_neg early, peek]
      by_cases waits : pending.length <
          p.header.isAuthenticated.toNat + 256 * p.header.isCompressed.toNat
      · rw [if_pos (Or.inl waits), if_neg (by omega)]
      · rw [if_neg (by omega)]
        by_cases cut : pending.length < p.encoding.length
        · obtain ⟨e, failed⟩ := fromBuffer_partial h arrived cut
          rw [failed, if_neg (by omega)]
        · have whole := List.prefix_of_prefix_length_le (List.prefix_append p.encoding rest) arrived
            (Nat.not_lt.mp cut)
          obtain ⟨behind, rfl⟩ := whole
          have parsed := fromBuffer_encoding h [] behind
          simp only [List.nil_append, List.length_nil, Nat.zero_add] at parsed
          rw [parsed, if_pos (by omega)]

/-- After every read, exactly the packets whole by then are out and exactly the bytes
behind them are carried over. -/
def YieldsPromptly (packets : List BasePacket) (reads : List Bytes) : Prop :=
  ∀ front, front <+: reads →
    readLoop [] front =
      .ok (Decoder.whole encoding packets front.flatten.length,
        Decoder.partialBytes encoding packets front.flatten.length)

/-- Over every way of cutting a stream of packets into reads, the loop is exact if and
only if no read ends where a whole packet is shorter than the flags of its header read
as a size. -/
theorem readLoop_exact_iff {packets : List BasePacket} (sized : ∀ p ∈ packets, p.Sized)
    {reads : List Bytes} (cut : reads.flatten = packets.flatMap encoding)
    (live : ∀ read ∈ reads, read ≠ []) :
    YieldsPromptly packets reads ↔
      ∀ front, front <+: reads →
        Decoder.Prompt encoding needed packets front.flatten.length := by
  refine forall_congr' fun front => imp_congr_right fun pre => ?_
  have alive (read : Bytes) (member : read ∈ front) := live read (pre.subset member)
  have arrived : front.flatten <+: packets.flatMap encoding := by
    rw [← cut]
    obtain ⟨later, rfl⟩ := pre
    rw [List.flatten_append]
    exact List.prefix_append ..
  rw [readLoop_eq_feed [] alive]
  exact decoder_stable.feed_exact_iff rfl (fun p member => decoder_yields (sized p member)) arrived

theorem prompt_of_flags_le {packets : List BasePacket}
    (small : ∀ p ∈ packets,
      p.header.isAuthenticated.toNat + 256 * p.header.isCompressed.toNat ≤ p.encoding.length)
    (n : Nat) : Decoder.Prompt encoding needed packets n := by
  intro front p back split whole
  have member : p ∈ packets := by
    rw [split]
    exact List.mem_append_right _ (List.mem_cons_self ..)
  rwa [needed, Nat.max_eq_right (small p member)]

/-- A plain and a compressed ping, 24 bytes each. -/
def ping (isCompressed : UInt8) : BasePacket :=
  ⟨{ isCompressed, packetSize := 24, numSubpackets := 1 }, [8, 0, 7, 0, 1, 0, 0, 0]⟩

theorem readLoop_holds_compressed_packet :
    (ping 1).Sized ∧ readLoop [] [(ping 1).encoding] = .ok ([], (ping 1).encoding) ∧
      ¬ YieldsPromptly [ping 1] [(ping 1).encoding] := by
  have held : readLoop [] [(ping 1).encoding] = .ok ([], (ping 1).encoding) := by decide
  refine ⟨rfl, held, fun exact => ?_⟩
  have now := exact [(ping 1).encoding] (List.prefix_rfl ..)
  rw [held] at now
  exact absurd now (by decide)

theorem readLoop_exact_two_pings :
    YieldsPromptly [ping 0, ping 0]
      [(ping 0).encoding ++ (ping 0).encoding.take 5, (ping 0).encoding.drop 5] := by
  have sized : ∀ p ∈ [ping 0, ping 0], p.Sized := by
    intro p member
    rw [List.eq_of_mem_replicate (n := 2) member]
    rfl
  refine (readLoop_exact_iff sized (by decide) (by decide)).mpr fun front _ => ?_
  exact prompt_of_flags_le (by decide) front.flatten.length

end BasePacket
end Garlemald.Common
