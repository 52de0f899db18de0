import Garlemald.Common.Container

/-!
Functions that walk a stream of serialised subpackets by its size fields instead
of parsing it: counting for a frame header, and stamping missing target ids. On a
stream of whole subpackets, and up to a tail at which parser and walk stop alike,
they do what parsing, editing and encoding again would do.
-/

namespace Garlemald.Common
open Library

def declaredSize (bytes : Bytes) (off : Nat) : Nat := (u16Value ((bytes.drop off).take 2)).toNat

namespace SubPacket

/-- The stream behind `off` with `target` in every zero target id, and how many were stamped. -/
def stampFrom (target : UInt32) : Nat → Nat → Bytes → Nat → Bytes × Nat
  | 0, _, bytes, stamped => (bytes, stamped)
  | fuel + 1, off, bytes, stamped =>
      if off + subpacketSize ≤ bytes.length then
        let size := declaredSize bytes off
        if size < subpacketSize ∨ off + size > bytes.length then (bytes, stamped)
        else
          let t := off + 8
          if (bytes.drop t).take 4 = [0, 0, 0, 0] then
            stampFrom target fuel (off + size)
              (bytes.take t ++ (u32Bytes target ++ bytes.drop (t + 4))) (stamped + 1)
          else stampFrom target fuel (off + size) bytes stamped
      else (bytes, stamped)

/-- Every turn moves at least one byte on, so the length of the stream is enough fuel. -/
def stampTargetIdIfZero (bytes : Bytes) (target : UInt32) : Bytes × Nat :=
  stampFrom target bytes.length 0 bytes 0

end SubPacket

/-! ### The parsed path -/

/-- Parse from `offset` on while parsing succeeds: the subpackets and the bytes left. -/
def parsedFrom (bytes : Bytes) : Nat → Nat → List SubPacket × Bytes
  | 0, offset => ([], bytes.drop offset)
  | fuel + 1, offset =>
      match SubPacket.parse bytes offset with
      | .ok (p, next) =>
          let (ps, rest) := parsedFrom bytes fuel next
          (p :: ps, rest)
      | _ => ([], bytes.drop offset)

def parsedPrefix (bytes : Bytes) : List SubPacket × Bytes := parsedFrom bytes bytes.length 0

def SubPacket.retarget (target : UInt32) (p : SubPacket) : SubPacket :=
  if p.header.targetId = 0 then p.setTargetId target else p

/-- A tail at which the parser and both walks stop: too short for a header, or declaring a
size below the header or past the end. -/
def Stops (tail : Bytes) : Prop :=
  tail.length < subpacketSize ∨ declaredSize tail 0 < subpacketSize ∨
    tail.length < declaredSize tail 0

instance (tail : Bytes) : Decidable (Stops tail) := inferInstanceAs (Decidable (_ ∨ _))

variable {ps : List SubPacket}

section Walk

theorem declaredSize_drop (front bytes : Bytes) :
    declaredSize (front ++ bytes) front.length = declaredSize bytes 0 := by
  rw [declaredSize, declaredSize, List.drop_left, List.drop_zero]

theorem SubPacket.declaredSize_encoding {p : SubPacket} (h : p.Sized) (rest : Bytes) :
    declaredSize (p.encoding ++ rest) 0 = p.encoding.length := by
  have first : ∃ more, p.encoding ++ rest = u16Bytes p.header.size ++ more := by
    rw [encoding]
    split <;> simp only [SubPacketHeader.write, List.append_assoc] <;> exact ⟨_, rfl⟩
  obtain ⟨more, shape⟩ := first
  rw [declaredSize, shape, List.drop_zero, List.take_left' (length_u16Bytes _),
    u16Value_u16Bytes, h.size_eq]

theorem SubPacketHeader.read_size {buf : Bytes} {header : SubPacketHeader}
    (h : read buf = .ok header) : header.size.toNat = declaredSize buf 0 := by
  rw [read] at h
  split at h
  · contradiction
  · next long =>
      have two := Reader.u16_run buf (by simp only [subpacketSize] at long; omega)
      cases parsed : Reader.parse fields buf with
      | none => rw [parsed] at h; contradiction
      | some found =>
          rw [parsed] at h
          cases h
          rw [Reader.parse, fields, StateT.run_bind, two, Option.bind_eq_bind,
            Option.bind_some] at parsed
          obtain ⟨last, ran, rfl⟩ := Option.map_eq_some_iff.mp parsed
          rw [StateT.run_bind] at ran
          obtain ⟨type, _, ran⟩ := Option.bind_eq_some_iff.mp ran
          rw [StateT.run_bind] at ran
          obtain ⟨source, _, ran⟩ := Option.bind_eq_some_iff.mp ran
          rw [StateT.run_bind] at ran
          obtain ⟨target, _, ran⟩ := Option.bind_eq_some_iff.mp ran
          rw [StateT.run_bind] at ran
          obtain ⟨unknown, _, ran⟩ := Option.bind_eq_some_iff.mp ran
          cases ran
          rfl

variable {tail : Bytes}

theorem parse_stops (front : Bytes) (stops : Stops tail) :
    ∀ parsed, SubPacket.parse (front ++ tail) front.length ≠ .ok parsed := by
  intro parsed h
  rw [SubPacket.parse] at h
  by_cases short : (front ++ tail).length < front.length + subpacketSize
  · rw [if_pos short] at h
    contradiction
  have long : subpacketSize ≤ tail.length := by
    rw [List.length_append] at short; omega
  have slice := Outcome.slice_append (ε := PacketError) front tail 0 subpacketSize
  rw [Nat.add_zero, Outcome.slice_ok (Nat.zero_le _) long] at slice
  rw [if_neg short, slice, Outcome.ok_bind] at h
  obtain ⟨header, read, h⟩ := Outcome.bind_eq_ok.mp h
  have size := SubPacketHeader.read_size read
  have window : declaredSize ((tail.drop 0).take (subpacketSize - 0)) 0 = declaredSize tail 0 := by
    simp only [declaredSize, List.drop_zero, List.take_take, subpacketSize]
    rfl
  rw [window] at size
  have bad : header.size.toNat < subpacketSize ∨
      (front ++ tail).length < front.length + header.size.toNat := by
    rw [size, List.length_append]
    rcases stops with few | small | past
    · omega
    · exact .inl small
    · omega
  by_cases cut : (front ++ tail).length < front.length + header.size.toNat
  · simp only [cut, if_true, ite_self] at h
    contradiction
  · have small := bad.resolve_right cut
    have smaller : header.size.toNat < (if header.type = subpacketTypeGamemessage then
        subpacketSize + gamemessageSize else subpacketSize) := by
      split <;> omega
    simp only [smaller, if_true] at h
    contradiction

theorem parsedFrom_encodings (sized : ∀ p ∈ ps, p.Sized) (front : Bytes) (stops : Stops tail)
    {fuel : Nat} (enough : ps.length ≤ fuel) :
    parsedFrom (front ++ (ps.flatMap SubPacket.encoding ++ tail)) fuel front.length =
      (ps, tail) := by
  induction ps generalizing front fuel with
  | nil =>
      rw [List.flatMap_nil, List.nil_append]
      cases fuel with
      | zero => rw [parsedFrom, List.drop_left]
      | succ fuel =>
          rw [parsedFrom]
          cases parsed : SubPacket.parse (front ++ tail) front.length with
          | ok found => exact absurd parsed (parse_stops front stops found)
          | err e => simp only [List.drop_left]
          | panic => simp only [List.drop_left]
  | cons p ps ih =>
      cases fuel with
      | zero => simp at enough
      | succ fuel =>
          have parsed := SubPacket.parse_encoding (sized p (List.mem_cons_self ..)) front
            (ps.flatMap SubPacket.encoding ++ tail)
          have later := ih (fun q member => sized q (List.mem_cons_of_mem _ member))
            (front ++ p.encoding) (Nat.le_of_succ_le_succ enough)
          rw [List.append_assoc, List.length_append] at later
          rw [List.flatMap_cons, List.append_assoc, parsedFrom, parsed]
          simp only [later]

theorem length_le_encodings (ps : List SubPacket) (tail : Bytes) :
    ps.length ≤ (ps.flatMap SubPacket.encoding ++ tail).length := by
  induction ps with
  | nil => exact Nat.zero_le _
  | cons p ps ih =>
      have long := p.length_encoding
      rw [List.flatMap_cons, List.append_assoc, List.length_append, List.length_cons]
      simp only [subpacketSize] at long
      omega

theorem parsedPrefix_encodings (sized : ∀ p ∈ ps, p.Sized) (stops : Stops tail) :
    parsedPrefix (ps.flatMap SubPacket.encoding ++ tail) = (ps, tail) :=
  parsedFrom_encodings sized [] stops (length_le_encodings ps tail)

/-! ### Counting -/

theorem countSubpackets_encodings (sized : ∀ p ∈ ps, p.Sized) (front : Bytes) (stops : Stops tail)
    {fuel : Nat} (enough : ps.length ≤ fuel) (count : UInt16) :
    countSubpackets (front ++ (ps.flatMap SubPacket.encoding ++ tail)) fuel front.length count =
      count + UInt16.ofNat ps.length := by
  induction ps generalizing front fuel count with
  | nil =>
      rw [List.flatMap_nil, List.nil_append]
      cases fuel with
      | zero => simp [countSubpackets]
      | succ fuel =>
          have here : (u16Value (((front ++ tail).drop front.length).take 2)).toNat =
              declaredSize tail 0 := declaredSize_drop front tail
          rw [countSubpackets]
          split
          · next fits =>
              have stop : (u16Value (((front ++ tail).drop front.length).take 2)).toNat <
                    subpacketSize ∨
                  front.length + (u16Value (((front ++ tail).drop front.length).take 2)).toNat >
                    (front ++ tail).length := by
                rw [here]
                rw [List.length_append] at fits ⊢
                rcases stops with few | small | past
                · omega
                · exact .inl small
                · omega
              simp only [stop, if_true]
              simp
          · simp
  | cons p ps ih =>
      cases fuel with
      | zero => simp at enough
      | succ fuel =>
          have here := sized p (List.mem_cons_self ..)
          have long := p.length_encoding
          have size : (u16Value (((front ++ (p.encoding ++ (ps.flatMap SubPacket.encoding ++
              tail))).drop front.length).take 2)).toNat = p.encoding.length :=
            (declaredSize_drop front _).trans (SubPacket.declaredSize_encoding here _)
          have later := ih (fun q member => sized q (List.mem_cons_of_mem _ member))
            (front ++ p.encoding) (Nat.le_of_succ_le_succ enough) (count + 1)
          rw [List.append_assoc, List.length_append] at later
          rw [List.flatMap_cons, List.append_assoc, countSubpackets, size]
          have fits : front.length + subpacketSize ≤ (front ++ (p.encoding ++
              (ps.flatMap SubPacket.encoding ++ tail))).length := by
            simp only [List.length_append]; omega
          have goes : ¬ (p.encoding.length < subpacketSize ∨ front.length + p.encoding.length >
              (front ++ (p.encoding ++ (ps.flatMap SubPacket.encoding ++ tail))).length) := by
            simp only [List.length_append]; omega
          simp only [fits, if_true, goes, if_false, later, List.length_cons]
          rw [UInt16.add_assoc, UInt16.ofNat_add, UInt16.add_comm 1]
          rfl

theorem fromBytes_wrap (now : UInt64) {data : Bytes}
    (fits : basepacketSize + data.length < 0x10000) :
    BasePacket.fromBytes (wrapSubpacketsInBasepacket now data) =
      .ok ⟨wrapHeader now data, data⟩ := by
  have size : (wrapHeader now data).packetSize.toNat = basepacketSize + data.length := by
    change (UInt16.ofNat (basepacketSize + data.length)).toNat = _
    rw [UInt16.toNat_ofNat', Nat.mod_eq_of_lt fits]
  exact BasePacket.fromBytes_encoding (p := ⟨wrapHeader now data, data⟩) size

/-! ### Stamping -/

theorem SubPacket.encoding_target (p : SubPacket) : ∃ before behind : Bytes,
    before.length = 8 ∧
      ∀ target, (p.setTargetId target).encoding = before ++ (u32Bytes target ++ behind) := by
  refine ⟨u16Bytes p.header.size ++ (u16Bytes p.header.type ++ u32Bytes p.header.sourceId),
    u32Bytes p.header.unknown1 ++ (if p.header.type = subpacketTypeGamemessage then
      p.gameMessage.write ++ p.data else p.data), by simp, fun target => ?_⟩
  rw [encoding, setTargetId_header]
  split <;> simp only [SubPacketHeader.write, List.append_assoc] <;> rfl

theorem u32Bytes_eq_zero {x : UInt32} : u32Bytes x = [0, 0, 0, 0] ↔ x = 0 := by
  constructor
  · intro blank
    rw [← u32Value_u32Bytes x, blank]
    rfl
  · rintro rfl
    rfl

theorem stampFrom_encoding (target : UInt32) {p : SubPacket} (h : p.Sized) (front rest : Bytes)
    (fuel stamped : Nat) :
    SubPacket.stampFrom target (fuel + 1) front.length (front ++ (p.encoding ++ rest)) stamped =
      SubPacket.stampFrom target fuel (front.length + p.encoding.length)
        (front ++ ((p.retarget target).encoding ++ rest))
        (stamped + if p.header.targetId = 0 then 1 else 0) := by
  have long := p.length_encoding
  have size : declaredSize (front ++ (p.encoding ++ rest)) front.length = p.encoding.length :=
    (declaredSize_drop front _).trans (SubPacket.declaredSize_encoding h _)
  have fits : front.length + subpacketSize ≤ (front ++ (p.encoding ++ rest)).length := by
    simp only [List.length_append]; omega
  have goes : ¬ (p.encoding.length < subpacketSize ∨
      front.length + p.encoding.length > (front ++ (p.encoding ++ rest)).length) := by
    simp only [List.length_append]; omega
  obtain ⟨before, behind, eight, shape⟩ := p.encoding_target
  have encoded : p.encoding = before ++ (u32Bytes p.header.targetId ++ behind) :=
    shape p.header.targetId
  have position : front.length + 8 = (front ++ before).length := by
    rw [List.length_append, eight]
  have around : front ++ (p.encoding ++ rest) =
      (front ++ before) ++ (u32Bytes p.header.targetId ++ (behind ++ rest)) := by
    rw [encoded]
    simp only [List.append_assoc]
  have field : ((front ++ (p.encoding ++ rest)).drop (front.length + 8)).take 4 =
      u32Bytes p.header.targetId := by
    rw [around, position, List.drop_left, List.take_left' (length_u32Bytes _)]
  rw [SubPacket.stampFrom, if_pos fits]
  simp only [size, goes, if_false, field, u32Bytes_eq_zero]
  by_cases untargeted : p.header.targetId = 0
  · have left : (front ++ (p.encoding ++ rest)).take (front.length + 8) = front ++ before := by
      rw [around, position, List.take_left]
    have right : (front ++ (p.encoding ++ rest)).drop (front.length + 8 + 4) = behind ++ rest := by
      rw [around, position, ← List.drop_drop, List.drop_left, List.drop_left' (length_u32Bytes _)]
    have stamped : (p.retarget target).encoding = before ++ (u32Bytes target ++ behind) := by
      rw [SubPacket.retarget, if_pos untargeted, shape]
    rw [if_pos untargeted, if_pos untargeted, left, right, stamped]
    simp only [List.append_assoc]
  · rw [if_neg untargeted, if_neg untargeted, SubPacket.retarget, if_neg untargeted, Nat.add_zero]

theorem stampFrom_encodings (target : UInt32) (sized : ∀ p ∈ ps, p.Sized) (front : Bytes)
    (stops : Stops tail) {fuel : Nat} (enough : ps.length ≤ fuel) (stamped : Nat) :
    SubPacket.stampFrom target fuel front.length
        (front ++ (ps.flatMap SubPacket.encoding ++ tail)) stamped =
      (front ++ ((ps.map (SubPacket.retarget target)).flatMap SubPacket.encoding ++ tail),
        stamped + ps.countP fun p => p.header.targetId = 0) := by
  induction ps generalizing front fuel stamped with
  | nil =>
      rw [List.map_nil, List.flatMap_nil, List.nil_append]
      cases fuel with
      | zero => rfl
      | succ fuel =>
          rw [SubPacket.stampFrom, declaredSize_drop front tail]
          split
          · next fits =>
              have stop : declaredSize tail 0 < subpacketSize ∨
                  front.length + declaredSize tail 0 > (front ++ tail).length := by
                rw [List.length_append] at fits ⊢
                rcases stops with few | small | past
                · omega
                · exact .inl small
                · omega
              simp only [stop, if_true]
              rfl
          · rfl
  | cons p ps ih =>
      cases fuel with
      | zero => simp at enough
      | succ fuel =>
          have here := sized p (List.mem_cons_self ..)
          have same : (p.retarget target).encoding.length = p.encoding.length := by
            rw [SubPacket.retarget]
            split
            · exact p.setTargetId_length target
            · rfl
          have later := ih (fun q member => sized q (List.mem_cons_of_mem _ member))
            (front ++ (p.retarget target).encoding) (Nat.le_of_succ_le_succ enough)
            (stamped + if p.header.targetId = 0 then 1 else 0)
          rw [List.append_assoc, List.length_append, same] at later
          rw [List.flatMap_cons, List.append_assoc, stampFrom_encoding target here, later]
          simp only [List.map_cons, List.flatMap_cons, List.append_assoc, List.countP_cons,
            decide_eq_true_eq, Prod.mk.injEq, true_and]
          omega

end Walk

theorem SubPacket.Sized.retarget {p : SubPacket} (h : p.Sized) (target : UInt32) :
    (p.retarget target).Sized := by
  rw [SubPacket.retarget]
  split
  · exact h.setTargetId target
  · exact h

def reencode (ps : List SubPacket) : Outcome PacketError Bytes := do
  return (← ps.mapM SubPacket.toBytes).flatten

theorem reencode_sized (sized : ∀ p ∈ ps, p.Sized) :
    reencode ps = .ok (ps.flatMap SubPacket.encoding) := by
  have written := Outcome.mapM_ok fun p member => SubPacket.toBytes_sized (sized p member)
  rw [reencode, written, Outcome.ok_bind, Outcome.pure_eq_ok, List.flatMap_def]

/-- Counting says one for a stream without a whole subpacket, and the number of subpackets
otherwise; stamping is parsing, setting the zero target ids and encoding again. Both leave
the tail behind the parsed subpackets as it is. -/
theorem fast_paths_agree (now : UInt64) (target : UInt32) {ps : List SubPacket}
    (sized : ∀ p ∈ ps, p.Sized) {tail : Bytes} (stops : Stops tail) :
    parsedPrefix (ps.flatMap SubPacket.encoding ++ tail) = (ps, tail) ∧
    (basepacketSize + (ps.flatMap SubPacket.encoding ++ tail).length < 0x10000 →
      ∃ packet,
        BasePacket.fromBytes (wrapSubpacketsInBasepacket now
          (ps.flatMap SubPacket.encoding ++ tail)) = .ok packet ∧
        packet.data = ps.flatMap SubPacket.encoding ++ tail ∧
        packet.header.numSubpackets.toNat = max 1 ps.length ∧
        (tail = [] → packet.getSubpackets = .ok ps)) ∧
    ∃ rewritten,
      reencode (ps.map (SubPacket.retarget target)) = .ok rewritten ∧
      SubPacket.stampTargetIdIfZero (ps.flatMap SubPacket.encoding ++ tail) target =
        (rewritten ++ tail, ps.countP fun p => p.header.targetId = 0) := by
  have few := length_le_encodings ps tail
  refine ⟨parsedPrefix_encodings sized stops, fun fits => ?_, ?_⟩
  · have counted := countSubpackets_encodings sized [] stops few 0
    rw [List.nil_append, List.length_nil, UInt16.zero_add] at counted
    refine ⟨_, fromBytes_wrap now fits, rfl, ?_, ?_⟩
    · have number : (UInt16.ofNat ps.length).toNat = ps.length := by
        rw [UInt16.toNat_ofNat', Nat.mod_eq_of_lt (by omega)]
      simp only [wrapHeader, counted]
      by_cases none : ps.length = 0
      · rw [none]
        rfl
      · have some : UInt16.ofNat ps.length ≠ 0 := by
          intro zero
          rw [zero] at number
          exact none number.symm
        rw [if_neg some, number]
        omega
    · rintro rfl
      rw [List.append_nil]
      exact BasePacket.getSubpackets_encodings ps sized _
  · have retargeted : ∀ p ∈ ps.map (SubPacket.retarget target), p.Sized := by
      intro p member
      obtain ⟨q, inside, rfl⟩ := List.mem_map.mp member
      exact (sized q inside).retarget target
    refine ⟨_, reencode_sized retargeted, ?_⟩
    have stamped := stampFrom_encodings target sized [] stops few 0
    rw [List.nil_append, List.length_nil, List.nil_append, Nat.zero_add] at stamped
    exact stamped

def helloAndControl : List SubPacket :=
  [SubPacket.new 9 0x134 7 [1, 2, 3, 4],
    (SubPacket.newWithFlag 9 false 0x1000 8 [9]).setTargetId 5]

theorem helloAndControl_sized : ∀ p ∈ helloAndControl, p.Sized := by
  intro p member
  simp only [helloAndControl, List.mem_cons, List.not_mem_nil, or_false] at member
  rcases member with rfl | rfl
  · exact SubPacket.newWithFlag_sized (by decide) (by decide)
  · exact (SubPacket.newWithFlag_sized (by decide) (by decide)).setTargetId 5

theorem fast_paths_agree_helloAndControl :
    (∀ p ∈ helloAndControl, p.Sized) ∧ Stops [1, 2, 3] ∧
    ∃ rewritten,
      reencode (helloAndControl.map (SubPacket.retarget 42)) = .ok rewritten ∧
      SubPacket.stampTargetIdIfZero (helloAndControl.flatMap SubPacket.encoding ++ [1, 2, 3]) 42 =
        (rewritten ++ [1, 2, 3], 1) := by
  have stops : Stops [1, 2, 3] := by decide
  obtain ⟨_, _, rewritten, written, stamped⟩ :=
    fast_paths_agree 0 42 helloAndControl_sized stops
  exact ⟨helloAndControl_sized, stops, rewritten, written, stamped⟩

/-- The header of a frame without subpackets says that there is one. -/
theorem wrap_counts_one_for_none : ¬ ∀ (now : UInt64) (ps : List SubPacket),
    (∀ p ∈ ps, p.Sized) → basepacketSize + (ps.flatMap SubPacket.encoding).length < 0x10000 →
      ∃ packet,
        BasePacket.fromBytes (wrapSubpacketsInBasepacket now (ps.flatMap SubPacket.encoding)) =
          .ok packet ∧
        packet.getSubpackets = .ok ps ∧ packet.header.numSubpackets.toNat = ps.length := by
  intro claim
  obtain ⟨packet, parsed, _, number⟩ := claim 0 [] (by simp) (by decide)
  rw [List.flatMap_nil, fromBytes_wrap 0 (by decide)] at parsed
  cases parsed
  contradiction

end Garlemald.Common
