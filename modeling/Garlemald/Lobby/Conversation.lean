import Garlemald.Common.Container
import Garlemald.Common.Encryption
import Garlemald.Common.ReadLoop
import Garlemald.Lobby.Authorisation

/-!
A connection of the lobby as its socket has it: bytes arrive in reads of any length, and
each packet is processed and answered before the next is looked for. What a client is told
and what its packets write depend on its bytes alone, and are those of a run of the
connection on what the packets say.
-/

namespace Garlemald.Lobby
open Library Garlemald.Common

/-- A connection with how many packets were processed, the replies that were sent and what
the packets said. -/
structure Served where
  connection : Connection
  packets : Nat := 0
  sent : List Reply := []
  heard : List Input := []

/-- For each packet the time, what others have done to the database before it, and which of its
replies can be sent. -/
structure Course where
  processor : PacketProcessor
  clock : Nat → Nat
  drift : Nat → Database → Database
  sends : Nat → Reply → Bool

namespace Served

variable (v : Course)

/-- A reply that cannot be sent ends the connection. -/
def take (s : Served) (packet : BasePacket) : Served :=
  let c := { s.connection with db := v.drift s.packets s.connection.db }
  let handled := v.processor.process (v.clock s.packets) c.session c.db packet
  let replies := handled.replies.getD []
  let lost := if replies.all (v.sends s.packets) then [] else [.unreadable]
  ⟨lost.foldl (Connection.after v.processor) (.ofHandled handled), s.packets + 1,
    s.sent ++ replies.takeWhile (v.sends s.packets),
    s.heard ++ .elsewhere c.db :: c.inputs v.processor (v.clock s.packets) packet ++ lost⟩

def closed (s : Served) : Bool := s.connection.closed

/-- The packets in the buffer from `offset` on. Without an offset to go on from, the task of
the connection is over: an error was returned, or the parser has panicked. -/
def takeFrom (buffer : Bytes) : Nat → Nat → Served → Served × Option Nat
  | 0, offset, s => (s, some offset)
  | fuel + 1, offset, s =>
      match BasePacket.tryFromBuffer buffer offset buffer.length with
      | .ok none => (s, some offset)
      | .ok (some (packet, next)) =>
          let s := s.take v packet
          if s.closed then (s, none) else takeFrom buffer fuel next s
      | _ => (s, none)

/-- What waits in the buffer is shorter than it, as a declared size is; it is never full. -/
def handleConnection (pending : Bytes) (s : Served) : List Bytes → Served
  | [] => s
  | read :: reads =>
      if read = [] then s
      else
        let buffer := pending ++ read
        match takeFrom v buffer (buffer.length + 1) 0 s with
        | (s, none) => s
        | (s, some offset) => handleConnection (buffer.drop offset) s reads

theorem takeFrom_eq_serveFuel (fuel : Nat) (front bytes : Bytes) (s : Served) :
    (takeFrom v (front ++ bytes) fuel front.length s).map id
        (Option.map ((front ++ bytes).drop ·)) =
      BasePacket.decoder.serveFuel (take v) closed fuel bytes s := by
  induction fuel generalizing front bytes s with
  | zero => simp [takeFrom, Decoder.serveFuel]
  | succ fuel ih =>
      rw [takeFrom, Decoder.serveFuel, BasePacket.tryFromBuffer_shift]
      cases found : BasePacket.decoder bytes with
      | err e => rfl
      | panic => rfl
      | ok frame =>
          cases frame with
          | none => simp
          | some frame =>
              obtain ⟨packet, used⟩ := frame
              obtain ⟨_, inside⟩ := BasePacket.decoder_stable.progress found
              have later := ih (front ++ bytes.take used) (bytes.drop used)
                (s.take v packet)
              rw [List.append_assoc, List.take_append_drop, List.length_append,
                List.length_take_of_le inside] at later
              simp only [Outcome.ok_bind, Outcome.pure_eq_ok]
              by_cases past : (s.take v packet).closed = true
              · rw [if_pos past, if_pos past]
                rfl
              · rw [if_neg past, if_neg past, later]

theorem handleConnection_eq_converse (pending : Bytes) (s : Served) {reads : List Bytes}
    (live : ∀ read ∈ reads, read ≠ []) :
    handleConnection v pending s reads =
      (BasePacket.decoder.converse (take v) closed pending s reads).1 := by
  induction reads generalizing pending s with
  | nil => rfl
  | cons read reads ih =>
      have here := live read (List.mem_cons_self ..)
      have served := takeFrom_eq_serveFuel v ((pending ++ read).length + 1) []
        (pending ++ read) s
      simp only [List.nil_append, List.length_nil] at served
      rw [handleConnection, if_neg here, Decoder.converse, Decoder.serve, ← served]
      cases turn : takeFrom v (pending ++ read)
        ((pending ++ read).length + 1) 0 s with
      | mk t left =>
          simp only [turn]
          cases left with
          | none => rfl
          | some offset => exact ih _ t fun r member => live r (List.mem_cons_of_mem _ member)

/-- However the bytes of a client are cut into reads, the lobby processes the same packets,
sends the same replies and leaves the same session and database, also where a packet ends
the connection. -/
theorem handleConnection_cut (c : Connection) {reads reads' : List Bytes}
    (live : ∀ read ∈ reads, read ≠ []) (live' : ∀ read ∈ reads', read ≠ [])
    (same : reads.flatten = reads'.flatten) :
    handleConnection v [] { connection := c } reads =
      handleConnection v [] { connection := c } reads' := by
  have waits : BasePacket.decoder.serve (take v) closed [] { connection := c } =
      ({ connection := c }, some []) := rfl
  have whole := BasePacket.decoder_stable.converse_eq_serve (take v) closed waits
  rw [handleConnection_eq_converse v [] _ live,
    handleConnection_eq_converse v [] _ live', whole reads, whole reads', same]

theorem handleConnection_cut_pings :
    let ping := (BasePacket.ping 0).encoding
    let v : Course := ⟨Connection.plain, fun _ => 0, fun _ => id, fun _ _ => true⟩
    let heard := handleConnection v [] { connection := { db := Connection.emptyDatabase } }
    heard [ping ++ ping.take 5, ping.drop 5] = heard [ping ++ ping] :=
  handleConnection_cut _ _ (by decide) (by decide) (by decide)

def Follows (start : Connection) (s : Served) : Prop :=
  run (Connection.step v.processor) start s.heard = some s.connection

theorem follows_take {start : Connection} {s : Served} (going : s.closed = false)
    (follows : s.Follows v start) (packet : BasePacket) :
    (s.take v packet).Follows v start := by
  rw [Follows, run] at follows
  have processed := Connection.process_run v.processor (v.clock s.packets)
    (c := { s.connection with db := v.drift s.packets s.connection.db }) going packet
  rw [run] at processed
  rw [Follows, take, run, List.append_assoc, List.foldlM_append, follows, Option.bind_eq_bind,
    Option.bind_some, List.cons_append, List.foldlM_cons]
  refine (List.foldlM_append (m := Option)).trans ?_
  refine (congrArg (Option.bind · _) processed).trans ?_
  split <;> rfl

theorem follows_takeFrom {start : Connection} (buffer : Bytes) (fuel offset : Nat) {s : Served}
    (going : s.closed = false) (follows : s.Follows v start) :
    (takeFrom v buffer fuel offset s).1.Follows v start ∧
      ((takeFrom v buffer fuel offset s).2.isSome →
        (takeFrom v buffer fuel offset s).1.closed = false) := by
  induction fuel generalizing offset s with
  | zero => exact ⟨follows, fun _ => going⟩
  | succ fuel ih =>
      rw [takeFrom]
      match BasePacket.tryFromBuffer buffer offset buffer.length with
      | .err e | .panic => exact ⟨follows, fun impossible => nomatch impossible⟩
      | .ok none => exact ⟨follows, fun _ => going⟩
      | .ok (some (packet, next)) =>
          have taken := follows_take v going follows packet
          simp only
          by_cases past : (s.take v packet).closed = true
          · rw [if_pos past]
            exact ⟨taken, fun impossible => nomatch impossible⟩
          · rw [if_neg past]
            exact ih next (Bool.not_eq_true _ ▸ past) taken

/-- Whatever bytes arrive in whatever reads, the socket's loop takes its connection through
a run on what the packets say; what holds over all runs holds of every client. -/
theorem handleConnection_follows (pending : Bytes) (db : Database) (reads : List Bytes) :
    (handleConnection v pending { connection := { db } } reads).Follows v { db } := by
  have general (s : Served) (going : s.closed = false) (follows : s.Follows v { db }) :
      (handleConnection v pending s reads).Follows v { db } := by
    induction reads generalizing pending s with
    | nil => exact follows
    | cons read reads ih =>
        rw [handleConnection]
        by_cases done : read = []
        · rw [if_pos done]
          exact follows
        · have taken := follows_takeFrom v (pending ++ read)
            ((pending ++ read).length + 1) 0 going follows
          rw [if_neg done]
          cases turn : takeFrom v (pending ++ read)
            ((pending ++ read).length + 1) 0 s with
          | mk t left =>
              rw [turn] at taken
              simp only [turn]
              cases left with
              | none => exact taken.1
              | some offset => exact ih _ t (taken.2 rfl) taken.1
  exact general _ rfl rfl

end Served

/-! ### Replies on their way to the client -/

section Delivery

variable (m : Machine) (bf : Blowfish)

def written (packet : BasePacket) : Outcome CipherError Bytes :=
  match packet.toBytes with
  | .ok bytes => .ok bytes
  | .err e => .err (.packet e)
  | .panic => .panic

/-- A reply of subpackets goes out as one frame, encrypted if there is a key. -/
def sendReply (now : UInt64) (blowfish : Option Blowfish) (subs : List SubPacket) :
    Option (Outcome CipherError Bytes) :=
  match BasePacket.createFromSubpackets (fun _ => none) now subs true false with
  | .err e => some (.err (.packet e))
  | .panic => some .panic
  | .ok packet =>
      match blowfish with
      | none => some (written packet)
      | some bf => (packet.encrypt m bf).map fun (result, packet) => do result; written packet

/-- What a client with the key reads in a frame. -/
def opened (packet : BasePacket) : Option (Outcome CipherError (List SubPacket)) :=
  (packet.decrypt m bf).map fun (result, packet) => do
    result
    match packet.getSubpackets with
    | .ok subs => .ok subs
    | .err e => .err (.packet e)
    | .panic => .panic

/-- Subpackets of whole blocks that fit a frame. -/
def Deliverable (subs : List SubPacket) : Prop :=
  (∀ p ∈ subs, p.Sendable ∧ 8 ∣ p.encoding.length) ∧
    basepacketSize + (subs.flatMap SubPacket.encoding).length < 0x10000

/-- The frame that is sent for a reply, and what a client makes of it. -/
structure Arrives (reply : UInt64 × List SubPacket) (packet : BasePacket) : Prop where
  sent : sendReply m reply.1 (some bf) reply.2 = some (.ok packet.encoding)
  opens : opened m bf packet = some (.ok reply.2)

/-- The flags of a header, read as a size, ask for no more than the packet. -/
def Prompt (packet : BasePacket) : Prop :=
  packet.header.isAuthenticated.toNat + 256 * packet.header.isCompressed.toNat ≤
    packet.encoding.length

theorem subpacketSize_le (p : SubPacket) : subpacketSize ≤ p.encoding.length := by
  rw [p.length_encoding]
  omega

theorem declared_front {p : SubPacket} (sized : p.Sized) :
    (u16Value ((p.encoding.take subpacketSize).take 2)).toNat =
      subpacketSize + (p.encoding.drop subpacketSize).length := by
  have front : (p.encoding.take subpacketSize).take 2 = u16Bytes p.header.size := by
    rw [List.take_take, SubPacket.encoding, SubPacketHeader.write]
    split <;> rfl
  have long := subpacketSize_le p
  rw [front, u16Value_u16Bytes, sized.size_eq, List.length_drop]
  omega

def frameOf (p : SubPacket) (sized : p.Sized) : Frame where
  header := p.encoding.take subpacketSize
  body := p.encoding.drop subpacketSize
  header_length := List.length_take_of_le (subpacketSize_le p)
  declared := declared_front sized

theorem framesData_frameOf {subs : List SubPacket} (sized : ∀ p ∈ subs, p.Sized) :
    framesData (subs.pmap frameOf sized) = subs.flatMap SubPacket.encoding := by
  induction subs with
  | nil => rfl
  | cons p subs ih =>
      rw [List.pmap_cons, framesData_cons, ih, List.flatMap_cons, ← List.append_assoc]
      exact congrArg (· ++ _) (List.take_append_drop ..)

/-- A reply whose bodies are whole blocks is sent, and read by a client with the same key. -/
theorem sendReply_opened (now : UInt64) {subs : List SubPacket} (h : Deliverable subs) :
    ∃ packet : BasePacket, packet.Sized ∧ Prompt packet ∧ Arrives m bf (now, subs) packet := by
  obtain ⟨each, fits⟩ := h
  have sized := BasePacket.sendable_sized (fun p member => (each p member).1) fits
  have built := BasePacket.createFromSubpackets_sized (fun _ => none) now sized true false rfl
  have size := BasePacket.container_sized now subs true false fits
  have wide := m.wide
  let w : WellFormedPacket m :=
    { packet := ⟨BasePacket.containerHeader now subs true false
        (subs.flatMap SubPacket.encoding), subs.flatMap SubPacket.encoding⟩
      frames := subs.pmap frameOf sized
      split := (framesData_frameOf sized).symm
      held := by simp only at fits ⊢; omega }
  have whole : cryptResult w.frames = .ok () := by
    refine (cryptResult_eq_ok _).mpr fun f member => ?_
    obtain ⟨p, here, rfl⟩ := List.mem_pmap.mp member
    have blocks := (each p here).2
    change (p.encoding.drop subpacketSize).length % 8 = 0
    rw [List.length_drop, subpacketSize]
    omega
  obtain ⟨_, length, _⟩ := w.untouched bf.encipherBlock
  have sizedAfter : (w.crypted bf.encipherBlock).packet.Sized := by
    rw [BasePacket.Sized, length]
    exact size
  refine ⟨_, sizedAfter, ?_, ?_, ?_⟩
  · have flags : (1 : UInt8).toNat + 256 * (0 : UInt8).toNat ≤ basepacketSize := by decide
    rw [Prompt, BasePacket.length_encoding]
    exact Nat.le_add_right_of_le flags
  · have sent := w.crypt_eq bf.encipherBlock
    rw [whole] at sent
    rw [sendReply, built]
    simp only
    rw [BasePacket.encrypt, sent]
    simp only [Option.map_some, Outcome.ok_bind, written, BasePacket.toBytes_sized sizedAfter]
  · have back := (w.crypted bf.encipherBlock).crypt_eq bf.decipherBlock
    rw [w.crypted_inverse bf.decipherBlock_encipherBlock] at back
    have still : cryptResult (w.crypted bf.encipherBlock).frames = .ok () :=
      (cryptResult_cryptFrames _ _).trans whole
    rw [opened, BasePacket.decrypt, back, still]
    simp only [Option.map_some, Outcome.ok_bind, w,
      BasePacket.getSubpackets_encodings subs sized]

/-- The replies to a client, encrypted and cut into reads anywhere: after every read it has
exactly the frames that are whole by then, and each opens to the subpackets of its reply. -/
theorem replies_arrive (replies : List (UInt64 × { subs : List SubPacket // Deliverable subs })) :
    ∃ sent : List BasePacket, List.Forall₂ (Arrives m bf) (replies.map (·.map id (·.1))) sent ∧
      ∀ reads : List Bytes, (∀ read ∈ reads, read ≠ []) →
        reads.flatten = sent.flatMap BasePacket.encoding →
          BasePacket.YieldsPromptly sent reads := by
  have frames : ∃ sent : List BasePacket,
      List.Forall₂ (Arrives m bf) (replies.map (·.map id (·.1))) sent ∧
      ∀ packet ∈ sent, packet.Sized ∧ Prompt packet := by
    induction replies with
    | nil => exact ⟨[], .nil, fun _ member => nomatch member⟩
    | cons r replies ih =>
        obtain ⟨packet, sized, small, arrives⟩ := sendReply_opened m bf r.1 r.2.2
        obtain ⟨sent, all, fine⟩ := ih
        exact ⟨packet :: sent, .cons arrives all,
          List.forall_mem_cons.mpr ⟨⟨sized, small⟩, fine⟩⟩
  obtain ⟨sent, all, fine⟩ := frames
  refine ⟨sent, all, fun reads live cut front pre => ?_⟩
  have alive (read : Bytes) (member : read ∈ front) := live read (pre.subset member)
  have arrived : front.flatten <+: sent.flatMap BasePacket.encoding := by
    obtain ⟨later, rfl⟩ := pre
    rw [← cut, List.flatten_append]
    exact List.prefix_append ..
  rw [BasePacket.readLoop_eq_feed [] alive]
  exact (BasePacket.decoder_stable.feed_exact_iff rfl
    (fun p member => BasePacket.decoder_yields (fine p member).1) arrived).mpr
      (BasePacket.prompt_of_flags_le (fun p member => (fine p member).2) _)

end Delivery
end Garlemald.Lobby
