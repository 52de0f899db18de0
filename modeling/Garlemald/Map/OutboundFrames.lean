import Garlemald.Map.Outbound

/-!
Which entries of a queue the world server splits into what was built. A stream of subpackets that
have a target arrives whole if it fits a frame; what is wrapped before it is queued is not split at
all.
-/

namespace Garlemald.Map

open Library Common

theorem subpacketsFrom_length {data : Bytes} {fuel offset : ℕ} {ps : List SubPacket}
    (split : BasePacket.subpacketsFrom data fuel offset = .ok ps) (inside : offset ≤ data.length) :
    offset + (ps.flatMap SubPacket.encoding).length ≤ data.length := by
  induction fuel generalizing offset ps with
  | zero =>
      cases split
      exact inside
  | succ fuel ih =>
      rw [BasePacket.subpacketsFrom] at split
      by_cases more : offset < data.length
      · rw [if_pos more] at split
        obtain ⟨⟨sub, next⟩, parsed, rest⟩ := Outcome.bind_eq_ok.mp split
        obtain ⟨subs, later, done⟩ := Outcome.bind_eq_ok.mp rest
        cases done
        obtain ⟨_, behind, within⟩ := SubPacket.parse_ok parsed
        have tail := ih later within
        rw [List.flatMap_cons, List.length_append]
        omega
      · rw [if_neg more] at split
        cases split
        exact inside

theorem received_fits {written : UInt64} {bytes : Bytes} {ps : List SubPacket}
    (arrived : received written bytes = .ok ps) :
    basepacketSize + (ps.flatMap SubPacket.encoding).length < 0x10000 := by
  obtain ⟨packet, parsed, subs⟩ := Outcome.bind_eq_ok.mp arrived
  have held := subpacketsFrom_length subs (Nat.zero_le _)
  rw [BasePacket.fromBytes] at parsed
  split at parsed
  · cases parsed
  · obtain ⟨window, _, parsed⟩ := Outcome.bind_eq_ok.mp parsed
    obtain ⟨header, _, parsed⟩ := Outcome.bind_eq_ok.mp parsed
    split at parsed
    · cases parsed
    · obtain ⟨data, cut, parsed⟩ := Outcome.bind_eq_ok.mp parsed
      cases parsed
      obtain ⟨order, _, length⟩ := Outcome.slice_eq_ok cut
      have small := header.packetSize.toNat_lt
      dsimp only at held
      omega

theorem received_stream {ps : List SubPacket} (sized : ∀ p ∈ ps, p.Sized) (written : UInt64)
    (fits : basepacketSize + (ps.flatMap SubPacket.encoding).length < 0x10000) :
    received written (ps.flatMap SubPacket.encoding) = .ok ps := by
  rw [received, fromBytes_wrap written fits, Outcome.ok_bind]
  exact BasePacket.getSubpackets_encodings ps sized _

namespace Draft

variable (now : UInt32) (draft : Draft)

theorem length_build : (draft.build now).encoding.length = draft.size := by
  rw [SubPacket.length_encoding, size]
  have content : (draft.build now).data = draft.data := rfl
  rw [content]
  cases game : draft.isGameMessage with
  | true =>
      have type : (draft.build now).header.type = subpacketTypeGamemessage := by
        rw [build, game]
        rfl
      rw [if_pos type, if_pos rfl]
  | false =>
      have type : (draft.build now).header.type ≠ subpacketTypeGamemessage := by
        rw [build, game]
        exact draft.typed game
      rw [if_neg type]
      rfl

theorem sized_build (fits : draft.size < 0x10000) : (draft.build now).Sized := by
  apply SubPacket.newWithFlag_fits _ draft.typed
  have length := draft.length_build now
  rw [build] at length
  rw [length]
  exact fits

end Draft

namespace Call

variable (now : UInt32) (sent written : UInt64) (call : Call)

/-- What is queued is the encodings of what was built, arrives as that, and nothing is dropped for
want of a target. -/
def Whole : Prop :=
  call.queue now sent = .ok ((call.built now).flatMap SubPacket.encoding) ∧
    received written ((call.built now).flatMap SubPacket.encoding) = .ok (call.built now) ∧
    ∀ p ∈ call.built now, p.header.targetId ≠ 0

/-- An id is there for the target, and the subpackets fit one frame. -/
def Meets : Prop :=
  (match call.sender.form with
    | .targeted target => call.id target ≠ 0
    | .stamped => call.sessionId ≠ 0
    | .untargeted | .framed => False) ∧
  basepacketSize + (call.drafts.map Draft.size).sum < 0x10000

variable {call}

theorem length_built :
    ((call.built now).flatMap SubPacket.encoding).length = (call.drafts.map Draft.size).sum := by
  have each : ∀ (p : Draft → SubPacket) (ds : List Draft),
      (∀ draft, (p draft).encoding.length = (draft.build now).encoding.length) →
      ((ds.map p).flatMap SubPacket.encoding).length = (ds.map Draft.size).sum := by
    intro p ds same
    rw [List.length_flatMap, List.map_map]
    congr 1
    apply List.map_congr_left
    intro draft _
    exact (same draft).trans (draft.length_build now)
  rw [built]
  split
  · exact each _ _ fun draft => SubPacket.setTargetId_length _ _
  · apply each
    intro draft
    rw [SubPacket.retarget]
    split
    · exact SubPacket.setTargetId_length _ _
    · rfl
  · exact each _ _ fun draft => rfl
  · exact each _ _ fun draft => rfl

theorem sized_drafts {bound : ℕ} (fits : bound + (call.drafts.map Draft.size).sum < 0x10000) :
    ∀ draft ∈ call.drafts, (draft.build now).Sized := by
  intro draft member
  apply draft.sized_build
  obtain ⟨front, back, shape⟩ := List.append_of_mem member
  rw [shape, List.map_append, List.map_cons, List.sum_append, List.sum_cons] at fits
  omega

theorem queue_fits {bound : ℕ} (fits : bound + (call.drafts.map Draft.size).sum < 0x10000)
    (streams : call.sender.form ≠ .framed) :
    call.queue now sent = .ok ((call.built now).flatMap SubPacket.encoding) ∧
      ∀ p ∈ call.built now, p.Sized := by
  have sized := sized_drafts now fits
  have plain : ∀ p ∈ call.drafts.map (Draft.build now), p.Sized := by
    intro p member
    obtain ⟨draft, listed, rfl⟩ := List.mem_map.mp member
    exact sized draft listed
  rw [queue, built]
  cases form : call.sender.form with
  | targeted target =>
      dsimp only
      have all : ∀ p ∈ call.drafts.map fun draft =>
          (draft.build now).setTargetId (call.id target), p.Sized := by
        intro p member
        obtain ⟨draft, listed, rfl⟩ := List.mem_map.mp member
        exact (sized draft listed).setTargetId _
      exact ⟨reencode_sized all, all⟩
  | untargeted => exact ⟨reencode_sized plain, plain⟩
  | stamped =>
      dsimp only
      have all : ∀ p ∈ call.drafts.map fun draft =>
          (draft.build now).retarget call.sessionId, p.Sized := by
        intro p member
        obtain ⟨draft, listed, rfl⟩ := List.mem_map.mp member
        exact (sized draft listed).retarget _
      refine ⟨?_, all⟩
      have empty : Stops [] := by decide
      have stamps := stampFrom_encodings call.sessionId plain [] empty
        (length_le_encodings (call.drafts.map (Draft.build now)) []) 0
      simp only [List.nil_append, List.append_nil, List.length_nil, List.map_map] at stamps
      rw [reencode_sized plain, Outcome.ok_bind, SubPacket.stampTargetIdIfZero, stamps]
      rfl
  | framed => exact absurd form streams

theorem targets_built : (∀ p ∈ call.built now, p.header.targetId ≠ 0) ↔
    match call.sender.form with
    | .targeted target => call.id target ≠ 0
    | .stamped => call.sessionId ≠ 0
    | .untargeted | .framed => False := by
  obtain ⟨first, member⟩ := List.exists_mem_of_ne_nil _ call.filled
  rw [built]
  cases form : call.sender.form with
  | targeted target =>
      dsimp only
      constructor
      · intro held
        exact held _ (List.mem_map_of_mem member)
      · intro known p listed
        obtain ⟨draft, _, rfl⟩ := List.mem_map.mp listed
        exact known
  | stamped =>
      dsimp only
      constructor
      · intro held
        exact held _ (List.mem_map_of_mem member)
      · intro known p listed
        obtain ⟨draft, _, rfl⟩ := List.mem_map.mp listed
        exact known
  | untargeted =>
      exact iff_of_false (fun held => held _ (List.mem_map_of_mem member) rfl) not_false
  | framed =>
      exact iff_of_false (fun held => held _ (List.mem_map_of_mem member) rfl) not_false

theorem whole_iff : call.Whole now sent written ↔ call.Meets := by
  rw [Whole, Meets, targets_built, ← length_built now]
  constructor
  · intro held
    obtain ⟨_, arrived, targets⟩ := held
    exact ⟨targets, received_fits arrived⟩
  · intro held
    obtain ⟨targets, fits⟩ := held
    have streams : call.sender.form ≠ .framed := by
      intro framed
      rw [framed] at targets
      exact targets
    have small := fits
    rw [length_built] at small
    obtain ⟨queued, sized⟩ := queue_fits now sent small streams
    exact ⟨queued, received_stream sized written fits, targets⟩

end Call

namespace Operation

variable (now : UInt32) (sent written : UInt64) (w : Clients)

def Whole (op : Operation) : Prop := ∀ call ∈ op.calls w, call.Whole now sent written

/-- A function that wraps its packet must find no client to send it to; any other needs a target
for its packet, and a frame that the packet fits. -/
def Meets : Operation → Prop
  | startDream playerId _ | endDream playerId | logout playerId | quitGame playerId =>
      ∀ handle, w.registry playerId = some handle →
        handle.sessionId = 0 ∨ w.client handle.sessionId = false
  | issueChocobo playerId _ | setChocoboName playerId _ =>
      ∀ handle, w.registry playerId = some handle → w.client handle.sessionId = false
  | grandCompany handle => w.client handle.sessionId = false
  | other call => call.Meets

variable {now sent written w}

theorem whole_send_iff {sender : Sender} (framed : sender.form = .framed) (handle : PlayerHandle)
    (draft : Draft) :
    (∀ call ∈ w.send sender handle draft, call.Whole now sent written) ↔
      w.client handle.sessionId = false := by
  rw [Clients.send]
  cases there : w.client handle.sessionId with
  | false => simp
  | true =>
      refine iff_of_false (fun held => ?_) (by simp)
      have meets := (Call.whole_iff now sent written).mp (held _ List.mem_cons_self)
      rw [Call.Meets, framed] at meets
      exact meets.1

theorem whole_withSession_iff {sender : Sender} (framed : sender.form = .framed)
    (playerId : UInt32) (draft : PlayerHandle → Draft) :
    (∀ call ∈ w.withSession playerId fun handle => w.send sender handle (draft handle),
        call.Whole now sent written) ↔
      ∀ handle, w.registry playerId = some handle →
        handle.sessionId = 0 ∨ w.client handle.sessionId = false := by
  rw [Clients.withSession]
  cases found : w.registry playerId with
  | none => simp
  | some handle =>
      simp only [Option.some.injEq, forall_eq']
      by_cases unbound : handle.sessionId = 0
      · simp [unbound]
      · rw [if_neg unbound, whole_send_iff framed, or_iff_right unbound]

/-- Everything that an operation queues arrives whole, in exactly these cases. -/
theorem queued_whole_iff (op : Operation) : op.Whole now sent written w ↔ op.Meets w := by
  rw [Whole]
  cases op with
  | startDream playerId dreamId => exact whole_withSession_iff rfl playerId _
  | endDream playerId => exact whole_withSession_iff rfl playerId _
  | logout playerId => exact whole_withSession_iff rfl playerId _
  | quitGame playerId => exact whole_withSession_iff rfl playerId _
  | issueChocobo playerId name =>
      rw [calls, Clients.applyIssueChocobo, Meets]
      cases found : w.registry playerId with
      | none => simp
      | some handle =>
          simp only [Option.some.injEq, forall_eq', List.mem_append, or_imp, forall_and]
          rw [whole_send_iff rfl, whole_send_iff rfl, and_self]
  | setChocoboName playerId name =>
      rw [calls, Clients.applySetChocoboName, Meets]
      cases found : w.registry playerId with
      | none => simp
      | some handle =>
          simp only [Option.some.injEq, forall_eq']
          exact whole_send_iff rfl handle _
  | grandCompany handle => exact whole_send_iff rfl handle _
  | other call =>
      rw [calls, List.forall_mem_singleton]
      exact Call.whole_iff now sent written

def leaving : Clients where
  registry playerId := if playerId = 5 then some ⟨5, 5, 0, 0, 0, 0, 0⟩ else none
  client sessionId := sessionId == 5

/-- The world server reads the flags of the frame as the size of a subpacket. -/
theorem logout_lost : ∃ call, (logout 5).calls leaving = [call] ∧
    (do received 0 (← call.queue 0 0)) = .err (.sizeMismatch 1 40) ∧
    ¬ (logout 5).Whole 0 0 0 leaving := by
  have sends : (logout 5).calls leaving = [⟨.applyLogout, 5, 5, [buildLogout 5], by simp⟩] := rfl
  refine ⟨_, sends, by decide, fun whole => ?_⟩
  rw [Whole, sends, List.forall_mem_singleton] at whole
  exact ((Call.whole_iff 0 0 0).mp whole).1

end Operation

end Garlemald.Map
