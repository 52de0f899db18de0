import Garlemald.Library.Runs
import Garlemald.World.Sessions

/-!
What the frames of one client connection can do to the sessions of others. A
hello changes the entry it takes over and nothing else, and pings and game
messages change no entry at all; but a client's subpacket with the type of a
control packet is handed to the handler of map-server control packets.
-/

namespace Garlemald.World
open Library Garlemald.Common

namespace Server

variable {δ : Type} (db : Database δ) (inflate : Bytes → Option Bytes) (now : UInt32)

/-- The subpackets of a frame that are handed to a handler: all up to the first error. -/
def dispatched (client : ClientHandle) (packet : BasePacket) :
    List SubPacket → Server δ → List SubPacket
  | [], _ => []
  | sub :: subs, w =>
      match handleSubPacket db now client packet sub w with
      | (w, true) => sub :: dispatched client packet subs w
      | (_, false) => [sub]

/-- The inflated packet of a frame and its subpackets. -/
def opened (packet : BasePacket) : Option (BasePacket × List SubPacket) :=
  match packet.inflated inflate with
  | .ok packet =>
      match packet.getSubpackets with
      | .ok subs => some (packet, subs)
      | _ => none
  | _ => none

theorem processPacket_opened (client : ClientHandle) (packet : BasePacket) (w : Server δ) :
    processPacket db inflate now client packet w =
      match opened inflate packet with
      | some (packet, subs) => handleSubPackets db now client packet subs w
      | none => (w, false) := by
  rw [processPacket, opened]
  cases packet.inflated inflate with
  | err e => rfl
  | panic => rfl
  | ok packet =>
      dsimp only
      cases packet.getSubpackets with
      | ok subs => rfl
      | err e => rfl
      | panic => rfl

def HelloFor (packet : BasePacket) (channel : SessionChannel) (id : UInt32) : Prop :=
  ∃ p subs, opened inflate packet = some (p, subs) ∧ (∃ sub ∈ subs, sub.header.type = 0x01) ∧
    HelloPacket.parse p.data = some ⟨id⟩ ∧ helloChannel p.header.connectionType = channel

/-- Processing the frame leaves the sessions of other connections alone, but for those a
hello takes over: their entries, with their routing, and the pending ends of their ids.
And it hands no subpacket to the handler of control packets. -/
structure Confined (client : ClientHandle) (w : Server δ) (packet : BasePacket) : Prop where
  entry : ∀ channel id session, w.sessions.get channel id = some session →
    session.client.connSeq ≠ client.connSeq → ¬ HelloFor inflate packet channel id →
      (processPacket db inflate now client packet w).1.sessions.get channel id = some session
  pendingEnd : ∀ channel id session, w.sessions.get channel id = some session →
    session.client.connSeq ≠ client.connSeq → ¬ HelloFor inflate packet .zone id →
      (processPacket db inflate now client packet w).1.sessions.pendingSessionEnds id =
        w.sessions.pendingSessionEnds id
  noControl : ∀ p subs, opened inflate packet = some (p, subs) →
    ∀ sub ∈ dispatched db now client p subs w, isWorldPacket sub = false

/-- The frame has no subpacket of a control type, up to a hello that is too short. -/
def ControlFree (packet : BasePacket) : Prop :=
  ∀ p subs, opened inflate packet = some (p, subs) →
    ∀ sub ∈ subs.takeWhile fun sub =>
        ¬ (sub.header.type = 0x01 ∧ HelloPacket.parse p.data = none),
      isWorldPacket sub = false

/-! ### Frames without control packets -/

theorem sessions_foldl {α : Type} {f : Server δ → α → Server δ}
    (kept : ∀ w a, (f w a).sessions = w.sessions) (l : List α) (w : Server δ) :
    (l.foldl f w).sessions = w.sessions := by
  induction l generalizing w with
  | nil => rfl
  | cons a l ih => rw [List.foldl_cons, ih, kept]

theorem sessions_fanOutPartyChat (target : UInt32) (senderName message : Text) (w : Server δ)
    (member : UInt32) :
    (fanOutPartyChat now target senderName message w member).sessions = w.sessions := by
  rw [fanOutPartyChat]
  split
  · rfl
  · split
    · rfl
    · rfl

theorem sessions_sendMotd (target : UInt32) (connSeq : UInt64) (w : Server δ) :
    (sendMotd now target connSeq w).sessions = w.sessions := by
  rw [sendMotd]
  rw [sendClient_sessions]
  exact sessions_foldl (fun w line => sendClient_sessions w connSeq
    (buildSendMessage now target target messageTypeGeneralInfo [] line)) ..

theorem sessions_forwardToZone (sub : SubPacket) (state : SessionState) (w : Server δ) :
    (forwardToZone sub state w).sessions = w.sessions := by
  rw [forwardToZone]
  cases state.routing1 with
  | none => cases state.routing2 <;> rfl
  | some zone => cases state.routing2 <;> rfl

theorem sessions_handleGameMessage (sub : SubPacket) (w : Server δ) :
    (handleGameMessage now sub w).sessions = w.sessions := by
  simp only [handleGameMessage]
  split
  · rfl
  · split
    · exact sessions_foldl (sessions_fanOutPartyChat now _ _ _) ..
    · rw [sessions_forwardToZone]
      split
      · exact sessions_sendMotd ..
      · rfl

theorem sessions_handleSubPacket (client : ClientHandle) (packet : BasePacket) {sub : SubPacket}
    (w : Server δ) (plain : isWorldPacket sub = false) (notHello : sub.header.type ≠ 0x01) :
    (handleSubPacket db now client packet sub w).1.sessions = w.sessions := by
  simp only [handleSubPacket, notHello, plain, if_false]
  split
  · exact sendClient_sessions ..
  · split
    · rfl
    · split
      · exact sessions_handleGameMessage ..
      · rfl

def Starts (packet : BasePacket) (sub : SubPacket) (channel : SessionChannel) (id : UInt32) :
    Prop :=
  sub.header.type = 0x01 ∧ HelloPacket.parse packet.data = some ⟨id⟩ ∧
    helloChannel packet.header.connectionType = channel

/-- What a client's subpackets leave: entries kept under their ids, and every entry and
pending end that none of the subpackets starts a session for. -/
structure Spares (packet : BasePacket) (subs : List SubPacket) (w w' : Server δ) : Prop where
  keyed : w'.sessions.Keyed
  entry : ∀ channel id, (∀ sub ∈ subs, ¬ Starts packet sub channel id) →
    w'.sessions.get channel id = w.sessions.get channel id
  pendingEnd : ∀ id, (∀ sub ∈ subs, ¬ Starts packet sub .zone id) →
    w'.sessions.pendingSessionEnds id = w.sessions.pendingSessionEnds id

theorem Spares.of_sessions_eq {packet : BasePacket} {subs : List SubPacket} {w w' : Server δ}
    (keyed : w.sessions.Keyed) (same : w'.sessions = w.sessions) : Spares packet subs w w' where
  keyed := by rwa [same]
  entry := fun channel id _ => by rw [same]
  pendingEnd := fun id _ => by rw [same]

theorem handleSubPacket_spares (client : ClientHandle) (packet : BasePacket) (sub : SubPacket)
    {w : Server δ} (keyed : w.sessions.Keyed) (plain : isWorldPacket sub = false) :
    Spares packet [sub] w (handleSubPacket db now client packet sub w).1 := by
  by_cases hello : sub.header.type = 0x01
  · simp only [handleSubPacket, hello, if_true, handleHello]
    cases parsed : HelloPacket.parse packet.data with
    | none => exact Spares.of_sessions_eq keyed rfl
    | some p =>
        obtain ⟨kept, entries, pending⟩ := startSession_spares now
          (w := { w with db := (db.loadZoneSessionInfo p.sessionId w.db).2 }) keyed
          (helloChannel packet.header.connectionType) p.sessionId client
          ((db.loadZoneSessionInfo p.sessionId w.db).1.getD none)
        refine ⟨kept, fun channel id apart => ?_, fun id apart => ?_⟩
        · apply entries
          intro held
          obtain ⟨rfl, rfl⟩ := held
          exact apart sub (List.mem_singleton.mpr rfl) ⟨hello, parsed, rfl⟩
        · apply pending
          intro held
          obtain ⟨zone, rfl⟩ := held
          exact apart sub (List.mem_singleton.mpr rfl) ⟨hello, parsed, zone⟩
  · exact Spares.of_sessions_eq keyed (sessions_handleSubPacket db now client packet w plain hello)

theorem handleSubPacket_ok (client : ClientHandle) (packet : BasePacket) {sub : SubPacket}
    (w : Server δ) (plain : isWorldPacket sub = false) :
    (handleSubPacket db now client packet sub w).2 =
      decide (¬ (sub.header.type = 0x01 ∧ HelloPacket.parse packet.data = none)) := by
  by_cases hello : sub.header.type = 0x01
  · simp only [handleSubPacket, hello, if_true, handleHello]
    cases HelloPacket.parse packet.data with
    | none => rfl
    | some p => rfl
  · simp only [handleSubPacket, hello, plain, if_false]
    split
    · rfl
    · split
      · rfl
      · split
        · rfl
        · rfl

theorem dispatched_plain_iff (client : ClientHandle) (packet : BasePacket)
    (subs : List SubPacket) (w : Server δ) :
    (∀ sub ∈ dispatched db now client packet subs w, isWorldPacket sub = false) ↔
      ∀ sub ∈ subs.takeWhile fun sub =>
        ¬ (sub.header.type = 0x01 ∧ HelloPacket.parse packet.data = none),
          isWorldPacket sub = false := by
  induction subs generalizing w with
  | nil => simp [dispatched]
  | cons sub subs ih =>
      by_cases control : isWorldPacket sub = true
      · have goesOn : ¬ (sub.header.type = 0x01 ∧ HelloPacket.parse packet.data = none) := by
          intro held
          obtain ⟨hello, -⟩ := held
          simp [isWorldPacket, hello] at control
        have seen : sub ∈ dispatched db now client packet (sub :: subs) w := by
          rw [dispatched]
          split
          · exact List.mem_cons_self ..
          · exact List.mem_cons_self ..
        constructor
        · intro h
          rw [h sub seen] at control
          contradiction
        · intro h
          simp only [List.takeWhile_cons, decide_eq_true goesOn, if_true] at h
          rw [h sub (List.mem_cons_self ..)] at control
          contradiction
      · have plain : isWorldPacket sub = false := Bool.eq_false_iff.mpr control
        have ends := handleSubPacket_ok db now client packet w plain
        cases result : handleSubPacket db now client packet sub w with
        | mk w' ok =>
            rw [result] at ends
            cases ok with
            | true => simp only [dispatched, result, List.takeWhile_cons, ← ends, List.mem_cons,
                forall_eq_or_imp, plain, ih, true_and, if_true]
            | false => simp only [dispatched, result, List.takeWhile_cons, ← ends, List.mem_cons,
                forall_eq_or_imp, plain, true_and, List.not_mem_nil, false_implies, implies_true,
                Bool.false_eq_true, if_false]

theorem handleSubPackets_spares (client : ClientHandle) (packet : BasePacket)
    {subs : List SubPacket} {w : Server δ} (keyed : w.sessions.Keyed)
    (plain : ∀ sub ∈ dispatched db now client packet subs w, isWorldPacket sub = false) :
    Spares packet subs w (handleSubPackets db now client packet subs w).1 := by
  induction subs generalizing w with
  | nil => exact Spares.of_sessions_eq keyed rfl
  | cons sub subs ih =>
      simp only [dispatched] at plain
      have first := handleSubPacket_spares db now client packet sub keyed (by
        split at plain
        · exact plain sub (List.mem_cons_self ..)
        · exact plain sub (List.mem_cons_self ..))
      cases result : handleSubPacket db now client packet sub w with
      | mk w' ok =>
          rw [result] at first plain
          simp only [handleSubPackets, result]
          have apart {channel : SessionChannel} {id : UInt32}
              (h : ∀ other ∈ sub :: subs, ¬ Starts packet other channel id) :
              ∀ other ∈ [sub], ¬ Starts packet other channel id := by
            intro other member
            rw [List.mem_singleton.mp member]
            exact h sub (List.mem_cons_self ..)
          cases ok with
          | false =>
              exact ⟨first.keyed, fun channel id h => first.entry channel id (apart h),
                fun id h => first.pendingEnd id (apart h)⟩
          | true =>
              have rest := ih first.keyed fun other member =>
                plain other (List.mem_cons_of_mem _ member)
              refine ⟨rest.keyed, fun channel id h => ?_, fun id h => ?_⟩
              · rw [rest.entry channel id fun other member =>
                  h other (List.mem_cons_of_mem _ member)]
                exact first.entry channel id (apart h)
              · rw [rest.pendingEnd id fun other member => h other (List.mem_cons_of_mem _ member)]
                exact first.pendingEnd id (apart h)

theorem controlFree_iff (client : ClientHandle) (packet : BasePacket) (w : Server δ) :
    (∀ p subs, opened inflate packet = some (p, subs) →
      ∀ sub ∈ dispatched db now client p subs w, isWorldPacket sub = false) ↔
        ControlFree inflate packet := by
  apply forall_congr'
  intro p
  apply forall_congr'
  intro subs
  apply imp_congr_right
  intro _
  exact dispatched_plain_iff db now client p subs w

theorem processPacket_spares (client : ClientHandle) {packet : BasePacket} {w : Server δ}
    (keyed : w.sessions.Keyed) (free : ControlFree inflate packet) :
    let w' := (processPacket db inflate now client packet w).1
    w'.sessions.Keyed ∧
      (∀ channel id, ¬ HelloFor inflate packet channel id →
        w'.sessions.get channel id = w.sessions.get channel id) ∧
      ∀ id, ¬ HelloFor inflate packet .zone id →
        w'.sessions.pendingSessionEnds id = w.sessions.pendingSessionEnds id := by
  rw [processPacket_opened]
  cases split : opened inflate packet with
  | none => exact ⟨keyed, fun _ _ _ => rfl, fun _ _ => rfl⟩
  | some pair =>
      obtain ⟨p, subs⟩ := pair
      have plain := (controlFree_iff db inflate now client packet w).mpr free p subs split
      have spares := handleSubPackets_spares db now client p keyed plain
      have apart {channel : SessionChannel} {id : UInt32}
          (h : ¬ HelloFor inflate packet channel id) :
          ∀ sub ∈ subs, ¬ Starts p sub channel id := by
        intro sub member held
        obtain ⟨hello, parsed, on⟩ := held
        exact h ⟨p, subs, split, ⟨sub, member, hello⟩, parsed, on⟩
      exact ⟨spares.keyed, fun channel id h => spares.entry channel id (apart h),
        fun id h => spares.pendingEnd id (apart h)⟩

theorem confined_iff (client : ClientHandle) (packet : BasePacket) {w : Server δ}
    (keyed : w.sessions.Keyed) :
    Confined db inflate now client w packet ↔ ControlFree inflate packet := by
  constructor
  · intro h
    exact (controlFree_iff db inflate now client packet w).mp h.noControl
  · intro free
    obtain ⟨-, entries, pending⟩ := processPacket_spares db inflate now client keyed free
    refine ⟨fun channel id session owned _ apart => ?_, fun _ id _ _ _ apart => pending id apart,
      (controlFree_iff db inflate now client packet w).mpr free⟩
    rw [entries channel id apart]
    exact owned

/-- The frames of one connection, one after the other; an error ends its frame only. -/
def frameStep (client : ClientHandle) (w : Server δ) (packet : BasePacket) : Option (Server δ) :=
  some (processPacket db inflate now client packet w).1

/-- The frames of a client are confined to its own sessions if and only if none of them
has a subpacket of a control type in front of a hello that is too short. -/
theorem clientFrames_confined_iff (client : ClientHandle) (w : Server δ)
    (keyed : w.sessions.Keyed) (frames : List BasePacket) :
    EachStep (frameStep db inflate now client) (Confined db inflate now client) w frames ↔
      ∀ packet ∈ frames, ControlFree inflate packet := by
  have total (w : Server δ) (packet : BasePacket) :
      ∃ w', frameStep db inflate now client w packet = some w' := ⟨_, rfl⟩
  rw [← eachStep_iff_forall total (s := w)]
  apply EachStep.congr_of_inv (I := fun w => w.sessions.Keyed) _ _ keyed
  · intro w packet _ keyed _
    exact confined_iff db inflate now client packet keyed
  · intro w packet _ keyed free taken
    cases taken
    exact (processPacket_spares db inflate now client keyed free).1

def loginSeven : Session := { sessionId := 7, channel := .zone, client := { connSeq := 2 } }

def sevenOnTwo : Server Unit := { sessions := SessionRegistry.add {} .zone 7 loginSeven, db := () }

theorem sevenOnTwo_keyed : sevenOnTwo.sessions.Keyed := by
  have empty : SessionRegistry.Keyed {} := by
    intro channel id session found
    cases channel with
    | zone => contradiction
    | chat => contradiction
  exact empty.add .zone (show loginSeven.sessionId = 7 from rfl)

def frameOf (sub : SubPacket) : BasePacket :=
  ⟨{ connectionType := packetTypeZone
     packetSize := UInt16.ofNat (basepacketSize + sub.encoding.length) }, sub.encoding⟩

theorem opened_frameOf (sub : SubPacket) (sized : sub.Sized) :
    opened inflate (frameOf sub) = some (frameOf sub, [sub]) := by
  have split := BasePacket.getSubpackets_encodings [sub] (by simpa using sized)
    (frameOf sub).header
  rw [List.flatMap_singleton] at split
  simp only [opened, frameOf] at split ⊢
  simp only [BasePacket.inflated]
  rw [if_neg (by decide)]
  simp only [split]

theorem clientFrames_confined_ping :
    EachStep (frameStep Database.inZone166 (fun _ => none) 0 { connSeq := 1 })
      (Confined Database.inZone166 (fun _ => none) 0 { connSeq := 1 }) sevenOnTwo
      [frameOf (.newWithFlag 0 false 0x07 0 [])] := by
  apply (clientFrames_confined_iff _ _ _ _ sevenOnTwo sevenOnTwo_keyed _).mpr
  intro packet member p subs split
  rw [List.mem_singleton.mp member, opened_frameOf _ _ ⟨rfl, fun _ => rfl⟩] at split
  cases split
  decide

def forgedEndConfirm : SubPacket :=
  .newWithFlag 0 false opSessionEnd 7 (u32Bytes 7 ++ (u16Bytes 0 ++ u32Bytes 0))

/-- Connection 1 tears down the session of connection 2 with a forged end confirm. -/
theorem forged_end_confirm_removes_session :
    ¬ EachStep (frameStep Database.inZone166 (fun _ => none) 0 { connSeq := 1 })
      (Confined Database.inZone166 (fun _ => none) 0 { connSeq := 1 }) sevenOnTwo
      [frameOf forgedEndConfirm] := by
  intro confined
  have entry := (confined _ rfl).1.entry .zone 7 loginSeven (by decide) (by decide)
  have opening := opened_frameOf (fun _ => none) forgedEndConfirm ⟨by decide, fun _ => rfl⟩
  have noHello : ¬ HelloFor (fun _ => none) (frameOf forgedEndConfirm) .zone 7 := by
    intro held
    obtain ⟨p, subs, split, ⟨sub, member, hello⟩, -, -⟩ := held
    rw [opening] at split
    cases split
    rw [List.mem_singleton.mp member] at hello
    contradiction
  have kept := entry noHello
  rw [processPacket_opened, opening] at kept
  revert kept
  decide

end Server
end Garlemald.World
