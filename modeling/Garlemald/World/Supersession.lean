import Garlemald.Library.Runs
import Garlemald.World.Sessions

/-!
Runs of hellos, disconnects and session-end confirms. A confirm carries the
session id and not the connection the end was asked for, and one pending record
is kept per id. A step lemma says when a confirm tears down an entry of another
connection, and the runs without such a teardown are those whose confirms meet
that condition.
-/

namespace Garlemald.World
open Library Garlemald.Common Database

namespace Server

variable {δ : Type} (db : Database δ)

/-- The server and the session ends that map servers have not confirmed yet. -/
structure Timeline (δ : Type) where
  server : Server δ
  outstanding : List EndRequest := []

inductive Event where
  | hello (now : UInt32) (client : ClientHandle) (packet : BasePacket)
  | disconnect (now : UInt32) (client : ClientHandle)
  /-- The confirm of the outstanding end at an index, with any error code, destination
  and target. -/
  | endConfirm (now : UInt32) (index : Nat) (sub : SubPacket)

namespace Timeline

def advance (s : Timeline δ) (server : Server δ) : Timeline δ :=
  { server, outstanding :=
      s.outstanding ++ server.endsRequested.drop s.server.endsRequested.length }

def step (s : Timeline δ) : Event → Option (Timeline δ)
  | .hello now client packet => some (s.advance (handleHello db now client packet s.server).1)
  | .disconnect now client => some (s.advance (handleDisconnect now client s.server))
  | .endConfirm now index sub =>
      match s.outstanding[index]?, endConfirmOf sub with
      | some request, some p =>
          if p.sessionId = request.sessionId then
            some { server := (handleWorldPacket db now sub s.server).1
                   outstanding := s.outstanding.eraseIdx index }
          else none
      | _, _ => none

/-- A confirm leaves every entry of a connection other than the one the end was asked
for; other events are not confirms. -/
def SparesOthers (s : Timeline δ) : Event → Prop
  | .endConfirm now index sub =>
      ∀ request, s.outstanding[index]? = some request → ∀ channel id connSeq,
        s.server.sessions.ownerOf channel id = some connSeq → connSeq ≠ request.connSeq →
          (handleWorldPacket db now sub s.server).1.sessions.ownerOf channel id = some connSeq
  | _ => True

end Timeline

/-- The confirm is neither an error, nor the second half of a zone change, nor stale. -/
def TearsDown (w : Server δ) (target : UInt32) (p : SessionEndConfirmPacket) : Prop :=
  p.errorCode = 0 ∧ (p.destinationZone ≠ 0 → w.sessions.get .zone target = none) ∧
    isStaleEndConfirm (w.sessions.ownerOf .zone p.sessionId)
      (w.sessions.pendingSessionEnds p.sessionId) = false

instance (w : Server δ) (target : UInt32) (p : SessionEndConfirmPacket) :
    Decidable (w.TearsDown target p) := inferInstanceAs (Decidable (_ ∧ _ ∧ _))

theorem handover_eq_some {w : Server δ} {target : UInt32} {zone : UInt32} {session : Session}
    (h : (if zone ≠ 0 then w.sessions.get .zone target else none) = some session) :
    zone ≠ 0 ∧ w.sessions.get .zone target = some session := by
  split at h
  · next destination => exact ⟨destination, h⟩
  · contradiction

theorem ownerOf_handleSessionEndConfirm (now target : UInt32) (p : SessionEndConfirmPacket)
    (w : Server δ) (channel : SessionChannel) (id : UInt32) :
    (handleSessionEndConfirm now target p w).sessions.ownerOf channel id =
      if w.TearsDown target p ∧ id = p.sessionId then none
      else w.sessions.ownerOf channel id := by
  rw [handleSessionEndConfirm]
  by_cases failed : p.errorCode ≠ 0
  · rw [if_pos failed, if_neg fun h => failed h.1.1]
  · rw [if_neg failed]
    have success : p.errorCode = 0 := not_not.mp failed
    cases found : (if p.destinationZone ≠ 0 then w.sessions.get .zone target else none) with
    | some session =>
        obtain ⟨destination, here⟩ := handover_eq_some found
        have kept : ¬ (w.TearsDown target p ∧ id = p.sessionId) := fun h => by
          have := h.1.2.1 destination
          rw [here] at this
          contradiction
        rw [if_neg kept]
        cases zone : w.zoneServerFor p.destinationZone with
        | none => rfl
        | some handle =>
            simp only [sendZone_sessions, SessionRegistry.ownerOf_put]
            split
            · next same =>
                obtain ⟨rfl, rfl⟩ := same
                rw [SessionRegistry.ownerOf, here]
                rfl
            · rfl
    | none =>
        have noHandover : p.destinationZone ≠ 0 → w.sessions.get .zone target = none := by
          intro destination
          rwa [if_pos destination] at found
        have current : ((w.sessions.takePendingEnd p.sessionId).2.get .zone p.sessionId).map
            (·.client.connSeq) = w.sessions.ownerOf .zone p.sessionId :=
          SessionRegistry.ownerOf_takePendingEnd ..
        have recorded : (w.sessions.takePendingEnd p.sessionId).1 =
            w.sessions.pendingSessionEnds p.sessionId := rfl
        have torn : w.TearsDown target p ↔ isStaleEndConfirm (w.sessions.ownerOf .zone p.sessionId)
            (w.sessions.pendingSessionEnds p.sessionId) = false :=
          ⟨fun h => h.2.2, fun h => ⟨success, noHandover, h⟩⟩
        simp only [current, recorded, torn]
        cases isStaleEndConfirm (w.sessions.ownerOf .zone p.sessionId)
          (w.sessions.pendingSessionEnds p.sessionId) with
        | true => simp
        | false =>
            by_cases same : id = p.sessionId <;> cases channel <;>
              simp [SessionRegistry.remove, SessionRegistry.ownerOf_put, same]

namespace Timeline

/-- Unless the confirm is not going to tear anything down, neither channel holds the id
for a connection other than the one the end was asked for. -/
def ConfirmsOwn (s : Timeline δ) : Event → Prop
  | .endConfirm _ index sub =>
      ∀ request p, s.outstanding[index]? = some request → endConfirmOf sub = some p →
        s.server.TearsDown sub.header.targetId p →
          ∀ channel connSeq, s.server.sessions.ownerOf channel p.sessionId = some connSeq →
            connSeq = request.connSeq
  | _ => True

theorem sparesOthers_iff {s t : Timeline δ} {e : Event} (taken : s.step db e = some t) :
    s.SparesOthers db e ↔ s.ConfirmsOwn e := by
  cases e with
  | hello now client packet => exact Iff.rfl
  | disconnect now client => exact Iff.rfl
  | endConfirm now index sub =>
      simp only [step] at taken
      split at taken
      · next request p asked confirm =>
          have after (channel : SessionChannel) (id : UInt32) :=
            ownerOf_handleSessionEndConfirm now sub.header.targetId p s.server channel id
          simp only [SparesOthers, ConfirmsOwn, handleWorldPacket_endConfirm db now confirm, asked,
            confirm, Option.some.injEq, after]
          constructor
          · rintro spares _ _ rfl rfl torn channel connSeq owned
            by_contra other
            have kept := spares request rfl channel p.sessionId connSeq owned other
            rw [if_pos ⟨torn, rfl⟩] at kept
            contradiction
          · rintro own _ rfl channel id connSeq owned other
            rw [if_neg, owned]
            rintro ⟨torn, rfl⟩
            exact other (own request p rfl rfl torn channel connSeq owned)
      · contradiction

/-- In any run, no confirm removes an entry of a connection other than the one its end
was asked for if and only if every confirm that tears a session down finds the id owned
by that connection alone. -/
theorem supersession_safe_iff (s : Timeline δ) (es : List Event) :
    EachStep (step db) (SparesOthers db) s es ↔ EachStep (step db) ConfirmsOwn s es :=
  EachStep.congr fun _ _ _ taken => sparesOthers_iff db taken

/-- A success confirm without a destination for session 7. -/
def confirmSeven : SubPacket :=
  (SubPacket.newWithFlag 0 false opSessionEnd 7
    (u32Bytes 7 ++ (u16Bytes 0 ++ u32Bytes 0))).setTargetId 7

def oneZone : Timeline Unit :=
  { server := { zoneRouting := fun zone => if zone = 166 then some 0 else none, db := () } }

def threeLogins : List Event :=
  [.hello 0 { connSeq := 1 } helloSeven, .hello 0 { connSeq := 2 } helloSeven,
    .hello 0 { connSeq := 3 } helloSeven, .endConfirm 0 0 confirmSeven,
    .endConfirm 0 0 confirmSeven]

/-- The second confirm, for connection 2, removes the live login of connection 3. -/
theorem second_confirm_removes_third_login :
    ¬ EachStep (step inZone166) (SparesOthers inZone166) oneZone threeLogins := by
  intro safe
  have facts : ((run (step inZone166) oneZone (threeLogins.take 4)).map fun t =>
      (t.outstanding, t.server.sessions.ownerOf .zone 7,
        (handleWorldPacket inZone166 0 confirmSeven t.server).1.sessions.ownerOf .zone 7,
        (step inZone166 t (.endConfirm 0 0 confirmSeven)).isSome)) =
      some ([⟨7, 2⟩], some 3, none, true) := by decide
  obtain ⟨t, reached, same⟩ := Option.map_eq_some_iff.mp facts
  simp only [Prod.mk.injEq] at same
  obtain ⟨asked, owned, removed, accepted⟩ := same
  obtain ⟨t', taken⟩ := Option.isSome_iff_exists.mp accepted
  have spares := EachStep.reached (threeLogins.take 4) safe reached taken
  have kept := spares ⟨7, 2⟩ (by rw [asked]; rfl) .zone 7 3 owned (by decide)
  rw [removed] at kept
  contradiction

end Timeline
end Server
end Garlemald.World
