import Garlemald.World.Processor

/-!
What hellos and session ends do to the registry. Every entry is kept under the id
of its session; a hello takes its own entry over and touches no other.
-/

namespace Garlemald.World
open Library Garlemald.Common

/-- Every entry is kept under its session's id; sessions are only ever added so. -/
def SessionRegistry.Keyed (r : SessionRegistry) : Prop :=
  ∀ channel id session, r.get channel id = some session → session.sessionId = id

theorem SessionRegistry.Keyed.add {r : SessionRegistry} (keyed : r.Keyed)
    (channel : SessionChannel) {id : UInt32} {session : Session} (own : session.sessionId = id) :
    (r.add channel id session).Keyed := by
  intro other key entry found
  rw [get_add] at found
  split at found
  · next here =>
      cases found
      exact own.trans here.2.symm
  · exact keyed other key entry found

namespace Server

variable {δ : Type} (now : UInt32)

theorem get_endExistingSession (channel other : SessionChannel) (old : Session)
    (client : ClientHandle) (key : UInt32) (w : Server δ) :
    (w.endExistingSession now channel old client).sessions.get other key =
      if old.client.connSeq ≠ client.connSeq ∧ other = channel ∧ key = old.sessionId ∧
          ∃ session, w.sessions.get channel old.sessionId = some session ∧
            session.client.connSeq = old.client.connSeq
      then none else w.sessions.get other key := by
  rw [endExistingSession]
  by_cases resend : old.client.connSeq = client.connSeq
  · simp [resend]
  · have asked (here : SessionChannel) (id : UInt32) :
        ((w.requestEnd now old.state.routing1 old.sessionId old.client.connSeq).sessions.get
          here id) = w.sessions.get here id := by
      cases routed : old.state.routing1 with
      | none => rfl
      | some handle => simp [requestEnd]
    by_cases zone : channel = .zone
    · simp [resend, zone, SessionRegistry.get_removeIf, asked]
    · simp [resend, zone, SessionRegistry.get_removeIf]

theorem keyed_endExistingSession {w : Server δ} (keyed : w.sessions.Keyed)
    (channel : SessionChannel)
    (old : Session) (client : ClientHandle) :
    (w.endExistingSession now channel old client).sessions.Keyed := by
  intro other key session found
  rw [get_endExistingSession] at found
  split at found
  · contradiction
  · exact keyed other key session found

theorem pendingSessionEnds_endExistingSession (channel : SessionChannel) (old : Session)
    (client : ClientHandle) {key : UInt32} (w : Server δ)
    (other : ¬ (channel = .zone ∧ key = old.sessionId)) :
    (w.endExistingSession now channel old client).sessions.pendingSessionEnds key =
      w.sessions.pendingSessionEnds key := by
  rw [endExistingSession]
  by_cases resend : old.client.connSeq = client.connSeq
  · simp [resend]
  · by_cases zone : channel = .zone
    · have apart : key ≠ old.sessionId := fun same => other ⟨zone, same⟩
      cases routed : old.state.routing1 with
      | none => simp [resend, zone, requestEnd]
      | some handle => simp [resend, zone, requestEnd, SessionRegistry.markPendingEnd, apart]
    · simp [resend, zone]

theorem beginRouting_keeps (session : Session) (w : Server δ) :
    (w.beginRouting now session).1.sessionId = session.sessionId ∧
      (w.beginRouting now session).2.sessions = w.sessions := by
  rw [beginRouting]
  split
  · split
    · exact ⟨rfl, rfl⟩
    · exact ⟨rfl, rfl⟩
  · exact ⟨rfl, rfl⟩

def snapZone (snap : Option ZoneSessionInfo) : UInt32 := (snap.map (·.currentZoneId)).getD 0

theorem beginRouting_routing1 (sessionId : UInt32) (client : ClientHandle)
    (snap : Option ZoneSessionInfo) (w : Server δ) :
    (w.beginRouting now (helloSession .zone sessionId client snap)).1.state.routing1 =
      w.zoneServerFor (snapZone snap) := by
  rw [beginRouting]
  cases snap with
  | none =>
      cases route : w.zoneServerFor 0 with
      | none => simp [helloSession, snapZone, route]
      | some handle => simp [helloSession, snapZone, route]
  | some info =>
      cases route : w.zoneServerFor info.currentZoneId with
      | none => simp [helloSession, snapZone, route]
      | some handle => simp [helloSession, snapZone, route]

theorem sessions_startSession (channel : SessionChannel) (sessionId : UInt32)
    (client : ClientHandle) (snap : Option ZoneSessionInfo) (w : Server δ) :
    let begun := w.beginRouting now (helloSession channel sessionId client snap)
    (w.startSession now channel sessionId client snap).sessions =
      SessionRegistry.add (match w.sessions.get channel sessionId with
        | some old => begun.2.endExistingSession now channel old client
        | none => begun.2).sessions channel sessionId begun.1 := by
  rw [← (beginRouting_keeps now (helloSession channel sessionId client snap) w).2]
  rfl

theorem startSession_spares {w : Server δ} (keyed : w.sessions.Keyed) (channel : SessionChannel)
    (sessionId : UInt32) (client : ClientHandle) (snap : Option ZoneSessionInfo) :
    let w' := w.startSession now channel sessionId client snap
    w'.sessions.Keyed ∧
      (∀ other key, ¬ (other = channel ∧ key = sessionId) →
        w'.sessions.get other key = w.sessions.get other key) ∧
      ∀ key, ¬ (channel = .zone ∧ key = sessionId) →
        w'.sessions.pendingSessionEnds key = w.sessions.pendingSessionEnds key := by
  obtain ⟨own, same⟩ := beginRouting_keeps now (helloSession channel sessionId client snap) w
  simp only [sessions_startSession]
  cases here : w.sessions.get channel sessionId with
  | none =>
      refine ⟨(same ▸ keyed).add channel own, fun other key apart => ?_, fun key _ => ?_⟩
      · rw [SessionRegistry.get_add, if_neg apart, same]
      · rw [SessionRegistry.pendingSessionEnds_add, same]
  | some old =>
      have oldId : old.sessionId = sessionId := keyed channel sessionId old here
      refine ⟨(keyed_endExistingSession now (same ▸ keyed) channel old client).add channel own,
        fun other key apart => ?_, fun key apart => ?_⟩
      · rw [SessionRegistry.get_add, if_neg apart, get_endExistingSession, if_neg, same]
        rintro ⟨-, rfl, rfl, -⟩
        exact apart ⟨rfl, oldId⟩
      · rw [SessionRegistry.pendingSessionEnds_add,
          pendingSessionEnds_endExistingSession now channel old client _ (oldId ▸ apart), same]

def helloSeven : BasePacket :=
  ⟨{ connectionType := packetTypeZone, packetSize := 48 }, zeros 0x14 ++ (0x37 :: zeros 11)⟩

end Server
end Garlemald.World
