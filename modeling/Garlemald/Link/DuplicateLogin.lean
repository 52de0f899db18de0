import Garlemald.Library.Runs
import Garlemald.Link.Handshake
import Garlemald.World.Sessions

/-!
The world server with its map servers, over runs of logins, re-logins on new
connections and disconnects. Every link is a queue: a map server takes the frames
of the world server in the order they were sent. What a map server will have
registered once its queue is empty is a fold over the queue, and every handler is
described by what it does to that view.
-/

namespace Garlemald.Link
open Library Garlemald.Common Garlemald.Map
open Garlemald.World hiding opSessionBegin opSessionEnd buildSessionBegin buildSessionEnd
open Function (update)

/-- The map servers are told apart by the handles of their links. -/
structure Cluster (δ : Type) where
  world : Server δ
  maps : ZoneServerHandle → MapServer := fun _ => {}

inductive ClusterEvent where
  | hello (now : UInt32) (client : ClientHandle) (packet : BasePacket)
  | disconnect (now : UInt32) (client : ClientHandle)
  /-- A map server takes the next frame off its link. -/
  | deliver (now : UInt32) (sent : UInt64) (handle : ZoneServerHandle)
  /-- The world server takes the next reply of a map server. -/
  | answer (now : UInt32) (sent : UInt64) (handle : ZoneServerHandle)

namespace Cluster

variable {δ : Type} (db : Database δ) (inflate : Bytes → Option Bytes)
  (load : UInt32 → Option PlayerCharacter)

def Resends (w : Server δ) (client : ClientHandle) (packet : BasePacket) : Prop :=
  ∃ hello, HelloPacket.parse packet.data = some hello ∧
    w.sessions.ownerOf (Server.helloChannel packet.header.connectionType) hello.sessionId =
      some client.connSeq

instance (w : Server δ) (client : ClientHandle) (packet : BasePacket) :
    Decidable (Resends w client packet) :=
  match parsed : HelloPacket.parse packet.data with
  | some hello => decidable_of_iff (w.sessions.ownerOf
      (Server.helloChannel packet.header.connectionType) hello.sessionId = some client.connSeq)
      (by simp [Resends, parsed])
  | none => isFalse (by simp [Resends, parsed])

def receive (now : UInt32) (sent : UInt64) (handle : ZoneServerHandle) (m : MapServer)
    (sub : SubPacket) : Option MapServer :=
  match sub.toBytes with
  | .ok bytes => m.processFrame load now handle inflate (wrapSubpacketsInBasepacket sent bytes)
  | _ => none

def step (c : Cluster δ) : ClusterEvent → Option (Cluster δ)
  | .hello now client packet =>
      if Resends c.world client packet then none
      else some { c with world := (Server.handleHello db now client packet c.world).1 }
  | .disconnect now client => some { c with world := Server.handleDisconnect now client c.world }
  | .deliver now sent handle =>
      match c.world.outbound handle with
      | [] => none
      | sub :: rest => do
          let m ← receive inflate load now sent handle (c.maps handle) sub
          return { world := { c.world with outbound := update c.world.outbound handle rest }
                   maps := update c.maps handle m }
  | .answer now sent handle =>
      match (c.maps handle).replies handle with
      | [] => none
      | reply :: rest =>
          match reply.toBytes with
          | .ok bytes =>
              let m := c.maps handle
              some
                { world := c.world.relayFrame db inflate now (wrapSubpacketsInBasepacket sent bytes)
                  maps := update c.maps handle
                    { m with replies := update m.replies handle rest } }
          | _ => none

def drained (now : UInt32) (sent : UInt64) (c : Cluster δ) (handle : ZoneServerHandle) :
    Option MapServer :=
  (c.world.outbound handle).foldlM (receive inflate load now sent handle) (c.maps handle)

def routeOf (w : Server δ) (id : UInt32) : Option ZoneServerHandle :=
  (w.sessions.get .zone id).bind (·.state.routing1)

/-- Once the links are empty, the entries of the world server that are routed to a map
server and the sessions of the map servers are the same ids. -/
structure Agrees (c : Cluster δ) : Prop where
  alive : ∀ id handle, routeOf c.world id = some handle → ∀ now sent,
    ∃ m, drained inflate load now sent c handle = some m ∧ m.Registered id
  known : ∀ now sent handle m, drained inflate load now sent c handle = some m →
    ∀ id, m.Registered id → (c.world.sessions.get .zone id).isSome

/-! ### The view of an empty link -/

def settle (registered : UInt32 → Prop) (sub : SubPacket) : UInt32 → Prop := fun id =>
  if sub.header.type = opSessionBegin then
    (id = sub.header.sourceId ∧ (load id).isSome) ∨ registered id
  else id ≠ sub.header.sourceId ∧ registered id

def view (registered : ZoneServerHandle → UInt32 → Prop) (w : Server δ)
    (handle : ZoneServerHandle) : UInt32 → Prop :=
  (w.outbound handle).foldl (settle load) (registered handle)

def IsOrder (sub : SubPacket) : Prop :=
  ∃ id, ControlFrame opSessionBegin id sub ∨ ControlFrame opSessionEnd id sub

def IsReply (reply : SubPacket) : Prop :=
  ∃ now id, Map.buildSessionEnd now id 1 0 = some reply

theorem receive_order {sub : SubPacket} (order : IsOrder sub) (now : UInt32) (sent : UInt64)
    (handle : ZoneServerHandle) (m : MapServer) :
    ∃ m', receive inflate load now sent handle m sub = some m' ∧
      (∀ id, m'.Registered id ↔ settle load m.Registered sub id) ∧
        (m'.replies handle = m.replies handle ∨
          ∃ reply, IsReply reply ∧ m'.replies handle = m.replies handle ++ [reply]) := by
  obtain ⟨source, begins | ends⟩ := order
  · have taken : receive inflate load now sent handle m sub =
        some (m.handleSessionBegin load handle sub) := by
      simp only [receive, SubPacket.toBytes_sized begins.sized]
      rw [MapServer.processFrame_wrap load now handle inflate begins.sized begins.fits,
        MapServer.handleSubPacket, if_pos begins.type_eq]
    refine ⟨_, taken, fun id => ?_, Or.inl ?_⟩
    · rw [MapServer.registered_handleSessionBegin, settle, if_pos begins.type_eq]
    · rw [MapServer.handleSessionBegin]
      dsimp only
      split
      · rfl
      · rfl
  · have taken : receive inflate load now sent handle m sub =
        m.handleSessionEnd now handle sub := by
      simp only [receive, SubPacket.toBytes_sized ends.sized]
      rw [MapServer.processFrame_wrap load now handle inflate ends.sized ends.fits,
        MapServer.handleSubPacket, ends.type_eq, if_neg (by decide), if_pos rfl]
    have ended := MapServer.handleSessionEnd_eq now handle m sub
    refine ⟨_, taken.trans ended, fun id => ?_, Or.inr ⟨_,
      ⟨now, sub.header.sourceId, buildSessionEnd_eq ..⟩, ?_⟩⟩
    · rw [MapServer.registered_handleSessionEnd now handle ended, settle, ends.type_eq,
        if_neg (by decide)]
    · simp [MapServer.send, MapServer.removeSession]

theorem drained_view {queue : List SubPacket} (orders : ∀ sub ∈ queue, IsOrder sub)
    (now : UInt32) (sent : UInt64) (handle : ZoneServerHandle) (m : MapServer) :
    ∃ m', queue.foldlM (receive inflate load now sent handle) m = some m' ∧
      ∀ id, m'.Registered id ↔ queue.foldl (settle load) m.Registered id := by
  induction queue generalizing m with
  | nil => exact ⟨m, rfl, fun _ => Iff.rfl⟩
  | cons sub queue ih =>
      obtain ⟨m₁, first, same, -⟩ := receive_order inflate load (orders sub (List.mem_cons_self ..))
        now sent handle m
      obtain ⟨m₂, rest, later⟩ := ih (fun s member => orders s (List.mem_cons_of_mem _ member)) m₁
      have settled : m₁.Registered = settle load m.Registered sub := by
        funext id
        exact propext (same id)
      refine ⟨m₂, ?_, ?_⟩
      · rw [List.foldlM_cons, first]
        exact rest
      · rw [List.foldl_cons, ← settled]
        exact later

section View

variable (registered : ZoneServerHandle → UInt32 → Prop)

theorem view_sendZone (w : Server δ) (handle other : ZoneServerHandle) (sub : SubPacket) :
    view load registered (w.sendZone handle sub) other =
      if other = handle then settle load (view load registered w handle) sub
      else view load registered w other := by
  by_cases same : other = handle
  · subst same
    simp [view, Server.sendZone, List.foldl_append]
  · simp [view, Server.sendZone, same]

theorem view_beginRouting (now : UInt32) (session : Session) (w : Server δ)
    (handle : ZoneServerHandle) (id : UInt32) :
    view load registered (w.beginRouting now session).2 handle id ↔
      (session.channel = .zone ∧ w.zoneServerFor session.state.currentZoneId = some handle ∧
        id = session.sessionId ∧ (load id).isSome) ∨ view load registered w handle id := by
  rw [Server.beginRouting]
  by_cases zone : session.channel = .zone
  · rw [if_pos zone]
    cases route : w.zoneServerFor session.state.currentZoneId with
    | none => simp
    | some target =>
        dsimp only
        rw [view_sendZone]
        by_cases same : handle = target
        · have begins := World.buildSessionBegin_frame now session.sessionId true
          rw [if_pos same, settle, if_pos (show _ = opSessionBegin from begins.type_eq),
            begins.source_eq, same]
          simp [zone]
        · simp [same, Ne.symm same]
  · simp [zone]

theorem view_requestEnd (now : UInt32) (routing : Option ZoneServerHandle)
    (sessionId : UInt32) (connSeq : UInt64) (w : Server δ) (handle : ZoneServerHandle)
    (id : UInt32) :
    view load registered (w.requestEnd now routing sessionId connSeq) handle id ↔
      ¬ (routing = some handle ∧ id = sessionId) ∧ view load registered w handle id := by
  cases routing with
  | none => simp [Server.requestEnd]
  | some target =>
      simp only [Server.requestEnd, view_sendZone]
      by_cases same : handle = target
      · have ends := World.buildSessionEnd_frame now sessionId
        rw [if_pos same, settle, if_neg (by rw [ends.type_eq]; decide), ends.source_eq, same]
        simp [view]
      · simp [same, Ne.symm same, view]

theorem view_endExistingSession (now : UInt32) (channel : SessionChannel) (old : Session)
    (client : ClientHandle) (w : Server δ) (handle : ZoneServerHandle) (id : UInt32) :
    view load registered (w.endExistingSession now channel old client) handle id ↔
      ¬ (old.client.connSeq ≠ client.connSeq ∧ channel = .zone ∧
        old.state.routing1 = some handle ∧ id = old.sessionId) ∧
          view load registered w handle id := by
  rw [Server.endExistingSession]
  by_cases resend : old.client.connSeq = client.connSeq
  · simp [resend]
  · by_cases zone : channel = .zone
    · have asked := view_requestEnd load registered now old.state.routing1 old.sessionId
        old.client.connSeq w handle id
      rw [view] at asked ⊢
      simpa [resend, zone] using asked
    · simp [resend, zone, view]

theorem view_startSession (now : UInt32) (channel : SessionChannel) (sessionId : UInt32)
    (client : ClientHandle) (snap : Option ZoneSessionInfo) {w : Server δ}
    (keyed : w.sessions.Keyed)
    (fresh : w.sessions.ownerOf channel sessionId ≠ some client.connSeq)
    (handle : ZoneServerHandle) (id : UInt32) :
    view load registered (w.startSession now channel sessionId client snap) handle id ↔
      ¬ (channel = .zone ∧ id = sessionId ∧ routeOf w sessionId = some handle) ∧
        ((channel = .zone ∧ w.zoneServerFor (Server.snapZone snap) = some handle ∧
          id = sessionId ∧ (load id).isSome) ∨ view load registered w handle id) := by
  have begins := view_beginRouting load registered now
    (Server.helloSession channel sessionId client snap) w handle id
  have zone : (Server.helloSession channel sessionId client snap).state.currentZoneId =
      Server.snapZone snap := by cases snap <;> rfl
  rw [zone] at begins
  change _ ↔ (channel = .zone ∧ _ ∧ id = sessionId ∧ _) ∨ _ at begins
  have kept := (Server.beginRouting_keeps now
    (Server.helloSession channel sessionId client snap) w).2
  rw [← begins]
  cases here : w.sessions.get channel sessionId with
  | none =>
      have result : view load registered (w.startSession now channel sessionId client snap)
          handle id ↔ view load registered (w.beginRouting now
            (Server.helloSession channel sessionId client snap)).2 handle id := by
        rw [Server.startSession]
        simp only [kept, here]
        rfl
      rw [result, iff_and_self]
      intro _ held
      obtain ⟨rfl, -, route⟩ := held
      simp [routeOf, here] at route
  | some old =>
      have result : view load registered (w.startSession now channel sessionId client snap)
          handle id ↔ view load registered ((w.beginRouting now
            (Server.helloSession channel sessionId client snap)).2.endExistingSession now channel
              old client) handle id := by
        rw [Server.startSession]
        simp only [kept, here]
        rfl
      have other : old.client.connSeq ≠ client.connSeq := by
        intro same
        apply fresh
        simp [SessionRegistry.ownerOf, here, same]
      have own : old.sessionId = sessionId := keyed channel sessionId old here
      rw [result, view_endExistingSession, own]
      apply and_congr_left'
      apply not_congr
      constructor
      · intro held
        obtain ⟨-, rfl, route, rfl⟩ := held
        exact ⟨rfl, rfl, by simp [routeOf, here, route]⟩
      · intro held
        obtain ⟨rfl, rfl, route⟩ := held
        exact ⟨other, rfl, by simpa [routeOf, here] using route, rfl⟩

theorem view_dropSession (now : UInt32) (client : ClientHandle) (w : Server δ)
    (entry : SessionChannel × UInt32) (handle : ZoneServerHandle) (id : UInt32) :
    view load registered (Server.dropSession now client w entry) handle id ↔
      ¬ (entry.1 = .zone ∧ id = entry.2 ∧
        w.sessions.ownerOf .zone entry.2 = some client.connSeq ∧
          routeOf w entry.2 = some handle) ∧ view load registered w handle id := by
  rw [Server.dropSession]
  cases here : w.sessions.get entry.1 entry.2 with
  | none =>
      have absent : ¬ (entry.1 = .zone ∧ id = entry.2 ∧
          w.sessions.ownerOf .zone entry.2 = some client.connSeq ∧
            routeOf w entry.2 = some handle) := by
        intro held
        obtain ⟨zone, -, owned, -⟩ := held
        rw [zone] at here
        simp [SessionRegistry.ownerOf, here] at owned
      simp [absent]
  | some session =>
      dsimp only
      by_cases zone : entry.1 = .zone
      · rw [zone] at here
        have owner : w.sessions.ownerOf .zone entry.2 = some session.client.connSeq := by
          simp [SessionRegistry.ownerOf, here]
        have route : routeOf w entry.2 = session.state.routing1 := by simp [routeOf, here]
        by_cases mine : session.client.connSeq = client.connSeq
        · have asked := view_requestEnd load registered now session.state.routing1 entry.2
            client.connSeq w handle id
          rw [owner, route, mine, if_pos rfl, if_pos zone]
          rw [view] at asked ⊢
          rw [asked]
          simp only [zone, true_and, and_comm]
        · simp [mine, owner]
      · split
        · simp [zone, view]
        · simp [zone]

end View

theorem routeOf_startSession (now : UInt32) (channel : SessionChannel) (sessionId : UInt32)
    (client : ClientHandle) (snap : Option ZoneSessionInfo) {w : Server δ}
    (keyed : w.sessions.Keyed) (id : UInt32) :
    routeOf (w.startSession now channel sessionId client snap) id =
      if channel = .zone ∧ id = sessionId then w.zoneServerFor (Server.snapZone snap)
      else routeOf w id := by
  by_cases own : channel = .zone ∧ id = sessionId
  · obtain ⟨rfl, rfl⟩ := own
    rw [if_pos ⟨rfl, rfl⟩, routeOf, Server.sessions_startSession, SessionRegistry.get_add,
      if_pos ⟨rfl, rfl⟩]
    exact Server.beginRouting_routing1 ..
  · have kept := (Server.startSession_spares now keyed channel sessionId client snap).2.1 .zone id
      fun h => own ⟨h.1.symm, h.2⟩
    rw [if_neg own, routeOf, kept]
    rfl

theorem get_dropSession (now : UInt32) (client : ClientHandle) (w : Server δ)
    (entry : SessionChannel × UInt32) (channel : SessionChannel) (id : UInt32) :
    (Server.dropSession now client w entry).sessions.get channel id =
      if channel = entry.1 ∧ id = entry.2 ∧
        w.sessions.ownerOf entry.1 entry.2 = some client.connSeq then none
      else w.sessions.get channel id := by
  rw [Server.dropSession]
  cases here : w.sessions.get entry.1 entry.2 with
  | none => simp [SessionRegistry.ownerOf, here]
  | some session =>
      have owner : w.sessions.ownerOf entry.1 entry.2 = some session.client.connSeq := by
        simp [SessionRegistry.ownerOf, here]
      dsimp only
      by_cases mine : session.client.connSeq = client.connSeq
      · have asked (other : SessionChannel) (key : UInt32) :
            (w.requestEnd now session.state.routing1 entry.2 client.connSeq).sessions.get other
              key = w.sessions.get other key := by
          cases session.state.routing1 with
          | none => rfl
          | some handle => simp [Server.requestEnd]
        by_cases zone : entry.1 = .zone
        · rw [zone] at here owner
          simp [mine, zone, owner, SessionRegistry.get_removeIf, asked, here]
        · simp [mine, zone, owner, SessionRegistry.get_removeIf, here]
      · simp [mine, owner]

theorem routeOf_dropSession (now : UInt32) (client : ClientHandle) (w : Server δ)
    (entry : SessionChannel × UInt32) (id : UInt32) :
    routeOf (Server.dropSession now client w entry) id =
      if entry.1 = .zone ∧ id = entry.2 ∧
        w.sessions.ownerOf .zone entry.2 = some client.connSeq then none
      else routeOf w id := by
  rw [routeOf, get_dropSession]
  by_cases zone : entry.1 = .zone
  · rw [zone]
    split
    · simp_all
    · simp_all [routeOf]
  · rw [if_neg fun h => zone h.1.symm, if_neg fun h => zone h.1]
    rfl

/-! ### Invariants of the world server -/

def Orders (w : Server δ) : Prop := ∀ handle, ∀ sub ∈ w.outbound handle, IsOrder sub

theorem Orders.sendZone {w : Server δ} (orders : Orders w) (handle : ZoneServerHandle)
    {sub : SubPacket} (order : IsOrder sub) : Orders (w.sendZone handle sub) := by
  intro other queued member
  by_cases same : other = handle
  · subst same
    simp only [Server.sendZone, Function.update_self, List.mem_append, List.mem_singleton] at member
    rcases member with before | rfl
    · exact orders _ _ before
    · exact order
  · simp only [Server.sendZone, Function.update_of_ne same] at member
    exact orders other queued member

theorem Orders.requestEnd {w : Server δ} (orders : Orders w) (now : UInt32)
    (routing : Option ZoneServerHandle) (sessionId : UInt32) (connSeq : UInt64) :
    Orders (w.requestEnd now routing sessionId connSeq) := by
  cases routing with
  | none => exact orders
  | some handle =>
      exact Orders.sendZone orders handle
        ⟨sessionId, Or.inr (World.buildSessionEnd_frame now sessionId)⟩

theorem Orders.beginRouting {w : Server δ} (orders : Orders w) (now : UInt32)
    (session : Session) : Orders (w.beginRouting now session).2 := by
  rw [Server.beginRouting]
  split
  · split
    · exact orders.sendZone _
        ⟨session.sessionId, Or.inl (World.buildSessionBegin_frame now session.sessionId true)⟩
    · exact orders
  · exact orders

theorem Orders.endExistingSession {w : Server δ} (orders : Orders w) (now : UInt32)
    (channel : SessionChannel) (old : Session) (client : ClientHandle) :
    Orders (w.endExistingSession now channel old client) := by
  rw [Server.endExistingSession]
  split
  · exact orders
  · dsimp only
    split
    · exact orders.requestEnd now old.state.routing1 old.sessionId old.client.connSeq
    · exact orders

theorem Orders.startSession {w : Server δ} (orders : Orders w) (now : UInt32)
    (channel : SessionChannel) (sessionId : UInt32) (client : ClientHandle)
    (snap : Option ZoneSessionInfo) :
    Orders (w.startSession now channel sessionId client snap) := by
  have begun := orders.beginRouting now (Server.helloSession channel sessionId client snap)
  rw [Server.startSession]
  dsimp only
  split
  · next old _ => exact begun.endExistingSession now channel old client
  · exact begun

theorem Orders.dropSession {w : Server δ} (orders : Orders w) (now : UInt32)
    (client : ClientHandle) (entry : SessionChannel × UInt32) :
    Orders (Server.dropSession now client w entry) := by
  rw [Server.dropSession]
  split
  · exact orders
  · split
    · dsimp only
      split
      · exact orders.requestEnd now _ entry.2 client.connSeq
      · exact orders
    · exact orders

/-- What holds of the world server in every run: entries under their ids, links that carry
begins and ends only, and no id left on a map server that its entry is not routed to. -/
structure Sound (registered : ZoneServerHandle → UInt32 → Prop) (w : Server δ) : Prop where
  keyed : w.sessions.Keyed
  orders : Orders w
  routed : ∀ handle id, view load registered w handle id → routeOf w id = some handle

def Alive (registered : ZoneServerHandle → UInt32 → Prop) (w : Server δ) : Prop :=
  ∀ id handle, routeOf w id = some handle → view load registered w handle id

variable {client : ClientHandle}

section Handlers

variable {load} {registered : ZoneServerHandle → UInt32 → Prop} {w : Server δ}

theorem Sound.startSession (sound : Sound load registered w) (now : UInt32)
    {channel : SessionChannel} {sessionId : UInt32}
    (fresh : w.sessions.ownerOf channel sessionId ≠ some client.connSeq)
    (snap : Option ZoneSessionInfo) :
    Sound load registered (w.startSession now channel sessionId client snap) where
  keyed := (Server.startSession_spares now sound.keyed channel sessionId client snap).1
  orders := sound.orders.startSession now channel sessionId client snap
  routed := by
    intro handle id kept
    rw [view_startSession load registered now channel sessionId client snap sound.keyed fresh]
      at kept
    rw [routeOf_startSession now channel sessionId client snap sound.keyed]
    obtain ⟨notEnded, ⟨zone, route, own, -⟩ | before⟩ := kept
    · rw [if_pos ⟨zone, own⟩, route]
    · have route := sound.routed handle id before
      rw [if_neg, route]
      intro held
      obtain ⟨zone, rfl⟩ := held
      exact notEnded ⟨zone, rfl, route⟩

theorem alive_startSession (sound : Sound load registered w) (alive : Alive load registered w)
    (now : UInt32) {channel : SessionChannel} {sessionId : UInt32}
    (fresh : w.sessions.ownerOf channel sessionId ≠ some client.connSeq)
    (snap : Option ZoneSessionInfo) :
    Alive load registered (w.startSession now channel sessionId client snap) ↔
      (channel = .zone → ∀ handle, w.zoneServerFor (Server.snapZone snap) = some handle →
        (load sessionId).isSome ∧ routeOf w sessionId ≠ some handle) := by
  have after := view_startSession load registered now channel sessionId client snap sound.keyed
    fresh
  have route := routeOf_startSession now channel sessionId client snap sound.keyed
  constructor
  · intro still own handle here
    subst own
    have kept := (after handle sessionId).mp
      (still sessionId handle (by rw [route, if_pos ⟨rfl, rfl⟩, here]))
    obtain ⟨notEnded, ⟨-, -, -, loaded⟩ | before⟩ := kept
    · exact ⟨loaded, fun old => notEnded ⟨rfl, rfl, old⟩⟩
    · exact absurd ⟨rfl, rfl, sound.routed handle sessionId before⟩ notEnded
  · intro apart id handle here
    rw [after]
    rw [route] at here
    split at here
    · next own =>
        obtain ⟨zone, rfl⟩ := own
        obtain ⟨loaded, other⟩ := apart zone handle here
        exact ⟨fun h => other h.2.2, Or.inl ⟨zone, here, rfl, loaded⟩⟩
    · next own => exact ⟨fun h => own ⟨h.1, h.2.1⟩, Or.inr (alive id handle here)⟩

theorem sound_dropSession (sound : Sound load registered w) (now : UInt32)
    (client : ClientHandle) (entry : SessionChannel × UInt32) :
    Sound load registered (Server.dropSession now client w entry) where
  keyed := by
    intro channel id session found
    rw [get_dropSession] at found
    split at found
    · contradiction
    · exact sound.keyed channel id session found
  orders := sound.orders.dropSession now client entry
  routed := by
    intro handle id kept
    rw [view_dropSession] at kept
    have route := sound.routed handle id kept.2
    rw [routeOf_dropSession, if_neg, route]
    intro held
    obtain ⟨zone, rfl, owned⟩ := held
    exact kept.1 ⟨zone, rfl, owned, route⟩

theorem Alive.dropSession (alive : Alive load registered w) (now : UInt32)
    (client : ClientHandle) (entry : SessionChannel × UInt32) :
    Alive load registered (Server.dropSession now client w entry) := by
  intro id handle here
  rw [routeOf_dropSession] at here
  split at here
  · contradiction
  · next notMine =>
      rw [view_dropSession]
      exact ⟨fun h => notMine ⟨h.1, h.2.1, h.2.2.1⟩, alive id handle here⟩

theorem dropSessions (sound : Sound load registered w) (alive : Alive load registered w)
    (now : UInt32) (client : ClientHandle) (owned : List (SessionChannel × UInt32)) :
    let w' := owned.foldl (Server.dropSession now client) w
    Sound load registered w' ∧ Alive load registered w' := by
  induction owned generalizing w with
  | nil => exact ⟨sound, alive⟩
  | cons entry owned ih =>
      exact ih (sound_dropSession sound now client entry) (alive.dropSession now client entry)

end Handlers

/-! ### Runs -/

def registered (c : Cluster δ) : ZoneServerHandle → UInt32 → Prop :=
  fun handle id => (c.maps handle).Registered id

theorem registered_update (c : Cluster δ) (w : Server δ) (handle : ZoneServerHandle)
    (m : MapServer) :
    registered ⟨w, update c.maps handle m⟩ = update c.registered handle m.Registered := by
  funext other id
  by_cases here : other = handle
  · subst here
    simp only [registered, Function.update_self]
  · simp only [registered, Function.update_of_ne here]

structure Invariant (c : Cluster δ) : Prop where
  sound : Sound load c.registered c.world
  replies : ∀ handle, ∀ reply ∈ (c.maps handle).replies handle, IsReply reply

theorem agrees_iff {c : Cluster δ} (inv : Invariant load c) :
    Agrees inflate load c ↔ Alive load c.registered c.world := by
  have settled (now : UInt32) (sent : UInt64) (handle : ZoneServerHandle) :=
    drained_view inflate load (inv.sound.orders handle) now sent handle (c.maps handle)
  constructor
  · intro agrees id handle route
    obtain ⟨m, empty, kept⟩ := agrees.alive id handle route 0 0
    obtain ⟨m', empty', same⟩ := settled 0 0 handle
    obtain rfl := Option.some.inj (empty.symm.trans empty')
    exact (same id).mp kept
  · intro alive
    refine ⟨fun id handle route now sent => ?_, fun now sent handle m empty id kept => ?_⟩
    · obtain ⟨m, empty, same⟩ := settled now sent handle
      exact ⟨m, empty, (same id).mpr (alive id handle route)⟩
    · obtain ⟨m', empty', same⟩ := settled now sent handle
      obtain rfl := Option.some.inj (empty.symm.trans empty')
      have route := inv.sound.routed handle id ((same id).mp kept)
      cases here : c.world.sessions.get .zone id with
      | none => simp [routeOf, here] at route
      | some session => rfl

/-- A zone hello for a character with a row goes to a map server other than the one the
entry it takes over is routed to. -/
def TakesOverElsewhere (c : Cluster δ) : ClusterEvent → Prop
  | .hello _ _ packet =>
      ∀ hello, HelloPacket.parse packet.data = some hello →
        Server.helloChannel packet.header.connectionType = .zone → ∀ handle,
          c.world.zoneServerFor (Server.snapZone
            ((db.loadZoneSessionInfo hello.sessionId c.world.db).1.getD none)) = some handle →
              (load hello.sessionId).isSome ∧ routeOf c.world hello.sessionId ≠ some handle
  | _ => True

variable {inflate load}

variable {c c' : Cluster δ}

theorem step_hello {now : UInt32} {packet : BasePacket} (inv : Invariant load c)
    (alive : Alive load c.registered c.world)
    (taken : c.step db inflate load (.hello now client packet) = some c') :
    Invariant load c' ∧ (Alive load c'.registered c'.world ↔
      c.TakesOverElsewhere db load (.hello now client packet)) := by
  simp only [step] at taken
  split at taken
  · contradiction
  · next new =>
      cases taken
      simp only [Server.handleHello, TakesOverElsewhere]
      cases parsed : HelloPacket.parse packet.data with
      | none => exact ⟨inv, iff_of_true alive fun hello impossible => by contradiction⟩
      | some hello =>
          have fresh : c.world.sessions.ownerOf
              (Server.helloChannel packet.header.connectionType) hello.sessionId ≠
                some client.connSeq := fun owned => new ⟨hello, parsed, owned⟩
          -- The storage of the loaded row is not what the view looks at.
          have sound : Sound load c.registered { c.world with
              db := (db.loadZoneSessionInfo hello.sessionId c.world.db).2 } :=
            ⟨inv.sound.keyed, inv.sound.orders, inv.sound.routed⟩
          refine ⟨⟨sound.startSession now fresh _, inv.replies⟩, ?_⟩
          refine (alive_startSession sound alive now fresh _).trans ⟨?_, fun apart => ?_⟩
          · intro apart _ own
            cases own
            exact apart
          · exact apart hello rfl

theorem step_disconnect {now : UInt32} (inv : Invariant load c)
    (alive : Alive load c.registered c.world)
    (taken : c.step db inflate load (.disconnect now client) = some c') :
    Invariant load c' ∧ Alive load c'.registered c'.world := by
  cases taken
  obtain ⟨sound, alive⟩ := dropSessions inv.sound alive now client (c.world.owned client.connSeq)
  exact ⟨⟨sound, inv.replies⟩, alive⟩

theorem step_deliver {now : UInt32} {sent : UInt64} {handle : ZoneServerHandle}
    (inv : Invariant load c) (alive : Alive load c.registered c.world)
    (taken : c.step db inflate load (.deliver now sent handle) = some c') :
    Invariant load c' ∧ Alive load c'.registered c'.world := by
  simp only [step] at taken
  split at taken
  · contradiction
  · next sub rest queue =>
      have order := inv.sound.orders handle sub (by rw [queue]; exact List.mem_cons_self ..)
      obtain ⟨m, received, same, replied⟩ :=
        receive_order inflate load order now sent handle (c.maps handle)
      rw [received] at taken
      cases taken
      have unchanged : view load (update c.registered handle m.Registered)
          { c.world with outbound := update c.world.outbound handle rest } =
            view load c.registered c.world := by
        funext other
        by_cases here : other = handle
        · subst here
          have settled : m.Registered = settle load (c.registered other) sub := by
            funext id
            exact propext (same id)
          simp only [view, Function.update_self, queue, List.foldl_cons, settled]
        · simp only [view, Function.update_of_ne here]
      have moved := registered_update c
        { c.world with outbound := update c.world.outbound handle rest } handle m
      refine ⟨⟨⟨inv.sound.keyed, ?_, ?_⟩, ?_⟩, ?_⟩
      · intro other queued member
        by_cases here : other = handle
        · subst here
          simp only [Function.update_self] at member
          exact inv.sound.orders other queued (by rw [queue]; exact List.mem_cons_of_mem _ member)
        · simp only [Function.update_of_ne here] at member
          exact inv.sound.orders other queued member
      · rw [moved, unchanged]
        exact inv.sound.routed
      · intro other reply member
        by_cases here : other = handle
        · subst here
          simp only [Function.update_self] at member
          rcases replied with quiet | ⟨answer, isReply, more⟩
          · exact inv.replies other reply (quiet ▸ member)
          · rw [more, List.mem_append, List.mem_singleton] at member
            rcases member with before | rfl
            · exact inv.replies other reply before
            · exact isReply
        · simp only [Function.update_of_ne here] at member
          exact inv.replies other reply member
      · intro id other route
        rw [moved, unchanged]
        exact alive id other route

theorem step_answer {now : UInt32} {sent : UInt64} {handle : ZoneServerHandle}
    (inv : Invariant load c) (alive : Alive load c.registered c.world)
    (taken : c.step db inflate load (.answer now sent handle) = some c') :
    Invariant load c' ∧ Alive load c'.registered c'.world := by
  simp only [step] at taken
  split at taken
  · contradiction
  · next reply rest queue =>
      obtain ⟨stamp, id, built⟩ :=
        inv.replies handle reply (by rw [queue]; exact List.mem_cons_self ..)
      have frame := buildSessionEnd_frame built
      simp only [SubPacket.toBytes_sized frame.sized,
        Server.relayFrame_wrap db inflate now frame.sized frame.fits,
        relaySubPacket_error db (by decide) built] at taken
      cases taken
      have moved := registered_update c c.world handle
        { c.maps handle with replies := update (c.maps handle).replies handle rest }
      have unchanged := moved.trans (Function.update_eq_self handle c.registered)
      refine ⟨⟨unchanged ▸ inv.sound, ?_⟩, unchanged ▸ alive⟩
      intro other answer member
      by_cases here : other = handle
      · subst here
        simp only [Function.update_self] at member
        exact inv.replies other answer (by rw [queue]; exact List.mem_cons_of_mem _ member)
      · simp only [Function.update_of_ne here] at member
        exact inv.replies other answer member

theorem step_alive {e : ClusterEvent} (inv : Invariant load c)
    (alive : Alive load c.registered c.world) (taken : c.step db inflate load e = some c') :
    Invariant load c' ∧ (Alive load c'.registered c'.world ↔ c.TakesOverElsewhere db load e) := by
  cases e with
  | hello now client packet => exact step_hello db inv alive taken
  | disconnect now client =>
      obtain ⟨inv', alive'⟩ := step_disconnect db inv alive taken
      exact ⟨inv', iff_of_true alive' trivial⟩
  | deliver now sent handle =>
      obtain ⟨inv', alive'⟩ := step_deliver db inv alive taken
      exact ⟨inv', iff_of_true alive' trivial⟩
  | answer now sent handle =>
      obtain ⟨inv', alive'⟩ := step_answer db inv alive taken
      exact ⟨inv', iff_of_true alive' trivial⟩

def fresh (zoneRouting : UInt32 → Option ZoneServerHandle) (s : δ) : Cluster δ :=
  { world := { zoneRouting, db := s } }

theorem fresh_invariant (zoneRouting : UInt32 → Option ZoneServerHandle) (s : δ) :
    Invariant load (fresh zoneRouting s) where
  sound :=
    { keyed := by
        intro channel id session found
        cases channel with
        | zone => contradiction
        | chat => contradiction
      orders := by
        intro handle sub member
        contradiction
      routed := by
        intro handle id kept
        contradiction }
  replies := by
    intro handle reply member
    contradiction

theorem fresh_alive (zoneRouting : UInt32 → Option ZoneServerHandle) (s : δ) :
    Alive load (fresh zoneRouting s).registered (fresh zoneRouting s).world := by
  intro id handle route
  contradiction

variable (inflate load)

/-- The two registries agree throughout a run if and only if every zone hello of the run
that is routed finds the character's row on a map server other than the one the entry it
takes over is routed to. -/
theorem registries_agree_iff (zoneRouting : UInt32 → Option ZoneServerHandle) (s : δ)
    (es : List ClusterEvent) :
    Always (step db inflate load) (Agrees inflate load) (fresh zoneRouting s) es ↔
      EachStep (step db inflate load) (TakesOverElsewhere db load) (fresh zoneRouting s) es := by
  apply always_iff_eachStep (I := Invariant load)
  · intro c e c' inv agrees taken
    obtain ⟨inv', exactly⟩ := step_alive db inv ((agrees_iff inflate load inv).mp agrees) taken
    rw [agrees_iff inflate load inv', exactly]
  · intro c e c' inv agrees _ taken
    exact (step_alive db inv ((agrees_iff inflate load inv).mp agrees) taken).1
  · exact fresh_invariant zoneRouting s
  · exact (agrees_iff inflate load (fresh_invariant zoneRouting s)).mpr (fresh_alive zoneRouting s)

/-- Two logins of session 7, whose zone has one map server. -/
def twoLogins : List ClusterEvent :=
  [.hello 0 { connSeq := 1 } Server.helloSeven, .hello 0 { connSeq := 2 } Server.helloSeven]

def oneMapServer : Cluster Unit := fresh (fun zone => if zone = 166 then some 0 else none) ()

/-- The end of the first login reaches the map server behind the begin of the second. -/
theorem relogin_unregisters_session :
    ¬ Always (step Database.inZone166 (fun _ => none) fun _ => some ⟨166⟩)
      (Agrees (fun _ => none) fun _ => some ⟨166⟩) oneMapServer twoLogins := by
  intro agree
  have facts : ((run (step Database.inZone166 (fun _ => none) fun _ => some ⟨166⟩) oneMapServer
      twoLogins).map fun c => (routeOf c.world 7,
        (drained (fun _ => none) (fun _ => some ⟨166⟩) 0 0 c 0).map fun m =>
          decide (m.Registered 7))) = some (some 0, some false) := by decide
  obtain ⟨c, reached, same⟩ := Option.map_eq_some_iff.mp facts
  simp only [Prod.mk.injEq] at same
  obtain ⟨route, ended⟩ := same
  have agrees := always_iff_reached.mp agree twoLogins (List.prefix_refl _) c reached
  obtain ⟨m, empty, kept⟩ := agrees.alive 7 0 route 0 0
  rw [empty] at ended
  simp [kept] at ended

end Cluster
end Garlemald.Link
