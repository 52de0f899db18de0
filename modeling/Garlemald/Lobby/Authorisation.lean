import Garlemald.Library.Runs
import Garlemald.Lobby.Confinement
import Garlemald.Lobby.Requests
import Mathlib.Data.List.Induction

/-!
What a connection may write. A connection is bound to the user its last session
packet found, and to none before that or after a session that is not valid. The
handlers ask for no bound user, and the scratch of a reservation outlives the
binding it was made under; where these do not come into play, a connection writes
rows of its bound user only.
-/

namespace Garlemald.Lobby
open Library Garlemald.Common

/-- A connection with the database it shares. A closed one receives nothing. -/
structure Connection where
  session : LobbySession := {}
  db : Database
  closed : Bool := false

/-- What happens to a connection: the handshake, a subpacket of a decrypted packet
that arrives at a time, a packet that cannot be read, or a change of the database by
others. -/
inductive Input where
  | handshake (packet : BasePacket)
  | message (now : Nat) (drift : Database → Database) (sub : SubPacket)
  | unreadable
  | elsewhere (db : Database)

namespace Connection

def found (c : Connection) : Input → Database
  | .message _ drift _ => drift c.db
  | .elsewhere db => db
  | _ => c.db

variable (p : PacketProcessor)

/-- Subpackets are only read once the handshake has set a key. -/
def listens (c : Connection) : Bool := !c.closed && c.session.blowfish.isSome

def after (c : Connection) (e : Input) : Connection :=
  match e with
  | .handshake packet =>
      if c.closed then c
      else match p.processStartSession c.session packet with
        | none => { c with closed := true }
        | some (session, _) => { c with session }
  | .message now drift sub =>
      if c.listens then
        let handled := p.dispatch now drift c.session c.db sub
        ⟨handled.session, handled.db, handled.replies.isNone⟩
      else { c with db := drift c.db }
  | .unreadable => { c with closed := true }
  | .elsewhere db => { c with db }

def step (c : Connection) (e : Input) : Option Connection := some (c.after p e)

def asked (c : Connection) : Input → Option Operation
  | .message _ _ sub => if c.listens then p.query c.session c.db sub else none
  | _ => none

def WritesOwn (c : Connection) (e : Input) : Prop :=
  Database.Confined c.session.currentUserId (c.found e) (c.after p e).db

/-- The query of the input, if it makes one, is made for a valid user, or writes
nothing; and a character that is made belongs to that user. -/
def AsksForOwn (c : Connection) (e : Input) : Prop :=
  ∀ op, c.asked p e = some op → (c.found e).Permitted op

theorem after_db (c : Connection) (e : Input) :
    (c.after p e).db = match c.asked p e with
      | some op => (c.found e).perform op
      | none => c.found e := by
  cases e with
  | handshake packet =>
      simp only [after, asked, found]
      split
      · rfl
      · split <;> rfl
  | message now drift sub =>
      simp only [after, asked, found]
      by_cases listening : c.listens = true
      · simp only [listening, if_true]
        exact p.dispatch_db now drift c.session c.db sub
      · simp only [listening]
        rfl
  | unreadable => rfl
  | elsewhere db => rfl

theorem asked_user {c : Connection} {e : Input} {op : Operation} (asks : c.asked p e = some op) :
    op.user = c.session.currentUserId := by
  cases e with
  | message now drift sub =>
      rw [asked] at asks
      split at asks
      · exact p.query_user asks
      · cases asks
  | handshake packet => cases asks
  | unreadable => cases asks
  | elsewhere db => cases asks

theorem writesOwn_iff (c : Connection) (e : Input) : c.WritesOwn p e ↔ c.AsksForOwn p e := by
  rw [WritesOwn, AsksForOwn, after_db]
  cases asks : c.asked p e with
  | none =>
      exact iff_of_true (Database.Confined.refl _ _) fun op impossible => nomatch impossible
  | some op =>
      rw [← asked_user p asks]
      simp only [Database.confined_perform, Option.some.injEq, forall_eq']

/-- In every run of a connection, over any database and with any changes of it by
others: all it writes is confined to the user it is bound to at the time exactly when
each of its queries is made for a valid user or writes nothing, and makes only
characters of that user. -/
theorem connection_authorised_iff (db : Database) (es : List Input) :
    EachStep (step p) (WritesOwn p) { db } es ↔ EachStep (step p) (AsksForOwn p) { db } es :=
  EachStep.congr fun c e _ _ => writesOwn_iff p c e

/-- The only way a connection is bound: a session packet whose token is the one of a
login session that has not expired. -/
theorem after_user (c : Connection) (e : Input) :
    (c.after p e).session.currentUserId = c.session.currentUserId ∨
      ∃ now drift sub s, e = .message now drift sub ∧ SessionPacket.parse sub.data = some s ∧
        (c.after p e).session.currentUserId = (drift c.db).userIdFromSession s.session now := by
  cases e with
  | unreadable => exact Or.inl rfl
  | elsewhere db => exact Or.inl rfl
  | handshake packet =>
      left
      simp only [after]
      split
      · rfl
      · rw [PacketProcessor.processStartSession]
        cases SecurityHandshakePacket.parse packet.data <;> rfl
  | message now drift sub =>
      simp only [after]
      by_cases listening : c.listens = true
      · simp only [listening, if_true]
        obtain kept | ⟨s, parsed, bound⟩ := p.dispatch_user now drift c.session c.db sub
        · exact Or.inl kept
        · exact Or.inr ⟨now, drift, sub, s, rfl, parsed, bound⟩
      · left
        simp only [listening]
        rfl

/-- Whatever happens to a connection, it has the user it began with, or the user that the login
session of a session packet was of when the packet came. -/
theorem bound_by_session (start : Connection) (es : List Input) :
    let c := es.foldl (after p) start
    c.session.currentUserId = start.session.currentUserId ∨
      ∃ front now drift sub back s, es = front ++ .message now drift sub :: back ∧
        SessionPacket.parse sub.data = some s ∧ c.session.currentUserId =
          (drift (front.foldl (after p) start).db).userIdFromSession s.session now := by
  induction es using List.reverseRecOn with
  | nil => exact .inl rfl
  | append_singleton es e ih =>
      simp only [List.foldl_append, List.foldl_cons, List.foldl_nil]
      obtain kept | ⟨now, drift, sub, s, rfl, parsed, found⟩ :=
        after_user p (es.foldl (after p) start) e
      · rw [kept]
        refine ih.imp_right ?_
        rintro ⟨front, now, drift, sub, back, s, rfl, rest⟩
        exact ⟨front, now, drift, sub, back ++ [e], s, by simp, rest⟩
      · exact .inr ⟨es, now, drift, sub, [], s, rfl, parsed, found⟩

def inputs (now : Nat) (c : Connection) (packet : BasePacket) : List Input :=
  if PacketProcessor.isTestTicket packet then [.handshake packet]
  else match c.session.blowfish with
    | none => []
    | some key =>
        match (do (← p.decrypt key packet).getSubpackets) with
        | .ok subs => subs.map (.message now id)
        | _ => [.unreadable]

def ofHandled (handled : Handled) : Connection :=
  ⟨handled.session, handled.db, handled.replies.isNone⟩

theorem run_closed (now : Nat) (session : LobbySession) (db : Database)
    (subs : List SubPacket) :
    run (step p) ⟨session, db, true⟩ (subs.map (.message now id)) = some ⟨session, db, true⟩ := by
  induction subs with
  | nil => rfl
  | cons sub subs ih => exact ih

theorem run_dispatchAll (now : Nat) {session : LobbySession} (db : Database) {key : Bytes}
    (keyed : session.blowfish = some key) (subs : List SubPacket) (replies : List Reply) :
    run (step p) ⟨session, db, false⟩ (subs.map (.message now id)) =
      some (ofHandled (p.dispatchAll now subs session db replies)) := by
  induction subs generalizing session db replies with
  | nil => rfl
  | cons sub subs ih =>
      have first : (Connection.mk session db false).after p (.message now id sub) =
          ofHandled (p.dispatch now id session db sub) := by
        simp [after, listens, keyed, ofHandled]
      rw [List.map_cons, run, List.foldlM_cons, step, first, PacketProcessor.dispatchAll]
      cases outcome : (p.dispatch now id session db sub).replies with
      | none =>
          simp only [ofHandled, outcome]
          exact run_closed p now _ _ subs
      | some more =>
          have going : ofHandled (p.dispatch now id session db sub) =
              ⟨(p.dispatch now id session db sub).session,
                (p.dispatch now id session db sub).db, false⟩ := by
            simp [ofHandled, outcome]
          simp only [going]
          apply ih
          rw [p.dispatch_blowfish, keyed]

theorem process_run (now : Nat) {c : Connection} (going : c.closed = false)
    (packet : BasePacket) :
    run (step p) c (c.inputs p now packet) =
      some (ofHandled (p.process now c.session c.db packet)) := by
  obtain ⟨session, db, closed⟩ := c
  simp only at going
  subst going
  rw [inputs, PacketProcessor.process]
  split
  · rw [run, List.foldlM_cons, step, after]
    cases p.processStartSession session packet <;> rfl
  · simp only
    cases keyed : session.blowfish with
    | none => rfl
    | some key =>
        simp only
        cases (do (← p.decrypt key packet).getSubpackets) with
        | ok subs => exact run_dispatchAll p now db keyed subs []
        | err e => rfl
        | panic => rfl

def plain : PacketProcessor where
  worlds := [⟨1, [], 0, []⟩]
  md5 := id
  decrypt _ packet := .ok packet
  decode _ := none

def testTicket : BasePacket := ⟨{ packetSize := 0x288 }, zeros 0x34 ++ 0x54 :: zeros 0x243⟩

/-- The reservation of the name A on world 1. -/
def reserveA : SubPacket where
  header := { type := 3 }
  gameMessage := { opcode := 0x0B }
  data := zeros 17 ++ [1, 1, 0, 65] ++ zeros (31 + 0x190)

set_option maxRecDepth 4000 in
theorem testTicket_parsed : SecurityHandshakePacket.parse testTicket.data = some ⟨['T'], 0⟩ := by
  decide

set_option maxRecDepth 4000 in
theorem reserveA_parsed : CharacterModifyPacket.parse reserveA.data =
    some ⟨0, 0, 0, 0, 1, 1, ['A'], []⟩ := by
  decide

def emptyDatabase : Database := ⟨.empty, .empty, ∅, ∅, ∅, ∅, ∅, []⟩

def keyed : LobbySession := { blowfish := some (plain.generateBlowfishKey ['T'] 0) }

theorem keyed_handshake : Connection.after plain { db := emptyDatabase } (.handshake testTicket) =
    { session := keyed, db := emptyDatabase } := by
  simp only [after, PacketProcessor.processStartSession, testTicket_parsed]
  rfl

theorem keyed_asks {sub : SubPacket} (message : sub.header.type = subpacketTypeGamemessage)
    (request : sub.gameMessage.opcode.toNat = 0x0B)
    (parsed : CharacterModifyPacket.parse sub.data = some ⟨0, 0, 0, 0, 1, 1, ['A'], []⟩) :
    Connection.asked plain { session := keyed, db := emptyDatabase } (.message 0 id sub) =
      some (.reserve 0 0 1 ['A']) := by
  have asks : plain.query keyed emptyDatabase sub = some (.reserve 0 0 1 ['A']) := by
    rw [PacketProcessor.query, if_pos ⟨message, request⟩, PacketProcessor.requested, parsed]
    rfl
  rw [asked, asks]
  rfl

theorem unbound_reserves : ¬ EachStep (step plain) (WritesOwn plain) { db := emptyDatabase }
    [.handshake testTicket, .message 0 id reserveA] := by
  intro h
  obtain ⟨_, later⟩ := h _ rfl
  rw [keyed_handshake] at later
  obtain ⟨writes, _⟩ := later _ rfl
  have permitted := (writesOwn_iff plain _ _).mp writes _ (keyed_asks rfl rfl reserveA_parsed)
  obtain valid | reserved := permitted
  · exact valid rfl
  · cases reserved

end Connection
end Garlemald.Lobby
