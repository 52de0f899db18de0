import Garlemald.Library.Utf8
import Mathlib.Logic.Function.Basic

/-!
Sessions, groups and the storage of the world server. A session belongs to one
connection, told apart by its sequence number, and a map server is known by the
handle of its link. The storage is a parameter: every call returns a value or an
error, and may have changed the stored state either way.
-/

namespace Garlemald.World
open Library

inductive SessionChannel where
  | zone
  | chat
deriving DecidableEq, Repr

structure ClientHandle where
  id : UInt32 := 0
  connSeq : UInt64
deriving DecidableEq, Repr

abbrev ZoneServerHandle := Nat

structure SessionState where
  characterName : Text := []
  currentZoneId : UInt32 := 0
  activeLinkshellName : Text := []
  routing1 : Option ZoneServerHandle := none
  routing2 : Option ZoneServerHandle := none
deriving DecidableEq, Repr

structure Session where
  sessionId : UInt32
  channel : SessionChannel
  client : ClientHandle
  state : SessionState := {}
deriving DecidableEq, Repr

def partyType : UInt16 := 0x2711

def linkshellType : UInt16 := 0x2712

structure GroupHeader where
  groupId : UInt64
  groupType : UInt16
  maxMembers : UInt16
deriving DecidableEq, Repr

structure Party where
  header : GroupHeader
  owner : UInt32
  leader : UInt32
  members : List UInt32
deriving DecidableEq, Repr

namespace Party

def maxMembers : UInt16 := 8

def new (groupId : UInt64) (owner : UInt32) : Party :=
  { header := { groupId, groupType := partyType, maxMembers }
    owner, leader := owner, members := [owner] }

def memberCount (p : Party) : Nat := p.members.length

def addMember (p : Party) (sessionId : UInt32) : Party :=
  if sessionId ∈ p.members then p else { p with members := p.members ++ [sessionId] }

/-- The first remaining member succeeds a leader who is removed. -/
def removeMember (p : Party) (sessionId : UInt32) : Party × Bool :=
  if sessionId ∈ p.members then
    let members := p.members.erase sessionId
    ({ p with members, leader := if p.leader = sessionId then members.head?.getD 0 else p.leader },
      true)
  else (p, false)

end Party

structure LinkshellMember where
  characterId : UInt32
  linkshellId : UInt64
  rank : UInt8
deriving DecidableEq, Repr

structure Linkshell where
  header : GroupHeader
  dbId : UInt64
  name : Text
  crest : UInt16
  master : UInt32
  rank : UInt8
  members : List LinkshellMember
deriving DecidableEq, Repr

namespace Linkshell

def maxMembers : UInt16 := 128

def rankMaster : UInt8 := 0x0A

def rankMember : UInt8 := 0x01

def new (dbId groupId : UInt64) (name : Text) (crest : UInt16) (master : UInt32)
    (rank : UInt8) : Linkshell :=
  { header := { groupId, groupType := linkshellType, maxMembers }
    dbId, name, crest, master, rank, members := [] }

end Linkshell

structure ZoneSessionInfo where
  characterName : Text
  currentZoneId : UInt32
  activeLinkshell : Text
deriving DecidableEq, Repr

/-- A call of the storage; `none` is its error. -/
abbrev DbCall (δ α : Type) := δ → Option α × δ

structure Database (δ : Type) where
  loadZoneSessionInfo : UInt32 → DbCall δ (Option ZoneSessionInfo)
  setActiveLs : UInt32 → Text → DbCall δ Unit
  linkshellExists : Text → DbCall δ Bool
  createLinkshell : Text → UInt16 → UInt32 → DbCall δ UInt64
  linkshellAddPlayer : UInt64 → UInt32 → UInt8 → DbCall δ Unit
  linkshellRemovePlayer : UInt64 → UInt32 → DbCall δ Unit
  linkshellChangeRank : UInt64 → UInt32 → UInt8 → DbCall δ Unit
  changeLinkshellCrest : UInt64 → UInt16 → DbCall δ Unit
  getLinkshellByName : UInt64 → Text → DbCall δ (Option Linkshell)
  getLsMembers : UInt64 → DbCall δ (List LinkshellMember)
  characterIdByName : Text → DbCall δ (Option UInt32)

/-- A storage without linkshells, in which every character stands in zone 166. -/
def Database.inZone166 : Database Unit where
  loadZoneSessionInfo _ s := (some (some ⟨[], 166, []⟩), s)
  setActiveLs _ _ s := (some (), s)
  linkshellExists _ s := (some false, s)
  createLinkshell _ _ _ s := (some 0, s)
  linkshellAddPlayer _ _ _ s := (some (), s)
  linkshellRemovePlayer _ _ s := (some (), s)
  linkshellChangeRank _ _ _ s := (some (), s)
  changeLinkshellCrest _ _ s := (some (), s)
  getLinkshellByName _ _ s := (some none, s)
  getLsMembers _ s := (some [], s)
  characterIdByName _ s := (some none, s)

/-- A storage that answers nothing. -/
def Database.unavailable (δ : Type) : Database δ where
  loadZoneSessionInfo _ s := (none, s)
  setActiveLs _ _ s := (none, s)
  linkshellExists _ s := (none, s)
  createLinkshell _ _ _ s := (none, s)
  linkshellAddPlayer _ _ _ s := (none, s)
  linkshellRemovePlayer _ _ s := (none, s)
  linkshellChangeRank _ _ _ s := (none, s)
  changeLinkshellCrest _ _ s := (none, s)
  getLinkshellByName _ _ s := (none, s)
  getLsMembers _ s := (none, s)
  characterIdByName _ s := (none, s)

/-! ### Registry -/

/-- Live sessions by channel and id, and the connections whose map-side end is outstanding. -/
structure SessionRegistry where
  zone : UInt32 → Option Session := fun _ => none
  chat : UInt32 → Option Session := fun _ => none
  idToName : UInt32 → Option Text := fun _ => none
  pendingSessionEnds : UInt32 → Option UInt64 := fun _ => none

namespace SessionRegistry

open Function (update)

def get (r : SessionRegistry) (channel : SessionChannel) (id : UInt32) : Option Session :=
  match channel with
  | .zone => r.zone id
  | .chat => r.chat id

def put (r : SessionRegistry) (channel : SessionChannel) (id : UInt32) (entry : Option Session) :
    SessionRegistry :=
  match channel with
  | .zone => { r with zone := update r.zone id entry }
  | .chat => { r with chat := update r.chat id entry }

def add (r : SessionRegistry) (channel : SessionChannel) (id : UInt32) (session : Session) :
    SessionRegistry :=
  let r := r.put channel id (some session)
  if session.state.characterName = [] then r
  else { r with idToName := update r.idToName id (some session.state.characterName) }

def remove (r : SessionRegistry) (channel : SessionChannel) (id : UInt32) : SessionRegistry :=
  r.put channel id none

/-- Drop the entry only if it belongs to the connection with the given sequence number. -/
def removeIf (r : SessionRegistry) (channel : SessionChannel) (id : UInt32)
    (expectedConnSeq : UInt64) : SessionRegistry :=
  match r.get channel id with
  | some session => if session.client.connSeq = expectedConnSeq then r.remove channel id else r
  | none => r

def markPendingEnd (r : SessionRegistry) (sessionId : UInt32) (connSeq : UInt64) :
    SessionRegistry :=
  { r with pendingSessionEnds := update r.pendingSessionEnds sessionId (some connSeq) }

def takePendingEnd (r : SessionRegistry) (sessionId : UInt32) :
    Option UInt64 × SessionRegistry :=
  (r.pendingSessionEnds sessionId,
    { r with pendingSessionEnds := update r.pendingSessionEnds sessionId none })

def ownerOf (r : SessionRegistry) (channel : SessionChannel) (id : UInt32) : Option UInt64 :=
  (r.get channel id).map (·.client.connSeq)

theorem get_put (r : SessionRegistry) (channel other : SessionChannel) (id key : UInt32)
    (entry : Option Session) :
    (r.put channel id entry).get other key =
      if other = channel ∧ key = id then entry else r.get other key := by
  cases channel <;> cases other <;> simp [put, get, Function.update_apply]

theorem ownerOf_put (r : SessionRegistry) (channel other : SessionChannel) (id key : UInt32)
    (entry : Option Session) :
    (r.put channel id entry).ownerOf other key =
      if other = channel ∧ key = id then entry.map (·.client.connSeq) else r.ownerOf other key := by
  show ((r.put channel id entry).get other key).map _ = _
  rw [get_put]
  split <;> rfl

@[simp] theorem pendingSessionEnds_put (r : SessionRegistry) (channel : SessionChannel)
    (id : UInt32) (entry : Option Session) :
    (r.put channel id entry).pendingSessionEnds = r.pendingSessionEnds := by
  cases channel <;> rfl

theorem add_nameless (r : SessionRegistry) (channel : SessionChannel) (id : UInt32)
    {session : Session} (nameless : session.state.characterName = []) :
    r.add channel id session = r.put channel id (some session) := if_pos nameless

theorem add_named (r : SessionRegistry) (channel : SessionChannel) (id : UInt32)
    {session : Session} (named : session.state.characterName ≠ []) :
    r.add channel id session =
      let r := r.put channel id (some session)
      { r with idToName := update r.idToName id (some session.state.characterName) } :=
  if_neg named

theorem get_add (r : SessionRegistry) (channel other : SessionChannel) (id key : UInt32)
    (session : Session) :
    (r.add channel id session).get other key =
      if other = channel ∧ key = id then some session else r.get other key := by
  rw [← get_put]
  by_cases named : session.state.characterName = []
  · rw [add_nameless r channel id named]
  · rw [add_named r channel id named]
    cases other <;> rfl

@[simp] theorem pendingSessionEnds_add (r : SessionRegistry) (channel : SessionChannel)
    (id : UInt32) (session : Session) :
    (r.add channel id session).pendingSessionEnds = r.pendingSessionEnds := by
  by_cases named : session.state.characterName = []
  · rw [add_nameless r channel id named, pendingSessionEnds_put]
  · rw [add_named r channel id named]
    exact pendingSessionEnds_put ..

theorem get_remove (r : SessionRegistry) (channel other : SessionChannel) (id key : UInt32) :
    (r.remove channel id).get other key =
      if other = channel ∧ key = id then none else r.get other key :=
  get_put ..

@[simp] theorem pendingSessionEnds_remove (r : SessionRegistry) (channel : SessionChannel)
    (id : UInt32) : (r.remove channel id).pendingSessionEnds = r.pendingSessionEnds :=
  pendingSessionEnds_put ..

theorem removeIf_cases (r : SessionRegistry) (channel : SessionChannel) (id : UInt32)
    (expectedConnSeq : UInt64) :
    (r.removeIf channel id expectedConnSeq = r.remove channel id ∧
        ∃ session, r.get channel id = some session ∧ session.client.connSeq = expectedConnSeq) ∨
      (r.removeIf channel id expectedConnSeq = r ∧
        ¬ ∃ session, r.get channel id = some session ∧
          session.client.connSeq = expectedConnSeq) := by
  rw [removeIf]
  cases here : r.get channel id with
  | none => exact .inr ⟨rfl, by rintro ⟨session, found, -⟩; contradiction⟩
  | some session =>
      by_cases mine : session.client.connSeq = expectedConnSeq
      · exact .inl ⟨if_pos mine, session, rfl, mine⟩
      · refine .inr ⟨if_neg mine, ?_⟩
        rintro ⟨session', found, own⟩
        exact mine (Option.some.inj found ▸ own)

theorem get_removeIf (r : SessionRegistry) (channel other : SessionChannel) (id key : UInt32)
    (expectedConnSeq : UInt64) :
    (r.removeIf channel id expectedConnSeq).get other key =
      if other = channel ∧ key = id ∧
          ∃ session, r.get channel id = some session ∧ session.client.connSeq = expectedConnSeq
      then none else r.get other key := by
  obtain ⟨gone, mine⟩ | ⟨same, foreign⟩ := r.removeIf_cases channel id expectedConnSeq
  · rw [gone, get_remove]
    simp only [mine, and_true]
  · rw [same, if_neg fun own => foreign own.2.2]

@[simp] theorem pendingSessionEnds_removeIf (r : SessionRegistry) (channel : SessionChannel)
    (id : UInt32) (expectedConnSeq : UInt64) :
    (r.removeIf channel id expectedConnSeq).pendingSessionEnds = r.pendingSessionEnds := by
  obtain ⟨gone, -⟩ | ⟨same, -⟩ := r.removeIf_cases channel id expectedConnSeq
  · rw [gone, pendingSessionEnds_remove]
  · rw [same]

@[simp] theorem get_markPendingEnd (r : SessionRegistry) (channel : SessionChannel)
    (id key : UInt32) (connSeq : UInt64) :
    (r.markPendingEnd id connSeq).get channel key = r.get channel key := by
  cases channel <;> rfl

@[simp] theorem ownerOf_takePendingEnd (r : SessionRegistry) (channel : SessionChannel)
    (id key : UInt32) : (r.takePendingEnd id).2.ownerOf channel key = r.ownerOf channel key := by
  cases channel <;> rfl

end SessionRegistry
end Garlemald.World
