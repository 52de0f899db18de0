import Garlemald.World.Data

/-!
The managers of parties and linkshells. A party is kept under the session id of
its owner; nothing maps a member back to the party it is in. A linkshell is
cached by its database id and found by its name.
-/

namespace Garlemald.World
open Library
open Function (update)

structure PartyManager where
  parties : UInt32 → Option Party := fun _ => none

namespace PartyManager

def getParty (m : PartyManager) (sessionId : UInt32) : Option Party := m.parties sessionId

/-- A new party takes the next group id; the second result is the id after it. -/
def ensureParty (m : PartyManager) (nextGroupId : UInt64) (owner : UInt32) :
    PartyManager × UInt64 :=
  match m.parties owner with
  | some _ => (m, nextGroupId)
  | none =>
      ({ parties := update m.parties owner (some (Party.new nextGroupId owner)) }, nextGroupId + 1)

def addMember (m : PartyManager) (owner newMember : UInt32) : PartyManager :=
  match m.parties owner with
  | some p => { parties := update m.parties owner (some (p.addMember newMember)) }
  | none => m

def removeMember (m : PartyManager) (owner removed : UInt32) : PartyManager × Bool :=
  match m.parties owner with
  | some p =>
      ({ parties := update m.parties owner (some (p.removeMember removed).1) },
        (p.removeMember removed).2)
  | none => (m, false)

def disband (m : PartyManager) (owner : UInt32) : PartyManager :=
  { parties := update m.parties owner none }

end PartyManager

structure LinkshellManager where
  cache : UInt64 → Option Linkshell := fun _ => none
  byName : Text → Option UInt64 := fun _ => none

namespace LinkshellManager

variable {δ : Type} (db : Database δ)

def isWhitespaceChar (c : Char) : Bool :=
  (9 ≤ c.toNat ∧ c.toNat ≤ 13) ∨ c.toNat = 0x20 ∨ c.toNat = 0x85 ∨ c.toNat = 0xA0 ∨
    c.toNat = 0x1680 ∨ (0x2000 ≤ c.toNat ∧ c.toNat ≤ 0x200A) ∨ c.toNat = 0x2028 ∨
    c.toNat = 0x2029 ∨ c.toNat = 0x202F ∨ c.toNat = 0x205F ∨ c.toNat = 0x3000

/-- 0 is success, 1 a name that is taken, 2 a banned name, 3 a failed lookup. -/
def canCreateLinkshell (name : Text) (s : δ) : UInt32 × δ :=
  if name.all isWhitespaceChar then (2, s)
  else
    let (found, s) := db.linkshellExists name s
    (match found with
      | some true => 1
      | some false => 0
      | none => 3, s)

/-- The result is `none` on an error of the storage. -/
def createLinkshell (m : LinkshellManager) (nextGroupId : UInt64) (name : Text) (crest : UInt16)
    (master : UInt32) (s : δ) : Option (Option Linkshell) × LinkshellManager × UInt64 × δ :=
  match db.createLinkshell name crest master s with
  | (none, s) => (none, m, nextGroupId, s)
  | (some dbId, s) =>
      if dbId = 0 then (some none, m, nextGroupId, s)
      else match db.linkshellAddPlayer dbId master Linkshell.rankMaster s with
        | (none, s) => (none, m, nextGroupId, s)
        | (some _, s) =>
            let fresh := Linkshell.new dbId nextGroupId name crest master Linkshell.rankMaster
            let ls := { fresh with members := [⟨master, dbId, Linkshell.rankMaster⟩] }
            (some (some ls),
              { cache := update m.cache dbId (some ls)
                byName := update m.byName name (some dbId) },
              nextGroupId + 1, s)

def changeLinkshellCrest (m : LinkshellManager) (lsName : Text) (crest : UInt16) (s : δ) :
    Option Unit × LinkshellManager × δ :=
  match m.byName lsName with
  | none => (some (), m, s)
  | some id =>
      match db.changeLinkshellCrest id crest s with
      | (none, s) => (none, m, s)
      | (some _, s) =>
          (some (), { m with cache := update m.cache id ((m.cache id).map ({ · with crest })) }, s)

def getLinkshell (m : LinkshellManager) (name : Text) : Option Linkshell :=
  (m.byName name).bind m.cache

/-- A linkshell that is not cached takes a group id even when the storage has none. -/
def getOrLoadLinkshell (m : LinkshellManager) (nextGroupId : UInt64) (name : Text) (s : δ) :
    Option (Option Linkshell) × LinkshellManager × UInt64 × δ :=
  match m.getLinkshell name with
  | some ls => (some (some ls), m, nextGroupId, s)
  | none =>
      match db.getLinkshellByName nextGroupId name s with
      | (none, s) => (none, m, nextGroupId + 1, s)
      | (some none, s) => (some none, m, nextGroupId + 1, s)
      | (some (some found), s) =>
          let (members, s) := db.getLsMembers found.dbId s
          let ls := { found with members := members.getD [] }
          (some (some ls),
            { cache := update m.cache ls.dbId (some ls)
              byName := update m.byName ls.name (some ls.dbId) }, nextGroupId + 1, s)

def getCachedById (m : LinkshellManager) (lsId : UInt64) : Option Linkshell := m.cache lsId

def addMember (m : LinkshellManager) (lsId : UInt64) (charaId : UInt32) (rank : UInt8) (s : δ) :
    Option Unit × LinkshellManager × δ :=
  match db.linkshellAddPlayer lsId charaId rank s with
  | (none, s) => (none, m, s)
  | (some _, s) =>
      (some (), { m with cache := update m.cache lsId ((m.cache lsId).map fun ls =>
        { ls with members := ls.members.filter (·.characterId ≠ charaId) ++
            [⟨charaId, lsId, rank⟩] }) }, s)

def removeMember (m : LinkshellManager) (lsId : UInt64) (charaId : UInt32) (s : δ) :
    Option Unit × LinkshellManager × δ :=
  match db.linkshellRemovePlayer lsId charaId s with
  | (none, s) => (none, m, s)
  | (some _, s) =>
      (some (), { m with cache := update m.cache lsId ((m.cache lsId).map fun ls =>
        { ls with members := ls.members.filter (·.characterId ≠ charaId) }) }, s)

/-- The rank of the first member with that id. -/
def setRank (charaId : UInt32) (rank : UInt8) : List LinkshellMember → List LinkshellMember
  | [] => []
  | member :: members =>
      if member.characterId = charaId then { member with rank } :: members
      else member :: setRank charaId rank members

def changeRank (m : LinkshellManager) (lsId : UInt64) (charaId : UInt32) (rank : UInt8) (s : δ) :
    Option Unit × LinkshellManager × δ :=
  match db.linkshellChangeRank lsId charaId rank s with
  | (none, s) => (none, m, s)
  | (some _, s) =>
      (some (), { m with cache := update m.cache lsId ((m.cache lsId).map fun ls =>
        { ls with members := setRank charaId rank ls.members }) }, s)

end LinkshellManager
end Garlemald.World
