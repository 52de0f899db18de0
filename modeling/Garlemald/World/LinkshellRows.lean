import Garlemald.Library.AutoTable
import Garlemald.Library.Table
import Garlemald.World.Data
import Mathlib.Data.List.Perm.Subperm

/-!
The stored linkshells and their members. A linkshell's name is a unique column, and
the rank of a member is stored by character and linkshell.
-/

namespace Garlemald.World
open Library

structure LinkshellRow where
  name : Text
  crestIcon : UInt16
  master : UInt32
  rank : UInt8
deriving DecidableEq

/-- An id of the table is a positive signed number of 64 bits. -/
structure LinkshellRows where
  linkshells : AutoTable LinkshellRow
  members : Table (UInt32 × UInt64) UInt8
  bounded : linkshells.last < 2 ^ 63
  unique : ∀ a b r s, linkshells.get a = some r → linkshells.get b = some s →
    r.name = s.name → a = b

namespace LinkshellRows

def empty : LinkshellRows := ⟨.empty, ∅, by decide, fun _ _ _ _ found => nomatch found⟩

def nameTaken (rows : LinkshellRows) (name : Text) : Bool :=
  rows.linkshells.any fun _ row => row.name = name

theorem nameTaken_iff {rows : LinkshellRows} {name : Text} :
    rows.nameTaken name = true ↔ ∃ id row, rows.linkshells.get id = some row ∧ row.name = name := by
  simp [nameTaken, AutoTable.any_eq_true]

/-- A row that the table takes: an id is left for it and no other row has its name. -/
def Accepts (rows : LinkshellRows) (name : Text) : Prop :=
  rows.linkshells.last + 1 < 2 ^ 63 ∧ ¬ rows.nameTaken name = true

instance (rows : LinkshellRows) (name : Text) : Decidable (rows.Accepts name) :=
  inferInstanceAs (Decidable (_ ∧ _))

def nextId (rows : LinkshellRows) : UInt64 := UInt64.ofNat (rows.linkshells.last + 1)

def insert (rows : LinkshellRows) (row : LinkshellRow) (accepted : rows.Accepts row.name) :
    LinkshellRows where
  linkshells := rows.linkshells.push row
  members := rows.members
  bounded := accepted.1
  unique a b r s one other same := by
    have free := accepted.2
    rw [nameTaken_iff] at free
    rw [AutoTable.get_push] at one other
    by_cases first : a = rows.linkshells.last + 1 <;> by_cases second : b = rows.linkshells.last + 1
    · rw [first, second]
    · rw [if_pos first, Option.some.injEq] at one
      rw [if_neg second] at other
      exact absurd ⟨b, s, other, by rw [one, same]⟩ free
    · rw [if_neg first] at one
      rw [if_pos second, Option.some.injEq] at other
      exact absurd ⟨a, r, one, by rw [other, same]⟩ free
    · rw [if_neg first] at one
      rw [if_neg second] at other
      exact rows.unique a b r s one other same

def byName (rows : LinkshellRows) (name : Text) : Option (Nat × LinkshellRow) :=
  rows.linkshells.find fun _ row => row.name = name

def changeCrest (rows : LinkshellRows) (id : UInt64) (crest : UInt16) : LinkshellRows where
  linkshells := rows.linkshells.update (fun key _ => key = id.toNat) fun row =>
    { row with crestIcon := crest }
  members := rows.members
  bounded := rows.bounded
  unique a b r s one other same := by
    rw [AutoTable.get_update, Option.map_eq_some_iff] at one other
    obtain ⟨r', one, rfl⟩ := one
    obtain ⟨s', other, rfl⟩ := other
    apply rows.unique a b r' s' one other
    split at same <;> split at same <;> exact same

def roster (rows : LinkshellRows) (id : UInt64) : List LinkshellMember :=
  let stored := rows.members.entries.filter fun entry => entry.1.2 = id
  (stored.map fun entry => ⟨entry.1.1, entry.1.2, entry.2⟩).mergeSort fun a b =>
    a.characterId ≤ b.characterId

def addPlayer (rows : LinkshellRows) (id : UInt64) (chara : UInt32) (rank : UInt8) :
    LinkshellRows :=
  { rows with members := rows.members.insert (chara, id) rank }

def removePlayer (rows : LinkshellRows) (id : UInt64) (chara : UInt32) : LinkshellRows :=
  { rows with members := rows.members.erase (chara, id) }

def setRank (rows : LinkshellRows) (id : UInt64) (chara : UInt32) (rank : UInt8) :
    LinkshellRows :=
  match rows.members.lookup (chara, id) with
  | some _ => { rows with members := rows.members.insert (chara, id) rank }
  | none => rows

variable {rows : LinkshellRows} {id : UInt64} {m : LinkshellMember}

theorem byName_some {name : Text} {key : Nat} {row : LinkshellRow}
    (found : rows.byName name = some (key, row)) :
    rows.linkshells.get key = some row ∧ row.name = name := by
  obtain ⟨stored, same⟩ := AutoTable.of_find_some found
  exact ⟨stored, of_decide_eq_true same⟩

theorem toNat_of_byName {name : Text} {key : Nat} {row : LinkshellRow}
    (found : rows.byName name = some (key, row)) : (UInt64.ofNat key).toNat = key := by
  have given := rows.linkshells.given _ (AutoTable.get_eq_some.mp (byName_some found).1)
  have fits := Nat.lt_of_le_of_lt given rows.bounded
  exact UInt64.toNat_ofNat_of_lt' (Nat.lt_trans fits (by decide))

theorem mem_roster :
    m ∈ rows.roster id ↔
      m.linkshellId = id ∧ rows.members.lookup (m.characterId, id) = some m.rank := by
  rw [roster, List.mem_mergeSort, List.mem_map, ← Option.mem_def, AList.mem_lookup_iff]
  constructor
  · intro listed
    obtain ⟨⟨⟨chara, key⟩, rank⟩, kept, rfl⟩ := listed
    obtain ⟨stored, same⟩ := List.mem_filter.mp kept
    have here : key = id := of_decide_eq_true same
    subst here
    exact ⟨rfl, stored⟩
  · intro stored
    obtain ⟨same, stored⟩ := stored
    subst same
    exact ⟨⟨(m.characterId, m.linkshellId), m.rank⟩, by simpa using stored, rfl⟩

theorem nodup_roster (rows : LinkshellRows) (id : UInt64) :
    ((rows.roster id).map (·.characterId)).Nodup := by
  have sorted := List.mergeSort_perm
    ((rows.members.entries.filter fun entry => entry.1.2 = id).map fun entry =>
      (⟨entry.1.1, entry.1.2, entry.2⟩ : LinkshellMember))
    fun a b => decide (a.characterId ≤ b.characterId)
  apply (sorted.map (·.characterId)).nodup_iff.mpr
  rw [List.map_map]
  have keys := List.pairwise_map.mp rows.members.nodupKeys
  apply List.pairwise_map.mpr
  apply (keys.filter _).imp_of_mem
  intro a b first second other same
  have one := of_decide_eq_true (List.mem_filter.mp first).2
  have two := of_decide_eq_true (List.mem_filter.mp second).2
  exact other (Prod.ext same (one.trans two.symm))

theorem perm_roster {members : List LinkshellMember} :
    members.Perm (rows.roster id) ↔
      (members.map (·.characterId)).Nodup ∧ ∀ m, m ∈ members ↔ m ∈ rows.roster id := by
  constructor
  · intro same
    exact ⟨(same.map _).nodup_iff.mpr (nodup_roster rows id), fun m => same.mem_iff⟩
  · intro same
    obtain ⟨once, same⟩ := same
    exact (List.perm_ext_iff_of_nodup once.of_map (nodup_roster rows id).of_map).mpr same

theorem mem_addPlayer {target : UInt64} {chara : UInt32} {rank : UInt8} :
    m ∈ (rows.addPlayer target chara rank).roster id ↔
      if id = target ∧ m.characterId = chara then m.linkshellId = id ∧ m.rank = rank
      else m ∈ rows.roster id := by
  simp only [mem_roster, addPlayer, Table.lookup_insert_if, Prod.mk.injEq,
    and_comm (a := m.characterId = chara)]
  by_cases hit : id = target ∧ m.characterId = chara
  · rw [if_pos hit, if_pos hit, Option.some.injEq, eq_comm (a := rank)]
  · rw [if_neg hit, if_neg hit]

theorem mem_removePlayer {target : UInt64} {chara : UInt32} :
    m ∈ (rows.removePlayer target chara).roster id ↔
      ¬ (id = target ∧ m.characterId = chara) ∧ m ∈ rows.roster id := by
  simp only [mem_roster, removePlayer, Table.lookup_erase_if, Prod.mk.injEq,
    and_comm (a := m.characterId = chara)]
  by_cases hit : id = target ∧ m.characterId = chara
  · simp [hit]
  · rw [if_neg hit, and_iff_right hit]

theorem linkshells_addPlayer (rows : LinkshellRows) (id : UInt64) (chara : UInt32) (rank : UInt8) :
    (rows.addPlayer id chara rank).linkshells = rows.linkshells := rfl

theorem linkshells_removePlayer (rows : LinkshellRows) (id : UInt64) (chara : UInt32) :
    (rows.removePlayer id chara).linkshells = rows.linkshells := rfl

theorem linkshells_setRank (rows : LinkshellRows) (id : UInt64) (chara : UInt32) (rank : UInt8) :
    (rows.setRank id chara rank).linkshells = rows.linkshells := by
  rw [setRank]
  split <;> rfl

theorem mem_setRank {target : UInt64} {chara : UInt32} {rank : UInt8} :
    m ∈ (rows.setRank target chara rank).roster id ↔
      if id = target ∧ m.characterId = chara then
        m.linkshellId = id ∧ m.rank = rank ∧ ∃ old ∈ rows.roster id, old.characterId = chara
      else m ∈ rows.roster id := by
  rw [setRank]
  cases stored : rows.members.lookup (chara, target) with
  | some former =>
      have same := @mem_addPlayer rows id m target chara rank
      rw [addPlayer] at same
      rw [same]
      by_cases hit : id = target ∧ m.characterId = chara
      · have present : ∃ old ∈ rows.roster id, old.characterId = chara :=
          ⟨⟨chara, id, former⟩, mem_roster.mpr ⟨rfl, by rw [hit.1]; exact stored⟩, rfl⟩
        rw [if_pos hit, if_pos hit, and_iff_left present]
      · rw [if_neg hit, if_neg hit]
  | none =>
      by_cases hit : id = target ∧ m.characterId = chara
      · rw [if_pos hit]
        have absent : ∀ old ∈ rows.roster id, old.characterId ≠ chara := by
          intro old listed same
          have found := (mem_roster.mp listed).2
          rw [same, hit.1, stored] at found
          cases found
        constructor
        · intro listed
          exact absurd hit.2 (absent m listed)
        · intro listed
          obtain ⟨_, _, old, present, same⟩ := listed
          exact absurd same (absent old present)
      · rw [if_neg hit]

end LinkshellRows

/-- A query of the linkshells, which is one statement. -/
inductive LinkshellQuery where
  | linkshellExists
  | createLinkshell
  | linkshellAddPlayer
  | linkshellRemovePlayer
  | linkshellChangeRank
  | changeLinkshellCrest
  | getLinkshellByName
  | getLsMembers
deriving DecidableEq, Repr

namespace LinkshellRows

def ask {α : Type} (broken : Bool) (value : LinkshellRows → α) : DbCall LinkshellRows α :=
  fun rows => if broken then (none, rows) else (some (value rows), rows)

/-- A query that writes, and writes nothing when it fails. -/
def write (broken : Bool) (edit : LinkshellRows → LinkshellRows) : DbCall LinkshellRows Unit :=
  fun rows => if broken then (none, rows) else (some (), edit rows)

/-- The storage while the queries of a set fail. The other tables are a parameter. -/
def storage (others : Database LinkshellRows) (fails : LinkshellQuery → Bool) :
    Database LinkshellRows :=
  { others with
    linkshellExists := fun name => ask (fails .linkshellExists) (·.nameTaken name)
    createLinkshell := fun name crest master rows =>
      if accepted : rows.Accepts name then
        if fails .createLinkshell then (none, rows)
        else (some rows.nextId, rows.insert ⟨name, crest, master, Linkshell.rankMaster⟩ accepted)
      else (none, rows)
    linkshellAddPlayer := fun lsId chara rank =>
      write (fails .linkshellAddPlayer) (·.addPlayer lsId chara rank)
    linkshellRemovePlayer := fun lsId chara =>
      write (fails .linkshellRemovePlayer) (·.removePlayer lsId chara)
    linkshellChangeRank := fun lsId chara rank =>
      write (fails .linkshellChangeRank) (·.setRank lsId chara rank)
    changeLinkshellCrest := fun lsId crest =>
      write (fails .changeLinkshellCrest) (·.changeCrest lsId crest)
    getLinkshellByName := fun groupId name => ask (fails .getLinkshellByName) fun rows =>
      (rows.byName name).map fun found =>
        Linkshell.new (UInt64.ofNat found.1) groupId found.2.name found.2.crestIcon found.2.master
          Linkshell.rankMaster
    getLsMembers := fun lsId => ask (fails .getLsMembers) (·.roster lsId) }

end LinkshellRows
end Garlemald.World
