import Garlemald.Library.Runs
import Garlemald.Lobby.Database

/-!
Runs of the queries that change characters, by any number of users. The check for
a reserved name does not see the characters already made, the check for a new
name looks at the server the request names, and making does not look at the state
of the row: these are the ways in which a name comes to be held twice.
-/

namespace Garlemald.Lobby
open Library

namespace Database

def step (db : Database) (e : Operation) : Option Database := some (db.perform e)

/-- A character other than `id` that is not deleted has the name on the server. -/
def HeldByOther (db : Database) (id : Nat) (serverId : UInt32) (name : Text) : Prop :=
  ∃ other row, other ≠ id ∧ db.characters.get other = some row ∧ row.state ≠ .deleted ∧
    row.serverId = serverId ∧ row.name = name

/-- No two characters that are not deleted have one name on one server. -/
def UniqueNames (db : Database) : Prop :=
  ∀ id row, db.characters.get id = some row → row.state ≠ .deleted →
    ¬ db.HeldByOther id row.serverId row.name

/-- The queries that keep names apart: a reservation of a name that no made
character holds, the making of a row that is not deleted or whose name is free, and
a new name that is free on the server of the character itself. -/
def KeepsNames (db : Database) : Operation → Prop
  | .reserve _ _ serverId name =>
      ¬ ∃ id row, db.characters.get id = some row ∧ row.state = .made ∧
        row.serverId = serverId ∧ row.name = name
  | .make userId cid _ =>
      ∀ row, db.characters.get cid.toNat = some row → row.userId = userId →
        row.state = .deleted → ¬ db.HeldByOther cid.toNat row.serverId row.name
  | .rename userId characterId serverId newName =>
      db.nameTaken serverId newName = false →
        ∀ row, db.characters.get characterId.toNat = some row → row.userId = userId →
          row.state ≠ .deleted → ¬ db.HeldByOther characterId.toNat row.serverId newName
  | .delete _ _ _ => True

theorem uniqueNames_put {db db' : Database} {id : Nat} {row : CharacterRow}
    (unique : db.UniqueNames)
    (put : ∀ k, db'.characters.get k = if k = id then some row else db.characters.get k) :
    db'.UniqueNames ↔
      (row.state ≠ .deleted → ¬ db.HeldByOther id row.serverId row.name) := by
  have written : db'.characters.get id = some row := by rw [put, if_pos rfl]
  have others : ∀ {k}, k ≠ id → db'.characters.get k = db.characters.get k := by
    intro k apart
    rw [put, if_neg apart]
  constructor
  · intro after live held
    obtain ⟨other, holder, apart, found, holderLive, sameServer, sameName⟩ := held
    apply after id row written live
    exact ⟨other, holder, apart, (others apart).trans found, holderLive, sameServer, sameName⟩
  · intro free k r found live held
    obtain ⟨other, holder, apart, holds, holderLive, sameServer, sameName⟩ := held
    by_cases first : k = id
    · rw [first, written] at found
      cases found
      rw [first] at apart
      rw [others apart] at holds
      exact free live ⟨other, holder, apart, holds, holderLive, sameServer, sameName⟩
    · rw [others first] at found
      by_cases second : other = id
      · rw [second, written] at holds
        cases holds
        refine free holderLive ⟨k, r, first, found, live, sameServer.symm, sameName.symm⟩
      · rw [others second] at holds
        exact unique k r found live ⟨other, holder, apart, holds, holderLive, sameServer, sameName⟩

theorem uniqueNames_congr {db db' : Database}
    (same : ∀ k, db'.characters.get k = db.characters.get k) :
    db'.UniqueNames ↔ db.UniqueNames := by
  simp only [UniqueNames, HeldByOther, same]

theorem uniqueNames_update {db db' : Database} (unique : db.UniqueNames) (id : Nat)
    {hit : Nat → CharacterRow → Bool} {f : CharacterRow → CharacterRow}
    (changed : db'.characters = db.characters.update hit f)
    (only : ∀ k row, hit k row = true → k = id) :
    db'.UniqueNames ↔ ∀ row, db.characters.get id = some row → hit id row = true →
      (f row).state ≠ .deleted → ¬ db.HeldByOther id (f row).serverId (f row).name := by
  by_cases met : ∃ row, db.characters.get id = some row ∧ hit id row = true
  · obtain ⟨row, found, hits⟩ := met
    have put : ∀ k, db'.characters.get k =
        if k = id then some (f row) else db.characters.get k := by
      rw [changed]
      exact AutoTable.get_update_hit found hits only f
    rw [uniqueNames_put unique put]
    constructor
    · intro free other same _
      rw [found] at same
      cases same
      exact free
    · intro free
      exact free row found hits
  · have same : ∀ k, db'.characters.get k = db.characters.get k := by
      rw [changed]
      apply AutoTable.get_update_miss
      intro k row found
      apply Bool.eq_false_iff.mpr
      intro hits
      have here := only k row hits
      rw [here] at found hits
      exact met ⟨row, found, hits⟩
    rw [uniqueNames_congr same]
    exact iff_of_true unique fun row found hits => absurd ⟨row, found, hits⟩ met

theorem live_of_made {row : CharacterRow} (made : row.state = .made) :
    row.state ≠ .deleted := by
  rw [made]
  decide

theorem heldByOther_next_iff {db : Database} {serverId : UInt32} {name : Text}
    (absent : ¬ db.nameReserved serverId name = true) :
    db.HeldByOther (db.characters.last + 1) serverId name ↔
      ∃ id row, db.characters.get id = some row ∧ row.state = .made ∧
        row.serverId = serverId ∧ row.name = name := by
  constructor
  · intro held
    obtain ⟨id, row, _, found, live, server, named⟩ := held
    cases state : row.state with
    | deleted => exact (live state).elim
    | made => exact ⟨id, row, found, state, server, named⟩
    | reserved =>
        have reserved : db.nameReserved serverId name = true := by
          apply AutoTable.any_eq_true.mpr
          refine ⟨id, row, found, ?_⟩
          simp [server, named, state]
        exact (absent reserved).elim
  · intro madeHolder
    obtain ⟨id, row, found, made, server, named⟩ := madeHolder
    have apart : id ≠ db.characters.last + 1 := by
      intro same
      rw [same, AutoTable.get_last_succ] at found
      cases found
    exact ⟨id, row, apart, found, live_of_made made, server, named⟩

section Steps

variable {db : Database} (unique : db.UniqueNames)
include unique

theorem keepsNames_reserved {userId slot serverId : UInt32} {name : Text}
    (taken : db.nameReserved serverId name = true) :
    db.KeepsNames (.reserve userId slot serverId name) := by
  intro madeHolder
  obtain ⟨id, row, found, made, server, named⟩ := madeHolder
  obtain ⟨reservation, holder, holds, passes⟩ := AutoTable.any_eq_true.mp taken
  simp only [decide_eq_true_eq] at passes
  obtain ⟨sameName, sameServer, notMade, notDeleted⟩ := passes
  have apart : reservation ≠ id := by
    intro same
    rw [same, found] at holds
    cases holds
    exact notMade made
  apply unique id row found (live_of_made made)
  exact ⟨reservation, holder, apart, holds, notDeleted, sameServer.trans server.symm,
    sameName.trans named.symm⟩

theorem reserve_unique_iff (userId slot serverId : UInt32) (name : Text) :
    (Fallible.after (reserveCharacter userId slot serverId name) db).UniqueNames ↔
      db.KeepsNames (.reserve userId slot serverId name) := by
  rw [after_reserve]
  by_cases taken : db.nameReserved serverId name = true
  · rw [if_pos taken]
    exact iff_of_true unique (keepsNames_reserved unique taken)
  · rw [if_neg taken]
    have put : ∀ k, (db.insertReserved userId slot serverId name).characters.get k =
        if k = db.characters.last + 1 then
          some { userId, slot, serverId, name, state := .reserved }
        else db.characters.get k := AutoTable.get_push db.characters _
    rw [uniqueNames_put unique put, KeepsNames, ← heldByOther_next_iff taken]
    exact imp_iff_right fun impossible => nomatch impossible

theorem make_unique_iff (userId cid : UInt32) (info : CharaInfo) :
    (Fallible.after (makeCharacter userId cid info) db).UniqueNames ↔
      db.KeepsNames (.make userId cid info) := by
  have changed := (after_make userId cid info db).characters
  rw [uniqueNames_update unique cid.toNat changed fun k row hits => (ownedRow_iff.mp hits).1]
  constructor
  · intro free row found owner _
    exact free row found (ownedRow_iff.mpr ⟨rfl, owner⟩) fun impossible => nomatch impossible
  · intro keeps row found hits _
    obtain ⟨_, owner⟩ := ownedRow_iff.mp hits
    by_cases deleted : row.state = .deleted
    · exact keeps row found owner deleted
    · exact unique cid.toNat row found deleted

theorem rename_unique_iff (userId characterId serverId : UInt32) (newName : Text) :
    (Fallible.after (renameCharacter userId characterId serverId newName) db).UniqueNames ↔
      db.KeepsNames (.rename userId characterId serverId newName) := by
  rw [after_rename]
  by_cases taken : db.nameTaken serverId newName = true
  · rw [if_pos taken]
    refine iff_of_true unique fun free => ?_
    rw [taken] at free
    cases free
  · rw [if_neg taken]
    have changed : (db.updateName userId characterId newName).characters =
        db.characters.update (ownedRow userId characterId) (CharacterRow.rename newName) := rfl
    rw [uniqueNames_update unique characterId.toNat changed fun k row hits =>
      (ownedRow_iff.mp hits).1]
    constructor
    · intro free _ row found owner
      exact free row found (ownedRow_iff.mpr ⟨rfl, owner⟩)
    · intro keeps row found hits
      obtain ⟨_, owner⟩ := ownedRow_iff.mp hits
      exact keeps (Bool.eq_false_iff.mpr taken) row found owner

theorem delete_unique (userId characterId : UInt32) (name : Text) :
    (Fallible.after (deleteCharacter userId characterId name) db).UniqueNames := by
  have changed : (Fallible.after (deleteCharacter userId characterId name) db).characters =
      db.characters.update
        (fun id row => row.name = name && ownedRow userId characterId id row)
        CharacterRow.delete := rfl
  apply (uniqueNames_update unique characterId.toNat changed fun k row hits =>
    (ownedRow_iff.mp ((Bool.and_eq_true _ _).mp hits).2).1).mpr
  intro row _ _ live
  exact absurd rfl live

theorem step_unique_iff {e : Operation} {db' : Database} (taken : db.step e = some db') :
    db'.UniqueNames ↔ db.KeepsNames e := by
  cases e with
  | reserve userId slot serverId name =>
      cases taken
      exact reserve_unique_iff unique userId slot serverId name
  | make userId cid info =>
      cases taken
      exact make_unique_iff unique userId cid info
  | rename userId characterId serverId newName =>
      cases taken
      exact rename_unique_iff unique userId characterId serverId newName
  | delete userId characterId name =>
      cases taken
      exact iff_of_true (delete_unique unique userId characterId name) trivial

end Steps

/-- From a table in which no name is held twice, in every run of the queries by any
users: no name is ever held twice exactly when every query keeps names apart. -/
theorem names_unique_iff {db : Database} (unique : db.UniqueNames) (es : List Operation) :
    Always step UniqueNames db es ↔ EachStep step KeepsNames db es := by
  apply always_iff_eachStep (I := fun _ => True)
  · intro s e s' _ now taken
    exact step_unique_iff now taken
  · intro s e s' _ _ _ _
    trivial
  · trivial
  · exact unique

def noRows : Database :=
  ⟨.empty, .empty, ∅, ∅, ∅, ∅, ∅, []⟩

theorem noRows_unique : noRows.UniqueNames := fun _ _ found => nomatch found

def handedOn : List Operation :=
  [.reserve 1 0 1 ['A'], .delete 1 1 ['A'], .reserve 2 0 1 ['A']]

theorem names_unique_handedOn : Always step UniqueNames noRows handedOn := by
  apply (names_unique_iff noRows_unique handedOn).mpr
  intro _ reserved
  cases reserved
  refine ⟨fun made => ?_, fun _ deleted => ?_⟩
  · obtain ⟨_, _, found, _⟩ := made
    cases found
  · cases deleted
    refine ⟨trivial, fun _ again => ?_⟩
    cases again
    refine ⟨fun made => ?_, trivial⟩
    obtain ⟨id, row, found, state, _⟩ := made
    have inside := AutoTable.get_eq_some.mp found
    obtain rfl : row = _ := (Prod.mk.inj (List.mem_singleton.mp inside)).2
    cases state

def namesakes : List Operation :=
  [.reserve 1 0 1 ['A'], .make 1 1 {}, .reserve 2 0 1 ['A']]

theorem namesakes_share : ¬ Always step UniqueNames noRows namesakes := by
  intro held
  obtain ⟨_, later⟩ := held
  obtain ⟨_, later⟩ := later _ rfl
  obtain ⟨made, later⟩ := later _ rfl
  have keeps := (reserve_unique_iff made 2 0 1 ['A']).mp (later _ rfl)
  exact keeps ⟨1, _, rfl, rfl, rfl, rfl⟩

end Database
end Garlemald.Lobby
