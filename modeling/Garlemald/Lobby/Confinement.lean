import Garlemald.Lobby.Database

/-!
Which rows a query writes. A query is confined to a user when every row that it
inserts or changes is a row of that user or belongs to a character of that user.
The query that makes a character is confined exactly when the character is the
user's; the others are when the user is a valid one, or when they write nothing.
-/

namespace Garlemald.Lobby
open Library

namespace Database

def Owns (db : Database) (user cid : UInt32) : Prop :=
  user ≠ 0 ∧ ∃ row, db.characters.get cid.toNat = some row ∧ row.userId = user

/-- Every row that one of the databases has and the other has not is a row of the
user, or belongs to a character of the user; with no valid user there is none. -/
structure Confined (user : UInt32) (db db' : Database) : Prop where
  characters : ∀ id row, (user = 0 ∨ row.userId ≠ user) →
    (db'.characters.get id = some row ↔ db.characters.get id = some row)
  appearance : ∀ key row, ¬ db.Owns user row.characterId →
    (db'.appearance.get key = some row ↔ db.appearance.get key = some row)
  classLevels : ∀ cid, ¬ db.Owns user cid → db'.classLevels.lookup cid = db.classLevels.lookup cid
  classExp : ∀ cid, ¬ db.Owns user cid → db'.classExp.lookup cid = db.classExp.lookup cid
  parametersave : ∀ cid, ¬ db.Owns user cid →
    db'.parametersave.lookup cid = db.parametersave.lookup cid
  hotbar : ∀ key, ¬ db.Owns user key.1 → db'.hotbar.lookup key = db.hotbar.lookup key

/-- The queries that write for the user they name only. -/
def Permitted (db : Database) : Operation → Prop
  | .reserve userId _ serverId name => userId ≠ 0 ∨ db.nameReserved serverId name = true
  | .make userId cid _ => db.Owns userId cid
  | .rename userId characterId serverId newName =>
      userId ≠ 0 ∨ db.nameTaken serverId newName = true ∨
        ∀ row, db.characters.get characterId.toNat = some row → row.userId = userId →
          row.rename newName = row
  | .delete userId characterId name =>
      userId ≠ 0 ∨ ∀ row, db.characters.get characterId.toNat = some row →
        row.userId = userId → row.name = name → row.delete = row

theorem Confined.refl (user : UInt32) (db : Database) : Confined user db db where
  characters _ _ _ := Iff.rfl
  appearance _ _ _ := Iff.rfl
  classLevels _ _ := rfl
  classExp _ _ := rfl
  parametersave _ _ := rfl
  hotbar _ _ := rfl

theorem confined_insertReserved (userId slot serverId : UInt32) (name : Text) (db : Database) :
    Confined userId db (db.insertReserved userId slot serverId name) ↔ userId ≠ 0 := by
  constructor
  · intro confined nobody
    have old := (confined.characters _ _ (Or.inl nobody)).mp (AutoTable.get_push_self ..)
    rw [AutoTable.get_last_succ] at old
    cases old
  · intro somebody
    refine { Confined.refl userId db with characters := fun id row other => ?_ }
    apply AutoTable.get_push_of_ne
    intro same
    exact other.resolve_left somebody (congrArg CharacterRow.userId same)

theorem confined_update (db : Database) (userId cid : UInt32) {hit : Nat → CharacterRow → Bool}
    {f : CharacterRow → CharacterRow} (owned : ∀ k row, hit k row = true →
      k = cid.toNat ∧ row.userId = userId) (owner : ∀ row, (f row).userId = row.userId) :
    Confined userId db { db with characters := db.characters.update hit f } ↔
      userId ≠ 0 ∨ ∀ row, db.characters.get cid.toNat = some row →
        hit cid.toNat row = true → f row = row := by
  constructor
  · intro confined
    by_cases nobody : userId = 0
    · refine Or.inr fun row found hits => ?_
      have kept := (confined.characters cid.toNat row (Or.inl nobody)).mpr found
      rw [AutoTable.get_update, found, Option.map_some, if_pos hits] at kept
      exact Option.some.inj kept
    · exact Or.inl nobody
  · intro allowed
    refine { Confined.refl userId db with characters := fun id row other => ?_ }
    rw [AutoTable.get_update]
    cases found : db.characters.get id with
    | none => exact Iff.rfl
    | some old =>
        rw [Option.map_some]
        by_cases hits : hit id old = true
        · obtain ⟨rfl, own⟩ := owned id old hits
          rw [if_pos hits]
          obtain somebody | idle := allowed
          · have foreign : row.userId ≠ userId := other.resolve_left somebody
            refine iff_of_false (fun same => ?_) fun same => ?_
            · obtain rfl := Option.some.inj same
              exact foreign ((owner old).trans own)
            · obtain rfl := Option.some.inj same
              exact foreign own
          · rw [idle old found hits]
        · rw [if_neg hits]

theorem confined_reserve (userId slot serverId : UInt32) (name : Text) (db : Database) :
    Confined userId db (db.perform (.reserve userId slot serverId name)) ↔
      db.Permitted (.reserve userId slot serverId name) := by
  rw [perform, after_reserve, Permitted]
  by_cases taken : db.nameReserved serverId name = true
  · rw [if_pos taken]
    exact iff_of_true (Confined.refl userId db) (Or.inr taken)
  · rw [if_neg taken, confined_insertReserved, or_iff_left taken]

/-- The looks of a character are inserted in any case, so making asks for a
character of the user. -/
theorem confined_make (userId cid : UInt32) (info : CharaInfo) (db : Database) :
    Confined userId db (db.perform (.make userId cid info)) ↔ db.Owns userId cid := by
  have looks := belongings_appearance cid info (db.updateMade userId cid info)
  have rest := after_make userId cid info db
  constructor
  · intro confined
    by_contra foreign
    have inserted := rest.kept _ _ (AutoTable.get_push_self db.appearance ⟨cid, 4294967295, info⟩)
    have old := (confined.appearance _ _ foreign).mp inserted
    rw [AutoTable.get_last_succ] at old
    cases old
  · intro owns
    have whole := Belongings.trans _ _ _ looks rest
    have apart : ∀ {other}, ¬ db.Owns userId other → other ≠ cid := by
      intro other foreign same
      rw [same] at foreign
      exact foreign owns
    have updated : Confined userId db (db.updateMade userId cid info) :=
      (confined_update db userId cid (fun _ _ hits => ownedRow_iff.mp hits)
        fun row => (rfl : (row.make info).userId = row.userId)).mpr (Or.inl owns.1)
    exact {
      characters := fun id row other => by
        rw [perform, whole.characters]
        exact updated.characters id row other
      appearance := fun key row foreign => whole.appearance key row (apart foreign)
      classLevels := fun other foreign => whole.classLevels other (apart foreign)
      classExp := fun other foreign => whole.classExp other (apart foreign)
      parametersave := fun other foreign => whole.parametersave other (apart foreign)
      hotbar := fun key foreign => whole.hotbar key (apart foreign) }

theorem confined_rename (userId characterId serverId : UInt32) (newName : Text) (db : Database) :
    Confined userId db (db.perform (.rename userId characterId serverId newName)) ↔
      db.Permitted (.rename userId characterId serverId newName) := by
  rw [perform, after_rename, Permitted]
  by_cases taken : db.nameTaken serverId newName = true
  · rw [if_pos taken]
    exact iff_of_true (Confined.refl userId db) (Or.inr (Or.inl taken))
  · rw [if_neg taken, or_iff_right taken]
    have update := confined_update db userId characterId (fun _ _ hits => ownedRow_iff.mp hits)
      fun row => (rfl : (row.rename newName).userId = row.userId)
    rw [updateName, update]
    apply or_congr_right
    constructor
    · intro idle row found own
      exact idle row found (ownedRow_iff.mpr ⟨rfl, own⟩)
    · intro idle row found hits
      exact idle row found (ownedRow_iff.mp hits).2

theorem confined_delete (userId characterId : UInt32) (name : Text) (db : Database) :
    Confined userId db (db.perform (.delete userId characterId name)) ↔
      db.Permitted (.delete userId characterId name) := by
  have owned : ∀ k (row : CharacterRow),
      (row.name = name && ownedRow userId characterId k row) = true →
        k = characterId.toNat ∧ row.userId = userId := by
    intro k row hits
    exact ownedRow_iff.mp ((Bool.and_eq_true _ _).mp hits).2
  have update := confined_update db userId characterId owned
    fun row => (rfl : row.delete.userId = row.userId)
  have ran : db.perform (.delete userId characterId name) =
      db.updateDeleted userId characterId name := rfl
  rw [ran, updateDeleted, update, Permitted]
  apply or_congr_right
  constructor
  · intro idle row found own named
    apply idle row found
    rw [ownedRow_iff.mpr ⟨rfl, own⟩, decide_eq_true named]
    rfl
  · intro idle row found hits
    obtain ⟨named, own⟩ := (Bool.and_eq_true _ _).mp hits
    exact idle row found (ownedRow_iff.mp own).2 (of_decide_eq_true named)

theorem confined_perform (op : Operation) (db : Database) :
    Confined op.user db (db.perform op) ↔ db.Permitted op := by
  cases op with
  | reserve userId slot serverId name => exact confined_reserve userId slot serverId name db
  | make userId cid info => exact confined_make userId cid info db
  | rename userId characterId serverId newName =>
      exact confined_rename userId characterId serverId newName db
  | delete userId characterId name => exact confined_delete userId characterId name db

end Database

end Garlemald.Lobby
