import Garlemald.Library.AutoTable
import Garlemald.Library.Fallible
import Garlemald.Library.Table
import Garlemald.Lobby.CharaInfo

/-!
The lobby's queries over the tables of characters, of what belongs to them, and of
login sessions. No query runs in a transaction: when one of its statements fails,
what the statements before it wrote stays.
-/

namespace Garlemald.Lobby
open Library

/-- The column `state`: 0, 1 and 2. -/
inductive CharacterState where
  | reserved
  | deleted
  | made
deriving DecidableEq, Repr

structure CharacterRow where
  userId : UInt32
  slot : UInt32
  serverId : UInt32
  name : Text
  state : CharacterState
  doRename : Bool := false
  position : Position := {}
  guardian : UInt32 := 0
  birthDay : UInt32 := 0
  birthMonth : UInt32 := 0
  initialTown : UInt32 := 0
  tribe : UInt32 := 0

namespace CharacterRow

def make (info : CharaInfo) (row : CharacterRow) : CharacterRow :=
  { row with
    state := .made
    position := info.position
    guardian := info.guardian
    birthDay := info.birthDay
    birthMonth := info.birthMonth
    initialTown := info.initialTown
    tribe := info.tribe }

def rename (newName : Text) (row : CharacterRow) : CharacterRow :=
  { row with name := newName, doRename := false }

def delete (row : CharacterRow) : CharacterRow := { row with state := .deleted }

end CharacterRow

/-- A row of `characters_appearance`: the looks and the gear of its info. -/
structure AppearanceRow where
  characterId : UInt32
  baseId : UInt32
  info : CharaInfo

structure ParameterRow where
  hp : UInt32
  hpMax : UInt32
  mp : UInt32
  mpMax : UInt32
  mainSkill : UInt32
  mainSkillLevel : UInt32
deriving DecidableEq, Repr

structure HotbarRow where
  commandId : UInt32
  recastTime : UInt32
deriving DecidableEq, Repr

structure BattleCommand where
  id : UInt32
  classJob : UInt32
  lvl : UInt32
deriving DecidableEq, Repr

/-- A row of `sessions`; times are in seconds. -/
structure SessionRow where
  userId : UInt32
  expiration : Nat
deriving DecidableEq, Repr

structure Database where
  characters : AutoTable CharacterRow
  appearance : AutoTable AppearanceRow
  classLevels : Table UInt32 (ClassColumn → UInt32)
  classExp : Table UInt32 (ClassColumn → UInt32)
  parametersave : Table UInt32 ParameterRow
  /-- By character, class and slot. -/
  hotbar : Table (UInt32 × UInt32 × Nat) HotbarRow
  sessions : Table Text SessionRow
  battleCommands : List BattleCommand

inductive DbError where
  | noSuchColumn
  | uniqueConstraint
  /-- A stored number does not fit the type it is read as. -/
  | outOfRange
deriving DecidableEq, Repr

abbrev Query := Fallible DbError Database

/-- A character as the queries return it; the other columns are shown to the client. -/
structure Character where
  id : UInt32
  slot : UInt16
  serverId : UInt16
  name : Text
deriving DecidableEq, Repr

namespace Database

def userIdFromSession (sessionId : Text) (now : Nat) (db : Database) : UInt32 :=
  match db.sessions.lookup sessionId with
  | some row => if now < row.expiration then row.userId else 0
  | none => 0

/-- The check of `reserve_character`: a reservation of the name on the server. -/
def nameReserved (serverId : UInt32) (name : Text) (db : Database) : Bool :=
  db.characters.any fun _ row =>
    row.name = name ∧ row.serverId = serverId ∧ row.state ≠ .made ∧ row.state ≠ .deleted

def insertReserved (userId slot serverId : UInt32) (name : Text) (db : Database) : Database :=
  { db with
    characters := db.characters.push { userId, slot, serverId, name, state := .reserved } }

def reserveCharacter (userId slot serverId : UInt32) (name : Text) : Query (Bool × UInt32) := do
  let db ← get
  if db.nameReserved serverId name then return (true, 0)
  else
    let db := db.insertReserved userId slot serverId name
    set db
    return (false, UInt32.ofNat db.characters.last)

def insertOrIgnore (cid : UInt32) (t : Table UInt32 (ClassColumn → UInt32)) :
    Table UInt32 (ClassColumn → UInt32) :=
  match t.lookup cid with
  | some _ => t
  | none => t.insert cid fun _ => 0

def setClass (cid : UInt32) (column : ClassColumn) (t : Table UInt32 (ClassColumn → UInt32)) :
    Table UInt32 (ClassColumn → UInt32) :=
  match t.lookup cid with
  | some levels => t.insert cid (Function.update levels column 1)
  | none => t

def insertNew {κ ν : Type} [DecidableEq κ] (key : κ) (row : ν) (t : Table κ ν) :
    Except DbError (Table κ ν) :=
  match t.lookup key with
  | some _ => .error .uniqueConstraint
  | none => .ok (t.insert key row)

def ownedRow (userId cid : UInt32) (id : Nat) (row : CharacterRow) : Bool :=
  id = cid.toNat ∧ row.userId = userId

def updateMade (userId cid : UInt32) (info : CharaInfo) (db : Database) : Database :=
  { db with
    characters := db.characters.update (ownedRow userId cid) (CharacterRow.make info) }

def insertAppearance (cid : UInt32) (info : CharaInfo) (db : Database) : Database :=
  { db with appearance := db.appearance.push ⟨cid, 4294967295, info⟩ }

def insertParameters (cid : UInt32) (info : CharaInfo) : Query Unit := do
  let db ← get
  let parametersave ← insertNew cid ⟨1900, 1000, 115, 115, info.currentClass, 1⟩ db.parametersave
  set { db with parametersave }

/-- The commands a class starts with, the last id first. -/
def defaultActions (currentClass : UInt32) (db : Database) : List UInt32 :=
  let ids := (db.battleCommands.filter fun c => c.classJob = currentClass ∧ c.lvl = 1).map (·.id)
  ids.mergeSort fun a b => b ≤ a

def insertHotbar (cid : UInt32) (info : CharaInfo) (slot : Nat) (commandId : UInt32) :
    Query Unit := do
  let db ← get
  let hotbar ← insertNew (cid, info.currentClass, slot) ⟨commandId, 0⟩ db.hotbar
  set { db with hotbar }

def insertLevels (cid : UInt32) (info : CharaInfo) : Query Unit := do
  modify fun db => { db with classLevels := insertOrIgnore cid db.classLevels }
  match classNameForId info.currentClass.toUInt16 with
  | none => throw .noSuchColumn
  | some column =>
      modify fun db => { db with classLevels := setClass cid column db.classLevels }

def insertExp (cid : UInt32) : Query Unit :=
  modify fun db => { db with classExp := insertOrIgnore cid db.classExp }

/-- The statements of `make_character` behind the looks of the character. -/
def insertBelongings (cid : UInt32) (info : CharaInfo) : Query Unit := do
  insertLevels cid info
  insertExp cid
  insertParameters cid info
  let actions := defaultActions info.currentClass (← get)
  actions.zipIdx.forM fun action => insertHotbar cid info action.2 action.1

/-- Only the first statement asks for the user. -/
def makeCharacter (userId cid : UInt32) (info : CharaInfo) : Query Unit := do
  modify (updateMade userId cid info)
  modify (insertAppearance cid info)
  insertBelongings cid info

/-- The check of `rename_character`: any row of the name on the server. -/
def nameTaken (serverId : UInt32) (name : Text) (db : Database) : Bool :=
  db.characters.any fun _ row => row.name = name ∧ row.serverId = serverId

def updateName (userId characterId : UInt32) (newName : Text) (db : Database) : Database :=
  { db with
    characters := db.characters.update (ownedRow userId characterId)
      (CharacterRow.rename newName) }

def renameCharacter (userId characterId serverId : UInt32) (newName : Text) : Query Bool := do
  let db ← get
  if db.nameTaken serverId newName then return true
  else
    set (db.updateName userId characterId newName)
    return false

def updateDeleted (userId characterId : UInt32) (name : Text) (db : Database) : Database :=
  { db with
    characters := db.characters.update
      (fun id row => row.name = name && ownedRow userId characterId id row) CharacterRow.delete }

def deleteCharacter (userId characterId : UInt32) (name : Text) : Query Unit :=
  modify (updateDeleted userId characterId name)

end Database

inductive Operation where
  | reserve (userId slot serverId : UInt32) (name : Text)
  | make (userId cid : UInt32) (info : CharaInfo)
  | rename (userId characterId serverId : UInt32) (newName : Text)
  | delete (userId characterId : UInt32) (name : Text)

def Operation.user : Operation → UInt32
  | .reserve userId _ _ _ => userId
  | .make userId _ _ => userId
  | .rename userId _ _ _ => userId
  | .delete userId _ _ => userId

namespace Database

def perform (db : Database) : Operation → Database
  | .reserve userId slot serverId name =>
      Fallible.after (reserveCharacter userId slot serverId name) db
  | .make userId cid info => Fallible.after (makeCharacter userId cid info) db
  | .rename userId characterId serverId newName =>
      Fallible.after (renameCharacter userId characterId serverId newName) db
  | .delete userId characterId name =>
      Fallible.after (deleteCharacter userId characterId name) db

def readCharacter (id : Nat) (row : CharacterRow) : Except DbError Character :=
  if id < 2 ^ 32 ∧ row.slot.toNat < 2 ^ 16 ∧ row.serverId.toNat < 2 ^ 16 then
    .ok ⟨UInt32.ofNat id, row.slot.toUInt16, row.serverId.toUInt16, row.name⟩
  else .error .outOfRange

/-- Only a character with a row in `characters_parametersave` is found. -/
def getCharacter (userId charId : UInt32) (db : Database) : Except DbError (Option Character) :=
  match db.characters.get charId.toNat, db.parametersave.lookup charId with
  | some row, some _ =>
      if row.userId = userId then (readCharacter charId.toNat row).map some else .ok none
  | _, _ => .ok none

def getReservedCharacter (userId : UInt32) (db : Database) :
    Except DbError (Option Character) :=
  match db.characters.findLast fun _ row => row.userId = userId ∧ row.state = .reserved with
  | some (id, row) => (readCharacter id row).map some
  | none => .ok none

theorem after_reserve (userId slot serverId : UInt32) (name : Text) (db : Database) :
    Fallible.after (reserveCharacter userId slot serverId name) db =
      if db.nameReserved serverId name then db
      else db.insertReserved userId slot serverId name := by
  rw [reserveCharacter, Fallible.after_get_bind]
  split <;> rfl

theorem after_rename (userId characterId serverId : UInt32) (newName : Text) (db : Database) :
    Fallible.after (renameCharacter userId characterId serverId newName) db =
      if db.nameTaken serverId newName then db
      else db.updateName userId characterId newName := by
  rw [renameCharacter, Fallible.after_get_bind]
  split <;> rfl

theorem ownedRow_iff {userId cid : UInt32} {id : Nat} {row : CharacterRow} :
    ownedRow userId cid id row = true ↔ id = cid.toNat ∧ row.userId = userId :=
  decide_eq_true_iff

/-- The second database differs from the first only in what belongs to one
character, and has every look that the first has. -/
structure Belongings (cid : UInt32) (db db' : Database) : Prop where
  characters : db'.characters = db.characters
  kept : ∀ key row, db.appearance.get key = some row → db'.appearance.get key = some row
  appearance : ∀ key row, row.characterId ≠ cid →
    (db'.appearance.get key = some row ↔ db.appearance.get key = some row)
  classLevels : ∀ other, other ≠ cid → db'.classLevels.lookup other = db.classLevels.lookup other
  classExp : ∀ other, other ≠ cid → db'.classExp.lookup other = db.classExp.lookup other
  parametersave : ∀ other, other ≠ cid →
    db'.parametersave.lookup other = db.parametersave.lookup other
  hotbar : ∀ key, key.1 ≠ cid → db'.hotbar.lookup key = db.hotbar.lookup key

namespace Belongings

theorem refl (cid : UInt32) (db : Database) : Belongings cid db db where
  characters := rfl
  kept _ _ old := old
  appearance _ _ _ := Iff.rfl
  classLevels _ _ := rfl
  classExp _ _ := rfl
  parametersave _ _ := rfl
  hotbar _ _ := rfl

theorem trans {cid : UInt32} (a b c : Database) (first : Belongings cid a b)
    (second : Belongings cid b c) : Belongings cid a c where
  characters := second.characters.trans first.characters
  kept key row old := second.kept key row (first.kept key row old)
  appearance key row other := (second.appearance key row other).trans
    (first.appearance key row other)
  classLevels k other := (second.classLevels k other).trans (first.classLevels k other)
  classExp k other := (second.classExp k other).trans (first.classExp k other)
  parametersave k other := (second.parametersave k other).trans (first.parametersave k other)
  hotbar key other := (second.hotbar key other).trans (first.hotbar key other)

end Belongings

theorem lookup_insertOrIgnore (t : Table UInt32 (ClassColumn → UInt32)) {cid other : UInt32}
    (apart : other ≠ cid) : (insertOrIgnore cid t).lookup other = t.lookup other := by
  rw [insertOrIgnore]
  cases t.lookup cid with
  | some levels => rfl
  | none => exact AList.lookup_insert_ne apart

theorem lookup_setClass (t : Table UInt32 (ClassColumn → UInt32)) (column : ClassColumn)
    {cid other : UInt32} (apart : other ≠ cid) :
    (setClass cid column t).lookup other = t.lookup other := by
  rw [setClass]
  cases t.lookup cid with
  | some levels => exact AList.lookup_insert_ne apart
  | none => rfl

theorem belongings_appearance (cid : UInt32) (info : CharaInfo) (db : Database) :
    Belongings cid db (db.insertAppearance cid info) := by
  refine { Belongings.refl cid db with
    kept := fun key row old => AutoTable.get_push_of_some old _
    appearance := fun key row other => ?_ }
  apply AutoTable.get_push_of_ne
  intro same
  exact other (congrArg AppearanceRow.characterId same)

theorem belongings_levels (cid : UInt32) (info : CharaInfo) :
    Fallible.Within (Belongings cid) (insertLevels cid info) := by
  apply Fallible.Within.bind Belongings.trans
  · intro db
    exact { Belongings.refl cid db with
      classLevels := fun other apart => lookup_insertOrIgnore db.classLevels apart }
  · intro _
    cases classNameForId info.currentClass.toUInt16 with
    | none => exact Belongings.refl cid
    | some column =>
        intro db
        exact { Belongings.refl cid db with
          classLevels := fun other apart => lookup_setClass db.classLevels column apart }

theorem belongings_exp (cid : UInt32) : Fallible.Within (Belongings cid) (insertExp cid) := by
  intro db
  exact { Belongings.refl cid db with
    classExp := fun other apart => lookup_insertOrIgnore db.classExp apart }

theorem belongings_parameters (cid : UInt32) (info : CharaInfo) :
    Fallible.Within (Belongings cid) (insertParameters cid info) := by
  intro db
  rw [insertParameters, Fallible.after_get_bind]
  cases present : db.parametersave.lookup cid with
  | some row =>
      simp only [insertNew, present]
      exact Belongings.refl cid db
  | none =>
      simp only [insertNew, present]
      exact { Belongings.refl cid db with
        parametersave := fun other apart => AList.lookup_insert_ne apart }

theorem belongings_hotbar (cid : UInt32) (info : CharaInfo) (slot : Nat) (commandId : UInt32) :
    Fallible.Within (Belongings cid) (insertHotbar cid info slot commandId) := by
  intro db
  rw [insertHotbar, Fallible.after_get_bind]
  cases present : db.hotbar.lookup (cid, info.currentClass, slot) with
  | some row =>
      simp only [insertNew, present]
      exact Belongings.refl cid db
  | none =>
      simp only [insertNew, present]
      refine { Belongings.refl cid db with hotbar := fun key apart => ?_ }
      apply AList.lookup_insert_ne
      intro same
      exact apart (congrArg Prod.fst same)

theorem belongings_insert (cid : UInt32) (info : CharaInfo) :
    Fallible.Within (Belongings cid) (insertBelongings cid info) := by
  apply Fallible.Within.bind Belongings.trans (belongings_levels cid info)
  intro _
  apply Fallible.Within.bind Belongings.trans (belongings_exp cid)
  intro _
  apply Fallible.Within.bind Belongings.trans (belongings_parameters cid info)
  intro _
  apply Fallible.Within.bind Belongings.trans (.get (Belongings.refl cid))
  intro db
  exact Fallible.Within.forM (Belongings.refl cid) Belongings.trans fun action =>
    belongings_hotbar cid info action.2 action.1

theorem after_make (userId cid : UInt32) (info : CharaInfo) (db : Database) :
    Belongings cid ((db.updateMade userId cid info).insertAppearance cid info)
      (Fallible.after (makeCharacter userId cid info) db) :=
  belongings_insert cid info _

end Database
end Garlemald.Lobby
