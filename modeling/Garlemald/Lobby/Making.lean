import Garlemald.Lobby.Database

/-!
What becomes of the making of a character, statement by statement. The row of the character
and its looks are written before anything can fail; the later statements fail on a class
without a column, on parameters or on a hotbar that is there already.
-/

namespace Garlemald.Lobby
open Library Fallible

namespace Database

variable {cid : UInt32} {info : CharaInfo} {db : Database} {column : ClassColumn}

/-! ### The statements -/

def withLevels (cid : UInt32) (column : ClassColumn) (db : Database) : Database :=
  { db with classLevels := setClass cid column (insertOrIgnore cid db.classLevels) }

def withExp (cid : UInt32) (db : Database) : Database :=
  { db with classExp := insertOrIgnore cid db.classExp }

def withParameters (cid : UInt32) (info : CharaInfo) (db : Database) : Database :=
  { db with
    parametersave := db.parametersave.insert cid ⟨1900, 1000, 115, 115, info.currentClass, 1⟩ }

theorem lookup_insertOrIgnore_self (t : Table UInt32 (ClassColumn → UInt32)) :
    (insertOrIgnore cid t).lookup cid = some ((t.lookup cid).getD fun _ => 0) := by
  rw [insertOrIgnore]
  cases found : t.lookup cid with
  | some levels => exact found
  | none => exact AList.lookup_insert t

theorem lookup_setClass_self {t : Table UInt32 (ClassColumn → UInt32)}
    {levels : ClassColumn → UInt32} (found : t.lookup cid = some levels) :
    (setClass cid column t).lookup cid = some (Function.update levels column 1) := by
  rw [setClass, found]
  exact AList.lookup_insert t

theorem insertLevels_ok_iff :
    result (insertLevels cid info) db = .ok () ↔
      (classNameForId info.currentClass.toUInt16).isSome := by
  rw [insertLevels, ok_bind_iff]
  cases classNameForId info.currentClass.toUInt16 with
  | none =>
      refine iff_of_false (fun both => ?_) (by simp)
      obtain ⟨_, _, impossible⟩ := both
      contradiction
  | some column => exact iff_of_true ⟨(), rfl, rfl⟩ rfl

theorem after_insertLevels (known : classNameForId info.currentClass.toUInt16 = some column) :
    after (insertLevels cid info) db = db.withLevels cid column := by
  rw [insertLevels, known]
  rfl

theorem after_insertExp : after (insertExp cid) db = db.withExp cid := rfl

theorem insertParameters_ok_iff :
    result (insertParameters cid info) db = .ok () ↔ db.parametersave.lookup cid = none := by
  rw [insertParameters, result_get_bind, insertNew]
  cases db.parametersave.lookup cid with
  | none => exact iff_of_true rfl rfl
  | some row => exact iff_of_false (fun ok => by cases ok) (by simp)

theorem after_insertParameters (free : db.parametersave.lookup cid = none) :
    after (insertParameters cid info) db = db.withParameters cid info := by
  rw [insertParameters, after_get_bind, insertNew, free]
  rfl

theorem insertHotbar_ok_iff {slot : ℕ} {commandId : UInt32} :
    result (insertHotbar cid info slot commandId) db = .ok () ↔
      db.hotbar.lookup (cid, info.currentClass, slot) = none := by
  rw [insertHotbar, result_get_bind, insertNew]
  cases db.hotbar.lookup (cid, info.currentClass, slot) with
  | none => exact iff_of_true rfl rfl
  | some row => exact iff_of_false (fun ok => by cases ok) (by simp)

theorem after_insertHotbar {slot : ℕ} {commandId : UInt32}
    (free : db.hotbar.lookup (cid, info.currentClass, slot) = none) :
    after (insertHotbar cid info slot commandId) db = { db with
      hotbar := db.hotbar.insert (cid, info.currentClass, slot) ⟨commandId, 0⟩ } := by
  rw [insertHotbar, after_get_bind, insertNew, free]
  rfl

/-! ### The hotbar -/

/-- The hotbar of a class with the commands in their slots, from a first slot on. -/
def fillBar (cid classId : UInt32) (first : ℕ) : List UInt32 →
    Table (UInt32 × UInt32 × ℕ) HotbarRow → Table (UInt32 × UInt32 × ℕ) HotbarRow
  | [], t => t
  | commandId :: actions, t =>
      fillBar cid classId (first + 1) actions (t.insert (cid, classId, first) ⟨commandId, 0⟩)

variable {actions : List UInt32} {first : ℕ}

theorem lookup_fillBar_other {classId : UInt32} {t : Table (UInt32 × UInt32 × ℕ) HotbarRow}
    {key : UInt32 × UInt32 × ℕ}
    (apart : ∀ i, i < actions.length → key ≠ (cid, classId, first + i)) :
    (fillBar cid classId first actions t).lookup key = t.lookup key := by
  induction actions generalizing first t with
  | nil => rfl
  | cons commandId actions ih =>
      have later (i : ℕ) (below : i < actions.length) : key ≠ (cid, classId, first + 1 + i) := by
        rw [Nat.add_assoc, Nat.add_comm 1 i]
        exact apart (i + 1) (Nat.succ_lt_succ below)
      rw [fillBar, ih later]
      exact AList.lookup_insert_ne (apart 0 (Nat.succ_pos _))

theorem lookup_fillBar {classId : UInt32} {first i : ℕ}
    {t : Table (UInt32 × UInt32 × ℕ) HotbarRow} (below : i < actions.length) :
    (fillBar cid classId first actions t).lookup (cid, classId, first + i) =
      (actions[i]?).map (⟨·, 0⟩) := by
  induction actions generalizing first i t with
  | nil => exact absurd below (Nat.not_lt_zero i)
  | cons commandId actions ih =>
      rw [fillBar]
      cases i with
      | zero =>
          have apart (j : ℕ) (_ : j < actions.length) :
              (cid, classId, first + 0) ≠ (cid, classId, first + 1 + j) := by
            intro same
            have slots := congrArg (·.2.2) same
            dsimp only at slots
            omega
          rw [lookup_fillBar_other apart]
          exact AList.lookup_insert t
      | succ i =>
          have moved : first + (i + 1) = first + 1 + i := by omega
          rw [moved, ih (Nat.lt_of_succ_lt_succ below)]
          rfl

theorem lookup_bar (classId other : UInt32) (actions : List UInt32)
    (t : Table (UInt32 × UInt32 × ℕ) HotbarRow) (slot : ℕ) :
    (fillBar cid classId 0 actions t).lookup (cid, other, slot) =
      if other = classId ∧ slot < actions.length then actions[slot]?.map (⟨·, 0⟩)
      else t.lookup (cid, other, slot) := by
  by_cases inside : other = classId ∧ slot < actions.length
  · have filled : (fillBar cid classId 0 actions t).lookup (cid, classId, 0 + slot) = _ :=
      lookup_fillBar inside.2
    rw [Nat.zero_add] at filled
    rw [if_pos inside, inside.1, filled]
  · rw [if_neg inside]
    apply lookup_fillBar_other
    intro i below same
    obtain ⟨_, own⟩ := Prod.mk.inj same
    obtain ⟨own, at_i⟩ := Prod.mk.inj own
    exact inside ⟨own, by omega⟩

/-- One statement for each command. -/
def insertActions (cid : UInt32) (info : CharaInfo) (first : ℕ) (actions : List UInt32) :
    Query Unit :=
  (actions.zipIdx first).forM fun action => insertHotbar cid info action.2 action.1

theorem insertActions_cons (first : ℕ) (commandId : UInt32) (actions : List UInt32) :
    insertActions cid info first (commandId :: actions) =
      insertHotbar cid info first commandId >>= fun _ =>
        insertActions cid info (first + 1) actions := rfl

def BarFree (db : Database) (cid classId : UInt32) (first : ℕ) (actions : List UInt32) : Prop :=
  ∀ i, i < actions.length → db.hotbar.lookup (cid, classId, first + i) = none

theorem barFree_cons {classId commandId : UInt32} (row : HotbarRow) :
    db.BarFree cid classId first (commandId :: actions) ↔
      db.hotbar.lookup (cid, classId, first) = none ∧
        { db with hotbar := db.hotbar.insert (cid, classId, first) row }.BarFree cid classId
          (first + 1) actions := by
  have apart (i : ℕ) : (cid, classId, first + 1 + i) ≠ (cid, classId, first) := by
    intro same
    have slots := congrArg (·.2.2) same
    dsimp only at slots
    omega
  constructor
  · intro free
    refine ⟨free 0 (Nat.succ_pos _), fun i below => ?_⟩
    have later := free (i + 1) (Nat.succ_lt_succ below)
    rw [Nat.add_comm i 1, ← Nat.add_assoc] at later
    exact (AList.lookup_insert_ne (apart i)).trans later
  · intro both i below
    cases i with
    | zero => exact both.1
    | succ i =>
        have later := both.2 i (Nat.lt_of_succ_lt_succ below)
        rw [Nat.add_comm i 1, ← Nat.add_assoc]
        exact (AList.lookup_insert_ne (apart i)).symm.trans later

theorem insertActions_ok_iff :
    result (insertActions cid info first actions) db = .ok () ↔
      db.BarFree cid info.currentClass first actions := by
  induction actions generalizing first db with
  | nil => exact iff_of_true rfl fun i below => absurd below (Nat.not_lt_zero i)
  | cons commandId actions ih =>
      rw [insertActions_cons, ok_bind_iff, barFree_cons ⟨commandId, 0⟩]
      constructor
      · intro both
        obtain ⟨_, first_in, rest⟩ := both
        have free := insertHotbar_ok_iff.mp first_in
        rw [after_insertHotbar free] at rest
        exact ⟨free, ih.mp rest⟩
      · intro both
        refine ⟨(), insertHotbar_ok_iff.mpr both.1, ?_⟩
        rw [after_insertHotbar both.1]
        exact ih.mpr both.2

theorem after_insertActions (free : db.BarFree cid info.currentClass first actions) :
    after (insertActions cid info first actions) db =
      { db with hotbar := fillBar cid info.currentClass first actions db.hotbar } := by
  induction actions generalizing first db with
  | nil => rfl
  | cons commandId actions ih =>
      obtain ⟨here, later⟩ := (barFree_cons ⟨commandId, 0⟩).mp free
      rw [insertActions_cons, after_bind_ok (insertHotbar_ok_iff.mpr here),
        after_insertHotbar here, ih later]
      rfl

/-! ### Making -/

/-- No statement of the making fails. -/
structure Accepts (db : Database) (cid : UInt32) (info : CharaInfo) : Prop where
  known : (classNameForId info.currentClass.toUInt16).isSome
  parameters : db.parametersave.lookup cid = none
  hotbar : db.BarFree cid info.currentClass 0 (defaultActions info.currentClass db)

/-- The database behind the statements about the levels, the experience and the parameters. -/
def outfitted (cid : UInt32) (info : CharaInfo) (column : ClassColumn) (db : Database) :
    Database :=
  ((db.withLevels cid column).withExp cid).withParameters cid info

theorem insertBelongings_eq :
    insertBelongings cid info = insertLevels cid info >>= fun _ => insertExp cid >>= fun _ =>
      insertParameters cid info >>= fun _ => get >>= fun db =>
        insertActions cid info 0 (defaultActions info.currentClass db) := rfl

theorem insertBelongings_ok_iff :
    result (insertBelongings cid info) db = .ok () ↔ db.Accepts cid info := by
  rw [insertBelongings_eq, ok_bind_iff]
  constructor
  · intro all
    obtain ⟨_, levels, rest⟩ := all
    have known := insertLevels_ok_iff.mp levels
    obtain ⟨column, named⟩ := Option.isSome_iff_exists.mp known
    rw [after_insertLevels named] at rest
    obtain ⟨_, _, rest⟩ := ok_bind_iff.mp rest
    rw [after_insertExp] at rest
    obtain ⟨_, parameters, rest⟩ := ok_bind_iff.mp rest
    have free := insertParameters_ok_iff.mp parameters
    rw [after_insertParameters free, result_get_bind] at rest
    have open_slots := insertActions_ok_iff.mp rest
    exact ⟨known, free, open_slots⟩
  · intro accepts
    obtain ⟨column, named⟩ := Option.isSome_iff_exists.mp accepts.known
    have free : ((db.withLevels cid column).withExp cid).parametersave.lookup cid = none :=
      accepts.parameters
    have bar : (db.outfitted cid info column).BarFree cid info.currentClass 0
        (defaultActions info.currentClass (db.outfitted cid info column)) := accepts.hotbar
    refine ⟨(), insertLevels_ok_iff.mpr accepts.known, ?_⟩
    rw [after_insertLevels named]
    refine ok_bind_iff.mpr ⟨(), rfl, ?_⟩
    rw [after_insertExp]
    refine ok_bind_iff.mpr ⟨(), insertParameters_ok_iff.mpr free, ?_⟩
    rw [after_insertParameters free, result_get_bind]
    exact insertActions_ok_iff.mpr bar

theorem after_insertBelongings (accepts : db.Accepts cid info)
    (known : classNameForId info.currentClass.toUInt16 = some column) :
    after (insertBelongings cid info) db =
      { db.outfitted cid info column with
        hotbar := fillBar cid info.currentClass 0 (defaultActions info.currentClass db)
          db.hotbar } := by
  have free : ((db.withLevels cid column).withExp cid).parametersave.lookup cid = none :=
    accepts.parameters
  have bar : (db.outfitted cid info column).BarFree cid info.currentClass 0
      (defaultActions info.currentClass (db.outfitted cid info column)) := accepts.hotbar
  rw [insertBelongings_eq, after_bind_ok (insertLevels_ok_iff.mpr accepts.known),
    after_insertLevels known, after_bind_ok rfl, after_insertExp,
    after_bind_ok (insertParameters_ok_iff.mpr free), after_insertParameters free, after_get_bind]
  exact after_insertActions bar

def started (userId cid : UInt32) (info : CharaInfo) (db : Database) : Database :=
  (db.updateMade userId cid info).insertAppearance cid info

variable {userId : UInt32}

theorem make_result : result (makeCharacter userId cid info) db =
    result (insertBelongings cid info) (db.started userId cid info) := rfl

theorem make_ok_iff :
    result (makeCharacter userId cid info) db = .ok () ↔ db.Accepts cid info := by
  rw [make_result, insertBelongings_ok_iff]
  exact ⟨fun accepts => ⟨accepts.known, accepts.parameters, accepts.hotbar⟩,
    fun accepts => ⟨accepts.known, accepts.parameters, accepts.hotbar⟩⟩

variable (userId) in
theorem after_make_ok (accepts : db.Accepts cid info)
    (known : classNameForId info.currentClass.toUInt16 = some column) :
    after (makeCharacter userId cid info) db =
      { (db.started userId cid info).outfitted cid info column with
        hotbar := fillBar cid info.currentClass 0 (defaultActions info.currentClass db)
          db.hotbar } :=
  after_insertBelongings ⟨accepts.known, accepts.parameters, accepts.hotbar⟩ known

variable (cid info db userId) in
theorem make_looks : (after (makeCharacter userId cid info) db).appearance.get
    (db.appearance.last + 1) = some ⟨cid, 4294967295, info⟩ :=
  (after_make userId cid info db).kept _ _ (AutoTable.get_push_self db.appearance _)

theorem make_changes : after (makeCharacter userId cid info) db ≠ db := by
  intro same
  have written := make_looks cid info db userId
  rw [same, AutoTable.get_last_succ] at written
  contradiction

/-! ### Making once -/

/-- The row of the character is made, each of the rows that depend on it is there once, and
nothing else has changed. -/
structure Written (userId cid : UInt32) (info : CharaInfo) (db db' : Database) : Prop where
  owned : ∃ row, db.characters.get cid.toNat = some row ∧ row.userId = userId
  others : Belongings cid (db.updateMade userId cid info) db'
  looks : ∃ key, ∀ k row, db'.appearance.get k = some row ∧ row.characterId = cid ↔
    k = key ∧ row = ⟨cid, 4294967295, info⟩
  levels : ∃ column, classNameForId info.currentClass.toUInt16 = some column ∧
    db'.classLevels.lookup cid = some (Function.update (fun _ => 0) column 1)
  experience : db'.classExp.lookup cid = some fun _ => 0
  parameters : db'.parametersave.lookup cid = some ⟨1900, 1000, 115, 115, info.currentClass, 1⟩
  bar : ∀ classId slot, db'.hotbar.lookup (cid, classId, slot) =
    if classId = info.currentClass then
      (defaultActions info.currentClass db)[slot]?.map (⟨·, 0⟩)
    else none

/-- Making succeeds and has written everything once, or it fails and has written nothing; and
it writes nothing for a character that is made or deleted. -/
def Atomic (userId cid : UInt32) (info : CharaInfo) (db : Database) : Prop :=
  let db' := after (makeCharacter userId cid info) db
  (result (makeCharacter userId cid info) db = .ok () ∧ Written userId cid info db db' ∨
    (∃ e, result (makeCharacter userId cid info) db = .error e) ∧ db' = db) ∧
  ∀ row, db.characters.get cid.toNat = some row → row.state ≠ .reserved → db' = db

/-- The character is a reservation of the user, its class has a column, and there is nothing
that depends on it but, at most, a row of levels that are 0 outside that column and a row of
experience that is 0. -/
structure MakesOnce (userId cid : UInt32) (info : CharaInfo) (db : Database) : Prop where
  reserved : ∃ row, db.characters.get cid.toNat = some row ∧ row.userId = userId ∧
    row.state = .reserved
  known : (classNameForId info.currentClass.toUInt16).isSome
  looks : ∀ key row, db.appearance.get key = some row → row.characterId ≠ cid
  levels : ∀ column levels, classNameForId info.currentClass.toUInt16 = some column →
    db.classLevels.lookup cid = some levels → ∀ other, other ≠ column → levels other = 0
  experience : ∀ exps, db.classExp.lookup cid = some exps → exps = fun _ => 0
  parameters : db.parametersave.lookup cid = none
  bar : ∀ classId slot, db.hotbar.lookup (cid, classId, slot) = none

theorem MakesOnce.accepts (once : MakesOnce userId cid info db) : db.Accepts cid info :=
  ⟨once.known, once.parameters, fun _ _ => once.bar _ _⟩

/-! What the rows of the character are behind a making that succeeds. -/

section Made

variable (accepts : db.Accepts cid info)

include accepts in
theorem made_levels (known : classNameForId info.currentClass.toUInt16 = some column) :
    (after (makeCharacter userId cid info) db).classLevels.lookup cid =
      some (Function.update ((db.classLevels.lookup cid).getD fun _ => 0) column 1) := by
  rw [after_make_ok userId accepts known]
  exact lookup_setClass_self (lookup_insertOrIgnore_self db.classLevels)

include accepts in
theorem made_experience : (after (makeCharacter userId cid info) db).classExp.lookup cid =
    some ((db.classExp.lookup cid).getD fun _ => 0) := by
  obtain ⟨column, known⟩ := Option.isSome_iff_exists.mp accepts.known
  rw [after_make_ok userId accepts known]
  exact lookup_insertOrIgnore_self db.classExp

include accepts in
theorem made_bar (key : UInt32 × UInt32 × ℕ) :
    (after (makeCharacter userId cid info) db).hotbar.lookup key =
      (fillBar cid info.currentClass 0 (defaultActions info.currentClass db) db.hotbar).lookup
        key := by
  obtain ⟨column, known⟩ := Option.isSome_iff_exists.mp accepts.known
  rw [after_make_ok userId accepts known]

end Made

theorem made_others : Belongings cid (db.updateMade userId cid info)
    (after (makeCharacter userId cid info) db) :=
  Belongings.trans _ _ _ (belongings_appearance cid info _) (after_make userId cid info db)

theorem update_levels {levels : ClassColumn → UInt32}
    (zero : ∀ other, other ≠ column → levels other = 0) :
    Function.update levels column 1 = Function.update (fun _ => 0) column 1 := by
  funext other
  by_cases own : other = column
  · rw [own, Function.update_self, Function.update_self]
  · rw [Function.update_of_ne own, Function.update_of_ne own, zero other own]

theorem MakesOnce.written (once : MakesOnce userId cid info db) :
    Written userId cid info db (after (makeCharacter userId cid info) db) := by
  obtain ⟨column, known⟩ := Option.isSome_iff_exists.mp once.known
  obtain ⟨row, found, owned, _⟩ := once.reserved
  have made := after_make_ok userId once.accepts known
  refine ⟨⟨row, found, owned⟩, made_others, ⟨db.appearance.last + 1, fun k look => ?_⟩,
    ⟨column, known, ?_⟩, ?_, ?_, fun classId slot => ?_⟩
  · have looks : (after (makeCharacter userId cid info) db).appearance =
        db.appearance.push ⟨cid, 4294967295, info⟩ := by
      rw [made]
      rfl
    rw [looks, AutoTable.get_push]
    by_cases new : k = db.appearance.last + 1
    · rw [if_pos new]
      constructor
      · intro there
        exact ⟨new, (Option.some.inj there.1).symm⟩
      · intro there
        rw [there.2]
        exact ⟨rfl, rfl⟩
    · rw [if_neg new]
      exact iff_of_false (fun there => once.looks k look there.1 there.2) fun there => new there.1
  · rw [made_levels once.accepts known]
    cases before : db.classLevels.lookup cid with
    | none => rfl
    | some levels => exact congrArg some (update_levels (once.levels column levels known before))
  · rw [made_experience once.accepts]
    cases before : db.classExp.lookup cid with
    | none => rfl
    | some exps => exact congrArg some (once.experience exps before)
  · rw [made]
    exact AList.lookup_insert _
  · rw [made_bar once.accepts, lookup_bar, once.bar]
    by_cases own : classId = info.currentClass
    · rw [if_pos own]
      by_cases below : slot < (defaultActions info.currentClass db).length
      · rw [if_pos ⟨own, below⟩]
      · rw [if_neg fun both => below both.2, List.getElem?_eq_none (Nat.le_of_not_lt below)]
        rfl
    · rw [if_neg own, if_neg fun both => own both.1]

theorem MakesOnce.of_written (accepts : db.Accepts cid info)
    (reserved : ∃ row, db.characters.get cid.toNat = some row ∧ row.userId = userId ∧
      row.state = .reserved)
    (written : Written userId cid info db (after (makeCharacter userId cid info) db)) :
    MakesOnce userId cid info db := by
  refine ⟨reserved, accepts.known, fun key look found same => ?_,
    fun column levels known before other apart => ?_, fun exps before => ?_, accepts.parameters,
    fun classId slot => ?_⟩
  · obtain ⟨only, once⟩ := written.looks
    have kept := (once key look).mp ⟨written.others.kept key look found, same⟩
    have new := (once _ _).mp ⟨make_looks cid info db userId, rfl⟩
    rw [kept.1, ← new.1, AutoTable.get_last_succ] at found
    contradiction
  · obtain ⟨column', known', after_levels⟩ := written.levels
    cases known.symm.trans known'
    rw [made_levels accepts known, before] at after_levels
    have equal := congrFun (Option.some.inj after_levels) other
    rw [Function.update_of_ne apart, Function.update_of_ne apart] at equal
    exact equal
  · have after_exps := written.experience
    rw [made_experience accepts, before] at after_exps
    exact Option.some.inj after_exps
  · have after_bar := written.bar classId slot
    rw [made_bar accepts, lookup_bar] at after_bar
    by_cases inside : classId = info.currentClass ∧
        slot < (defaultActions info.currentClass db).length
    · have free := accepts.hotbar slot inside.2
      rw [Nat.zero_add] at free
      rw [inside.1, free]
    · rw [if_neg inside] at after_bar
      rw [after_bar]
      by_cases own : classId = info.currentClass
      · have beyond := Nat.le_of_not_lt fun below => inside ⟨own, below⟩
        rw [if_pos own, List.getElem?_eq_none beyond]
        rfl
      · rw [if_neg own]

/-- Making a character is atomic exactly if everything it writes is written for the first
time. -/
theorem make_atomic_iff : Atomic userId cid info db ↔ MakesOnce userId cid info db := by
  constructor
  · intro atomic
    obtain ⟨outcome, untouched⟩ := atomic
    cases outcome with
    | inr failed => exact absurd failed.2 make_changes
    | inl succeeded =>
        obtain ⟨ok, written⟩ := succeeded
        obtain ⟨row, found, owned⟩ := written.owned
        refine .of_written (make_ok_iff.mp ok) ⟨row, found, owned, ?_⟩ written
        by_contra other
        exact make_changes (untouched row found other)
  · intro once
    refine ⟨.inl ⟨make_ok_iff.mpr once.accepts, once.written⟩, fun row found other => ?_⟩
    obtain ⟨row', found', _, reserved⟩ := once.reserved
    cases found.symm.trans found'
    exact absurd reserved other

def oneReserved : Database where
  characters := AutoTable.empty.push
    { userId := 1, slot := 0, serverId := 1, name := [], state := .reserved }
  appearance := AutoTable.empty
  classLevels := ∅
  classExp := ∅
  parametersave := ∅
  hotbar := ∅
  sessions := ∅
  battleCommands := []

def pugilist : CharaInfo := { currentClass := 2 }

/-- Making the character again writes its looks again, and a class without a column leaves
the character made and without levels. -/
theorem make_not_atomic :
    ¬ Atomic 1 1 pugilist (after (makeCharacter 1 1 pugilist) oneReserved) ∧
      ¬ Atomic 1 1 {} oneReserved := by
  constructor
  · intro atomic
    have made : (after (makeCharacter 1 1 pugilist) oneReserved).characters =
        (oneReserved.updateMade 1 1 pugilist).characters := made_others.characters
    have found : (oneReserved.updateMade 1 1 pugilist).characters.get 1 = some
        (CharacterRow.make pugilist
          { userId := 1, slot := 0, serverId := 1, name := [], state := .reserved }) := rfl
    rw [← made] at found
    exact make_changes (atomic.2 _ found fun reserved => by cases reserved)
  · intro atomic
    have failed : result (makeCharacter 1 1 {}) oneReserved = .error .noSuchColumn := rfl
    cases atomic.1 with
    | inl succeeded =>
        rw [failed] at succeeded
        cases succeeded.1
    | inr unchanged => exact make_changes unchanged.2

end Database
end Garlemald.Lobby
