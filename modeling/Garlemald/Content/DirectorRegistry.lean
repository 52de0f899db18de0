import Garlemald.Content.Director
import Garlemald.Library.Table
import Garlemald.Npc.ActorId

/-!
The directors of an area. Two tables, of plain directors and of those of guildleves, share the ids
that one allocator hands out; a director with an id of the caller's choice is looked for in the
first table alone.
-/

namespace Garlemald.Content

open Library

/-- A guildleve director as it is created. -/
structure GuildleveDirector where
  base : Director
  guildleveId : UInt32
  difficulty : UInt8
  ownerActorId : UInt32
  location : UInt32
  timeLimitSeconds : UInt32
  aimNumTemplate : Fin 4 → Int8
  plateId : UInt32

def guildleveScriptForPlate (guildleveId plateId : UInt32) : Option String :=
  if guildleveId = 10801 ∨ guildleveId = 12401 ∨ guildleveId = 11601 then
    some "Guildleve/PrivateGLBattleTutorial"
  else if plateId = 20021 then some "Guildleve/PrivateGLBattleSweepNormal"
  else if plateId = 20022 then some "Guildleve/PrivateGLBattleChaseNormal"
  else if plateId = 20023 then some "Guildleve/PrivateGLBattleOrbNormal"
  else if plateId = 20024 then some "Guildleve/PrivateGLBattleHuntNormal"
  else if plateId = 20025 then some "Guildleve/PrivateGLBattleGatherNormal"
  else if plateId = 20026 then some "Guildleve/PrivateGLBattleRoundNormal"
  else if plateId = 20027 then some "Guildleve/PrivateGLBattleSurviveNormal"
  else if plateId = 20028 then some "Guildleve/PrivateGLBattleDetectNormal"
  else none

structure GuildleveArgs where
  guildleveId : UInt32
  difficulty : UInt8
  ownerActorId : UInt32
  plateId : UInt32
  location : UInt32
  timeLimitSeconds : UInt32
  aimNumTemplate : Fin 4 → Int8

def GuildleveDirector.new (localId zoneId : UInt32) (args : GuildleveArgs) : GuildleveDirector where
  base := .new localId zoneId
    ((guildleveScriptForPlate args.guildleveId args.plateId).getD
      "Guildleve/PrivateGLBattleTutorial").toList
  guildleveId := args.guildleveId
  difficulty := args.difficulty
  ownerActorId := args.ownerActorId
  location := args.location
  timeLimitSeconds := args.timeLimitSeconds
  aimNumTemplate := args.aimNumTemplate
  plateId := args.plateId

structure AreaCore where
  actorId : UInt32
  directors : Table UInt32 Director
  guildleveDirectors : Table UInt32 GuildleveDirector
  nextDirectorId : UInt32

/-- The sum in the encoding stays within 32 bits; only a build that checks minds. -/
def EncodeFits (checked : Bool) (localId : UInt32) : Prop :=
  checked = true → localId.toNat + 2 < 2 ^ 32

instance (checked : Bool) (localId : UInt32) : Decidable (EncodeFits checked localId) :=
  inferInstanceAs (Decidable (_ → _))

namespace AreaCore

variable (checked : Bool) (a : AreaCore)

def new (actorId : UInt32) : AreaCore := ⟨actorId, ∅, ∅, 1⟩

def allocDirectorId : UInt32 × AreaCore :=
  (a.nextDirectorId, { a with nextDirectorId :=
    if a.nextDirectorId = 0xFFFFFFFF then 0xFFFFFFFF else a.nextDirectorId + 1 })

/-- `none` is the panic of a build with overflow checks. -/
def createDirector (scriptPath : Text) : Option (UInt32 × AreaCore) :=
  let (localId, a) := a.allocDirectorId
  if EncodeFits checked localId then
    let director := Director.new localId a.actorId scriptPath
    some (director.actorId, { a with directors := a.directors.insert director.actorId director })
  else none

def createGuildleveDirector (args : GuildleveArgs) : Option (UInt32 × AreaCore) :=
  let (localId, a) := a.allocDirectorId
  if EncodeFits checked localId then
    let director := GuildleveDirector.new localId a.actorId args
    some (director.base.actorId,
      { a with guildleveDirectors :=
          a.guildleveDirectors.insert director.base.actorId director })
  else none

def createDirectorWithId (localId : UInt32) (scriptPath : Text) : Option (UInt32 × AreaCore) :=
  if EncodeFits checked localId then
    let director := Director.new localId a.actorId scriptPath
    let a := match a.directors.lookup director.actorId with
      | some _ => a
      | none => { a with directors := a.directors.insert director.actorId director }
    some (director.actorId,
      if a.nextDirectorId ≤ localId then
        { a with nextDirectorId := if localId = 0xFFFFFFFF then 0xFFFFFFFF else localId + 1 }
      else a)
  else none

def deleteDirector (actorId : UInt32) : Bool × AreaCore :=
  match a.directors.lookup actorId with
  | some _ => (true, { a with directors := a.directors.erase actorId })
  | none =>
      match a.guildleveDirectors.lookup actorId with
      | some _ => (true, { a with guildleveDirectors := a.guildleveDirectors.erase actorId })
      | none => (false, a)

def directorCount : ℕ := a.directors.entries.length + a.guildleveDirectors.entries.length

/-! ### Live directors -/

def liveIds : List UInt32 :=
  (Table.values a.directors).map (·.actorId) ++
    (Table.values a.guildleveDirectors).map (·.base.actorId)

def Live (id : UInt32) : Prop :=
  (a.directors.lookup id).isSome ∨ (a.guildleveDirectors.lookup id).isSome

instance (id : UInt32) : Decidable (a.Live id) := inferInstanceAs (Decidable (_ ∨ _))

def SameAt (a a' : AreaCore) (id : UInt32) : Prop :=
  a'.directors.lookup id = a.directors.lookup id ∧
    a'.guildleveDirectors.lookup id = a.guildleveDirectors.lookup id

end AreaCore

inductive RegistryCall where
  | createDirector (scriptPath : Text)
  | createGuildleveDirector (args : GuildleveArgs)
  | createDirectorWithId (localId : UInt32) (scriptPath : Text)
  | deleteDirector (actorId : UInt32)

inductive RegistryAnswer where
  | created (id : UInt32)
  | deleted (found : Bool)

namespace RegistryCall

def answer (checked : Bool) (a : AreaCore) : RegistryCall → Option (RegistryAnswer × AreaCore)
  | createDirector scriptPath =>
      (a.createDirector checked scriptPath).map fun r => (.created r.1, r.2)
  | createGuildleveDirector args =>
      (a.createGuildleveDirector checked args).map fun r => (.created r.1, r.2)
  | createDirectorWithId localId scriptPath =>
      (a.createDirectorWithId checked localId scriptPath).map fun r => (.created r.1, r.2)
  | deleteDirector actorId => some (.deleted (a.deleteDirector actorId).1,
      (a.deleteDirector actorId).2)

/-- What a call promises: a creation leaves the live directors as they are and there is one more of
them, or the one asked for was there; a deletion removes the one with the id and no other. -/
def Sound (a : AreaCore) : RegistryCall → RegistryAnswer → AreaCore → Prop
  | createDirector _, .created id, a' | createGuildleveDirector _, .created id, a' =>
      a'.Live id ∧ a'.directorCount = a.directorCount + 1 ∧
        ∀ other, a.Live other → a.SameAt a' other
  | createDirectorWithId _ _, .created id, a' =>
      a'.Live id ∧ a'.directorCount = a.directorCount + (if a.Live id then 0 else 1) ∧
        ∀ other, a.Live other → a.SameAt a' other
  | deleteDirector id, .deleted found, a' =>
      (found = true ↔ a.Live id) ∧ ¬a'.Live id ∧ ∀ other, other ≠ id → a.SameAt a' other
  | _, _, _ => False

/-- The id of the next director is none of a live one, the chosen id none of a guildleve's. -/
def Fits (checked : Bool) (a : AreaCore) : RegistryCall → Prop
  | createDirector _ | createGuildleveDirector _ =>
      EncodeFits checked a.nextDirectorId ∧
        ¬a.Live (encodeDirectorActorId a.actorId a.nextDirectorId)
  | createDirectorWithId localId _ =>
      EncodeFits checked localId ∧
        a.guildleveDirectors.lookup (encodeDirectorActorId a.actorId localId) = none
  | deleteDirector _ => True

end RegistryCall

/-! ### Ids of the tables -/

namespace AreaCore

variable {checked : Bool} {a a' : AreaCore} {id : UInt32}

structure Filed (a : AreaCore) : Prop where
  plain : ∀ id d, a.directors.lookup id = some d → d.actorId = id
  guildleve : ∀ id d, a.guildleveDirectors.lookup id = some d → d.base.actorId = id

/-- No id is in both tables. -/
def Apart (a : AreaCore) : Prop :=
  ∀ id, (a.directors.lookup id).isSome → a.guildleveDirectors.lookup id = none

private theorem map_values {ν : Type} {t : Table UInt32 ν} {f : ν → UInt32}
    (filed : ∀ id v, t.lookup id = some v → f v = id) : (Table.values t).map f = t.keys := by
  rw [Table.values, List.map_map]
  apply List.map_congr_left
  intro e member
  exact filed e.1 e.2 (AList.mem_lookup_iff.mpr member)

theorem nodup_liveIds (filed : a.Filed) : a.liveIds.Nodup ↔ a.Apart := by
  rw [liveIds, map_values filed.plain, map_values filed.guildleve, List.nodup_append']
  constructor
  · intro ⟨_, _, apart⟩ id plain
    apply AList.lookup_eq_none.mpr
    exact List.disjoint_left.mp apart (AList.lookup_isSome.mp plain)
  · intro apart
    refine ⟨a.directors.keys_nodup, a.guildleveDirectors.keys_nodup, ?_⟩
    apply List.disjoint_left.mpr
    intro id plain
    exact AList.lookup_eq_none.mp (apart id (AList.lookup_isSome.mpr plain))

theorem filed_new (zone : UInt32) : (new zone).Filed := by
  constructor
  · intro id d found
    cases found
  · intro id d found
    cases found

private theorem filed_insert {ν : Type} {t : Table UInt32 ν} {f : ν → UInt32}
    (filed : ∀ id v, t.lookup id = some v → f v = id) (v : ν) :
    ∀ id w, (t.insert (f v) v).lookup id = some w → f w = id := by
  intro id w found
  by_cases same : id = f v
  · subst same
    rw [AList.lookup_insert] at found
    cases found
    rfl
  · rw [AList.lookup_insert_ne same] at found
    exact filed id w found

/-- A director under an id is put in, in one of the tables, over what it holds there. -/
structure Adds (a a' : AreaCore) (id : UInt32) : Prop where
  live : a'.Live id
  others : ∀ other, other ≠ id → a.SameAt a' other
  filed : a.Filed → a'.Filed
  fresh : ¬a.Live id → a'.directorCount = a.directorCount + 1 ∧ (a.Apart → a'.Apart)
  taken : a.Live id → a'.Apart → a'.directorCount = a.directorCount

def withDirector (a : AreaCore) (d : Director) (next : UInt32) : AreaCore :=
  { a with directors := a.directors.insert d.actorId d, nextDirectorId := next }

def withGuildleveDirector (a : AreaCore) (d : GuildleveDirector) (next : UInt32) : AreaCore :=
  { a with
    guildleveDirectors := a.guildleveDirectors.insert d.base.actorId d
    nextDirectorId := next }

theorem adds_plain (d : Director) (next : UInt32) :
    Adds a (a.withDirector d next) d.actorId where
  live := .inl (Table.isSome_lookup_insert.mpr (.inl rfl))
  others other apart := ⟨AList.lookup_insert_ne apart, rfl⟩
  filed filed := ⟨filed_insert filed.plain d, filed.guildleve⟩
  fresh fresh := by
    obtain ⟨no_plain, no_guildleve⟩ := not_or.mp fresh
    refine ⟨?_, fun apart id plain => ?_⟩
    · dsimp only [directorCount, withDirector]
      rw [Table.length_insert, if_neg no_plain]
      omega
    · cases Table.isSome_lookup_insert.mp plain with
      | inl same =>
          rw [same]
          exact Option.not_isSome_iff_eq_none.mp no_guildleve
      | inr before => exact apart id before
  taken live apart := by
    cases live with
    | inl plain =>
        dsimp only [directorCount, withDirector]
        rw [Table.length_insert, if_pos plain, add_zero]
    | inr guildleve =>
        have gone : a.guildleveDirectors.lookup d.actorId = none :=
          apart d.actorId (Table.isSome_lookup_insert.mpr (.inl rfl))
        rw [gone] at guildleve
        cases guildleve

theorem adds_guildleve (d : GuildleveDirector) (next : UInt32) :
    Adds a (a.withGuildleveDirector d next) d.base.actorId where
  live := .inr (Table.isSome_lookup_insert.mpr (.inl rfl))
  others other apart := ⟨rfl, AList.lookup_insert_ne apart⟩
  filed filed := ⟨filed.plain, filed_insert filed.guildleve d⟩
  fresh fresh := by
    obtain ⟨no_plain, no_guildleve⟩ := not_or.mp fresh
    refine ⟨?_, fun apart id plain => ?_⟩
    · dsimp only [directorCount, withGuildleveDirector]
      rw [Table.length_insert, if_neg no_guildleve]
      omega
    · have other : id ≠ d.base.actorId := fun same => no_plain (same ▸ plain)
      exact (AList.lookup_insert_ne other).trans (apart id plain)
  taken live apart := by
    cases live with
    | inl plain =>
        have gone : (a.guildleveDirectors.insert d.base.actorId d).lookup d.base.actorId = none :=
          apart d.base.actorId plain
        rw [AList.lookup_insert] at gone
        cases gone
    | inr guildleve =>
        dsimp only [directorCount, withGuildleveDirector]
        rw [Table.length_insert, if_pos guildleve, add_zero]

theorem Adds.sound_iff (adds : Adds a a' id) (apart : a.Apart) :
    ((a'.Live id ∧ a'.directorCount = a.directorCount + 1 ∧
        ∀ other, a.Live other → a.SameAt a' other) ∧ a'.Apart) ↔ ¬a.Live id := by
  constructor
  · intro ⟨⟨_, more, _⟩, apart'⟩ live
    have same := adds.taken live apart'
    omega
  · intro fresh
    obtain ⟨more, apart'⟩ := adds.fresh fresh
    refine ⟨⟨adds.live, more, fun other live => ?_⟩, apart' apart⟩
    exact adds.others other fun same => fresh (same ▸ live)

def withChosenDirector (a : AreaCore) (d : Director) (next : UInt32) : AreaCore :=
  match a.directors.lookup d.actorId with
  | some _ => { a with nextDirectorId := next }
  | none => a.withDirector d next

theorem withChosenDirector_spec (d : Director) (next : UInt32) (apart : a.Apart) :
    (a.Filed → (a.withChosenDirector d next).Filed) ∧
      ((((a.withChosenDirector d next).Live d.actorId ∧
            (a.withChosenDirector d next).directorCount =
              a.directorCount + (if a.Live d.actorId then 0 else 1) ∧
            ∀ other, a.Live other → a.SameAt (a.withChosenDirector d next) other) ∧
          (a.withChosenDirector d next).Apart) ↔
        a.guildleveDirectors.lookup d.actorId = none) := by
  cases plain : a.directors.lookup d.actorId with
  | some there =>
      have kept : a.withChosenDirector d next = { a with nextDirectorId := next } := by
        rw [withChosenDirector, plain]
      have live : a.Live d.actorId := .inl (by rw [plain]; rfl)
      rw [kept]
      refine ⟨fun filed => ⟨filed.plain, filed.guildleve⟩, iff_of_true ?_ ?_⟩
      · refine ⟨⟨live, ?_, fun other _ => ⟨rfl, rfl⟩⟩, apart⟩
        rw [if_pos live]
        rfl
      · exact apart d.actorId (by rw [plain]; rfl)
  | none =>
      have put : a.withChosenDirector d next = a.withDirector d next := by
        rw [withChosenDirector, plain]
      have adds := adds_plain (a := a) d next
      have live_iff : a.Live d.actorId ↔ (a.guildleveDirectors.lookup d.actorId).isSome := by
        rw [Live, plain]
        simp
      rw [put]
      refine ⟨adds.filed, ?_⟩
      rw [← Option.not_isSome_iff_eq_none, ← live_iff, ← adds.sound_iff apart]
      by_cases live : a.Live d.actorId
      · have doubled : ¬(a.withDirector d next).Apart := by
          intro apart'
          have gone : a.guildleveDirectors.lookup d.actorId = none :=
            apart' d.actorId (Table.isSome_lookup_insert.mpr (.inl rfl))
          have there := live_iff.mp live
          rw [gone] at there
          cases there
        exact iff_of_false (fun held => doubled held.2) (fun held => doubled held.2)
      · rw [if_neg live]

private theorem lookup_of_erase {ν : Type} {t : Table UInt32 ν} {other : UInt32} {v : ν}
    (found : (t.erase id).lookup other = some v) : t.lookup other = some v := by
  by_cases same : other = id
  · subst same
    rw [AList.lookup_erase] at found
    cases found
  · rwa [AList.lookup_erase_ne same] at found

theorem deleteDirector_spec (id : UInt32) (apart : a.Apart) (filed : a.Filed) :
    (((a.deleteDirector id).1 = true ↔ a.Live id) ∧ ¬(a.deleteDirector id).2.Live id ∧
      ∀ other, other ≠ id → a.SameAt (a.deleteDirector id).2 other) ∧
      (a.deleteDirector id).2.Apart ∧ (a.deleteDirector id).2.Filed := by
  cases plain : a.directors.lookup id with
  | some d =>
      have deleted : a.deleteDirector id =
          (true, { a with directors := a.directors.erase id }) := by
        rw [deleteDirector, plain]
      have no_guildleve := apart id (by rw [plain]; rfl)
      rw [deleted]
      refine ⟨⟨iff_of_true rfl (.inl (by rw [plain]; rfl)), ?_, fun other different => ?_⟩, ?_, ?_⟩
      · intro live
        simp [Live, no_guildleve] at live
      · exact ⟨AList.lookup_erase_ne different, rfl⟩
      · intro other found
        obtain ⟨e, here⟩ := Option.isSome_iff_exists.mp found
        exact apart other (by rw [lookup_of_erase here]; rfl)
      · exact ⟨fun other e found => filed.plain other e (lookup_of_erase found), filed.guildleve⟩
  | none =>
      cases guildleve : a.guildleveDirectors.lookup id with
      | some d =>
          have deleted : a.deleteDirector id =
              (true, { a with guildleveDirectors := a.guildleveDirectors.erase id }) := by
            rw [deleteDirector, plain, guildleve]
          rw [deleted]
          refine ⟨⟨iff_of_true rfl (.inr (by rw [guildleve]; rfl)), ?_, fun other different => ?_⟩,
            ?_, ?_⟩
          · intro live
            simp [Live, plain] at live
          · exact ⟨rfl, AList.lookup_erase_ne different⟩
          · intro other found
            have gone := apart other found
            by_cases same : other = id
            · subst same
              exact AList.lookup_erase other _
            · exact (AList.lookup_erase_ne same).trans gone
          · exact ⟨filed.plain,
              fun other e found => filed.guildleve other e (lookup_of_erase found)⟩
      | none =>
          have kept : a.deleteDirector id = (false, a) := by
            rw [deleteDirector, plain, guildleve]
          have absent : ¬a.Live id := by simp [Live, plain, guildleve]
          rw [kept]
          exact ⟨⟨iff_of_false Bool.false_ne_true absent, absent, fun _ _ => ⟨rfl, rfl⟩⟩, apart,
            filed⟩

end AreaCore

/-! ### Runs -/

/-- Each call returns and is sound, and no two live directors ever share an actor id. -/
def SoundRun (checked : Bool) : AreaCore → List RegistryCall → Prop
  | a, [] => a.liveIds.Nodup
  | a, c :: cs => a.liveIds.Nodup ∧ ∃ answer a', c.answer checked a = some (answer, a') ∧
      c.Sound a answer a' ∧ SoundRun checked a' cs

def FitsRun (checked : Bool) : AreaCore → List RegistryCall → Prop
  | _, [] => True
  | a, c :: cs => c.Fits checked a ∧
      ∀ answer a', c.answer checked a = some (answer, a') → FitsRun checked a' cs

namespace RegistryCall

open AreaCore

variable {checked : Bool} {a : AreaCore}

private theorem exists_answer {c : RegistryCall} {ans : RegistryAnswer} {a' : AreaCore}
    {P : RegistryAnswer → AreaCore → Prop} (returned : c.answer checked a = some (ans, a')) :
    (∃ answer after, c.answer checked a = some (answer, after) ∧ P answer after) ↔ P ans a' := by
  rw [returned]
  constructor
  · intro ⟨answer, after, same, held⟩
    cases same
    exact held
  · intro held
    exact ⟨ans, a', rfl, held⟩

private theorem no_answer {c : RegistryCall} {P : RegistryAnswer → AreaCore → Prop}
    (panics : c.answer checked a = none) :
    ¬∃ answer after, c.answer checked a = some (answer, after) ∧ P answer after := by
  intro ⟨answer, after, same, _⟩
  rw [panics] at same
  cases same

private theorem answer_createDirector (scriptPath : Text)
    (fits : EncodeFits checked a.nextDirectorId) :
    (createDirector scriptPath).answer checked a =
      some (.created (encodeDirectorActorId a.actorId a.nextDirectorId),
        a.withDirector (.new a.nextDirectorId a.actorId scriptPath)
          a.allocDirectorId.2.nextDirectorId) :=
  congrArg (Option.map _) (if_pos fits)

private theorem answer_createGuildleveDirector (args : GuildleveArgs)
    (fits : EncodeFits checked a.nextDirectorId) :
    (createGuildleveDirector args).answer checked a =
      some (.created (encodeDirectorActorId a.actorId a.nextDirectorId),
        a.withGuildleveDirector (.new a.nextDirectorId a.actorId args)
          a.allocDirectorId.2.nextDirectorId) :=
  congrArg (Option.map _) (if_pos fits)

private theorem answer_withId (localId : UInt32) (scriptPath : Text)
    (fits : EncodeFits checked localId) :
    (createDirectorWithId localId scriptPath).answer checked a =
      some (.created (encodeDirectorActorId a.actorId localId),
        a.withChosenDirector (.new localId a.actorId scriptPath)
          (if a.nextDirectorId ≤ localId then
            if localId = 0xFFFFFFFF then 0xFFFFFFFF else localId + 1
          else a.nextDirectorId)) := by
  refine (congrArg (Option.map _) (if_pos fits)).trans ?_
  rw [Option.map_some, withChosenDirector]
  cases a.directors.lookup (Director.new localId a.actorId scriptPath).actorId with
  | none =>
      by_cases ahead : a.nextDirectorId ≤ localId
      · simp only [if_pos ahead]
        rfl
      · simp only [if_neg ahead]
        rfl
  | some _ =>
      by_cases ahead : a.nextDirectorId ≤ localId
      · simp only [if_pos ahead]
        rfl
      · simp only [if_neg ahead]
        rfl

theorem sound_iff_fits (checked : Bool) (c : RegistryCall) (apart : a.Apart) (filed : a.Filed) :
    (∃ answer a', c.answer checked a = some (answer, a') ∧
      c.Sound a answer a' ∧ a'.Apart) ↔ c.Fits checked a := by
  cases c with
  | createDirector scriptPath =>
      by_cases fits : EncodeFits checked a.nextDirectorId
      · rw [exists_answer (answer_createDirector scriptPath fits), Fits, and_iff_right fits]
        exact (adds_plain _ _).sound_iff apart
      · have panics : (createDirector scriptPath).answer checked a = none :=
          congrArg (Option.map _) (if_neg fits)
        exact iff_of_false (no_answer panics) fun both => fits both.1
  | createGuildleveDirector args =>
      by_cases fits : EncodeFits checked a.nextDirectorId
      · rw [exists_answer (answer_createGuildleveDirector args fits), Fits, and_iff_right fits]
        exact (adds_guildleve _ _).sound_iff apart
      · have panics : (createGuildleveDirector args).answer checked a = none :=
          congrArg (Option.map _) (if_neg fits)
        exact iff_of_false (no_answer panics) fun both => fits both.1
  | createDirectorWithId localId scriptPath =>
      by_cases fits : EncodeFits checked localId
      · rw [exists_answer (answer_withId localId scriptPath fits), Fits, and_iff_right fits]
        exact (withChosenDirector_spec _ _ apart).2
      · have panics : (createDirectorWithId localId scriptPath).answer checked a = none :=
          congrArg (Option.map _) (if_neg fits)
        exact iff_of_false (no_answer panics) fun both => fits both.1
  | deleteDirector actorId =>
      obtain ⟨sound, kept, _⟩ := deleteDirector_spec actorId apart filed
      have returned : (deleteDirector actorId).answer checked a =
          some (.deleted (a.deleteDirector actorId).1, (a.deleteDirector actorId).2) := rfl
      rw [exists_answer returned]
      exact iff_of_true ⟨sound, kept⟩ trivial

theorem filed_answer {c : RegistryCall} {ans : RegistryAnswer} {a' : AreaCore} (apart : a.Apart)
    (filed : a.Filed) (taken : c.answer checked a = some (ans, a')) : a'.Filed := by
  cases c with
  | createDirector scriptPath =>
      by_cases fits : EncodeFits checked a.nextDirectorId
      · rw [answer_createDirector scriptPath fits] at taken
        cases taken
        exact (adds_plain _ _).filed filed
      · obtain ⟨_, returned, _⟩ := Option.map_eq_some_iff.mp taken
        exact absurd (Option.ite_none_right_eq_some.mp returned).1 fits
  | createGuildleveDirector args =>
      by_cases fits : EncodeFits checked a.nextDirectorId
      · rw [answer_createGuildleveDirector args fits] at taken
        cases taken
        exact (adds_guildleve _ _).filed filed
      · obtain ⟨_, returned, _⟩ := Option.map_eq_some_iff.mp taken
        exact absurd (Option.ite_none_right_eq_some.mp returned).1 fits
  | createDirectorWithId localId scriptPath =>
      by_cases fits : EncodeFits checked localId
      · rw [answer_withId localId scriptPath fits] at taken
        cases taken
        exact (withChosenDirector_spec _ _ apart).1 filed
      · obtain ⟨_, returned, _⟩ := Option.map_eq_some_iff.mp taken
        exact absurd (Option.ite_none_right_eq_some.mp returned).1 fits
  | deleteDirector actorId =>
      cases taken
      exact (deleteDirector_spec actorId apart filed).2.2

end RegistryCall

theorem soundRun_iff {checked : Bool} {a : AreaCore} {calls : List RegistryCall}
    (filed : a.Filed) (apart : a.Apart) : SoundRun checked a calls ↔ FitsRun checked a calls := by
  have now := (AreaCore.nodup_liveIds filed).mpr apart
  induction calls generalizing a with
  | nil => exact iff_of_true now trivial
  | cons c calls ih =>
      have step := c.sound_iff_fits checked apart filed
      constructor
      · intro ⟨_, answer, a', taken, sound, later⟩
        have filed' := RegistryCall.filed_answer apart filed taken
        have apart' : a'.Apart := by
          refine (AreaCore.nodup_liveIds filed').mp ?_
          cases calls with
          | nil => exact later
          | cons _ _ => exact later.1
        refine ⟨step.mp ⟨answer, a', taken, sound, apart'⟩, fun answer' b taken' => ?_⟩
        rw [taken] at taken'
        cases taken'
        exact (ih filed' apart' ((AreaCore.nodup_liveIds filed').mpr apart')).mp later
      · intro ⟨fits, later⟩
        obtain ⟨answer, a', taken, sound, apart'⟩ := step.mpr fits
        have filed' := RegistryCall.filed_answer apart filed taken
        exact ⟨now, answer, a', taken, sound,
          (ih filed' apart' ((AreaCore.nodup_liveIds filed').mpr apart')).mpr
            (later answer a' taken)⟩

/-- From an area without directors. -/
theorem registry_sound_iff (checked : Bool) (zone : UInt32) (calls : List RegistryCall) :
    SoundRun checked (AreaCore.new zone) calls ↔ FitsRun checked (AreaCore.new zone) calls := by
  refine soundRun_iff (AreaCore.filed_new zone) fun id plain => ?_
  cases plain

/-- A chosen id that a guildleve's director has: both are live under it. -/
theorem chosen_id_shadows :
    ¬SoundRun false (AreaCore.new 209) [.createGuildleveDirector ⟨20028, 4, 191, 20021, 4, 300,
      fun _ => 0⟩, .createDirectorWithId 1 []] := by
  intro sound
  obtain ⟨_, later⟩ := (soundRun_iff (AreaCore.filed_new 209) fun id plain => by cases plain).mp
    sound
  have returned : (RegistryCall.createGuildleveDirector _).answer false (.new 209) = _ :=
    RegistryCall.answer_createGuildleveDirector ⟨20028, 4, 191, 20021, 4, 300, fun _ => 0⟩
      (by decide)
  have shadowed := (later _ _ returned).1.2
  exact absurd shadowed (by decide)

end Garlemald.Content
