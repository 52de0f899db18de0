import Garlemald.Library.F64
import Garlemald.Library.Runs
import Garlemald.Status.IconMirror

/-!
The stored status effects of the characters. A save writes a row for each effect of the
container and takes none away, and a row holds whole numbers only.
-/

namespace Garlemald.Status
open Library

/-- What an effect stores beside its times. Effects are compared by the magnitude. -/
structure Potency where
  magnitude : F64
  tier : UInt8
  extra : F64
deriving DecidableEq

instance : LT Potency := ⟨fun a b => F64.lt a.magnitude b.magnitude = true⟩
instance : LE Potency := ⟨fun a b => F64.le a.magnitude b.magnitude = true⟩
instance : DecidableLT Potency := fun a b =>
  inferInstanceAs (Decidable (F64.lt a.magnitude b.magnitude = true))
instance : DecidableLE Potency := fun a b =>
  inferInstanceAs (Decidable (F64.le a.magnitude b.magnitude = true))

def flagLoseOnLogout : UInt32 := 0x10

/-- `f as u64`: towards zero, and to the nearest bound outside the range. -/
def asU64 : F64 → UInt64
  | .finite q => UInt64.ofNat (min ⌊q⌋.toNat (2 ^ 64 - 1))
  | .infinite negative => if negative then 0 else 0xFFFFFFFFFFFFFFFF
  | .nan => 0

/-- A column of signed numbers, read as an unsigned one. -/
def readU64 (column : Int64) : UInt64 := if column < 0 then 0 else column.toUInt64

structure StatusEffectEntry where
  statusId : UInt32
  duration : UInt32
  magnitude : UInt64
  tick : UInt32
  tier : UInt8
  extra : UInt64
deriving DecidableEq

structure StatusRow where
  magnitude : Int64
  duration : UInt32
  tick : UInt32
  tier : UInt8
  extra : Int64
deriving DecidableEq

abbrev StatusRows := Table (UInt32 × UInt32) StatusRow

def StatusEffect.toDbEntry (e : StatusEffect Potency) : StatusEffectEntry where
  statusId := e.id
  duration := e.duration
  magnitude := asU64 e.magnitude.magnitude
  tick := e.tickMs
  tier := e.magnitude.tier
  extra := asU64 e.magnitude.extra

def StatusEffectContainer.toDbEntries (c : StatusEffectContainer Potency) :
    List StatusEffectEntry :=
  (Table.values c.effects).map StatusEffect.toDbEntry

def StatusEffectEntry.row (entry : StatusEffectEntry) : StatusRow where
  magnitude := entry.magnitude.toInt64
  duration := entry.duration
  tick := entry.tick
  tier := entry.tier
  extra := entry.extra.toInt64

def StatusRow.entry (statusId : UInt32) (row : StatusRow) : StatusEffectEntry where
  statusId := statusId
  duration := row.duration
  magnitude := readU64 row.magnitude
  tick := row.tick
  tier := row.tier
  extra := readU64 row.extra

/-- `REPLACE INTO characters_statuseffect` -/
def savePlayerStatusEffects (charaId : UInt32) (effects : List StatusEffectEntry)
    (rows : StatusRows) : StatusRows :=
  effects.foldl (fun rows entry => rows.insert (charaId, entry.statusId) entry.row) rows

def loadCharacterStatusEffects (charaId : UInt32) (rows : StatusRows) : List StatusEffectEntry :=
  rows.entries.filterMap fun row => if row.1.1 = charaId then some (row.2.entry row.1.2) else none

def StatusEffectEntry.hydrated (actorId : UInt32) (nowMs : UInt64) (entry : StatusEffectEntry) :
    StatusEffect Potency where
  ownerActorId := actorId
  sourceActorId := actorId
  id := entry.statusId
  startTime := StatusEffect.nowSeconds nowMs
  endTime := 0
  lastTickMs := nowMs
  duration := entry.duration
  tickMs := entry.tick
  magnitude := ⟨F64.ofInt entry.magnitude.toNat, entry.tier, F64.ofInt entry.extra.toNat⟩
  flags := 0
  overwrite := .none
  silentOnGain := true
  silentOnLoss := false
  hidden := false
  statusLossTextId := defaultLossTextId

def hydrate (actorId : UInt32) (nowMs : UInt64) (entries : List StatusEffectEntry) :
    StatusEffectContainer Potency :=
  entries.foldl (fun c entry =>
    (c.addStatusEffect (entry.hydrated actorId nowMs) actorId nowMs defaultGainTextId).2.1)
    { ownerActorId := actorId }

/-- The stored effects, the containers of those who are online, and the effects that each
character had at its last save. -/
structure StatusWorld where
  rows : StatusRows
  online : UInt32 → Option (StatusEffectContainer Potency)
  saved : UInt32 → Table UInt32 (StatusEffect Potency)

namespace StatusWorld

variable (s : StatusWorld)

/-- The `DbSave` arm of the dispatcher. -/
def dbSave (charaId : UInt32) : StatusWorld :=
  match s.online charaId with
  | none => s
  | some c =>
      { s with
        rows := savePlayerStatusEffects charaId c.toDbEntries s.rows
        saved := Function.update s.saved charaId c.effects }

def setContainer (charaId : UInt32) (c : Option (StatusEffectContainer Potency)) : StatusWorld :=
  { s with online := Function.update s.online charaId c }

def call (charaId : UInt32) (op : StatusEffectContainer.Op Potency) : StatusWorld :=
  s.setContainer charaId ((s.online charaId).map fun c => (c.call op).1)

/-- Without the scripts nothing that the purge puts out is dispatched, its save neither. -/
def purgeStatusEffectsOnDisconnect (charaId : UInt32) (order : List UInt32) (scripts : Bool) :
    StatusWorld :=
  let purged := s.call charaId (.removeByFlag order flagLoseOnLogout)
  if scripts then purged.dbSave charaId else purged

def login (charaId : UInt32) (nowMs : UInt64) : StatusWorld :=
  s.setContainer charaId
    (some (hydrate charaId nowMs (loadCharacterStatusEffects charaId s.rows)))

end StatusWorld

inductive StatusOp where
  | call (charaId : UInt32) (op : StatusEffectContainer.Op Potency)
  | dbSave (charaId : UInt32)
  | purge (charaId : UInt32) (order : List UInt32) (scripts : Bool)
  | leave (charaId : UInt32)
  | login (charaId : UInt32) (nowMs : UInt64)

namespace StatusWorld

variable (s : StatusWorld)

def step : StatusOp → StatusWorld
  | .call charaId op => s.call charaId op
  | .dbSave charaId => s.dbSave charaId
  | .purge charaId order scripts => s.purgeStatusEffectsOnDisconnect charaId order scripts
  | .leave charaId => s.setContainer charaId none
  | .login charaId nowMs => s.login charaId nowMs

def fresh : StatusWorld where
  rows := ∅
  online := fun _ => none
  saved := fun _ => ∅

structure Stands (entry : StatusEffectEntry) (e : StatusEffect Potency) : Prop where
  statusId : entry.statusId = e.id
  magnitude : e.magnitude.magnitude = .finite entry.magnitude.toNat
  tick : entry.tick = e.tickMs
  duration : entry.duration = e.duration
  tier : entry.tier = e.magnitude.tier
  extra : e.magnitude.extra = .finite entry.extra.toNat

structure Recalls (entries : List StatusEffectEntry)
    (effects : Table UInt32 (StatusEffect Potency)) : Prop where
  once : (entries.map (·.statusId)).Nodup
  loaded : ∀ entry ∈ entries, ∃ e ∈ Table.values effects, Stands entry e
  kept : ∀ e ∈ Table.values effects, ∃ entry ∈ entries, Stands entry e

/-- What a login loads is the last save, and a second save in a row changes no row. -/
structure LastSave : Prop where
  recalls : ∀ charaId, Recalls (loadCharacterStatusEffects charaId s.rows) (s.saved charaId)
  again : ∀ charaId key,
    ((s.dbSave charaId).dbSave charaId).rows.lookup key = (s.dbSave charaId).rows.lookup key

/-- A whole number that a signed column holds. -/
def Whole (f : F64) : Prop := ∃ n : ℕ, n < 2 ^ 63 ∧ f = .finite n

/-- A save of a container that has every effect that is stored, all with whole values. -/
def SaveFits (charaId : UInt32) (c : StatusEffectContainer Potency) : Prop :=
  (∀ statusId, (s.rows.lookup (charaId, statusId)).isSome = true →
    (c.effects.lookup statusId).isSome = true) ∧
  ∀ e ∈ Table.values c.effects, Whole e.magnitude.magnitude ∧ Whole e.magnitude.extra

def Fits : StatusOp → Prop
  | .dbSave charaId => ∀ c, s.online charaId = some c → s.SaveFits charaId c
  | .purge charaId order scripts => scripts = true → ∀ c, s.online charaId = some c →
      s.SaveFits charaId (c.call (.removeByFlag order flagLoseOnLogout)).1
  | .call .. | .leave _ | .login .. => True

end StatusWorld

open StatusEffectContainer

theorem readU64_lt (column : Int64) : (readU64 column).toNat < 2 ^ 63 := by
  rw [readU64]
  split
  · decide
  · next nonnegative =>
      rw [Int64.toNat_toUInt64_of_le (Int64.not_lt.mp nonnegative)]
      have := column.toInt_lt
      have := column.toNat_toInt
      omega

theorem readU64_toInt64 {n : UInt64} (small : n.toNat < 2 ^ 63) : readU64 n.toInt64 = n := by
  have back : n.toInt64 = Int64.ofNat n.toNat := by
    rw [← UInt64.toInt64_ofNat', UInt64.ofNat_toNat]
  have value : n.toInt64.toInt = n.toNat := by
    rw [back, Int64.toInt_ofNat_of_lt small]
  rw [readU64, if_neg, UInt64.toUInt64_toInt64]
  rw [Int64.lt_iff_toInt_lt, value, Int64.toInt_zero]
  omega

theorem read_asU64_iff (f : F64) :
    f = .finite (readU64 (asU64 f).toInt64).toNat ↔ StatusWorld.Whole f := by
  constructor
  · intro same
    exact ⟨_, readU64_lt _, same⟩
  · rintro ⟨n, small, rfl⟩
    have stored : (asU64 (.finite n)).toNat = n := by
      rw [asU64, Int.floor_natCast, Int.toNat_natCast, UInt64.toNat_ofNat']
      omega
    rw [readU64_toInt64 (by omega), stored]

variable {rows : StatusRows}

theorem mem_loaded {charaId : UInt32} {entry : StatusEffectEntry} :
    entry ∈ loadCharacterStatusEffects charaId rows ↔
      ∃ statusId row, rows.lookup (charaId, statusId) = some row ∧ row.entry statusId = entry := by
  rw [loadCharacterStatusEffects, List.mem_filterMap]
  constructor
  · rintro ⟨⟨⟨owner, statusId⟩, row⟩, inside, shown⟩
    split at shown
    · next own =>
        obtain rfl : owner = charaId := own
        exact ⟨statusId, row, AList.mem_lookup_iff.mpr inside, Option.some.inj shown⟩
    · cases shown
  · rintro ⟨statusId, row, found, rfl⟩
    exact ⟨⟨(charaId, statusId), row⟩, AList.mem_lookup_iff.mp found, if_pos rfl⟩

theorem loaded_once (charaId : UInt32) (rows : StatusRows) :
    ((loadCharacterStatusEffects charaId rows).map (·.statusId)).Nodup := by
  have own : (loadCharacterStatusEffects charaId rows).map (·.statusId) =
      (rows.entries.filter fun row => row.1.1 = charaId).map (·.1.2) := by
    rw [loadCharacterStatusEffects, List.map_filterMap, ← List.filterMap_eq_map,
      List.filterMap_filter]
    apply List.filterMap_congr
    intro row _
    by_cases here : row.1.1 = charaId
    · simp [here, StatusRow.entry]
    · simp [here]
  rw [own]
  refine List.Nodup.map_on ?_ (rows.nodupKeys.nodup.filter _)
  rintro ⟨⟨owner, statusId⟩, row⟩ first ⟨⟨owner', statusId'⟩, row'⟩ second same
  obtain ⟨here, mine⟩ := List.mem_filter.mp first
  obtain ⟨there, mine'⟩ := List.mem_filter.mp second
  obtain rfl := of_decide_eq_true mine
  obtain rfl : owner' = owner := of_decide_eq_true mine'
  obtain rfl : statusId = statusId' := same
  have equal := (AList.mem_lookup_iff.mpr here).symm.trans (AList.mem_lookup_iff.mpr there)
  cases equal
  rfl

section Saved

variable {charaId : UInt32} {entries : List StatusEffectEntry}

theorem lookup_saved (once : (entries.map (·.statusId)).Nodup) {owner statusId : UInt32}
    {row : StatusRow} :
    (savePlayerStatusEffects charaId entries rows).lookup (owner, statusId) = some row ↔
      (owner = charaId ∧ ∃ entry ∈ entries, entry.statusId = statusId ∧ entry.row = row) ∨
      ((owner = charaId → ∀ entry ∈ entries, entry.statusId ≠ statusId) ∧
        rows.lookup (owner, statusId) = some row) := by
  induction entries generalizing rows with
  | nil => simp [savePlayerStatusEffects]
  | cons entry entries ih =>
      obtain ⟨fresh, once⟩ := List.nodup_cons.mp once
      have absent : ∀ other ∈ entries, other.statusId ≠ entry.statusId := by
        intro other inside same
        exact fresh (List.mem_map.mpr ⟨other, inside, same⟩)
      rw [savePlayerStatusEffects, List.foldl_cons]
      refine (ih once).trans ?_
      by_cases here : owner = charaId ∧ statusId = entry.statusId
      · obtain ⟨rfl, rfl⟩ := here
        rw [AList.lookup_insert]
        simp only [true_and, List.mem_cons, exists_eq_or_imp, forall_eq_or_imp, true_imp_iff]
        constructor
        · rintro (⟨other, inside, same, _⟩ | ⟨_, same⟩)
          · exact absurd same (absent other inside)
          · exact Or.inl (Or.inl (Option.some.inj same))
        · rintro ((same | ⟨other, inside, same, _⟩) | ⟨⟨impossible, _⟩, _⟩)
          · exact Or.inr ⟨absent, congrArg some same⟩
          · exact absurd same (absent other inside)
          · exact absurd rfl impossible
      · rw [AList.lookup_insert_ne (by
          intro same
          cases same
          exact here ⟨rfl, rfl⟩)]
        apply or_congr
        · apply and_congr_right
          rintro rfl
          have other : entry.statusId ≠ statusId := fun same => here ⟨rfl, same.symm⟩
          simp [other]
        · apply and_congr_left
          intro _
          apply forall_congr'
          rintro rfl
          have other : entry.statusId ≠ statusId := fun same => here ⟨rfl, same.symm⟩
          simp [other]

end Saved

namespace StatusWorld

variable {s : StatusWorld}

theorem recalls_iff {charaId : UInt32} {effects : Table UInt32 (StatusEffect Potency)} :
    Recalls (loadCharacterStatusEffects charaId rows) effects ↔
      (∀ statusId row, rows.lookup (charaId, statusId) = some row →
        ∃ e ∈ Table.values effects, Stands (row.entry statusId) e) ∧
      ∀ e ∈ Table.values effects, ∃ statusId row,
        rows.lookup (charaId, statusId) = some row ∧ Stands (row.entry statusId) e := by
  constructor
  · rintro ⟨_, loaded, kept⟩
    refine ⟨fun statusId row found => loaded _ (mem_loaded.mpr ⟨statusId, row, found, rfl⟩), ?_⟩
    intro e active
    obtain ⟨entry, inside, stands⟩ := kept e active
    obtain ⟨statusId, row, found, rfl⟩ := mem_loaded.mp inside
    exact ⟨statusId, row, found, stands⟩
  · rintro ⟨loaded, kept⟩
    refine ⟨loaded_once _ _, ?_, ?_⟩
    · intro entry inside
      obtain ⟨statusId, row, found, rfl⟩ := mem_loaded.mp inside
      exact loaded statusId row found
    · intro e active
      obtain ⟨statusId, row, found, stands⟩ := kept e active
      exact ⟨_, mem_loaded.mpr ⟨statusId, row, found, rfl⟩, stands⟩

section Container

variable {c : StatusEffectContainer Potency}

theorem mem_values (kept : c.Kept) {e : StatusEffect Potency} :
    e ∈ Table.values c.effects ↔ c.effects.lookup e.id = some e := by
  rw [Table.values, List.mem_map]
  constructor
  · rintro ⟨⟨id, e'⟩, inside, rfl⟩
    have found := AList.mem_lookup_iff.mpr inside
    rwa [kept.keyed id e' found]
  · intro found
    exact ⟨⟨e.id, e⟩, AList.mem_lookup_iff.mp found, rfl⟩

theorem entries_once (kept : c.Kept) : (c.toDbEntries.map (·.statusId)).Nodup := by
  have keys : c.toDbEntries.map (·.statusId) = c.effects.keys := by
    rw [toDbEntries, Table.values, List.map_map, List.map_map, AList.keys, List.keys]
    apply List.map_congr_left
    rintro ⟨id, e⟩ inside
    exact kept.keyed id e (AList.mem_lookup_iff.mpr inside)
  rw [keys]
  exact c.effects.keys_nodup

theorem stands_iff {e : StatusEffect Potency} :
    Stands (e.toDbEntry.row.entry e.id) e ↔
      Whole e.magnitude.magnitude ∧ Whole e.magnitude.extra := by
  rw [← read_asU64_iff, ← read_asU64_iff]
  exact ⟨fun stands => ⟨stands.magnitude, stands.extra⟩,
    fun whole => ⟨rfl, whole.1, rfl, rfl, rfl, whole.2⟩⟩

theorem saved_row_iff (kept : c.Kept) {charaId statusId : UInt32} {row : StatusRow} :
    (savePlayerStatusEffects charaId c.toDbEntries rows).lookup (charaId, statusId) = some row ↔
      (∃ e, c.effects.lookup statusId = some e ∧ e.toDbEntry.row = row) ∨
      (c.effects.lookup statusId = none ∧ rows.lookup (charaId, statusId) = some row) := by
  rw [lookup_saved (entries_once kept)]
  have active (e : StatusEffect Potency) : e ∈ Table.values c.effects ∧ e.id = statusId ↔
      c.effects.lookup statusId = some e := by
    rw [mem_values kept]
    constructor
    · rintro ⟨found, rfl⟩
      exact found
    · intro found
      obtain rfl := kept.keyed _ _ found
      exact ⟨found, rfl⟩
  apply or_congr
  · rw [toDbEntries]
    simp only [true_and, List.mem_map, ← active]
    constructor
    · rintro ⟨_, ⟨e, inside, rfl⟩, here, same⟩
      exact ⟨e, ⟨inside, here⟩, same⟩
    · rintro ⟨e, ⟨inside, here⟩, same⟩
      exact ⟨_, ⟨e, inside, rfl⟩, here, same⟩
  · apply and_congr_left
    intro _
    rw [toDbEntries, Option.eq_none_iff_forall_ne_some]
    simp only [true_imp_iff, List.mem_map, Ne, ← active, not_and]
    exact ⟨fun absent e inside => absent _ ⟨e, inside, rfl⟩,
      fun absent entry ⟨e, inside, made⟩ => made ▸ absent e inside⟩

theorem other_row {charaId owner statusId : UInt32} (kept : c.Kept) (apart : owner ≠ charaId) :
    (savePlayerStatusEffects charaId c.toDbEntries rows).lookup (owner, statusId) =
      rows.lookup (owner, statusId) := by
  apply Option.ext
  intro row
  refine (lookup_saved (entries_once kept)).trans ?_
  simp [apart]

theorem recalls_saved_iff (kept : c.Kept) {charaId : UInt32} :
    Recalls (loadCharacterStatusEffects charaId
      (savePlayerStatusEffects charaId c.toDbEntries s.rows)) c.effects ↔ s.SaveFits charaId c := by
  rw [recalls_iff]
  constructor
  · rintro ⟨loaded, stored⟩
    constructor
    · intro statusId old
      obtain ⟨row, found⟩ := Option.isSome_iff_exists.mp old
      by_contra gone
      rw [Option.not_isSome_iff_eq_none] at gone
      obtain ⟨e, active, stands⟩ := loaded statusId row ((saved_row_iff kept).mpr
        (Or.inr ⟨gone, found⟩))
      rw [mem_values kept, ← stands.statusId] at active
      cases gone.symm.trans active
    · intro e active
      obtain ⟨statusId, row, found, stands⟩ := stored e active
      have here := (mem_values kept).mp active
      obtain rfl : statusId = e.id := stands.statusId
      obtain ⟨e', found', rfl⟩ | ⟨gone, _⟩ := (saved_row_iff kept).mp found
      · cases here.symm.trans found'
        exact stands_iff.mp stands
      · cases gone.symm.trans here
  · rintro ⟨present, whole⟩
    constructor
    · intro statusId row found
      obtain ⟨e, active, rfl⟩ | ⟨gone, old⟩ := (saved_row_iff kept).mp found
      · obtain rfl := kept.keyed _ _ active
        have inside := (mem_values kept).mpr active
        exact ⟨e, inside, stands_iff.mpr (whole e inside)⟩
      · have still := present statusId (by rw [old]; rfl)
        rw [gone] at still
        cases still
    · intro e active
      refine ⟨e.id, e.toDbEntry.row, ?_, stands_iff.mpr (whole e active)⟩
      exact (saved_row_iff kept).mpr (Or.inl ⟨e, (mem_values kept).mp active, rfl⟩)

end Container

def Ordered (s : StatusWorld) : Prop := ∀ charaId c, s.online charaId = some c → c.Kept

theorem saves_again (ordered : s.Ordered) (charaId : UInt32) (key : UInt32 × UInt32) :
    ((s.dbSave charaId).dbSave charaId).rows.lookup key = (s.dbSave charaId).rows.lookup key := by
  obtain ⟨owner, statusId⟩ := key
  cases online : s.online charaId with
  | none => simp only [dbSave, online]
  | some c =>
      have kept := ordered charaId c online
      simp only [dbSave, online]
      by_cases own : owner = charaId
      · subst own
        apply Option.ext
        intro row
        simp only [saved_row_iff kept]
        cases c.effects.lookup statusId <;> simp
      · rw [other_row kept own]

theorem Ordered.setContainer (ordered : s.Ordered) {charaId : UInt32}
    {c : Option (StatusEffectContainer Potency)} (kept : ∀ c', c = some c' → c'.Kept) :
    (s.setContainer charaId c).Ordered := by
  intro charaId' c' online
  change Function.update s.online charaId c charaId' = some c' at online
  by_cases own : charaId' = charaId
  · rw [own, Function.update_self] at online
    exact kept c' online
  · rw [Function.update_of_ne own] at online
    exact ordered charaId' c' online

theorem Ordered.call (ordered : s.Ordered) (charaId : UInt32)
    (op : StatusEffectContainer.Op Potency) : (s.call charaId op).Ordered := by
  apply ordered.setContainer
  intro c' made
  obtain ⟨c, online, rfl⟩ := Option.map_eq_some_iff.mp made
  exact (call_carries (ordered charaId c online) op).kept

theorem Ordered.dbSave (ordered : s.Ordered) (charaId : UInt32) : (s.dbSave charaId).Ordered := by
  rw [StatusWorld.dbSave]
  split
  · exact ordered
  · exact ordered

theorem kept_hydrate (actorId : UInt32) (nowMs : UInt64) (entries : List StatusEffectEntry) :
    (hydrate actorId nowMs entries).Kept := by
  have loop (c : StatusEffectContainer Potency) (kept : c.Kept) :
      (entries.foldl (fun c entry => (c.addStatusEffect (entry.hydrated actorId nowMs) actorId
        nowMs defaultGainTextId).2.1) c).Kept := by
    induction entries generalizing c with
    | nil => exact kept
    | cons entry entries ih =>
        exact ih _ (call_carries kept
          (.addStatusEffect (entry.hydrated actorId nowMs) actorId nowMs defaultGainTextId)).kept
  exact loop _ (kept_new actorId)

theorem Ordered.step (ordered : s.Ordered) (op : StatusOp) : (s.step op).Ordered := by
  cases op with
  | call charaId op => exact ordered.call charaId op
  | dbSave charaId => exact ordered.dbSave charaId
  | purge charaId order scripts =>
      have purged := ordered.call charaId (.removeByFlag order flagLoseOnLogout)
      rw [StatusWorld.step, purgeStatusEffectsOnDisconnect]
      split
      · exact purged.dbSave charaId
      · exact purged
  | leave charaId => exact ordered.setContainer fun c' made => by cases made
  | login charaId nowMs =>
      apply ordered.setContainer
      intro c' made
      cases made
      exact kept_hydrate _ _ _

theorem LastSave.congr {s' : StatusWorld} (last : s.LastSave) (ordered : s'.Ordered)
    (rows : s'.rows = s.rows) (saved : s'.saved = s.saved) : s'.LastSave := by
  refine ⟨?_, saves_again ordered⟩
  rw [rows, saved]
  exact last.recalls

theorem dbSave_iff (ordered : s.Ordered) (last : s.LastSave) (charaId : UInt32) :
    (s.dbSave charaId).LastSave ↔ ∀ c, s.online charaId = some c → s.SaveFits charaId c := by
  have again := saves_again (ordered.dbSave charaId)
  cases online : s.online charaId with
  | none =>
      have same : s.dbSave charaId = s := by simp only [dbSave, online]
      rw [same]
      exact iff_of_true last (by simp)
  | some c =>
      have kept := ordered charaId c online
      have after : s.dbSave charaId =
          { s with
            rows := savePlayerStatusEffects charaId c.toDbEntries s.rows
            saved := Function.update s.saved charaId c.effects } := by
        simp only [dbSave, online]
      simp only [Option.some.injEq, forall_eq']
      rw [← recalls_saved_iff kept]
      constructor
      · intro last'
        have own := last'.recalls charaId
        rw [after] at own
        dsimp only at own
        rwa [Function.update_self] at own
      · intro own
        refine ⟨fun charaId' => ?_, again⟩
        rw [after]
        dsimp only
        by_cases here : charaId' = charaId
        · rw [here, Function.update_self]
          exact own
        · rw [Function.update_of_ne here]
          have before := recalls_iff.mp (last.recalls charaId')
          rw [recalls_iff]
          simp only [other_row kept here]
          exact before

/-- What is loaded stays the last save throughout a run exactly if every save is of a container
that has all the effects that are stored, with whole magnitudes. -/
theorem last_save_iff (ops : List StatusOp) :
    Always (fun s op => some (step s op)) LastSave fresh ops ↔
      EachStep (fun s op => some (step s op)) Fits fresh ops := by
  have ordered : fresh.Ordered := fun charaId c online => by cases online
  apply always_iff_eachStep (I := Ordered) _ _ ordered
  · refine ⟨fun charaId => recalls_iff.mpr ⟨?_, ?_⟩, saves_again ordered⟩
    · intro statusId row found
      cases found
    · intro e active
      cases active
  · intro s op s' ordered last taken
    cases taken
    cases op with
    | call charaId op =>
        exact iff_of_true (last.congr (ordered.call charaId op) rfl rfl) trivial
    | dbSave charaId => exact dbSave_iff ordered last charaId
    | purge charaId order scripts =>
        let purged := s.call charaId (.removeByFlag order flagLoseOnLogout)
        have purges : purged.Ordered := ordered.call charaId _
        have still : purged.LastSave := last.congr purges rfl rfl
        have present (c : StatusEffectContainer Potency) : purged.online charaId = some c ↔
            ∃ c', s.online charaId = some c' ∧
              (c'.call (.removeByFlag order flagLoseOnLogout)).1 = c := by
          change Function.update s.online charaId _ charaId = some c ↔ _
          rw [Function.update_self, Option.map_eq_some_iff]
        cases scripts with
        | false => exact iff_of_true still (by simp [Fits])
        | true =>
            refine (dbSave_iff purges still charaId).trans ?_
            simp only [Fits, true_imp_iff]
            constructor
            · intro fits c online
              exact fits _ ((present _).mpr ⟨c, online, rfl⟩)
            · intro fits c online
              obtain ⟨c', online', rfl⟩ := (present c).mp online
              exact fits c' online'
    | leave charaId =>
        exact iff_of_true (last.congr (ordered.step (.leave charaId)) rfl rfl) trivial
    | login charaId nowMs =>
        exact iff_of_true (last.congr (ordered.step (.login charaId nowMs)) rfl rfl) trivial
  · intro s op s' ordered _ _ taken
    cases taken
    exact ordered.step op

def poison : StatusEffect Potency :=
  (StatusEffectEntry.mk 223011 120 5 3000 2 9).hydrated 1 0

/-- Poison is gained and saved, then it is lost and the container is saved again. -/
def cured : List StatusOp :=
  [.login 1 0, .call 1 (.addStatusEffect poison 1 0 defaultGainTextId), .dbSave 1,
    .call 1 (.removeStatusEffect 223011 defaultLossTextId true), .dbSave 1]

theorem cured_poison_returns :
    ¬ Always (fun s op => some (step s op)) LastSave fresh cured ∧
      Table.values ((cured.foldl step fresh).saved 1) = [] ∧
      (loadCharacterStatusEffects 1 (cured.foldl step fresh).rows).map (·.statusId) =
        [223011] := by
  have stored : (loadCharacterStatusEffects 1 (cured.foldl step fresh).rows).map (·.statusId) =
      [223011] := by decide
  have none_active : (Table.values ((cured.foldl step fresh).saved 1)).length = 0 := by
    decide
  have gone := List.length_eq_zero_iff.mp none_active
  refine ⟨fun always => ?_, gone, stored⟩
  have last : (cured.foldl step fresh).LastSave :=
    always_iff_reached.mp always cured List.prefix_rfl _ rfl
  have member : 223011 ∈ (loadCharacterStatusEffects 1 (cured.foldl step fresh).rows).map
      (·.statusId) := by
    rw [stored]
    exact List.mem_singleton_self _
  obtain ⟨entry, inside, _⟩ := List.mem_map.mp member
  obtain ⟨e, active, _⟩ := (last.recalls 1).loaded entry inside
  rw [gone] at active
  cases active

end StatusWorld
end Garlemald.Status
