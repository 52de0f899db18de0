import Garlemald.Status.Deadlines

/-!
What a relog does to the effects of a character. A save keeps the whole duration of an
effect and not what is left of it, and a login starts the effect over; the overwrite
rule and the hidden mark are not saved at all.
-/

namespace Garlemald.Status
open Library StatusWorld

def loginMs (seconds : UInt32) : UInt64 := seconds.toUInt64 * 1000

/-- A save and the login that loads it, in Unix seconds. -/
structure Relog where
  saved : UInt32
  loaded : UInt32
  order : saved ≤ loaded

def Relog.offline (r : Relog) : ℕ := r.loaded.toNat - r.saved.toNat

def StatusEffectContainer.relog (actorId : UInt32) (r : Relog)
    (c : StatusEffectContainer Potency) : StatusEffectContainer Potency :=
  hydrate actorId (loginMs r.loaded) c.toDbEntries

/-- The seconds an effect has left; below zero it is overdue. -/
def StatusEffect.remaining (now : UInt32) (e : StatusEffect Potency) : ℤ :=
  e.endTime.toNat - now.toNat

/-- An effect as it was, with no more time left than it had. -/
structure Restored (r : Relog) (e e' : StatusEffect Potency) : Prop where
  potency : e'.magnitude = e.magnitude
  tick : e'.tickMs = e.tickMs
  overwrite : e'.overwrite = e.overwrite
  hidden : e'.hidden = e.hidden
  remaining : e'.remaining r.loaded ≤ e.remaining r.saved

structure Faithful (r : Relog) (c c' : StatusEffectContainer Potency) : Prop where
  same : ∀ id, (c'.effects.lookup id).isSome = (c.effects.lookup id).isSome
  restored : ∀ id e e', c.effects.lookup id = some e → c'.effects.lookup id = some e' →
    Restored r e e'

/-- An effect with values that are whole numbers of 64 bits, neither hidden nor open to be
overwritten, that still has its whole duration to run when it is saved. -/
structure Restorable (r : Relog) (e : StatusEffect Potency) : Prop where
  magnitude : ∃ n : UInt64, e.magnitude.magnitude = F64.ofInt n.toNat
  extra : ∃ n : UInt64, e.magnitude.extra = F64.ofInt n.toNat
  overwrite : e.overwrite = .none
  hidden : e.hidden = false
  time : r.saved.toNat + min e.duration.toNat (0xFFFFFFFF - r.loaded.toNat) ≤ e.endTime.toNat

/-! ### What is loaded -/

theorem nowSeconds_loginMs (seconds : UInt32) :
    StatusEffect.nowSeconds (loginMs seconds) = seconds := by
  apply UInt32.toNat_inj.mp
  have small := seconds.toNat_lt
  have thousand : (1000 : UInt64).toNat = 1000 := rfl
  rw [StatusEffect.nowSeconds, loginMs, UInt64.toNat_toUInt32, UInt64.toNat_div, UInt64.toNat_mul,
    UInt32.toNat_toUInt64, thousand, Nat.mod_eq_of_lt (show seconds.toNat * 1000 < 2 ^ 64 by omega),
    Nat.mul_div_cancel _ (by decide), Nat.mod_eq_of_lt small]

/-- An effect as a login at `seconds` makes it from an entry. -/
structure Loaded (seconds : UInt32) (entry : StatusEffectEntry) (e : StatusEffect Potency) :
    Prop where
  potency : e.magnitude =
    ⟨F64.ofInt entry.magnitude.toNat, entry.tier, F64.ofInt entry.extra.toNat⟩
  tick : e.tickMs = entry.tick
  overwrite : e.overwrite = .none
  hidden : e.hidden = false
  endTime : e.endTime = saturatingAdd seconds entry.duration

theorem loaded_started (c : StatusEffectContainer Potency) (actorId seconds : UInt32)
    (entry : StatusEffectEntry) :
    Loaded seconds entry
      (c.started (entry.hydrated actorId (loginMs seconds)) actorId (loginMs seconds)) where
  potency := rfl
  tick := rfl
  overwrite := rfl
  hidden := rfl
  endTime := by
    have plain : (entry.hydrated actorId (loginMs seconds)).isStance = false :=
      isStance_of_flags (.inl rfl)
    have started : (c.started (entry.hydrated actorId (loginMs seconds)) actorId
        (loginMs seconds)).endTime =
          saturatingAdd (StatusEffect.nowSeconds (loginMs seconds)) entry.duration :=
      if_neg (by rw [Bool.not_eq_true]; exact plain)
    rw [started, nowSeconds_loginMs]

theorem added_entry {c : StatusEffectContainer Potency} (kept : c.Kept) (actorId seconds : UInt32)
    {entry : StatusEffectEntry} (absent : c.effects.lookup entry.statusId = none)
    (room : c.effects.entries.length < maxEffects) :
    (c.addStatusEffect (entry.hydrated actorId (loginMs seconds)) actorId (loginMs seconds)
      defaultGainTextId).2.1.effects =
        c.effects.insert entry.statusId
          (c.started (entry.hydrated actorId (loginMs seconds)) actorId (loginMs seconds)) := by
  have accepted : c.Accepts (entry.hydrated actorId (loginMs seconds)) := by
    have found : c.effects.lookup (entry.hydrated actorId (loginMs seconds)).id = none := absent
    rw [StatusEffectContainer.Accepts, found]
    exact room
  exact (StatusEffectContainer.add_accepted kept.few accepted actorId (loginMs seconds)
    defaultGainTextId).effects

abbrev load (actorId seconds : UInt32) (c : StatusEffectContainer Potency)
    (entry : StatusEffectEntry) : StatusEffectContainer Potency :=
  (c.addStatusEffect (entry.hydrated actorId (loginMs seconds)) actorId (loginMs seconds)
    defaultGainTextId).2.1

theorem foldl_load (actorId seconds : UInt32) {entries : List StatusEffectEntry}
    (once : (entries.map (·.statusId)).Nodup) (c : StatusEffectContainer Potency) (kept : c.Kept)
    (absent : ∀ entry ∈ entries, c.effects.lookup entry.statusId = none)
    (room : c.effects.entries.length + entries.length ≤ maxEffects) :
    (∀ entry ∈ entries, ∃ e,
      (entries.foldl (load actorId seconds) c).effects.lookup entry.statusId = some e ∧
        Loaded seconds entry e) ∧
    ∀ id, id ∉ entries.map (·.statusId) →
      (entries.foldl (load actorId seconds) c).effects.lookup id = c.effects.lookup id := by
  induction entries generalizing c with
  | nil => exact ⟨fun entry member => absurd member (List.not_mem_nil), fun _ _ => rfl⟩
  | cons entry entries ih =>
      rw [List.map_cons, List.nodup_cons] at once
      rw [List.length_cons] at room
      have added := added_entry kept actorId seconds (absent entry (List.mem_cons_self ..))
        (by omega)
      have after := StatusEffectContainer.add_carries kept
        (entry.hydrated actorId (loginMs seconds)) actorId (loginMs seconds) defaultGainTextId
      rw [List.foldl_cons, load]
      generalize (c.addStatusEffect (entry.hydrated actorId (loginMs seconds)) actorId
        (loginMs seconds) defaultGainTextId).2.1 = c' at added after ⊢
      have apart : ∀ other ∈ entries, other.statusId ≠ entry.statusId := by
        intro other member same
        exact once.1 (List.mem_map.mpr ⟨other, member, same⟩)
      obtain ⟨loaded, others⟩ := ih once.2 c' after.kept
        (by
          intro other member
          rw [added, AList.lookup_insert_ne (apart other member)]
          exact absent other (List.mem_cons_of_mem _ member))
        (by
          have erased := Table.erase_absent (absent entry (List.mem_cons_self ..))
          rw [added, StatusEffectContainer.length_insert, erased]
          omega)
      constructor
      · intro other member
        cases List.mem_cons.mp member with
        | inl own =>
            rw [own, others entry.statusId once.1, added, AList.lookup_insert]
            exact ⟨_, rfl, loaded_started c actorId seconds entry⟩
        | inr later => exact loaded other later
      · intro id outside
        rw [List.map_cons, List.mem_cons, not_or] at outside
        rw [others id outside.2, added, AList.lookup_insert_ne outside.1]

theorem hydrate_entries (actorId seconds : UInt32) {entries : List StatusEffectEntry}
    (once : (entries.map (·.statusId)).Nodup) (few : entries.length ≤ maxEffects) :
    (∀ entry ∈ entries, ∃ e,
      (hydrate actorId (loginMs seconds) entries).effects.lookup entry.statusId = some e ∧
        Loaded seconds entry e) ∧
    ∀ id, id ∉ entries.map (·.statusId) →
      (hydrate actorId (loginMs seconds) entries).effects.lookup id = none := by
  apply foldl_load actorId seconds once _ (StatusEffectContainer.kept_new actorId)
    (fun _ _ => rfl)
  change 0 + entries.length ≤ maxEffects
  rw [Nat.zero_add]
  exact few

section Container

variable {c : StatusEffectContainer Potency} {r : Relog}

theorem lookup_relog (kept : c.Kept) (actorId : UInt32) (id : UInt32) :
    match c.effects.lookup id with
    | some e => ∃ e', (c.relog actorId r).effects.lookup id = some e' ∧
        Loaded r.loaded e.toDbEntry e'
    | none => (c.relog actorId r).effects.lookup id = none := by
  have few : c.toDbEntries.length ≤ maxEffects := by
    rw [StatusEffectContainer.toDbEntries, Table.values, List.length_map, List.length_map]
    exact kept.few
  obtain ⟨loaded, others⟩ := hydrate_entries actorId r.loaded (entries_once kept) few
  cases found : c.effects.lookup id with
  | some e =>
      have own := kept.keyed id e found
      rw [← own] at found ⊢
      exact loaded e.toDbEntry (List.mem_map.mpr ⟨e, (mem_values kept).mpr found, rfl⟩)
  | none =>
      apply others
      intro member
      obtain ⟨entry, saved, same⟩ := List.mem_map.mp member
      obtain ⟨e, active, made⟩ := List.mem_map.mp saved
      have present := (mem_values kept).mp active
      rw [← made] at same
      change e.id = id at same
      rw [same, found] at present
      contradiction

theorem ofInt_asU64_iff (f : F64) :
    F64.ofInt (asU64 f).toNat = f ↔ ∃ n : UInt64, f = F64.ofInt n.toNat := by
  constructor
  · intro same
    exact ⟨_, same.symm⟩
  · intro ⟨n, value⟩
    obtain ⟨m, small, stored, exactly⟩ := F64.ofInt_natCast n.toNat_lt
    rw [value, stored]
    have read : (asU64 (.finite m)).toNat = min m (2 ^ 64 - 1) := by
      rw [asU64, Int.floor_natCast, Int.toNat_natCast, UInt64.toNat_ofNat']
      omega
    by_cases top : m = 2 ^ 64
    · rw [read, top]
      exact F64.ofInt_greatest
    · rw [read, Nat.min_eq_left (by omega)]
      exact exactly

theorem toNat_loaded_endTime {e e' : StatusEffect Potency}
    (loaded : Loaded r.loaded e.toDbEntry e') :
    e'.endTime.toNat = r.loaded.toNat + min e.duration.toNat (0xFFFFFFFF - r.loaded.toNat) := by
  have small := r.loaded.toNat_lt
  have duration : e.toDbEntry.duration = e.duration := rfl
  rw [loaded.endTime, toNat_saturatingAdd, duration]
  omega

theorem restored_iff {e e' : StatusEffect Potency} (loaded : Loaded r.loaded e.toDbEntry e') :
    Restored r e e' ↔ Restorable r e := by
  have ended := toNat_loaded_endTime loaded
  have time : e'.remaining r.loaded ≤ e.remaining r.saved ↔
      r.saved.toNat + min e.duration.toNat (0xFFFFFFFF - r.loaded.toNat) ≤ e.endTime.toNat := by
    rw [StatusEffect.remaining, StatusEffect.remaining, ended]
    omega
  have potency : e'.magnitude = e.magnitude ↔
      F64.ofInt (asU64 e.magnitude.magnitude).toNat = e.magnitude.magnitude ∧
        F64.ofInt (asU64 e.magnitude.extra).toNat = e.magnitude.extra := by
    rw [loaded.potency]
    constructor
    · intro same
      exact ⟨congrArg Potency.magnitude same, congrArg Potency.extra same⟩
    · intro ⟨magnitude, extra⟩
      change Potency.mk (F64.ofInt (asU64 e.magnitude.magnitude).toNat) e.magnitude.tier
        (F64.ofInt (asU64 e.magnitude.extra).toNat) = e.magnitude
      rw [magnitude, extra]
  rw [ofInt_asU64_iff, ofInt_asU64_iff] at potency
  constructor
  · intro restored
    obtain ⟨magnitude, extra⟩ := potency.mp restored.potency
    exact ⟨magnitude, extra, restored.overwrite.symm.trans loaded.overwrite,
      restored.hidden.symm.trans loaded.hidden, time.mp restored.remaining⟩
  · intro fits
    exact ⟨potency.mpr ⟨fits.magnitude, fits.extra⟩, loaded.tick,
      loaded.overwrite.trans fits.overwrite.symm, loaded.hidden.trans fits.hidden.symm,
      time.mpr fits.time⟩

theorem faithful_iff (kept : c.Kept) (actorId : UInt32) :
    Faithful r c (c.relog actorId r) ↔
      ∀ id e, c.effects.lookup id = some e → Restorable r e := by
  constructor
  · intro faithful id e found
    have loaded := lookup_relog (r := r) kept actorId id
    rw [found] at loaded
    obtain ⟨e', found', made⟩ := loaded
    exact (restored_iff made).mp (faithful.restored id e e' found found')
  · intro fits
    refine ⟨fun id => ?_, fun id e e' found found' => ?_⟩
    · have loaded := lookup_relog (r := r) kept actorId id
      cases found : c.effects.lookup id with
      | none =>
          rw [found] at loaded
          rw [loaded]
      | some e =>
          rw [found] at loaded
          obtain ⟨e', found', _⟩ := loaded
          rw [found']
          rfl
    · have loaded := lookup_relog (r := r) kept actorId id
      rw [found] at loaded
      obtain ⟨e'', again, made⟩ := loaded
      rw [found'] at again
      cases again
      exact (restored_iff made).mpr (fits id e found)

end Container

/-! ### Relog after relog -/

structure Relogged where
  container : StatusEffectContainer Potency
  offline : ℕ := 0

namespace Relogged

def step (actorId : UInt32) (s : Relogged) (r : Relog) : Option Relogged :=
  some ⟨s.container.relog actorId r, s.offline + r.offline⟩

/-- No effect lasts beyond its first end by more than the time offline. -/
def InTime (first : StatusEffectContainer Potency) (s : Relogged) : Prop :=
  ∀ id e₀ e, first.effects.lookup id = some e₀ → s.container.effects.lookup id = some e →
    e.endTime.toNat ≤ e₀.endTime.toNat + s.offline

def Brings (actorId : UInt32) (s : Relogged) (r : Relog) : Prop :=
  Faithful r s.container (s.container.relog actorId r)

def Fits (s : Relogged) (r : Relog) : Prop :=
  ∀ id e, s.container.effects.lookup id = some e → Restorable r e

theorem inTime_step {first : StatusEffectContainer Potency} {actorId : UInt32} {s : Relogged}
    {r : Relog} (kept : s.container.Kept) (inTime : s.InTime first) (fits : s.Fits r) :
    InTime first ⟨s.container.relog actorId r, s.offline + r.offline⟩ := by
  intro id e₀ e' original found'
  have loaded := lookup_relog (r := r) kept actorId id
  cases found : s.container.effects.lookup id with
  | none =>
      rw [found] at loaded
      rw [loaded] at found'
      contradiction
  | some e =>
      rw [found] at loaded
      obtain ⟨e'', again, made⟩ := loaded
      rw [found'] at again
      cases again
      have before := inTime id e₀ e original found
      have time := (fits id e found).time
      have ended := toNat_loaded_endTime made
      have order : r.saved.toNat ≤ r.loaded.toNat := r.order
      simp only [Relog.offline]
      omega

/-- Relogs bring every effect back as it was and let none outlast its first end by more
than the time offline, exactly if each save finds effects that can be restored. -/
theorem relogs_lossless_iff (actorId : UInt32) {c : StatusEffectContainer Potency} (kept : c.Kept)
    (relogs : List Relog) :
    (Always (step actorId) (InTime c) ⟨c, 0⟩ relogs ∧
        EachStep (step actorId) (Brings actorId) ⟨c, 0⟩ relogs) ↔
      EachStep (step actorId) Fits ⟨c, 0⟩ relogs := by
  apply always_and_eachStep_iff (I := fun s => s.container.Kept)
  · intro s r s' kept inTime taken
    cases taken
    constructor
    · intro ⟨_, brings⟩
      exact (faithful_iff kept actorId).mp brings
    · intro fits
      exact ⟨inTime_step kept inTime fits, (faithful_iff kept actorId).mpr fits⟩
  · intro s r s' _ _ _ taken
    cases taken
    exact kept_hydrate ..
  · exact kept
  · intro id e₀ e original found
    rw [original] at found
    cases found
    exact Nat.le_refl _

def poisonEntry : StatusEffectEntry := ⟨223011, 60, 5, 3000, 1, 9⟩

def poisonedAt1000 : StatusEffectContainer Potency := hydrate 7 (loginMs 1000) [poisonEntry]

theorem relogs_lossless_poison :
    (Always (step 7) (InTime poisonedAt1000) ⟨poisonedAt1000, 0⟩ [⟨1000, 4600, by decide⟩] ∧
        EachStep (step 7) (Brings 7) ⟨poisonedAt1000, 0⟩ [⟨1000, 4600, by decide⟩]) ↔
      EachStep (step 7) Fits ⟨poisonedAt1000, 0⟩ [⟨1000, 4600, by decide⟩] :=
  relogs_lossless_iff 7 (kept_hydrate ..) _

theorem poison_starts_over :
    ¬ (Always (step 7) (InTime poisonedAt1000) ⟨poisonedAt1000, 0⟩ [⟨1050, 1050, by decide⟩] ∧
        EachStep (step 7) (Brings 7) ⟨poisonedAt1000, 0⟩ [⟨1050, 1050, by decide⟩]) := by
  intro ⟨inTime, _⟩
  have after := (inTime.2 _ rfl) 223011
  have first : ∃ e₀, poisonedAt1000.effects.lookup 223011 = some e₀ ∧ e₀.endTime.toNat = 1060 :=
    ⟨_, rfl, rfl⟩
  have second : ∃ e, (poisonedAt1000.relog 7 ⟨1050, 1050, by decide⟩).effects.lookup 223011 =
      some e ∧ e.endTime.toNat = 1110 := ⟨_, rfl, rfl⟩
  obtain ⟨e₀, found₀, ended₀⟩ := first
  obtain ⟨e, found, ended⟩ := second
  have late := after e₀ e found₀ found
  rw [ended₀, ended] at late
  exact absurd late (by decide)

end Relogged
end Garlemald.Status
