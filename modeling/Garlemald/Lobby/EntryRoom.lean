import Garlemald.Lobby.Lists
import Garlemald.Lobby.Making
import Mathlib.Data.List.Sort

/-!
How much room a character takes in the list. The record of a character is padded to a power
of two before it is encoded: a name of up to 32 bytes leaves it at 256 bytes, a longer one
at 512 or more, which is more than an entry has room for. A name comes from a field of 32
bytes, but its ill-formed parts become replacement characters of three bytes each.
-/

namespace Garlemald.Lobby
open Library Common

section Characters

variable {encode : Bytes → Bytes} {worldLookup : UInt16 → Option World}
  {appearanceLookup : UInt32 → WornAppearance}

theorem le_grownCapacity (length fuel capacity : ℕ) :
    capacity ≤ grownCapacity length fuel capacity := by
  induction fuel generalizing capacity with
  | zero => exact Nat.le_refl capacity
  | succ fuel ih =>
      rw [grownCapacity]
      split
      · exact (Nat.le_mul_of_pos_right capacity Nat.zero_lt_two).trans (ih (capacity * 2))
      · exact Nat.le_refl capacity

theorem grownCapacity_large {length : ℕ} (large : 256 < length) :
    512 ≤ grownCapacity length length 256 := by
  cases length with
  | zero => omega
  | succ n =>
      rw [grownCapacity, if_pos large]
      exact le_grownCapacity (n + 1) n 512

theorem length_buildForCharaList_long
    (length_encode : ∀ bs, (encode bs).length = 4 * ((bs.length + 2) / 3))
    {c : ListedCharacter} (long : 0x20 < (utf8 c.name).length) (a : WornAppearance) :
    684 ≤ (buildForCharaList encode c a).length := by
  have length := length_charaRecord c a
  have capacity := grownCapacity_large (show 256 < (charaRecord c a).length by omega)
  rw [buildForCharaList, List.length_map, length_encode, List.length_append, length_zeros]
  omega

theorem entry_fits_iff
    (length_encode : ∀ bs, (encode bs).length = 4 * ((bs.length + 2) / 3)) (i : ℕ)
    (c : ListedCharacter) :
    ((characterLayout encode worldLookup appearanceLookup).entry i (some c)).length ≤
      entryStride ↔ (utf8 c.name).length ≤ 0x20 := by
  refine ⟨fun fits => ?_, fun short => characterEntry_fits length_encode i short⟩
  by_contra long
  have blob := length_buildForCharaList_long length_encode (Nat.not_le.mp long)
    (appearanceLookup c.id)
  simp only [characterLayout, List.length_append, List.length_cons, length_u32Bytes,
    length_u16Bytes, length_paddedField, entryStride] at fits
  omega

/-- The list is built, and what is written for a character stays within its entry. -/
structure EntriesFit (encode : Bytes → Bytes) (worldLookup : UInt16 → Option World)
    (appearanceLookup : UInt32 → WornAppearance) (suppressNewSlot : Bool) (clock : ℕ → UInt32)
    (sequence : UInt64) (characters : List ListedCharacter) : Prop where
  returns : ∃ packets, characterListPackets encode worldLookup appearanceLookup suppressNewSlot
    clock sequence characters = some packets
  inside : ∀ i c, (characters.take 8)[i]? = some c →
    ((characterLayout encode worldLookup appearanceLookup).entry i (some c)).length ≤ entryStride

/-- The entries fit exactly when each name, as it was decoded, takes at most 32 bytes. -/
theorem character_entries_fit_iff
    (length_encode : ∀ bs, (encode bs).length = 4 * ((bs.length + 2) / 3))
    (worldLookup : UInt16 → Option World) (appearanceLookup : UInt32 → WornAppearance)
    (suppressNewSlot : Bool) (clock : ℕ → UInt32) (sequence : UInt64)
    (characters : List ListedCharacter) :
    EntriesFit encode worldLookup appearanceLookup suppressNewSlot clock sequence characters ↔
      ∀ c ∈ characters.take 8, (utf8 c.name).length ≤ 0x20 := by
  constructor
  · rintro ⟨_, inside⟩ c listed
    obtain ⟨i, here⟩ := List.getElem?_of_mem listed
    exact (entry_fits_iff length_encode i c).mp (inside i c here)
  · intro short
    obtain ⟨packets, _, built, _⟩ := characterList_readsBack worldLookup appearanceLookup
      length_encode suppressNewSlot clock sequence short
    refine ⟨⟨packets, built⟩, fun i c here => ?_⟩
    exact (entry_fits_iff length_encode i c).mpr (short c (List.mem_of_getElem? here))

theorem character_entries_fit_iff_test :
    EntriesFit base64 (fun _ => none) (fun _ => {}) false (fun _ => 0) 0 [testCharacter] := by
  refine (character_entries_fit_iff length_base64 _ _ _ _ _ [testCharacter]).mpr fun c listed => ?_
  obtain rfl := List.mem_singleton.mp listed
  decide

end Characters

namespace ListLayout

variable {α : Type} {l : ListLayout α} {clock : ℕ → UInt32} {sequence : UInt64} {announced : ℕ}
  {s s' : Building} {x : α} {c c' : BodyCursor}

theorem length_start (started : l.start sequence announced s = some c) :
    c.body.length = l.capacity := by
  obtain ⟨r, ran, rfl⟩ := Option.map_eq_some_iff.mp started
  have keeps := Writer.Keeps.bind (Writer.Keeps.all
    (listHeader sequence s.packets.length l.maxPerPacket (announced - s.total)))
    fun _ => Writer.Keeps.all l.behindHeader
  rw [keeps.length_eq ran]
  exact length_zeros l.capacity

theorem length_write (wrote : l.write s x c = some c') : c'.body.length = c.body.length := by
  obtain ⟨r, ran, rfl⟩ := Option.map_eq_some_iff.mp wrote
  have keeps := Writer.Keeps.bind (Writer.Keeps.seek (l.place c.position s.count))
    fun _ => Writer.Keeps.all (l.entry s.total x)
  exact keeps.length_eq ran

theorem write_panics
    (beyond : c.body.length < l.place c.position s.count + (l.entry s.total x).length) :
    l.write s x c = none := by
  have past : Writer.all (l.entry s.total x) ⟨c.body, l.place c.position s.count⟩ = none := by
    rw [Writer.all, if_neg (Nat.not_le.mpr beyond)]
  rw [write]
  show Option.map _ (Writer.all (l.entry s.total x) ⟨c.body, l.place c.position s.count⟩) = none
  rw [past]
  rfl

theorem push_first (two : 1 < l.maxPerPacket)
    (pushed : l.push clock sequence announced {} x = some s) :
    ∃ c, s.current = some c ∧ c.body.length = l.capacity ∧ s.count = 1 ∧ s.total = 1 := by
  obtain ⟨buffer, started, rest⟩ := Option.bind_eq_some_iff.mp pushed
  obtain ⟨c, begun, rfl⟩ := Option.map_eq_some_iff.mp started
  obtain ⟨current, written, settled⟩ := Option.bind_eq_some_iff.mp rest
  obtain ⟨c', wrote, rfl⟩ := Option.map_eq_some_iff.mp written
  obtain rfl := Option.some.inj settled
  rw [settle, if_neg (Nat.not_le.mpr two)]
  exact ⟨c', rfl, (length_write wrote).trans (length_start begun), rfl, rfl⟩

theorem push_panics (current : s.current = some c) (begun : s.total ≠ 0)
    (inside : s.count % l.maxPerPacket ≠ 0)
    (beyond : c.body.length < l.place c.position s.count + (l.entry s.total x).length) :
    l.push clock sequence announced s x = none := by
  have same : l.buffer sequence announced s = some (some c) := by
    rw [buffer, if_neg (not_or_intro begun inside), current]
  rw [push, same]
  show Option.bind ((l.write s x c).map some) _ = none
  rw [write_panics beyond]
  rfl

end ListLayout

namespace Database

/-- A stored number as a byte, or zero where it does not fit. -/
def readByte (stored : UInt32) : UInt8 := if stored.toNat < 2 ^ 8 then stored.toUInt8 else 0

def readListed (id : ℕ) (row : CharacterRow) (p : ParameterRow) :
    Except DbError ListedCharacter := do
  let c ← readCharacter id row
  .ok { c with
    state := 2
    doRename := row.doRename
    currentZoneId := row.position.zoneId.toUInt32
    guardian := readByte row.guardian
    birthMonth := readByte row.birthMonth
    birthDay := readByte row.birthDay
    initialTown := readByte row.initialTown
    tribe := readByte row.tribe
    currentClass := (readByte p.mainSkill).toUInt32
    currentLevel := if p.mainSkillLevel.toNat < 2 ^ 15 then p.mainSkillLevel.toInt32 else 0 }

/-- The made characters of a user that have a row in `characters_parametersave`, by slot. -/
def getCharacters (userId : UInt32) (db : Database) : Except DbError (List ListedCharacter) :=
  let found := db.characters.rows.filterMap fun (id, row) =>
    if row.userId = userId ∧ row.state = .made ∧ id < 2 ^ 32 then
      (db.parametersave.lookup (UInt32.ofNat id)).map fun p => (id, row, p)
    else none
  (found.insertionSort fun a b => a.2.1.slot ≤ b.2.1.slot).mapM fun (id, row, p) =>
    readListed id row p

end Database

section Characters

variable {encode : Bytes → Bytes} {worldLookup : UInt16 → Option World}
  {appearanceLookup : UInt32 → WornAppearance}

theorem characterList_panics
    (length_encode : ∀ bs, (encode bs).length = 4 * ((bs.length + 2) / 3))
    (suppressNewSlot : Bool) (clock : ℕ → UInt32) (sequence : UInt64) (c : ListedCharacter)
    {d : ListedCharacter} (long : 0x20 < (utf8 d.name).length) (others : List ListedCharacter) :
    characterListPackets encode worldLookup appearanceLookup suppressNewSlot clock sequence
      (c :: d :: others) = none := by
  rw [characterListPackets_eq]
  have shape : ∃ rest, slots suppressNewSlot (c :: d :: others) = some c :: some d :: rest :=
    ⟨_, rfl⟩
  obtain ⟨rest, shape⟩ := shape
  generalize (slots suppressNewSlot (c :: d :: others)).length = announced
  rw [shape, List.foldlM_cons]
  cases pushed : (characterLayout encode worldLookup appearanceLookup).push clock sequence
      announced {} (some c) with
  | none => rfl
  | some s =>
      obtain ⟨buffer, current, size, count, total⟩ := ListLayout.push_first Nat.one_lt_two pushed
      have wide : entryStride < ((characterLayout encode worldLookup appearanceLookup).entry
          s.total (some d)).length :=
        Nat.not_le.mp fun fits => Nat.not_le.mpr long ((entry_fits_iff length_encode _ d).mp fits)
      have panics : (characterLayout encode worldLookup appearanceLookup).push clock sequence
          announced s (some d) = none := by
        refine ListLayout.push_panics current (by omega) ?_ ?_
        · rw [count]
          exact Nat.one_ne_zero
        · rw [size, count]
          show 0x3B0 < 0x10 + entryStride * 1 + _
          have stride : entryStride = 0x1D0 := rfl
          omega
      simp only [Option.bind_eq_bind, Option.bind_some, List.foldlM_cons, panics]
      rfl

end Characters

/-- A request for a character whose name field is 32 bytes that are not UTF-8. -/
def markRequest (slot command : UInt8) : Bytes :=
  zeros 16 ++ (slot :: command :: (u16Bytes 1 ++ (List.replicate 0x20 0xFF ++ zeros 0x190)))

def markLobby : PacketProcessor where
  worlds := [⟨1, [], 0, []⟩]
  md5 := id
  decrypt := fun _ packet => .ok packet
  decode := fun _ => some (zeros 42 ++ (2 :: zeros 52))

def noCharacters : Database where
  characters := AutoTable.empty
  appearance := AutoTable.empty
  classLevels := ∅
  classExp := ∅
  parametersave := ∅
  hotbar := ∅
  sessions := ∅
  battleCommands := []

def markMade (slot : UInt8) (h : Handled) : Handled :=
  let reserved := markLobby.handleModifyCharacter id h.session h.db
    (.new 0 0x0B 0 (markRequest slot CharacterModifyPacket.cmdReserve))
  markLobby.handleModifyCharacter id reserved.session reserved.db
    (.new 0 0x0B 0 (markRequest slot CharacterModifyPacket.cmdMake))

def markFirst : Handled := markMade 0 ⟨{ currentUserId := 1 }, noCharacters, some []⟩

def markSecond : Handled := markMade 1 markFirst

theorem listed_of_names {read : Except DbError (List ListedCharacter)} {names : List Text}
    (named : read.toOption.map (fun cs => cs.map (·.name)) = some names) :
    ∃ cs, read = .ok cs ∧ cs.map (·.name) = names := by
  cases read with
  | error e => cases named
  | ok cs => exact ⟨cs, rfl, Option.some.inj named⟩

set_option maxRecDepth 2000 in
/-- What the lobby stores for such names leaves their entries, and two of them the packet. -/
theorem marks_overrun :
    (∃ c, markFirst.db.getCharacters 1 = .ok [c] ∧
      ¬ EntriesFit base64 (fun _ => none) (fun _ => {}) false (fun _ => 0) 0 [c]) ∧
    ∃ c d, markSecond.db.getCharacters 1 = .ok [c, d] ∧
      characterListPackets base64 (fun _ => none) (fun _ => {}) false (fun _ => 0) 0 [c, d] =
        none := by
  let name : Text := List.replicate 32 '\uFFFD'
  have one : (markFirst.db.getCharacters 1).toOption.map (fun cs => cs.map (·.name)) =
      some [name] := by with_unfolding_all decide
  have two : (markSecond.db.getCharacters 1).toOption.map (fun cs => cs.map (·.name)) =
      some [name, name] := by with_unfolding_all decide
  have long : 0x20 < (utf8 name).length := by decide
  constructor
  · obtain ⟨cs, read, names⟩ := listed_of_names one
    obtain ⟨c, rfl, first⟩ := List.map_eq_singleton_iff.mp names
    refine ⟨c, read, fun fit => ?_⟩
    have short := (entry_fits_iff length_base64 0 c).mp (fit.inside 0 c rfl)
    rw [first] at short
    exact Nat.not_le.mpr long short
  · obtain ⟨cs, read, names⟩ := listed_of_names two
    obtain ⟨c, _, rfl, _, rest⟩ := List.map_eq_cons_iff.mp names
    obtain ⟨d, rfl, second⟩ := List.map_eq_singleton_iff.mp rest
    exact ⟨c, d, read, characterList_panics length_base64 _ _ _ c (by rwa [second]) []⟩

end Garlemald.Lobby
