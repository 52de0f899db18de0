import Garlemald.Lobby.CharaList
import Garlemald.Lobby.ListPackets
import Garlemald.Lobby.Processor
import Garlemald.Library.Varint

/-!
The lists the lobby sends: worlds, accounts, characters, retainers and names for
import. The list of characters carries at most eight of them and, while there is room
for another, a placeholder that is counted with them.
-/

namespace Garlemald.Lobby
open Library Common

structure ListedWorld extends World where
  listPosition : UInt16
  population : UInt16

structure Account where
  id : UInt32
  name : Text

structure Retainer where
  id : UInt32
  characterId : UInt32
  name : Text
  doRename : Bool

/-! ### The builders -/

def worldLayout : ListLayout ListedWorld where
  opcode := 0x15
  maxPerPacket := 6
  capacity := 0x210
  entry _ world :=
    u16Bytes world.id ++ (u16Bytes world.listPosition ++ (u32Bytes world.population.toUInt32 ++
      (u64Bytes 0 ++ paddedField world.name 64)))

def worldListPackets (clock : Nat → UInt32) (sequence : UInt64) (worlds : List ListedWorld) :
    Option (List SubPacket) :=
  worldLayout.packets clock sequence 0x210 worlds

def accountLayout : ListLayout Account where
  opcode := 0x0C
  maxPerPacket := 8
  capacity := 0x280
  entry _ account := u32Bytes account.id ++ (u32Bytes 0 ++ paddedField account.name 0x40)

def accountListPackets (clock : Nat → UInt32) (sequence : UInt64) (accounts : List Account) :
    Option (List SubPacket) :=
  accountLayout.packets clock sequence 0x210 accounts

def retainerLayout : ListLayout Retainer where
  opcode := 0x17
  maxPerPacket := 9
  capacity := 0x210
  behindHeader := u64Bytes 0 ++ u32Bytes 0
  entry total retainer :=
    u32Bytes retainer.id ++ (u32Bytes retainer.characterId ++ (u16Bytes (UInt16.ofNat total) ++
      (u16Bytes (if retainer.doRename then 0x04 else 0x00) ++ (u32Bytes 0 ++
        paddedField retainer.name 0x20))))

def retainerListPackets (clock : Nat → UInt32) (sequence : UInt64) (retainers : List Retainer) :
    Option (List SubPacket) :=
  retainerLayout.packets clock sequence 0x210 retainers

/-- A name without a space gets a last name. -/
def fullName (name : Text) : Text :=
  if Char.ofNat 0x20 ∈ name then name else name ++ " Last".toList

def importLayout : ListLayout Text where
  opcode := 0x16
  maxPerPacket := 12
  capacity := 0x210
  entry total name :=
    u32Bytes 0 ++ (u32Bytes (UInt32.ofNat total) ++ paddedField (fullName name) 0x20)

def importListPackets (clock : Nat → UInt32) (sequence : UInt64) (names : List Text) :
    Option (List SubPacket) :=
  importLayout.packets clock sequence 0x210 names

section Characters

variable (encode : Bytes → Bytes) (worldLookup : UInt16 → Option World)
  (appearanceLookup : UInt32 → WornAppearance)

def worldName (c : ListedCharacter) : Text :=
  match worldLookup c.serverId with
  | some w => w.name
  | none => "Unknown".toList

def characterOptions (c : ListedCharacter) : UInt8 :=
  let options : UInt8 := if c.state = 1 then 0x01 else 0
  let options := if c.doRename then options ||| 0x02 else options
  if c.isLegacy then options ||| 0x08 else options

def entryStride : Nat := 0x1D0

def characterLayout : ListLayout (Option ListedCharacter) where
  opcode := 0x0D
  maxPerPacket := 2
  capacity := 0x3B0
  place _ count := 0x10 + entryStride * count
  entry total
    | some c =>
        let blob := buildForCharaList encode c (appearanceLookup c.id)
        u32Bytes 0 ++ (u32Bytes c.id ++ (UInt8.ofNat total :: characterOptions c ::
          (u16Bytes 0 ++ (u32Bytes c.currentZoneId ++ (paddedField c.name 0x20 ++
            (paddedField (worldName worldLookup c) 0x0E ++ (varint blob.length ++ blob)))))))
    | none =>
        u32Bytes 0 ++ (u32Bytes 0 ++ (UInt8.ofNat total :: 0 :: (u16Bytes 0 ++ u32Bytes 0)))

/-- `suppressNewSlot` says whether the environment variable is set. The placeholder opens a
buffer on a count of zero alone, which a total of zero implies. -/
def characterListPackets (suppressNewSlot : Bool) (clock : Nat → UInt32) (sequence : UInt64)
    (characters : List ListedCharacter) : Option (List SubPacket) := do
  let suppressPlaceholder := suppressNewSlot && !characters.isEmpty
  let numCharacters :=
    if 8 ≤ characters.length then 8
    else if suppressPlaceholder then characters.length
    else characters.length + 1
  let l := characterLayout encode worldLookup appearanceLookup
  let s ← (characters.take 8).foldlM (fun s c => l.push clock sequence numCharacters s (some c)) {}
  let s ←
    if characters.length < 8 ∧ suppressPlaceholder = false then
      l.push clock sequence numCharacters s none
    else some s
  if 0 < s.count ∨ numCharacters = 0 then return (l.flush clock s).packets
  else return s.packets

end Characters

/-! ### The entries on the wire -/

/-- A list as its packets are read back: all of them parse, and what they carry is `entries`. -/
def ReadsBack {ω : Type} (maxPerPacket skip : Nat) (entry : Reader ω)
    (packets : Option (List SubPacket)) (entries : List ω) : Prop :=
  ∃ ps chunks, packets = some ps ∧
    ps.map (fun p => Reader.parse (ListChunk.read skip entry) p.data) = chunks.map some ∧
    Carries maxPerPacket entries chunks

structure WorldEntry where
  id : UInt16
  listPosition : UInt16
  population : UInt32
  name : Bytes

def WorldEntry.read : Reader WorldEntry := do
  let id ← Reader.u16
  let listPosition ← Reader.u16
  let population ← Reader.u32
  let _ ← Reader.u64
  let name ← Reader.bytes 64
  return { id, listPosition, population, name }

def WorldEntry.of (w : ListedWorld) : WorldEntry :=
  ⟨w.id, w.listPosition, w.population.toUInt32, paddedField w.name 64⟩

structure AccountEntry where
  id : UInt32
  name : Bytes

def AccountEntry.read : Reader AccountEntry := do
  let id ← Reader.u32
  let _ ← Reader.u32
  let name ← Reader.bytes 0x40
  return { id, name }

def AccountEntry.of (a : Account) : AccountEntry := ⟨a.id, paddedField a.name 0x40⟩

structure RetainerEntry where
  id : UInt32
  characterId : UInt32
  index : UInt16
  options : UInt16
  name : Bytes

def RetainerEntry.read : Reader RetainerEntry := do
  let id ← Reader.u32
  let characterId ← Reader.u32
  let index ← Reader.u16
  let options ← Reader.u16
  let _ ← Reader.u32
  let name ← Reader.bytes 0x20
  return { id, characterId, index, options, name }

def RetainerEntry.of (i : Nat) (r : Retainer) : RetainerEntry :=
  ⟨r.id, r.characterId, UInt16.ofNat i, if r.doRename then 0x04 else 0x00,
    paddedField r.name 0x20⟩

structure ImportEntry where
  index : UInt32
  name : Bytes

def ImportEntry.read : Reader ImportEntry := do
  let _ ← Reader.u32
  let index ← Reader.u32
  let name ← Reader.bytes 0x20
  return { index, name }

def ImportEntry.of (i : Nat) (name : Text) : ImportEntry :=
  ⟨UInt32.ofNat i, paddedField (fullName name) 0x20⟩

structure CharacterEntry where
  id : UInt32
  index : UInt8
  options : UInt8
  currentZoneId : UInt32
  name : Bytes
  worldName : Bytes
  appearance : Bytes

def CharacterEntry.fields : Reader CharacterEntry := do
  let _ ← Reader.u32
  let id ← Reader.u32
  let index ← Reader.u8
  let options ← Reader.u8
  let _ ← Reader.u16
  let currentZoneId ← Reader.u32
  let name ← Reader.bytes 0x20
  let worldName ← Reader.bytes 0x0E
  let appearance ← Reader.prefixed
  return { id, index, options, currentZoneId, name, worldName, appearance }

def CharacterEntry.read : Reader CharacterEntry := do
  let window ← Reader.bytes entryStride
  (Reader.parse fields window : Option CharacterEntry)

section Characters

variable (encode : Bytes → Bytes) (worldLookup : UInt16 → Option World)
  (appearanceLookup : UInt32 → WornAppearance)

def CharacterEntry.of (i : Nat) : Option ListedCharacter → CharacterEntry
  | some c => {
      id := c.id
      index := UInt8.ofNat i
      options := characterOptions c
      currentZoneId := c.currentZoneId
      name := paddedField c.name 0x20
      worldName := paddedField (Lobby.worldName worldLookup c) 0x0E
      appearance := buildForCharaList encode c (appearanceLookup c.id) }
  | none => ⟨0, UInt8.ofNat i, 0, 0, zeros 0x20, zeros 0x0E, []⟩

/-- The first eight characters, and the placeholder when there are fewer and it is not
suppressed. -/
def slots (suppressNewSlot : Bool) (characters : List ListedCharacter) :
    List (Option ListedCharacter) :=
  (characters.take 8).map some ++
    (if characters.length < 8 ∧ (suppressNewSlot && !characters.isEmpty) = false then [none]
    else [])

end Characters

/-! ### What the packets carry -/

theorem laid_whole {stride : Nat} {bs : Bytes} (whole : bs.length = stride) :
    laid stride bs = bs := by
  rw [laid, whole, Nat.sub_self]
  exact List.append_nil bs

/-- Entries of one size, written one behind the other. -/
theorem ListLayout.Sound.of_whole {α ω : Type} {l : ListLayout α} {stride : Nat}
    {read : Reader ω} {wire : Nat → α → ω} (positive : 0 < l.maxPerPacket)
    (small : l.maxPerPacket < 2 ^ 32) (room : l.first + stride * l.maxPerPacket ≤ l.capacity)
    (behind : ∀ offset count, l.place offset count = offset)
    (whole : ∀ i x, (l.entry i x).length = stride)
    (reads : ∀ i x rest, read.run (l.entry i x ++ rest) = some (wire i x, rest)) :
    l.Sound stride (fun _ => True) read wire where
  positive := positive
  small := small
  room := room
  placeFirst := behind _ _
  placeNext i x n _ := by
    rw [behind, whole, Nat.mul_succ, Nat.add_assoc]
  fits i x _ := (whole i x).le
  reads i x _ rest := by
    rw [laid_whole (whole i x)]
    exact reads i x rest

theorem worldLayout_sound : worldLayout.Sound 80 (fun _ => True) WorldEntry.read
    (fun _ => WorldEntry.of) := by
  refine .of_whole (by decide) (by decide) (by decide) (fun _ _ => rfl)
    (fun i w => by simp [worldLayout]) fun i w rest => ?_
  have name := Reader.bytes_append (paddedField w.name 64) rest (length_paddedField ..)
  simp only [worldLayout, WorldEntry.read, StateT.run_bind, List.append_assoc,
    Reader.u16_append, Reader.u32_append, Reader.u64_append, Option.bind_eq_bind,
    Option.bind_some, name]
  rfl

theorem worldList_readsBack (clock : Nat → UInt32) (sequence : UInt64)
    (worlds : List ListedWorld) :
    ReadsBack 6 0 WorldEntry.read (worldListPackets clock sequence worlds)
      (worlds.map WorldEntry.of) := by
  obtain ⟨ps, chunks, built, parsed, carries⟩ := ListLayout.packets_carry worldLayout_sound clock
    sequence 0x210 (by decide) (fun w (_ : w ∈ worlds) => trivial)
  rw [ListLayout.mapIdx_const] at carries
  exact ⟨ps, chunks, built, parsed, carries⟩

theorem accountLayout_sound : accountLayout.Sound 72 (fun _ => True) AccountEntry.read
    (fun _ => AccountEntry.of) := by
  refine .of_whole (by decide) (by decide) (by decide) (fun _ _ => rfl)
    (fun i a => by simp [accountLayout]) fun i a rest => ?_
  have name := Reader.bytes_append (paddedField a.name 0x40) rest (length_paddedField ..)
  simp only [accountLayout, AccountEntry.read, StateT.run_bind, List.append_assoc,
    Reader.u32_append, Option.bind_eq_bind, Option.bind_some, name]
  rfl

theorem accountList_readsBack (clock : Nat → UInt32) (sequence : UInt64)
    (accounts : List Account) :
    ReadsBack 8 0 AccountEntry.read (accountListPackets clock sequence accounts)
      (accounts.map AccountEntry.of) := by
  obtain ⟨ps, chunks, built, parsed, carries⟩ := ListLayout.packets_carry accountLayout_sound
    clock sequence 0x210 (by decide) (fun a (_ : a ∈ accounts) => trivial)
  rw [ListLayout.mapIdx_const] at carries
  exact ⟨ps, chunks, built, parsed, carries⟩

theorem retainerLayout_sound : retainerLayout.Sound 48 (fun _ => True) RetainerEntry.read
    RetainerEntry.of := by
  refine .of_whole (by decide) (by decide) (by decide) (fun _ _ => rfl)
    (fun i r => by simp [retainerLayout]) fun i r rest => ?_
  have name := Reader.bytes_append (paddedField r.name 0x20) rest (length_paddedField ..)
  simp only [retainerLayout, RetainerEntry.read, StateT.run_bind, List.append_assoc,
    Reader.u16_append, Reader.u32_append, Option.bind_eq_bind, Option.bind_some, name]
  rfl

theorem retainerList_readsBack (clock : Nat → UInt32) (sequence : UInt64)
    (retainers : List Retainer) :
    ReadsBack 9 12 RetainerEntry.read (retainerListPackets clock sequence retainers)
      (retainers.mapIdx RetainerEntry.of) :=
  ListLayout.packets_carry retainerLayout_sound clock sequence 0x210 (by decide) fun _ _ => trivial

theorem importLayout_sound : importLayout.Sound 40 (fun _ => True) ImportEntry.read
    ImportEntry.of := by
  refine .of_whole (by decide) (by decide) (by decide) (fun _ _ => rfl)
    (fun i name => by simp [importLayout]) fun i name rest => ?_
  have field := Reader.bytes_append (paddedField (fullName name) 0x20) rest
    (length_paddedField ..)
  simp only [importLayout, ImportEntry.read, StateT.run_bind, List.append_assoc,
    Reader.u32_append, Option.bind_eq_bind, Option.bind_some, field]
  rfl

theorem importList_readsBack (clock : Nat → UInt32) (sequence : UInt64) (names : List Text) :
    ReadsBack 12 0 ImportEntry.read (importListPackets clock sequence names)
      (names.mapIdx ImportEntry.of) :=
  ListLayout.packets_carry importLayout_sound clock sequence 0x210 (by decide) fun _ _ => trivial

section Characters

variable {encode : Bytes → Bytes} {worldLookup : UInt16 → Option World}
  {appearanceLookup : UInt32 → WornAppearance}

def ShortName : Option ListedCharacter → Prop
  | some c => (utf8 c.name).length ≤ 0x20
  | none => True

theorem characterEntry_fits
    (length_encode : ∀ bs, (encode bs).length = 4 * ((bs.length + 2) / 3)) (i : Nat)
    {slot : Option ListedCharacter} (short : ShortName slot) :
    ((characterLayout encode worldLookup appearanceLookup).entry i slot).length ≤ entryStride := by
  cases slot with
  | none =>
      have length : ((characterLayout encode worldLookup appearanceLookup).entry i none).length =
          16 := by simp [characterLayout]
      rw [length]
      decide
  | some c =>
      have blob := length_buildForCharaList length_encode short (appearanceLookup c.id)
      have two : (varint 344).length = 2 := by decide
      simp only [characterLayout, List.length_append, List.length_cons, length_u32Bytes,
        length_u16Bytes, length_paddedField, blob, two]
      decide

theorem CharacterEntry.fields_parse (id zone : UInt32) (index options : UInt8)
    {name world : Bytes} (nameWhole : name.length = 0x20) (worldWhole : world.length = 0x0E)
    (blob rest : Bytes) :
    Reader.parse CharacterEntry.fields (u32Bytes 0 ++ (u32Bytes id ++ (index :: options ::
      (u16Bytes 0 ++ (u32Bytes zone ++ (name ++ (world ++ (varint blob.length ++
        (blob ++ rest))))))))) = some ⟨id, index, options, zone, name, world, blob⟩ := by
  rw [Reader.parse]
  simp only [CharacterEntry.fields, StateT.run_bind, Reader.u32_append, Reader.u16_append,
    Reader.u8_cons, Option.bind_eq_bind, Option.bind_some, Reader.bytes_append name _ nameWhole,
    Reader.bytes_append world _ worldWhole, Reader.prefixed_append blob rest]
  rfl

theorem CharacterEntry.read_laid {i : Nat} {slot : Option ListedCharacter}
    (fits : ((characterLayout encode worldLookup appearanceLookup).entry i slot).length ≤
      entryStride) (rest : Bytes) :
    CharacterEntry.read.run (laid entryStride
        ((characterLayout encode worldLookup appearanceLookup).entry i slot) ++ rest) =
      some (CharacterEntry.of encode worldLookup appearanceLookup i slot, rest) := by
  have window := Reader.bytes_append (laid entryStride
    ((characterLayout encode worldLookup appearanceLookup).entry i slot)) rest (length_laid fits)
  have parsed : Reader.parse CharacterEntry.fields (laid entryStride
      ((characterLayout encode worldLookup appearanceLookup).entry i slot)) =
        some (CharacterEntry.of encode worldLookup appearanceLookup i slot) := by
    rw [laid]
    cases slot with
    | none =>
        have blank : zeros (entryStride - ((characterLayout encode worldLookup
            appearanceLookup).entry i none).length) =
              zeros 0x20 ++ (zeros 0x0E ++ (varint 0 ++ zeros 401)) := by
          have length : ((characterLayout encode worldLookup appearanceLookup).entry i
              none).length = 16 := by simp [characterLayout]
          have size : entryStride - 16 = 0x20 + (0x0E + (1 + 401)) := rfl
          rw [length, size, zeros_add, zeros_add, zeros_add]
          rfl
        rw [blank]
        simp only [characterLayout, List.append_assoc, List.cons_append]
        exact fields_parse 0 0 _ 0 (length_zeros _) (length_zeros _) [] _
    | some c =>
        simp only [characterLayout, List.append_assoc, List.cons_append]
        exact fields_parse c.id c.currentZoneId _ _ (length_paddedField ..)
          (length_paddedField ..) _ _
  rw [CharacterEntry.read, StateT.run_bind, window]
  simp only [Option.bind_eq_bind, Option.bind_some, parsed]
  rfl

theorem characterLayout_sound (worldLookup : UInt16 → Option World)
    (appearanceLookup : UInt32 → WornAppearance)
    (length_encode : ∀ bs, (encode bs).length = 4 * ((bs.length + 2) / 3)) :
    (characterLayout encode worldLookup appearanceLookup).Sound entryStride ShortName
      CharacterEntry.read (CharacterEntry.of encode worldLookup appearanceLookup) where
  positive := Nat.zero_lt_two
  small := Nat.lt_of_sub_eq_succ rfl
  room := Nat.le_refl 0x3B0
  placeFirst := rfl
  placeNext _ _ _ _ := rfl
  fits i _ short := characterEntry_fits length_encode i short
  reads i _ short := CharacterEntry.read_laid (characterEntry_fits length_encode i short)

theorem length_slots (suppressNewSlot : Bool) (characters : List ListedCharacter) :
    (if 8 ≤ characters.length then 8
      else if (suppressNewSlot && !characters.isEmpty) = true then characters.length
      else characters.length + 1) = (slots suppressNewSlot characters).length := by
  rw [slots, List.length_append, List.length_map, List.length_take]
  by_cases many : 8 ≤ characters.length
  · rw [if_pos many, if_neg (by omega), List.length_nil]
    omega
  · rw [if_neg many]
    cases suppressed : suppressNewSlot && !characters.isEmpty with
    | true =>
        rw [if_pos rfl, if_neg (by simp), List.length_nil]
        omega
    | false =>
        rw [if_neg (by simp), if_pos ⟨by omega, rfl⟩, List.length_singleton]
        omega

theorem slots_ne_nil (suppressNewSlot : Bool) (characters : List ListedCharacter) :
    slots suppressNewSlot characters ≠ [] := by
  cases characters with
  | nil => simp [slots]
  | cons c characters => simp [slots]

theorem characterListPackets_eq (suppressNewSlot : Bool) (clock : Nat → UInt32)
    (sequence : UInt64) (characters : List ListedCharacter) :
    characterListPackets encode worldLookup appearanceLookup suppressNewSlot clock sequence
        characters =
      ((slots suppressNewSlot characters).foldlM
        ((characterLayout encode worldLookup appearanceLookup).push clock sequence
          (slots suppressNewSlot characters).length) {}).map
        ((characterLayout encode worldLookup appearanceLookup).finish clock) := by
  have some_slot : (slots suppressNewSlot characters).length ≠ 0 := fun none =>
    slots_ne_nil suppressNewSlot characters (List.length_eq_zero_iff.mp none)
  have shape : (slots suppressNewSlot characters) = (characters.take 8).map some ++
      (if characters.length < 8 ∧ (suppressNewSlot && !characters.isEmpty) = false then [none]
      else []) := rfl
  have finished : ∀ s : Building, (if 0 < s.count then
      some ((characterLayout encode worldLookup appearanceLookup).flush clock s).packets
      else some s.packets) =
        some ((characterLayout encode worldLookup appearanceLookup).finish clock s) := by
    intro s
    rw [ListLayout.finish]
    split <;> rfl
  rw [characterListPackets]
  simp only [length_slots, some_slot, or_false]
  generalize (slots suppressNewSlot characters).length = announced
  rw [shape, List.foldlM_append, List.foldlM_map]
  cases (characters.take 8).foldlM (fun s c => (characterLayout encode worldLookup
      appearanceLookup).push clock sequence announced s (some c)) {} with
  | none => rfl
  | some s =>
      simp only [Option.bind_eq_bind, Option.bind_some]
      by_cases placeholder :
          characters.length < 8 ∧ (suppressNewSlot && !characters.isEmpty) = false
      · simp only [placeholder, and_self, if_true, List.foldlM_cons, List.foldlM_nil]
        cases (characterLayout encode worldLookup appearanceLookup).push clock sequence announced
            s none with
        | none => rfl
        | some s =>
            simp only [Option.bind_some, Option.bind_eq_bind]
            exact finished s
      · rw [if_neg placeholder, if_neg placeholder, List.foldlM_nil]
        exact finished s

theorem characterList_readsBack (worldLookup : UInt16 → Option World)
    (appearanceLookup : UInt32 → WornAppearance)
    (length_encode : ∀ bs, (encode bs).length = 4 * ((bs.length + 2) / 3))
    (suppressNewSlot : Bool) (clock : Nat → UInt32) (sequence : UInt64)
    {characters : List ListedCharacter}
    (short : ∀ c ∈ characters.take 8, (utf8 c.name).length ≤ 0x20) :
    ReadsBack 2 0 CharacterEntry.read
      (characterListPackets encode worldLookup appearanceLookup suppressNewSlot clock sequence
        characters)
      ((slots suppressNewSlot characters).mapIdx
        (CharacterEntry.of encode worldLookup appearanceLookup)) := by
  have good : ∀ slot ∈ slots suppressNewSlot characters, ShortName slot := by
    intro slot member
    rcases List.mem_append.mp member with listed | new
    · obtain ⟨c, inside, rfl⟩ := List.mem_map.mp listed
      exact short c inside
    · split at new
      · rw [List.mem_singleton.mp new]
        trivial
      · contradiction
  obtain ⟨s, chunks, ran, parsed, carries⟩ := ListLayout.finish_carries
    (characterLayout_sound worldLookup appearanceLookup length_encode) clock sequence good
    (slots_ne_nil suppressNewSlot characters)
  exact ⟨_, chunks, by rw [characterListPackets_eq, ran, Option.map_some], parsed, carries⟩

end Characters

/-- Every list reads back as its entries in order, counted packet by packet, with the last
packet marked; the list of characters as its first eight and the placeholder for a new one. -/
theorem lists_read_back {encode : Bytes → Bytes}
    (length_encode : ∀ bs, (encode bs).length = 4 * ((bs.length + 2) / 3))
    (clock : Nat → UInt32) (sequence : UInt64) (worlds : List ListedWorld) (names : List Text)
    (retainers : List Retainer) (worldLookup : UInt16 → Option World)
    (appearanceLookup : UInt32 → WornAppearance) (suppressNewSlot : Bool)
    {characters : List ListedCharacter}
    (short : ∀ c ∈ characters.take 8, (utf8 c.name).length ≤ 0x20) :
    ReadsBack 6 0 WorldEntry.read (worldListPackets clock sequence worlds)
      (worlds.map WorldEntry.of) ∧
    ReadsBack 12 0 ImportEntry.read (importListPackets clock sequence names)
      (names.mapIdx ImportEntry.of) ∧
    ReadsBack 9 12 RetainerEntry.read (retainerListPackets clock sequence retainers)
      (retainers.mapIdx RetainerEntry.of) ∧
    ReadsBack 2 0 CharacterEntry.read
      (characterListPackets encode worldLookup appearanceLookup suppressNewSlot clock sequence
        characters)
      ((slots suppressNewSlot characters).mapIdx
        (CharacterEntry.of encode worldLookup appearanceLookup)) :=
  ⟨worldList_readsBack clock sequence worlds, importList_readsBack clock sequence names,
    retainerList_readsBack clock sequence retainers,
    characterList_readsBack worldLookup appearanceLookup length_encode suppressNewSlot clock
      sequence short⟩

/-! ### The standard encoding -/

def base64Digit (n : Nat) : UInt8 :=
  if n < 26 then UInt8.ofNat (0x41 + n)
  else if n < 52 then UInt8.ofNat (0x61 + (n - 26))
  else if n < 62 then UInt8.ofNat (0x30 + (n - 52))
  else if n = 62 then 0x2B
  else 0x2F

/-- Four digits for every three bytes, the last group padded. -/
def base64 : Bytes → Bytes
  | a :: b :: c :: rest =>
      base64Digit (a.toNat / 4) :: base64Digit (a.toNat % 4 * 16 + b.toNat / 16) ::
        base64Digit (b.toNat % 16 * 4 + c.toNat / 64) :: base64Digit (c.toNat % 64) :: base64 rest
  | [a, b] =>
      [base64Digit (a.toNat / 4), base64Digit (a.toNat % 4 * 16 + b.toNat / 16),
        base64Digit (b.toNat % 16 * 4), 0x3D]
  | [a] => [base64Digit (a.toNat / 4), base64Digit (a.toNat % 4 * 16), 0x3D, 0x3D]
  | [] => []

theorem length_base64 (bs : Bytes) : (base64 bs).length = 4 * ((bs.length + 2) / 3) := by
  induction bs using base64.induct with
  | case1 a b c rest ih =>
      simp only [base64, List.length_cons, ih]
      omega
  | case2 a b => simp [base64]
  | case3 a => simp [base64]
  | case4 => rfl

example : base64 [0x4D, 0x61] = [0x54, 0x57, 0x45, 0x3D] := by decide

def testCharacter : ListedCharacter where
  id := 7
  slot := 0
  serverId := 1
  name := ['T', 'e', 's', 't']
  tribe := 2

theorem lists_read_back_test :
    (∀ bs, (base64 bs).length = 4 * ((bs.length + 2) / 3)) ∧
    (∀ c ∈ [testCharacter].take 8, (utf8 c.name).length ≤ 0x20) ∧
    ReadsBack 2 0 CharacterEntry.read
      (characterListPackets base64 (fun _ => none) (fun _ => {}) false (fun _ => 0) 0
        [testCharacter])
      ((slots false [testCharacter]).mapIdx
        (CharacterEntry.of base64 (fun _ => none) fun _ => {})) := by
  have short : ∀ c ∈ [testCharacter].take 8, (utf8 c.name).length ≤ 0x20 := by
    intro c member
    rw [List.mem_singleton.mp member]
    decide
  exact ⟨length_base64, short,
    (lists_read_back length_base64 (fun _ => 0) 0 [] [] [] (fun _ => none) (fun _ => {}) false
      short).2.2.2⟩

/-- Without a character the list still carries the placeholder. -/
theorem characterList_carries_placeholder : ¬ ∀ (clock : Nat → UInt32) (sequence : UInt64)
    (characters : List ListedCharacter),
    (∀ c ∈ characters, (utf8 c.name).length ≤ 0x20) →
      ReadsBack 2 0 CharacterEntry.read
        (characterListPackets base64 (fun _ => none) (fun _ => {}) false clock sequence
          characters)
        (characters.mapIdx fun i c =>
          CharacterEntry.of base64 (fun _ => none) (fun _ => {}) i (some c)) := by
  intro claim
  obtain ⟨ps, chunks, built, parsed, carries⟩ := claim (fun _ => 0) 0 [] (by simp)
  obtain ⟨ps', chunks', built', parsed', carries'⟩ := characterList_readsBack
    (fun _ => none) (fun _ => {}) length_base64 false (fun _ => 0) 0
    (fun c (member : c ∈ ([] : List ListedCharacter).take 8) => absurd member (by simp))
  obtain rfl := Option.some.inj (built.symm.trans built')
  have same : chunks = chunks' :=
    List.map_injective_iff.mpr (Option.some_injective _) (parsed.symm.trans parsed')
  have one := carries'.all
  rw [← same, carries.all] at one
  have length := congrArg List.length one
  simp [slots] at length

end Garlemald.Lobby
