import Garlemald.Lobby.CharaInfo
import Garlemald.Lobby.Database

/-!
The appearance of a character as the list of characters carries it: a record of the
character and what it wears, padded to the size of its backing array and encoded in
base 64. The encoder is a parameter.
-/

namespace Garlemald.Lobby
open Library

/-- A character with the columns the list shows. -/
structure ListedCharacter extends Character where
  state : UInt16 := 0
  isLegacy : Bool := false
  doRename : Bool := false
  currentZoneId : UInt32 := 0
  guardian : UInt8 := 0
  birthMonth : UInt8 := 0
  birthDay : UInt8 := 0
  currentClass : UInt32 := 0
  currentJob : UInt32 := 0
  currentLevel : Int32 := 0
  initialTown : UInt8 := 0
  tribe : UInt8 := 0

structure WornAppearance extends Appearance where
  mainHand : UInt32 := 0
  offHand : UInt32 := 0
  head : UInt32 := 0
  body : UInt32 := 0
  legs : UInt32 := 0
  hands : UInt32 := 0
  feet : UInt32 := 0
  waist : UInt32 := 0
  neck : UInt32 := 0
  rightEar : UInt32 := 0
  leftEar : UInt32 := 0
  rightIndex : UInt32 := 0
  leftIndex : UInt32 := 0
  rightFinger : UInt32 := 0
  leftFinger : UInt32 := 0

def packU32 (fields : List (UInt32 × UInt8)) : UInt32 :=
  (fields.foldl (fun (r, offset) (value, length) =>
    let length := length.toUInt32
    let mask : UInt32 := if 32 ≤ length then 0xFFFFFFFF else (1 <<< length) - 1
    (r ||| ((value &&& mask) <<< offset), offset + length)) ((0, 0) : UInt32 × UInt32)).1

def faceToU32 (a : Appearance) : UInt32 :=
  packU32 [
    (a.characteristics.toUInt32, 5),
    (a.characteristicsColor.toUInt32, 3),
    (a.faceType.toUInt32, 6),
    (a.ears.toUInt32, 2),
    (a.faceMouth.toUInt32, 2),
    (a.faceFeatures.toUInt32, 2),
    (a.faceNose.toUInt32, 3),
    (a.faceEyeShape.toUInt32, 3),
    (a.faceIrisSize.toUInt32, 1),
    (a.faceEyebrows.toUInt32, 3),
    (0, 2)]

def getTribeModel (tribe : UInt8) : UInt32 :=
  match tribe.toNat with
  | 2 => 2
  | 4 | 6 => 3
  | 5 | 7 => 4
  | 8 | 10 => 5
  | 9 | 11 => 6
  | 12 | 13 => 8
  | 14 | 15 => 7
  | 3 => 9
  | _ => 1

/-- `prv0Inn01` and `defaultTerritory`, each with its zero byte. -/
def location1 : Bytes := [0x70, 0x72, 0x76, 0x30, 0x49, 0x6E, 0x6E, 0x30, 0x31, 0]

def location2 : Bytes :=
  [0x64, 0x65, 0x66, 0x61, 0x75, 0x6C, 0x74, 0x54, 0x65, 0x72, 0x72, 0x69, 0x74, 0x6F, 0x72,
    0x79, 0]

def wornBytes (a : WornAppearance) : Bytes :=
  u32Bytes a.mainHand ++ (u32Bytes a.offHand ++ (zeros 20 ++
    (u32Bytes a.head ++ (u32Bytes a.body ++ (u32Bytes a.legs ++ (u32Bytes a.hands ++
      (u32Bytes a.feet ++ (u32Bytes a.waist ++ (u32Bytes a.neck ++ (u32Bytes a.rightEar ++
        (u32Bytes a.leftEar ++ (u32Bytes a.rightIndex ++ (u32Bytes a.leftIndex ++
          (u32Bytes a.rightFinger ++ (u32Bytes a.leftFinger ++ zeros 8)))))))))))))))

def looksBytes (tribe : UInt8) (a : WornAppearance) : Bytes :=
  let colorVal := a.skinColor.toUInt32 ||| (a.hairColor.toUInt32 <<< 10) |||
    (a.eyeColor.toUInt32 <<< 20)
  let hairVal := a.hairHighlightColor.toUInt32 ||| (a.hairVariation.toUInt32 <<< 5) |||
    (a.hairStyle.toUInt32 <<< 10)
  u32Bytes 0x1c ++ (u32Bytes 0x04 ++ (u32Bytes (getTribeModel tribe) ++
    (u32Bytes a.size.toUInt32 ++ (u32Bytes colorVal ++ (u32Bytes (faceToU32 a.toAppearance) ++
      (u32Bytes hairVal ++ (u32Bytes a.voice.toUInt32 ++ wornBytes a)))))))

def careerBytes (c : ListedCharacter) : Bytes :=
  u32Bytes 1 ++ (u32Bytes 1 ++ (c.currentClass.toUInt8 ::
    (u16Bytes c.currentLevel.toUInt32.toUInt16 ++ (c.currentJob.toUInt8 :: (u16Bytes 1 ++
      (c.tribe :: u32Bytes 0xe22222aa))))))

def originBytes (c : ListedCharacter) : Bytes :=
  u32Bytes (UInt32.ofNat location1.length) ++ (location1 ++
    (u32Bytes (UInt32.ofNat location2.length) ++ (location2 ++ (c.guardian :: c.birthMonth ::
      c.birthDay :: (u16Bytes 0x17 ++ (u32Bytes 4 ++ (u32Bytes 4 ++ (zeros 0x10 ++
        (u32Bytes c.initialTown.toUInt32 ++ u32Bytes c.initialTown.toUInt32)))))))))

def charaRecord (c : ListedCharacter) (a : WornAppearance) : Bytes :=
  let nameBytes := utf8 c.name ++ [0]
  u32Bytes 0x000004c0 ++ (u32Bytes 0x232327ea ++ (u32Bytes (UInt32.ofNat nameBytes.length) ++
    (nameBytes ++ (looksBytes c.tribe a ++ (careerBytes c ++ originBytes c)))))

/-- Doubling is done once the capacity has reached the length, long before the fuel is. -/
def grownCapacity (length : Nat) : Nat → Nat → Nat
  | 0, capacity => capacity
  | fuel + 1, capacity =>
      if capacity < length then grownCapacity length fuel (capacity * 2) else capacity

/-- `-` for `+` and `_` for `/`. -/
def urlSafe (b : UInt8) : UInt8 := if b = 0x2B then 0x2D else if b = 0x2F then 0x5F else b

def buildForCharaList (encode : Bytes → Bytes) (c : ListedCharacter) (a : WornAppearance) :
    Bytes :=
  let buf := charaRecord c a
  let capacity := grownCapacity buf.length buf.length 256
  (encode (buf ++ zeros (capacity - buf.length))).map urlSafe

theorem length_charaRecord (c : ListedCharacter) (a : WornAppearance) :
    (charaRecord c a).length = 224 + (utf8 c.name).length := by
  simp only [charaRecord, looksBytes, wornBytes, careerBytes, originBytes, location1, location2,
    List.length_append, List.length_cons, List.length_nil, length_u32Bytes, length_u16Bytes,
    length_zeros]
  omega

theorem grownCapacity_small {length : Nat} (small : length ≤ 256) :
    grownCapacity length length 256 = 256 := by
  cases length with
  | zero => rfl
  | succ n => rw [grownCapacity, if_neg (by omega)]

theorem length_buildForCharaList {encode : Bytes → Bytes}
    (length_encode : ∀ bs, (encode bs).length = 4 * ((bs.length + 2) / 3))
    {c : ListedCharacter} (short : (utf8 c.name).length ≤ 0x20) (a : WornAppearance) :
    (buildForCharaList encode c a).length = 344 := by
  have length := length_charaRecord c a
  rw [buildForCharaList, grownCapacity_small (by omega), List.length_map, length_encode,
    List.length_append, length_zeros]
  omega

end Garlemald.Lobby
