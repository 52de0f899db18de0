import Garlemald.Library.Cursor
import Garlemald.Library.Utf8

/-!
What a new character is made from: the blob the client sends with the request,
the starting gear of its class, and the town it begins in. Decoding base 64 is a
parameter.
-/

namespace Garlemald.Lobby
open Library

structure Appearance where
  size : UInt8 := 0
  voice : UInt8 := 0
  skinColor : UInt16 := 0
  hairStyle : UInt16 := 0
  hairColor : UInt16 := 0
  hairHighlightColor : UInt16 := 0
  hairVariation : UInt16 := 0
  eyeColor : UInt16 := 0
  characteristicsColor : UInt8 := 0
  faceType : UInt8 := 0
  faceEyebrows : UInt8 := 0
  faceEyeShape : UInt8 := 0
  faceIrisSize : UInt8 := 0
  faceNose : UInt8 := 0
  faceMouth : UInt8 := 0
  faceFeatures : UInt8 := 0
  characteristics : UInt8 := 0
  ears : UInt8 := 0
deriving DecidableEq, Repr

/-- A place in a zone and the way one looks there. -/
structure Position where
  zoneId : UInt16 := 0
  x : Float32 := 0
  y : Float32 := 0
  z : Float32 := 0
  rot : Float32 := 0

structure CharaInfo where
  appearance : Appearance := {}
  guardian : UInt32 := 0
  birthMonth : UInt32 := 0
  birthDay : UInt32 := 0
  currentClass : UInt32 := 0
  initialTown : UInt32 := 0
  tribe : UInt32 := 0
  position : Position := {}
  weapon1 : UInt32 := 0
  weapon2 : UInt32 := 0
  head : UInt32 := 0
  body : UInt32 := 0
  hands : UInt32 := 0
  legs : UInt32 := 0
  feet : UInt32 := 0
  belt : UInt32 := 0

namespace CharaInfo

/-- A seek from the current position; behind the end every read fails. -/
def skip (n : Nat) : Reader Unit := fun input => some ((), input.drop n)

def wide (b : UInt8) : UInt16 := b.toUInt16

def fields : Reader CharaInfo := do
  let _version ← Reader.u32
  let _unknown1 ← Reader.u32
  let tribe ← Reader.u8
  let size ← Reader.u8
  let hairStyle ← Reader.u16
  let hairHighlightColor ← Reader.u8
  let hairVariation ← Reader.u8
  let faceType ← Reader.u8
  let characteristics ← Reader.u8
  let characteristicsColor ← Reader.u8
  let _ ← Reader.u32
  let faceEyebrows ← Reader.u8
  let faceIrisSize ← Reader.u8
  let faceEyeShape ← Reader.u8
  let faceNose ← Reader.u8
  let faceFeatures ← Reader.u8
  let faceMouth ← Reader.u8
  let ears ← Reader.u8
  let hairColor ← Reader.u16
  let _ ← Reader.u32
  let skinColor ← Reader.u16
  let eyeColor ← Reader.u16
  let voice ← Reader.u8
  let guardian ← Reader.u8
  let birthMonth ← Reader.u8
  let birthDay ← Reader.u8
  let currentClass ← Reader.u16
  let _ ← Reader.u32
  let _ ← Reader.u32
  let _ ← Reader.u32
  skip 0x10
  let initialTown ← Reader.u8
  let appearance : Appearance :=
    { size, voice, skinColor, hairStyle, hairColor, eyeColor, faceType, faceEyebrows
      hairHighlightColor := wide hairHighlightColor, hairVariation := wide hairVariation
      faceEyeShape, faceIrisSize, faceNose, faceMouth, faceFeatures, ears
      characteristics, characteristicsColor }
  return { appearance, guardian := guardian.toUInt32, birthMonth := birthMonth.toUInt32
           birthDay := birthDay.toUInt32, currentClass := currentClass.toUInt32
           initialTown := initialTown.toUInt32, tribe := tribe.toUInt32 }

def canonical (c : Char) : Char :=
  if c = '-' then '+' else if c = '_' then '/' else c

def trimEndNul (text : Text) : Text := (text.reverse.dropWhile (· = Char.ofNat 0)).reverse

def parseNewCharRequest (decode : Text → Option Bytes) (encoded : Text) : Option CharaInfo := do
  let data ← decode (trimEndNul (encoded.map canonical))
  Reader.parse fields data

end CharaInfo

def equipmentSlotCount : Nat := 22

def equipment (worn : List UInt32) : List UInt32 :=
  worn ++ List.replicate (equipmentSlotCount - worn.length) 0

def getEquipmentForClass (charClass : UInt32) : Option (List UInt32) :=
  match charClass.toNat with
  | 2 => some (equipment
      [60818432, 60818432, 0, 0, 0, 0, 0, 0, 10656, 10560, 1024, 25824, 6144])
  | 3 => some (equipment [79692890, 0, 0, 0, 0, 0, 0, 0, 31776, 4448, 1024, 25824, 6144])
  | 4 => some (equipment [147850310, 0, 0, 0, 0, 0, 0, 23713, 0, 10016, 5472, 1152, 6144])
  | 7 => some (equipment
      [210764860, 236979210, 0, 0, 0, 231736320, 0, 0, 9888, 9984, 1024, 25824, 6144])
  | 8 => some (equipment [168823858, 0, 0, 0, 0, 0, 0, 0, 13920, 7200, 1024, 10656, 6144])
  | 22 => some (equipment [294650980, 0, 0, 0, 0, 0, 0, 0, 7744, 5472, 1024, 5504, 4096])
  | 23 => some (equipment [347079700, 0, 0, 0, 0, 0, 0, 0, 4448, 2240, 1024, 4416, 4096])
  | 29 => some (equipment [705692672, 0, 0, 0, 0, 0, 0, 0, 0, 10016, 10656, 9632, 2048])
  | 30 => some (equipment [721421372, 0, 0, 0, 0, 0, 0, 0, 0, 2241, 2336, 2304, 2048])
  | 31 => some (equipment [737149962, 0, 0, 0, 0, 0, 0, 0, 32992, 2240, 1024, 2272, 2048])
  | 32 => some (equipment [752878592, 0, 0, 0, 0, 0, 0, 0, 2368, 3424, 1024, 10656, 2048])
  | 33 => some (equipment [768607252, 0, 0, 0, 0, 0, 0, 4448, 4449, 1792, 1024, 21888, 2048])
  | 34 => some (equipment [784335922, 0, 0, 0, 0, 0, 0, 0, 5505, 5473, 1024, 5505, 2048])
  | 35 => some (equipment [800064522, 0, 0, 0, 0, 0, 0, 20509, 5504, 2241, 1024, 1152, 2048])
  | 36 => some (equipment [815793192, 0, 0, 0, 0, 0, 0, 5632, 34848, 1792, 1024, 25825, 2048])
  | 39 => some (equipment [862979092, 0, 0, 0, 0, 0, 0, 0, 1184, 2242, 6464, 6528, 14336])
  | 40 => some (equipment [878707732, 0, 0, 0, 0, 0, 0, 6304, 6624, 6560, 1024, 1152, 14336])
  | 41 => some (equipment [894436372, 0, 0, 0, 0, 0, 0, 6400, 1184, 9984, 1024, 6529, 14336])
  | _ => none

def undershirtForTribe (tribe : UInt32) : UInt32 :=
  match tribe.toNat with
  | 1 | 4 | 8 | 14 => 1184
  | 2 | 13 | 15 => 1186
  | 3 | 6 => 1187
  | 5 => 1024
  | 7 | 11 => 1505
  | 9 => 1185
  | 10 => 1504
  | 12 => 1216
  | _ => 0

/-- The columns of the class tables. -/
inductive ClassColumn where
  | pug | gla | mrd | arc | lnc | thm | cnj | crp | bsm
  | arm | gsm | ltw | wvr | alc | cul | min | btn | fsh
deriving DecidableEq, Repr

/-- The column of a class, by the bits of a signed 16-bit number. `none` is the
name "undefined", which no column has. -/
def classNameForId (id : UInt16) : Option ClassColumn :=
  match id.toNat with
  | 2 => some .pug
  | 3 => some .gla
  | 4 => some .mrd
  | 7 => some .arc
  | 8 => some .lnc
  | 22 => some .thm
  | 23 => some .cnj
  | 29 => some .crp
  | 30 => some .bsm
  | 31 => some .arm
  | 32 => some .gsm
  | 33 => some .ltw
  | 34 => some .wvr
  | 35 => some .alc
  | 36 => some .cul
  | 39 => some .min
  | 40 => some .btn
  | 41 => some .fsh
  | _ => none

namespace CharaInfo

/-- The starting gear of the class, with an undershirt where it has no top. -/
def outfit (info : CharaInfo) : CharaInfo :=
  match getEquipmentForClass info.currentClass with
  | some gear =>
      let body := gear.getD 8 0
      { info with
        weapon1 := gear.getD 0 0
        weapon2 := gear.getD 1 0
        head := gear.getD 7 0
        body := if body ≠ 0 then body else undershirtForTribe info.tribe
        legs := gear.getD 9 0
        hands := gear.getD 10 0
        feet := gear.getD 11 0
        belt := gear.getD 12 0 }
  | none => info

def startingPosition (info : CharaInfo) : CharaInfo :=
  match info.initialTown.toNat with
  | 1 => { info with position := ⟨193, 0.016, 10.35, -36.91, 0.025⟩ }
  | 2 => { info with position := ⟨166, 369.5434, 4.21, -706.1074, -1.26721⟩ }
  | 3 => { info with position := ⟨184, 5.364327, 196.0, 133.6561, -2.849384⟩ }
  | _ => info

end CharaInfo
end Garlemald.Lobby
