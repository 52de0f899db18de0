import Garlemald.Library.Cursor
import Garlemald.Library.Utf8
import Mathlib.Data.List.TakeWhile

/-!
The world server's parsers of incoming bodies: the client's hello, the control
packets of a map server and the two game messages it intercepts. A body that is
too short is an error; bytes behind the last field are ignored.
-/

namespace Garlemald.World
open Library

def fixedString (buf : Bytes) : Text := fromUtf8Lossy (buf.takeWhile (· ≠ 0))

def readFixedString (len : Nat) : Reader Text := do return fixedString (← Reader.bytes len)

theorem fixedString_stop {front : Bytes} (clean : 0 ∉ front) (rest : Bytes) :
    fixedString (front ++ 0 :: rest) = fromUtf8Lossy front := by
  have all : ∀ b ∈ front, (decide (b ≠ 0)) = true := by
    intro b member
    exact decide_eq_true fun zero => clean (zero ▸ member)
  rw [fixedString, List.takeWhile_append_of_pos all]
  simp

theorem fixedString_clean {buf : Bytes} (clean : 0 ∉ buf) :
    fixedString buf = fromUtf8Lossy buf := by
  have all : ∀ b ∈ buf, (decide (b ≠ 0)) = true := by
    intro b member
    exact decide_eq_true fun zero => clean (zero ▸ member)
  have whole : buf.takeWhile (fun b => decide (b ≠ 0)) = buf :=
    List.takeWhile_eq_self_iff.mpr all
  rw [fixedString, whole]

theorem fixedString_past {s : Text} (clean : 0 ∉ utf8 s) {b : UInt8} (more : b ≠ 0)
    (rest : Bytes) : fixedString (utf8 s ++ b :: rest) ≠ s := by
  have all : ∀ b ∈ utf8 s, (decide (b ≠ 0)) = true := by
    intro b member
    exact decide_eq_true fun zero => clean (zero ▸ member)
  have past : (b :: rest).takeWhile (· ≠ 0) ≠ [] := by simp [more]
  rw [fixedString, List.takeWhile_append_of_pos all, fromUtf8Lossy_append]
  intro same
  exact fromUtf8Lossy_ne_nil past (List.append_right_eq_self.mp same)

theorem fixedString_paddedField {width : Nat} {s : Text} (fits : FitsField width s) :
    fixedString (paddedField s width) = s := by
  rw [fits.paddedField_eq]
  cases width - (utf8 s).length with
  | zero =>
      rw [zeros, List.replicate_zero, List.append_nil, fixedString_clean fits.nulFree,
        fromUtf8Lossy_utf8]
  | succ room =>
      rw [zeros, List.replicate_succ, fixedString_stop fits.nulFree, fromUtf8Lossy_utf8]

theorem readFixedString_append {len : Nat} (front rest : Bytes) (h : front.length = len) :
    (readFixedString len).run (front ++ rest) = some (fixedString front, rest) := by
  simp [readFixedString, Reader.bytes_append front rest h]

theorem readFixedString_eq_some {len : Nat} {input rest : Bytes} {s : Text}
    (h : (readFixedString len).run input = some (s, rest)) :
    len ≤ input.length ∧ s = fixedString (input.take len) ∧ rest = input.drop len := by
  rw [readFixedString, StateT.run_bind] at h
  obtain ⟨⟨front, behind⟩, read, same⟩ := Option.bind_eq_some_iff.mp h
  obtain ⟨enough, rfl, rfl⟩ := Reader.bytes_eq_some read
  cases same
  exact ⟨enough, rfl, rfl⟩

theorem readFixedString_paddedField {width : Nat} {s : Text} (fits : FitsField width s)
    (rest : Bytes) :
    (readFixedString width).run (paddedField s width ++ rest) = some (s, rest) := by
  rw [readFixedString_append _ _ (length_paddedField s width), fixedString_paddedField fits]

structure HelloPacket where
  sessionId : UInt32
deriving DecidableEq, Repr

def isWhitespace (b : UInt8) : Bool := (9 ≤ b ∧ b ≤ 13) ∨ b = 32 ∨ b = 0x85 ∨ b = 0xA0

def trim (bs : Bytes) : Bytes :=
  ((bs.dropWhile isWhitespace).reverse.dropWhile isWhitespace).reverse

def isDigit (b : UInt8) : Bool := 48 ≤ b ∧ b ≤ 57

def decimalValue (digits : Bytes) : Nat :=
  digits.foldl (fun value d => value * 10 + (d.toNat - 48)) 0

/-- A decimal number of 32 bits, with an optional plus sign. -/
def parseU32 (bs : Bytes) : Option UInt32 :=
  let digits := match bs with
    | 43 :: rest => rest
    | _ => bs
  if digits ≠ [] ∧ digits.all isDigit ∧ decimalValue digits < 2 ^ 32 then
    some (UInt32.ofNat (decimalValue digits))
  else none

namespace HelloPacket

def parse (basePacketBody : Bytes) : Option HelloPacket :=
  if basePacketBody.length < 0x14 + 12 then none
  else
    let ascii := (basePacketBody.drop 0x14).take 12
    some ⟨(parseU32 (trim (ascii.takeWhile (· ≠ 0)))).getD 0⟩

end HelloPacket

structure SessionBeginConfirmPacket where
  sessionId : UInt32
  errorCode : UInt16
deriving DecidableEq, Repr

namespace SessionBeginConfirmPacket

def fields : Reader SessionBeginConfirmPacket := do
  let sessionId ← Reader.u32
  let errorCode ← Reader.u16
  return { sessionId, errorCode }

def parse (data : Bytes) : Option SessionBeginConfirmPacket := fields.parse data

theorem parse_layout (sessionId : UInt32) (errorCode : UInt16) (rest : Bytes) :
    parse (u32Bytes sessionId ++ (u16Bytes errorCode ++ rest)) = some ⟨sessionId, errorCode⟩ := by
  simp [parse, fields, Reader.parse]

end SessionBeginConfirmPacket

structure SessionEndConfirmPacket where
  sessionId : UInt32
  errorCode : UInt16
  destinationZone : UInt32
deriving DecidableEq, Repr

namespace SessionEndConfirmPacket

def fields : Reader SessionEndConfirmPacket := do
  let sessionId ← Reader.u32
  let errorCode ← Reader.u16
  let destinationZone ← Reader.u32
  return { sessionId, errorCode, destinationZone }

def parse (data : Bytes) : Option SessionEndConfirmPacket := fields.parse data

theorem parse_layout (sessionId destinationZone : UInt32) (errorCode : UInt16) (rest : Bytes) :
    parse (u32Bytes sessionId ++ (u16Bytes errorCode ++ (u32Bytes destinationZone ++ rest))) =
      some ⟨sessionId, errorCode, destinationZone⟩ := by
  simp [parse, fields, Reader.parse]

end SessionEndConfirmPacket

/-- The coordinates and the rotation are the bit patterns of 32-bit floats. -/
structure WorldRequestZoneChangePacket where
  sessionId : UInt32
  destinationZoneId : UInt32
  destinationSpawnType : UInt8
  destinationX : UInt32
  destinationY : UInt32
  destinationZ : UInt32
  destinationRot : UInt32
deriving DecidableEq, Repr

namespace WorldRequestZoneChangePacket

def fields : Reader WorldRequestZoneChangePacket := do
  let sessionId ← Reader.u32
  let destinationZoneId ← Reader.u32
  let destinationSpawnType ← Reader.u16
  let destinationX ← Reader.u32
  let destinationY ← Reader.u32
  let destinationZ ← Reader.u32
  let destinationRot ← Reader.u32
  return { sessionId, destinationZoneId, destinationX, destinationY, destinationZ, destinationRot,
           destinationSpawnType := destinationSpawnType.toUInt8 }

def parse (data : Bytes) : Option WorldRequestZoneChangePacket := fields.parse data

theorem parse_layout (sessionId zone : UInt32) (spawnType : UInt8) (x y z rot : UInt32)
    (rest : Bytes) :
    parse (u32Bytes sessionId ++ (u32Bytes zone ++ (u16Bytes spawnType.toUInt16 ++ (u32Bytes x ++
        (u32Bytes y ++ (u32Bytes z ++ (u32Bytes rot ++ rest))))))) =
      some ⟨sessionId, zone, spawnType, x, y, z, rot⟩ := by
  simp [parse, fields, Reader.parse]

end WorldRequestZoneChangePacket

structure PartyModifyPacket where
  command : UInt16
  actorId : UInt32
  name : Text
deriving DecidableEq, Repr

namespace PartyModifyPacket

def modifyLeader : UInt16 := 0

def modifyKickplayer : UInt16 := 1

def fields : Reader PartyModifyPacket := do
  let command ← Reader.u16
  if command ≥ 2 then
    let actorId ← Reader.u32
    return { command, actorId, name := [] }
  else
    let name ← readFixedString 0x20
    return { command, actorId := 0, name }

def parse (data : Bytes) : Option PartyModifyPacket := fields.parse data

theorem parse_name {command : UInt16} (byName : command < 2) {name : Text}
    (fits : FitsField 0x20 name) (rest : Bytes) :
    parse (u16Bytes command ++ (paddedField name 0x20 ++ rest)) = some ⟨command, 0, name⟩ := by
  have small : ¬ 2 ≤ command := UInt16.not_le.mpr byName
  simp [parse, fields, Reader.parse, small, readFixedString_paddedField fits]

theorem parse_actor {command : UInt16} (byActor : 2 ≤ command) (actorId : UInt32)
    (rest : Bytes) :
    parse (u16Bytes command ++ (u32Bytes actorId ++ rest)) = some ⟨command, actorId, []⟩ := by
  simp [parse, fields, Reader.parse, byActor]

theorem parse_name_nil {data : Bytes} {p : PartyModifyPacket} (h : parse data = some p)
    (byActor : 2 ≤ p.command) : p.name = [] := by
  obtain ⟨⟨q, unread⟩, ran, rfl⟩ := Option.map_eq_some_iff.mp h
  rw [fields, StateT.run_bind] at ran
  obtain ⟨⟨command, behind⟩, _, ran⟩ := Option.bind_eq_some_iff.mp ran
  split at ran
  · rw [StateT.run_bind] at ran
    obtain ⟨_, _, same⟩ := Option.bind_eq_some_iff.mp ran
    cases same
    rfl
  · next byName =>
      rw [StateT.run_bind] at ran
      obtain ⟨_, _, same⟩ := Option.bind_eq_some_iff.mp ran
      cases same
      exact absurd byActor byName

end PartyModifyPacket

structure PartyLeavePacket where
  isDisband : Bool
deriving DecidableEq, Repr

namespace PartyLeavePacket

def fields : Reader PartyLeavePacket := do
  let flag ← Reader.u8
  return { isDisband := flag = 1 }

def parse (data : Bytes) : Option PartyLeavePacket := fields.parse data

theorem parse_layout (isDisband : Bool) (rest : Bytes) :
    parse (u16Bytes (if isDisband then 1 else 0) ++ rest) = some ⟨isDisband⟩ := by
  cases isDisband <;> rfl

end PartyLeavePacket

structure PartyInvitePacket where
  command : UInt16
  actorId : UInt32
  name : Text
deriving DecidableEq, Repr

namespace PartyInvitePacket

def fields : Reader PartyInvitePacket := do
  let command ← Reader.u16
  if command = 1 then
    let actorId ← Reader.u32
    return { command, actorId, name := [] }
  else
    let name ← readFixedString 0x20
    return { command, actorId := 0, name }

def parse (data : Bytes) : Option PartyInvitePacket := fields.parse data

theorem parse_name {name : Text} (fits : FitsField 0x20 name) (rest : Bytes) :
    parse (u16Bytes 0 ++ (paddedField name 0x20 ++ rest)) = some ⟨0, 0, name⟩ := by
  simp [parse, fields, Reader.parse, readFixedString_paddedField fits]

theorem parse_actor (actorId : UInt32) (rest : Bytes) :
    parse (u16Bytes 1 ++ (u32Bytes actorId ++ rest)) = some ⟨1, actorId, []⟩ := by
  simp [parse, fields, Reader.parse]

end PartyInvitePacket

structure GroupInviteResultPacket where
  groupType : UInt32
  result : UInt32
deriving DecidableEq, Repr

namespace GroupInviteResultPacket

def fields : Reader GroupInviteResultPacket := do
  let groupType ← Reader.u32
  let result ← Reader.u32
  return { groupType, result }

def parse (data : Bytes) : Option GroupInviteResultPacket := fields.parse data

theorem parse_layout (groupType result : UInt32) (rest : Bytes) :
    parse (u32Bytes groupType ++ (u32Bytes result ++ rest)) = some ⟨groupType, result⟩ := by
  simp [parse, fields, Reader.parse]

end GroupInviteResultPacket

structure CreateLinkshellPacket where
  name : Text
  crestId : UInt16
  master : UInt32
deriving DecidableEq, Repr

namespace CreateLinkshellPacket

def fields : Reader CreateLinkshellPacket := do
  let name ← readFixedString 0x20
  let crestId ← Reader.u16
  let master ← Reader.u32
  return { name, crestId, master }

def parse (data : Bytes) : Option CreateLinkshellPacket := fields.parse data

theorem parse_layout {name : Text} (fits : FitsField 0x20 name) (crestId : UInt16)
    (master : UInt32) (rest : Bytes) :
    parse (paddedField name 0x20 ++ (u16Bytes crestId ++ (u32Bytes master ++ rest))) =
      some ⟨name, crestId, master⟩ := by
  simp [parse, fields, Reader.parse, readFixedString_paddedField fits]

end CreateLinkshellPacket

structure ModifyLinkshellPacket where
  currentName : Text
  argCode : UInt16
  newName : Text := []
  crestId : UInt16 := 0
  master : UInt32 := 0
deriving DecidableEq, Repr

namespace ModifyLinkshellPacket

def codeRename : UInt16 := 0

def codeCrestchange : UInt16 := 1

def codeMasterchange : UInt16 := 2

def fields : Reader ModifyLinkshellPacket := do
  let currentName ← readFixedString 0x20
  let argCode ← Reader.u16
  if argCode = codeRename then
    let newName ← readFixedString 0x20
    return { currentName, argCode, newName }
  else if argCode = codeCrestchange then
    let crestId ← Reader.u16
    return { currentName, argCode, crestId }
  else if argCode = codeMasterchange then
    let master ← Reader.u32
    return { currentName, argCode, master }
  else return { currentName, argCode }

def parse (data : Bytes) : Option ModifyLinkshellPacket := fields.parse data

theorem parse_shared {data : Bytes} {p : ModifyLinkshellPacket} (h : parse data = some p) :
    p.currentName = fixedString (data.take 0x20) ∧ p.argCode = u16Value ((data.drop 0x20).take 2) ∧
      (p.argCode = codeRename → 0x42 ≤ data.length) := by
  obtain ⟨⟨q, unread⟩, ran, rfl⟩ := Option.map_eq_some_iff.mp h
  rw [fields, StateT.run_bind] at ran
  obtain ⟨⟨name, afterName⟩, readName, ran⟩ := Option.bind_eq_some_iff.mp ran
  rw [StateT.run_bind] at ran
  obtain ⟨⟨code, afterCode⟩, readCode, ran⟩ := Option.bind_eq_some_iff.mp ran
  obtain ⟨_, rfl, rfl⟩ := readFixedString_eq_some readName
  obtain ⟨rfl, rfl⟩ := Reader.u16_eq_some readCode
  split at ran
  · rw [StateT.run_bind] at ran
    obtain ⟨⟨newName, last⟩, readNew, same⟩ := Option.bind_eq_some_iff.mp ran
    obtain ⟨enough, _⟩ := readFixedString_eq_some readNew
    cases same
    refine ⟨rfl, rfl, fun _ => ?_⟩
    simp only [List.length_drop] at enough
    omega
  · next other =>
      split at ran
      · rw [StateT.run_bind] at ran
        obtain ⟨_, _, same⟩ := Option.bind_eq_some_iff.mp ran
        cases same
        exact ⟨rfl, rfl, fun rename => absurd rename other⟩
      · split at ran
        · rw [StateT.run_bind] at ran
          obtain ⟨_, _, same⟩ := Option.bind_eq_some_iff.mp ran
          cases same
          exact ⟨rfl, rfl, fun rename => absurd rename other⟩
        · cases ran
          exact ⟨rfl, rfl, fun rename => absurd rename other⟩

theorem parse_code {name : Text} (fits : FitsField 0x20 name) (full : (utf8 name).length = 0x20)
    {argCode : UInt16} (other : argCode ≠ codeRename) (crestId : UInt16) (master : UInt32)
    (rest : Bytes) :
    parse (utf8 name ++ (u16Bytes argCode ++
        ((if argCode = 1 then u16Bytes crestId else if argCode = 2 then u32Bytes master else []) ++
          rest))) =
      some { currentName := name, argCode
             crestId := if argCode = 1 then crestId else 0
             master := if argCode = 2 then master else 0 } := by
  have named (behind : Bytes) := readFixedString_append (utf8 name) behind full
  rw [fixedString_clean fits.nulFree, fromUtf8Lossy_utf8] at named
  by_cases crest : argCode = codeCrestchange
  · subst crest
    simp [parse, fields, Reader.parse, named, codeRename, codeCrestchange]
  · by_cases change : argCode = codeMasterchange
    · subst change
      simp [parse, fields, Reader.parse, named, codeRename, codeCrestchange, codeMasterchange]
    · simp only [codeRename, codeCrestchange, codeMasterchange] at other crest change
      simp [parse, fields, Reader.parse, named, codeRename, codeCrestchange, codeMasterchange,
        other, crest, change]

end ModifyLinkshellPacket

structure DeleteLinkshellPacket where
  name : Text
deriving DecidableEq, Repr

namespace DeleteLinkshellPacket

def fields : Reader DeleteLinkshellPacket := do return ⟨← readFixedString 0x20⟩

def parse (data : Bytes) : Option DeleteLinkshellPacket := fields.parse data

theorem parse_layout {name : Text} (fits : FitsField 0x20 name) (rest : Bytes) :
    parse (paddedField name 0x20 ++ rest) = some ⟨name⟩ := by
  simp [parse, fields, Reader.parse, readFixedString_paddedField fits]

end DeleteLinkshellPacket

structure LinkshellChangePacket where
  lsName : Text
deriving DecidableEq, Repr

namespace LinkshellChangePacket

def fields : Reader LinkshellChangePacket := do return ⟨← readFixedString 0x20⟩

def parse (data : Bytes) : Option LinkshellChangePacket := fields.parse data

theorem parse_layout {lsName : Text} (fits : FitsField 0x20 lsName) (rest : Bytes) :
    parse (paddedField lsName 0x20 ++ rest) = some ⟨lsName⟩ := by
  simp [parse, fields, Reader.parse, readFixedString_paddedField fits]

end LinkshellChangePacket

structure LinkshellInvitePacket where
  actorId : UInt32
  lsName : Text
deriving DecidableEq, Repr

namespace LinkshellInvitePacket

def fields : Reader LinkshellInvitePacket := do
  let actorId ← Reader.u32
  let lsName ← readFixedString 0x20
  return { actorId, lsName }

def parse (data : Bytes) : Option LinkshellInvitePacket := fields.parse data

theorem parse_layout (actorId : UInt32) {lsName : Text} (fits : FitsField 0x20 lsName)
    (rest : Bytes) :
    parse (u32Bytes actorId ++ (paddedField lsName 0x20 ++ rest)) = some ⟨actorId, lsName⟩ := by
  simp [parse, fields, Reader.parse, readFixedString_paddedField fits]

end LinkshellInvitePacket

structure LinkshellLeavePacket where
  isKicked : Bool
  kickedName : Text
  lsName : Text
deriving DecidableEq, Repr

namespace LinkshellLeavePacket

def fields : Reader LinkshellLeavePacket := do
  let flag ← Reader.u16
  let kickedName ← readFixedString 0x20
  let lsName ← readFixedString 0x20
  return { isKicked := flag = 1, kickedName, lsName }

def parse (data : Bytes) : Option LinkshellLeavePacket := fields.parse data

theorem parse_layout (isKicked : Bool) {kickedName lsName : Text}
    (kicked : FitsField 0x20 kickedName) (fits : FitsField 0x20 lsName) (rest : Bytes) :
    parse (u16Bytes (if isKicked then 1 else 0) ++
        (paddedField kickedName 0x20 ++ (paddedField lsName 0x20 ++ rest))) =
      some ⟨isKicked, kickedName, lsName⟩ := by
  cases isKicked <;>
    simp [parse, fields, Reader.parse, readFixedString_paddedField kicked,
      readFixedString_paddedField fits]

end LinkshellLeavePacket

structure LinkshellRankChangePacket where
  name : Text
  lsName : Text
  rank : UInt8
deriving DecidableEq, Repr

namespace LinkshellRankChangePacket

def fields : Reader LinkshellRankChangePacket := do
  let name ← readFixedString 0x20
  let lsName ← readFixedString 0x20
  let rank ← Reader.u8
  return { name, lsName, rank }

def parse (data : Bytes) : Option LinkshellRankChangePacket := fields.parse data

theorem parse_layout {name lsName : Text} (first : FitsField 0x20 name)
    (second : FitsField 0x20 lsName) (rank : UInt8) (rest : Bytes) :
    parse (paddedField name 0x20 ++ (paddedField lsName 0x20 ++ rank :: rest)) =
      some ⟨name, lsName, rank⟩ := by
  simp [parse, fields, Reader.parse, readFixedString_paddedField first,
    readFixedString_paddedField second]

end LinkshellRankChangePacket

structure PartyChatMessagePacket where
  message : Text
deriving DecidableEq, Repr

namespace PartyChatMessagePacket

def parse (data : Bytes) : PartyChatMessagePacket := ⟨fixedString data⟩

end PartyChatMessagePacket

end Garlemald.World
