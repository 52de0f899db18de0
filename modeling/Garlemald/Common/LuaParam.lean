import Garlemald.Library.Cursor
import Garlemald.Library.Utf8

/-!
Lua parameters on the wire: a tag byte, a payload with the most significant byte
first, and an end tag. Unsigned integers are written under the signed tag, and of a
short only the tag is written; everything else is read back as it was written.
-/

namespace Garlemald.Common
open Library

inductive LuaParam where
  | int32 (v : Int32)
  | uint32 (v : UInt32)
  | string (s : Text)
  | true
  | false
  | nil
  | actor (v : UInt32)
  | type7 (actorId : UInt32) (unknown slot inventoryType : UInt8)
  | type9 (item1 item2 : UInt64)
  | byte (b : UInt8)
  | short (v : UInt16)
deriving DecidableEq, Repr

def luaEnd : UInt8 := 0x0F

namespace LuaParam

def typeId : LuaParam → UInt8
  | int32 _ => 0x0
  | uint32 _ => 0x0
  | string _ => 0x2
  | true => 0x3
  | false => 0x4
  | nil => 0x5
  | actor _ => 0x6
  | type7 .. => 0x7
  | type9 .. => 0x9
  | byte _ => 0xC
  | short _ => 0x1B

def payload : LuaParam → Bytes
  | int32 v => u32BytesBe v.toUInt32
  | uint32 v => u32BytesBe v
  | string s => utf8 s ++ [0]
  | true | false | nil => []
  | actor v => u32BytesBe v
  | type7 actorId unknown slot inventoryType =>
      u32BytesBe actorId ++ [unknown, slot, inventoryType]
  | type9 item1 item2 => u64BytesBe item1 ++ u64BytesBe item2
  | byte b => [b]
  | short _ => []

end LuaParam

def writeLuaParams (params : List LuaParam) : Bytes :=
  params.flatMap (fun p => p.typeId :: p.payload) ++ [luaEnd]

inductive LuaParamError where
  | unexpectedEof
  /-- `unknown lua param type 0x{unknown:X}` -/
  | unknownType (unknown : UInt8)
deriving DecidableEq, Repr

abbrev LuaReader := StateT Bytes (Except LuaParamError)

namespace LuaReader

def read {α : Type} (r : Reader α) : LuaReader α := fun input =>
  match r.run input with
  | some found => .ok found
  | none => .error .unexpectedEof

def untilNul : Bytes → Except LuaParamError (Bytes × Bytes)
  | [] => .error .unexpectedEof
  | b :: rest =>
      if b = 0 then .ok ([], rest)
      else do
        let (s, rest) ← untilNul rest
        return (b :: s, rest)

def param (code : UInt8) : LuaReader LuaParam :=
  match code with
  | 0x0 => return .int32 (← read Reader.u32Be).toInt32
  | 0x1 => return .uint32 (← read Reader.u32Be)
  | 0x2 => return .string (fromUtf8Lossy (← untilNul))
  | 0x3 => return .true
  | 0x4 => return .false
  | 0x5 => return .nil
  | 0x6 => return .actor (← read Reader.u32Be)
  | 0x7 => do
      let actorId ← read Reader.u32Be
      let unknown ← read Reader.u8
      let slot ← read Reader.u8
      let inventoryType ← read Reader.u8
      return .type7 actorId unknown slot inventoryType
  | 0x9 => do
      let item1 ← read Reader.u64Be
      let item2 ← read Reader.u64Be
      return .type9 item1 item2
  | 0xC => return .byte (← read Reader.u8)
  | 0x1B => return .short (← read Reader.u16Be)
  | unknown => throw (.unknownType unknown)

/-- Every turn reads a tag, so no more turns than bytes are made before the input ends. -/
def params : Nat → LuaReader (List LuaParam)
  | 0 => throw .unexpectedEof
  | fuel + 1 => do
      let code ← read Reader.u8
      if code = luaEnd then return []
      else
        let p ← param code
        return p :: (← params fuel)

end LuaReader

/-- The parameters at the front of `input` and what is left behind the end tag. -/
def readLuaParamsFrom (input : Bytes) : Except LuaParamError (List LuaParam × Bytes) :=
  (LuaReader.params input.length).run input

def readLuaParams (bytes : Bytes) : Except LuaParamError (List LuaParam) :=
  (readLuaParamsFrom bytes).map Prod.fst

namespace LuaReader

theorem read_run {α : Type} {r : Reader α} {input : Bytes} {found : α × Bytes}
    (h : r.run input = some found) : (read r).run input = .ok found := by
  change (match r.run input with
    | some found => Except.ok found
    | none => .error LuaParamError.unexpectedEof) = _
  rw [h]

theorem ok_bind {α β : Type} (a : α) (f : α → Except LuaParamError β) :
    (Except.ok a >>= f) = f a := rfl

theorem untilNul_append {bs : Bytes} (nulFree : 0 ∉ bs) (rest : Bytes) :
    untilNul (bs ++ 0 :: rest) = .ok (bs, rest) := by
  induction bs with
  | nil => rfl
  | cons b bs ih =>
      have first : b ≠ 0 := fun zero => nulFree (zero ▸ List.mem_cons_self ..)
      have later := ih fun member => nulFree (List.mem_cons_of_mem _ member)
      rw [List.cons_append, untilNul, if_neg first, later]
      rfl

theorem params_succ (fuel : Nat) :
    params (fuel + 1) = (do
      let code ← read Reader.u8
      if code = luaEnd then return []
      else
        let p ← param code
        return p :: (← params fuel)) := rfl

theorem params_end (fuel : Nat) (rest : Bytes) :
    (params (fuel + 1)).run (luaEnd :: rest) = .ok ([], rest) := by
  rw [params_succ, StateT.run_bind, read_run (Reader.u8_cons luaEnd rest)]
  rfl

theorem params_cons {p : LuaParam} {code : UInt8} {bytes rest : Bytes} (fuel : Nat)
    (other : code ≠ luaEnd) (parsed : (param code).run bytes = .ok (p, rest)) :
    (params (fuel + 1)).run (code :: bytes) =
      ((params fuel).run rest).map fun (ps, rest) => (p :: ps, rest) := by
  rw [params_succ, StateT.run_bind, read_run (Reader.u8_cons code bytes)]
  change StateT.run (if code = luaEnd then _ else _) bytes = _
  rw [if_neg other, StateT.run_bind, parsed]
  change StateT.run (params fuel >>= fun ps => pure (p :: ps)) rest = _
  rw [StateT.run_bind]
  cases (params fuel).run rest <;> rfl

end LuaReader

namespace LuaParam

/-- What the wire keeps of a parameter: an unsigned integer comes back under the signed tag. -/
def normalised : LuaParam → LuaParam
  | uint32 v => int32 v.toInt32
  | p => p

/-- The parameters whose payload is written in full and ends where the reader ends it. -/
def Carried : LuaParam → Prop
  | string s => Char.ofNat 0 ∉ s
  | short _ => False
  | _ => True

theorem typeId_ne_luaEnd (p : LuaParam) : p.typeId ≠ luaEnd := by
  cases p <;> exact of_decide_eq_true rfl

theorem param_payload {p : LuaParam} (carried : p.Carried) (rest : Bytes) :
    (LuaReader.param p.typeId).run (p.payload ++ rest) = .ok (p.normalised, rest) := by
  have word : ∀ (v : UInt32) (rest : Bytes), (LuaReader.read Reader.u32Be).run
      (u32BytesBe v ++ rest) = .ok (v, rest) :=
    fun v rest => LuaReader.read_run (Reader.u32Be_append v rest)
  have long : ∀ (v : UInt64) (rest : Bytes), (LuaReader.read Reader.u64Be).run
      (u64BytesBe v ++ rest) = .ok (v, rest) :=
    fun v rest => LuaReader.read_run (Reader.u64Be_append v rest)
  have byte : ∀ (b : UInt8) (rest : Bytes), (LuaReader.read Reader.u8).run (b :: rest) =
      .ok (b, rest) :=
    fun b rest => LuaReader.read_run (Reader.u8_cons b rest)
  cases p with
  | int32 v | uint32 v | actor v =>
      simp only [typeId, payload, LuaReader.param, StateT.run_bind, word]
      rfl
  | string s =>
      have nulFree : 0 ∉ utf8 s := fun zero => carried (zero_mem_utf8.mp zero)
      have scanned := LuaReader.untilNul_append nulFree rest
      have shape : (string s).payload ++ rest = utf8 s ++ 0 :: rest := by simp [payload]
      have run : StateT.run (LuaReader.untilNul : LuaReader Bytes) (utf8 s ++ 0 :: rest) =
          .ok (utf8 s, rest) := scanned
      simp only [shape, typeId, LuaReader.param, StateT.run_bind, run]
      change Except.ok (string (fromUtf8Lossy (utf8 s)), rest) = _
      rw [fromUtf8Lossy_utf8]
      rfl
  | true | false | nil => rfl
  | type7 actorId unknown slot inventoryType =>
      simp only [typeId, payload, LuaReader.param, StateT.run_bind, List.append_assoc, word,
        List.cons_append, List.nil_append, LuaReader.ok_bind, byte]
      rfl
  | type9 item1 item2 =>
      simp only [typeId, payload, LuaReader.param, StateT.run_bind, List.append_assoc, long,
        LuaReader.ok_bind]
      rfl
  | byte b =>
      simp only [typeId, payload, LuaReader.param, StateT.run_bind, List.cons_append,
        List.nil_append, byte]
      rfl
  | short v => exact carried.elim

end LuaParam

theorem params_writeLuaParams {ps : List LuaParam} (carried : ∀ p ∈ ps, p.Carried)
    (rest : Bytes) {fuel : Nat} (enough : ps.length < fuel) :
    (LuaReader.params fuel).run (writeLuaParams ps ++ rest) =
      .ok (ps.map LuaParam.normalised, rest) := by
  induction ps generalizing fuel with
  | nil =>
      obtain ⟨fuel, rfl⟩ := Nat.exists_eq_add_of_lt enough
      exact LuaReader.params_end _ rest
  | cons p ps ih =>
      cases fuel with
      | zero => omega
      | succ fuel =>
          have later := ih (fun q member => carried q (List.mem_cons_of_mem _ member))
            (Nat.lt_of_succ_lt_succ enough)
          have parsed := LuaParam.param_payload (carried p (List.mem_cons_self ..))
            (writeLuaParams ps ++ rest)
          have shape : writeLuaParams (p :: ps) ++ rest =
              p.typeId :: (p.payload ++ (writeLuaParams ps ++ rest)) := by
            simp [writeLuaParams]
          rw [shape, LuaReader.params_cons fuel p.typeId_ne_luaEnd parsed, later]
          rfl

/-- Every list without shorts and without NUL inside a string is read back up to the
signedness of its integers, and the bytes behind the end tag are left. -/
theorem readLuaParams_writeLuaParams {ps : List LuaParam} (carried : ∀ p ∈ ps, p.Carried)
    (rest : Bytes) :
    readLuaParamsFrom (writeLuaParams ps ++ rest) = .ok (ps.map LuaParam.normalised, rest) ∧
      readLuaParams (writeLuaParams ps ++ rest) = .ok (ps.map LuaParam.normalised) := by
  have tags : ps.length ≤ (ps.flatMap fun p => p.typeId :: p.payload).length := by
    induction ps with
    | nil => exact Nat.zero_le _
    | cons p ps ih =>
        have later := ih fun q member => carried q (List.mem_cons_of_mem _ member)
        rw [List.flatMap_cons, List.length_append, List.length_cons, List.length_cons]
        omega
  have enough : ps.length < (writeLuaParams ps ++ rest).length := by
    rw [writeLuaParams]
    simp only [List.length_append, List.length_singleton]
    omega
  have parsed : readLuaParamsFrom (writeLuaParams ps ++ rest) =
      .ok (ps.map LuaParam.normalised, rest) := params_writeLuaParams carried rest enough
  exact ⟨parsed, by rw [readLuaParams, parsed]; rfl⟩

def everyKind : List LuaParam :=
  [.int32 (-42), .uint32 0xFFFFFFFE, .string "hi".toList, .true, .false, .nil, .actor 0xDEADBEEF,
    .type7 5 1 2 3, .type9 7 8, .byte 9]

theorem readLuaParams_everyKind : (∀ p ∈ everyKind, p.Carried) ∧
    readLuaParamsFrom (writeLuaParams everyKind ++ [0x2A]) =
      .ok (everyKind.map LuaParam.normalised, [0x2A]) := by
  have carried : ∀ p ∈ everyKind, p.Carried := by
    simp [everyKind, LuaParam.Carried]
  exact ⟨carried, (readLuaParams_writeLuaParams carried [0x2A]).1⟩

theorem short_not_read_back : ¬ ∀ (ps : List LuaParam) (rest : Bytes),
    (∀ s, .string s ∈ ps → Char.ofNat 0 ∉ s) →
      readLuaParamsFrom (writeLuaParams ps ++ rest) = .ok (ps.map LuaParam.normalised, rest) := by
  intro claim
  have read := claim [.short 5] [] (by simp)
  have failed : readLuaParamsFrom (writeLuaParams [.short 5] ++ []) = .error .unexpectedEof := rfl
  rw [failed] at read
  contradiction

end Garlemald.Common
