import Garlemald.Library.Bytes

/-!
Sequential readers and writers of byte strings. A reader consumes a prefix of
its input and fails when the input is too short. A writer overwrites a body of
fixed length from a movable position and panics when it would leave the body.
-/

namespace Library

abbrev Reader := StateT Bytes Option

namespace Reader

def bytes (n : Nat) : Reader Bytes :=
  fun input => if n ≤ input.length then some (input.take n, input.drop n) else none

def u8 : Reader UInt8 := do return UInt8.ofNat (leValue (← bytes 1))

def u16 : Reader UInt16 := do return u16Value (← bytes 2)

def u32 : Reader UInt32 := do return u32Value (← bytes 4)

def u64 : Reader UInt64 := do return u64Value (← bytes 8)

def u16Be : Reader UInt16 := do return u16ValueBe (← bytes 2)

def u32Be : Reader UInt32 := do return u32ValueBe (← bytes 4)

def u64Be : Reader UInt64 := do return u64ValueBe (← bytes 8)

theorem bytes_append {n : Nat} (front rest : Bytes) (h : front.length = n) :
    (bytes n).run (front ++ rest) = some (front, rest) := by
  subst n
  simp [bytes, StateT.run]

theorem bytes_eq_some {n : Nat} {input front rest : Bytes}
    (h : (bytes n).run input = some (front, rest)) :
    n ≤ input.length ∧ front = input.take n ∧ rest = input.drop n := by
  simp only [bytes, StateT.run] at h
  split at h
  · next enough =>
      cases h
      exact ⟨enough, rfl, rfl⟩
  · contradiction

theorem bytes_run {n : Nat} {input : Bytes} (enough : n ≤ input.length) :
    (bytes n).run input = some (input.take n, input.drop n) := by
  simp only [bytes, StateT.run, enough, if_true]

theorem u8_run (input : Bytes) (enough : 1 ≤ input.length) :
    u8.run input = some (UInt8.ofNat (leValue (input.take 1)), input.drop 1) := by
  rw [u8, StateT.run_bind, bytes_run enough]
  rfl

theorem u16_run (input : Bytes) (enough : 2 ≤ input.length) :
    u16.run input = some (u16Value (input.take 2), input.drop 2) := by
  rw [u16, StateT.run_bind, bytes_run enough]
  rfl

theorem u64_run (input : Bytes) (enough : 8 ≤ input.length) :
    u64.run input = some (u64Value (input.take 8), input.drop 8) := by
  rw [u64, StateT.run_bind, bytes_run enough]
  rfl

theorem u16_eq_some {input rest : Bytes} {x : UInt16} (h : u16.run input = some (x, rest)) :
    x = u16Value (input.take 2) ∧ rest = input.drop 2 := by
  rw [u16, StateT.run_bind] at h
  obtain ⟨⟨front, behind⟩, read, same⟩ := Option.bind_eq_some_iff.mp h
  obtain ⟨_, rfl, rfl⟩ := bytes_eq_some read
  cases same
  exact ⟨rfl, rfl⟩

@[simp] theorem u8_cons (b : UInt8) (rest : Bytes) : u8.run (b :: rest) = some (b, rest) := by
  have read : (bytes 1).run (b :: rest) = some ([b], rest) := bytes_append [b] rest rfl
  simp [u8, read, leValue]

@[simp] theorem u16_append (x : UInt16) (rest : Bytes) :
    u16.run (u16Bytes x ++ rest) = some (x, rest) := by
  simp [u16, bytes_append (u16Bytes x) rest (length_u16Bytes x)]

@[simp] theorem u32_append (x : UInt32) (rest : Bytes) :
    u32.run (u32Bytes x ++ rest) = some (x, rest) := by
  simp [u32, bytes_append (u32Bytes x) rest (length_u32Bytes x)]

@[simp] theorem u64_append (x : UInt64) (rest : Bytes) :
    u64.run (u64Bytes x ++ rest) = some (x, rest) := by
  simp [u64, bytes_append (u64Bytes x) rest (length_u64Bytes x)]

@[simp] theorem u32Be_append (x : UInt32) (rest : Bytes) :
    u32Be.run (u32BytesBe x ++ rest) = some (x, rest) := by
  simp [u32Be, bytes_append (u32BytesBe x) rest (length_u32BytesBe x)]

@[simp] theorem u64Be_append (x : UInt64) (rest : Bytes) :
    u64Be.run (u64BytesBe x ++ rest) = some (x, rest) := by
  simp [u64Be, bytes_append (u64BytesBe x) rest (length_u64BytesBe x)]

/-- The value a reader finds at the start of `input`; what follows is ignored. -/
def parse {α : Type} (r : Reader α) (input : Bytes) : Option α :=
  (r.run input).map Prod.fst

end Reader

/-- A writing position inside a body that keeps its length. -/
structure BodyCursor where
  body : Bytes
  position : Nat
deriving DecidableEq, Repr

/-- `none` is a panic: the write did not fit into the body. -/
abbrev Writer := StateT BodyCursor Option

namespace Writer

def all (bs : Bytes) : Writer Unit := fun c =>
  if c.position + bs.length ≤ c.body.length then
    some ((), ⟨c.body.take c.position ++ bs ++ c.body.drop (c.position + bs.length),
      c.position + bs.length⟩)
  else none

def u8 (x : UInt8) : Writer Unit := all [x]

def u16 (x : UInt16) : Writer Unit := all (u16Bytes x)

def u32 (x : UInt32) : Writer Unit := all (u32Bytes x)

def seek (position : Nat) : Writer Unit := fun c => some ((), ⟨c.body, position⟩)

/-- Run a writer from the start of a body of `n` zero bytes. -/
def fill (n : Nat) (w : Writer Unit) : Option Bytes :=
  (w.run ⟨zeros n, 0⟩).map fun r => r.2.body

end Writer

namespace BodyCursor

def blank (front : Bytes) (room : Nat) : BodyCursor := ⟨front ++ zeros room, front.length⟩

end BodyCursor

open BodyCursor

namespace Writer

structure Keeps {α : Type} (w : StateT BodyCursor Option α) : Prop where
  length_eq : ∀ {c r}, w.run c = some r → r.2.body.length = c.body.length

theorem Keeps.pure {α : Type} (a : α) : Keeps (Pure.pure a : StateT BodyCursor Option α) := by
  refine ⟨fun {c r} h => ?_⟩
  cases h
  rfl

theorem Keeps.bind {α β : Type} {w : StateT BodyCursor Option α}
    {f : α → StateT BodyCursor Option β} (first : Keeps w) (second : ∀ a, Keeps (f a)) :
    Keeps (w >>= f) := by
  refine ⟨fun {c r} h => ?_⟩
  obtain ⟨middle, left, right⟩ := Option.bind_eq_some_iff.mp h
  rw [(second _).length_eq right, first.length_eq left]

theorem Keeps.seek (position : Nat) : Keeps (Writer.seek position) := by
  refine ⟨fun {c r} h => ?_⟩
  cases h
  rfl

theorem Keeps.all (bs : Bytes) : Keeps (Writer.all bs) := by
  refine ⟨fun {c r} h => ?_⟩
  by_cases fits : c.position + bs.length ≤ c.body.length
  · simp only [Writer.all, StateT.run, fits, if_true] at h
    cases h
    simp only [List.length_append, List.length_take, List.length_drop]
    omega
  · simp only [Writer.all, StateT.run, fits, if_false] at h
    contradiction

theorem Keeps.u8 (x : UInt8) : Keeps (Writer.u8 x) := Keeps.all _

theorem Keeps.u16 (x : UInt16) : Keeps (Writer.u16 x) := Keeps.all _

theorem Keeps.u32 (x : UInt32) : Keeps (Writer.u32 x) := Keeps.all _

theorem Keeps.length_fill {w : Writer Unit} (keeps : Keeps w) {n : Nat} {body : Bytes}
    (h : fill n w = some body) : body.length = n := by
  obtain ⟨r, ran, rfl⟩ := Option.map_eq_some_iff.mp h
  rw [keeps.length_eq ran, length_zeros]

theorem all_blank (bs front : Bytes) {room : Nat} (h : bs.length ≤ room) :
    (all bs).run (blank front room) = some ((), blank (front ++ bs) (room - bs.length)) := by
  have fits : (blank front room).position + bs.length ≤ (blank front room).body.length := by
    simp [blank, h]
  have rest : List.drop (front.length + bs.length) (front ++ zeros room) =
      zeros (room - bs.length) := by
    simp [zeros, List.drop_append, List.drop_replicate]
  simp only [all, StateT.run, fits, if_true]
  simp [blank, rest]

theorem forM_all_blank (parts : List Bytes) (front : Bytes) {room : Nat}
    (h : parts.flatten.length ≤ room) :
    (parts.forM all).run (blank front room) =
      some ((), blank (front ++ parts.flatten) (room - parts.flatten.length)) := by
  induction parts generalizing front room with
  | nil =>
      rw [List.flatten_nil, List.append_nil]
      rfl
  | cons part parts ih =>
      rw [List.flatten_cons, List.length_append] at h
      have first := all_blank part front (Nat.le_trans (Nat.le_add_right ..) h)
      have later := ih (front ++ part) (show _ ≤ room - part.length by omega)
      change ((all part >>= fun _ => parts.forM all)).run (blank front room) = _
      rw [StateT.run_bind, first]
      change (parts.forM all).run (blank (front ++ part) (room - part.length)) = _
      rw [later, List.flatten_cons, List.append_assoc, List.length_append, Nat.sub_sub]

theorem seek_blank {position room : Nat} (front : Bytes) (past : front.length ≤ position)
    (inside : position ≤ front.length + room) :
    (seek position).run (blank front room) =
      some ((), blank (front ++ zeros (position - front.length))
        (room - (position - front.length))) := by
  have split : zeros room =
      zeros (position - front.length) ++ zeros (room - (position - front.length)) := by
    rw [← zeros_add, Nat.add_sub_of_le (by omega)]
  simp only [seek, StateT.run, blank]
  rw [split]
  simp [past]

@[simp] theorem u8_blank (x : UInt8) (front : Bytes) (room : Nat) :
    (u8 x).run (blank front (room + 1)) = some ((), blank (front ++ [x]) room) :=
  all_blank [x] front (Nat.le_add_left ..)

@[simp] theorem u16_blank (x : UInt16) (front : Bytes) (room : Nat) :
    (u16 x).run (blank front (room + 2)) = some ((), blank (front ++ u16Bytes x) room) := by
  have written := all_blank (u16Bytes x) front (Nat.le_trans (length_u16Bytes x).le
    (Nat.le_add_left 2 room))
  rwa [length_u16Bytes, Nat.add_sub_cancel] at written

@[simp] theorem u32_blank (x : UInt32) (front : Bytes) (room : Nat) :
    (u32 x).run (blank front (room + 4)) = some ((), blank (front ++ u32Bytes x) room) := by
  have written := all_blank (u32Bytes x) front (Nat.le_trans (length_u32Bytes x).le
    (Nat.le_add_left 4 room))
  rwa [length_u32Bytes, Nat.add_sub_cancel] at written

theorem fill_eq {n room : Nat} {w : Writer Unit} {front : Bytes}
    (h : w.run (blank [] n) = some ((), blank front room)) :
    fill n w = some (front ++ zeros room) := by
  simp only [blank, List.nil_append, List.length_nil] at h
  simp [fill, h]

theorem fill_parts (parts : List Bytes) :
    fill parts.flatten.length (parts.forM all) = some parts.flatten := by
  have written := forM_all_blank parts [] (Nat.le_refl _)
  rw [List.nil_append, Nat.sub_self] at written
  rw [fill_eq written]
  simp [zeros]

end Writer
end Library
