import Garlemald.Library.Cursor

/-!
Numbers in seven-bit groups, least significant group first, every byte but the
last with its high bit set; and byte strings behind their length in this form.
-/

namespace Library

/-- The fuel bounds the groups; a number has fewer groups than its value plus one. -/
def groupsFrom : Nat → Nat → Bytes
  | 0, n => [UInt8.ofNat n]
  | fuel + 1, n =>
      if 0x80 ≤ n then UInt8.ofNat (n % 0x80 + 0x80) :: groupsFrom fuel (n / 0x80)
      else [UInt8.ofNat n]

def varint (n : Nat) : Bytes := groupsFrom n n

def readVarint : Bytes → Option (Nat × Bytes)
  | [] => none
  | b :: rest =>
      if b < 0x80 then some (b.toNat, rest)
      else (readVarint rest).map fun (n, rest) => (b.toNat - 0x80 + 0x80 * n, rest)

theorem readVarint_groupsFrom (fuel n : Nat) (enough : n ≤ fuel) (rest : Bytes) :
    readVarint (groupsFrom fuel n ++ rest) = some (n, rest) := by
  have last : ∀ n < 0x80, readVarint ([UInt8.ofNat n] ++ rest) = some (n, rest) := by
    intro n small
    have value : (UInt8.ofNat n).toNat = n := UInt8.toNat_ofNat_of_lt' (by change _ < 256; omega)
    have low : UInt8.ofNat n < 0x80 := by
      rw [UInt8.lt_iff_toNat_lt, value]
      exact small
    rw [List.cons_append, readVarint, if_pos low, value]
    rfl
  induction fuel generalizing n with
  | zero => exact last n (by omega)
  | succ fuel ih =>
      rw [groupsFrom]
      by_cases large : 0x80 ≤ n
      · have value : (UInt8.ofNat (n % 0x80 + 0x80)).toNat = n % 0x80 + 0x80 :=
          UInt8.toNat_ofNat_of_lt' (by change _ < 256; omega)
        have high : ¬ UInt8.ofNat (n % 0x80 + 0x80) < 0x80 := by
          rw [UInt8.lt_iff_toNat_lt, value]
          simp
        rw [if_pos large, List.cons_append, readVarint, if_neg high, ih _ (by omega), value]
        simp only [Option.map_some, Option.some.injEq, Prod.mk.injEq, and_true]
        omega
      · rw [if_neg large]
        exact last n (by omega)

theorem readVarint_varint (n : Nat) (rest : Bytes) :
    readVarint (varint n ++ rest) = some (n, rest) :=
  readVarint_groupsFrom n n (Nat.le_refl n) rest

def Reader.prefixed : Reader Bytes := do Reader.bytes (← readVarint)

theorem Reader.prefixed_append (bs rest : Bytes) :
    Reader.prefixed.run (varint bs.length ++ (bs ++ rest)) = some (bs, rest) := by
  have size : StateT.run (readVarint : Reader Nat) (varint bs.length ++ (bs ++ rest)) =
      some (bs.length, bs ++ rest) := readVarint_varint _ _
  rw [Reader.prefixed, StateT.run_bind, size]
  exact Reader.bytes_append bs rest rfl

end Library
