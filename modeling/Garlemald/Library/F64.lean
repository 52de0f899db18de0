import Mathlib.Algebra.Order.Floor.Ring
import Mathlib.Data.Rat.Floor
import Mathlib.Tactic.Linarith
import Mathlib.Tactic.NormNum

/-!
Floating point numbers of 64 bits. A finite one is the rational it stands for, so the
two zeros are one. The result of an operation is the exact result rounded to 53 bits,
to the even one of two that are as near; integers below 2 ^ 53 are computed exactly.
-/

namespace Library

def roundEven (q : ℚ) : ℤ :=
  let below := ⌊q⌋
  if q - below < 1 / 2 then below
  else if 1 / 2 < q - below then below + 1
  else if below % 2 = 0 then below else below + 1

theorem roundEven_intCast (z : ℤ) : roundEven z = z := by
  rw [roundEven, Int.floor_intCast]
  simp

theorem roundEven_bounds {q : ℚ} {a b : ℤ} (low : a ≤ q) (high : q < b) :
    a ≤ roundEven q ∧ roundEven q ≤ b := by
  have below : a ≤ ⌊q⌋ := Int.le_floor.mpr low
  have above : ⌊q⌋ < b := Int.floor_lt.mpr high
  rw [roundEven]
  split_ifs <;> omega

inductive F64 where
  | finite (q : ℚ)
  | infinite (negative : Bool)
  | nan
deriving DecidableEq

namespace F64

/-- The exponent of the greatest power of two that is not above a magnitude. -/
def exponent (q : ℚ) : ℤ :=
  let guess : ℤ := Nat.log2 q.num.natAbs - Nat.log2 q.den
  if (2 : ℚ) ^ guess ≤ |q| then guess else guess - 1

def ulp (q : ℚ) : ℚ := 2 ^ max (exponent q - 52) (-1074)

def roundRat (q : ℚ) : ℚ := roundEven (q / ulp q) * ulp q

def round (q : ℚ) : F64 :=
  let rounded := roundRat q
  if |rounded| < 2 ^ 1024 then .finite rounded else .infinite (rounded < 0)

def ofInt (z : ℤ) : F64 := round z

def add : F64 → F64 → F64
  | .finite a, .finite b => round (a + b)
  | .finite _, .infinite s => .infinite s
  | .infinite s, .finite _ => .infinite s
  | .infinite s, .infinite t => if s = t then .infinite s else .nan
  | _, _ => .nan

def mul : F64 → F64 → F64
  | .finite a, .finite b => round (a * b)
  | .finite a, .infinite s => if a = 0 then .nan else .infinite (xor s (a < 0))
  | .infinite s, .finite b => if b = 0 then .nan else .infinite (xor s (b < 0))
  | .infinite s, .infinite t => .infinite (xor s t)
  | _, _ => .nan

/-- Zero as a divisor counts as the positive one. -/
def div : F64 → F64 → F64
  | .finite a, .finite b =>
      if b = 0 then if a = 0 then .nan else .infinite (a < 0) else round (a / b)
  | .finite _, .infinite _ => .finite 0
  | .infinite s, .finite b => .infinite (xor s (b < 0))
  | _, _ => .nan

/-- No comparison with `nan` holds. -/
def le : F64 → F64 → Bool
  | .finite a, .finite b => a ≤ b
  | .finite _, .infinite s => !s
  | .infinite s, .finite _ => s
  | .infinite s, .infinite t => s || !t
  | _, _ => false

def lt (x y : F64) : Bool := le x y && !le y x

def floor : F64 → F64
  | .finite q => .finite ⌊q⌋
  | x => x

def ceil : F64 → F64
  | .finite q => .finite ⌈q⌉
  | x => x

/-- Towards zero, and to the nearest bound outside the range. -/
def toI32 : F64 → ℤ
  | .finite q => max (-2 ^ 31) (min (if 0 ≤ q then ⌊q⌋ else ⌈q⌉) (2 ^ 31 - 1))
  | .infinite negative => if negative then -2 ^ 31 else 2 ^ 31 - 1
  | .nan => 0

instance : Add F64 := ⟨add⟩
instance : Mul F64 := ⟨mul⟩
instance : Div F64 := ⟨div⟩
instance (n : ℕ) : OfNat F64 n := ⟨ofInt n⟩

theorem roundRat_of_multiple {q : ℚ} {n : ℤ} (multiple : q = n * ulp q) : roundRat q = q := by
  have positive : ulp q ≠ 0 := zpow_ne_zero _ (by norm_num)
  rw [roundRat, eq_div_of_mul_eq positive multiple.symm |>.symm, roundEven_intCast]
  exact multiple.symm

theorem exponent_intCast {z : ℤ} (nonzero : z ≠ 0) : exponent z = Nat.log2 z.natAbs := by
  have least : ((2 : ℚ) ^ ((Nat.log2 z.natAbs : ℕ) : ℤ)) ≤ |(z : ℚ)| := by
    rw [zpow_natCast, ← Int.cast_abs, Int.abs_eq_natAbs]
    exact_mod_cast Nat.log2_self_le (Int.natAbs_ne_zero.mpr nonzero)
  have one : Nat.log2 1 = 0 := by decide
  rw [exponent, Rat.num_intCast, Rat.den_intCast, one, Nat.cast_zero, sub_zero, if_pos least]

theorem roundRat_intCast {z : ℤ} (small : |z| < 2 ^ 53) : roundRat z = z := by
  by_cases zero : z = 0
  · rw [zero, Int.cast_zero]
    apply roundRat_of_multiple (n := 0)
    simp
  · have bits : Nat.log2 z.natAbs ≤ 52 := by
      have bound : z.natAbs < 2 ^ 53 := by
        have := Int.abs_eq_natAbs z
        omega
      exact Nat.lt_succ_iff.mp ((Nat.log2_lt (Int.natAbs_ne_zero.mpr zero)).mpr bound)
    have power : ulp (z : ℚ) = ((2 : ℚ) ^ (52 - Nat.log2 z.natAbs))⁻¹ := by
      rw [ulp, exponent_intCast zero, max_eq_left (by omega), ← zpow_natCast, ← zpow_neg]
      congr 1
      omega
    apply roundRat_of_multiple (n := z * 2 ^ (52 - Nat.log2 z.natAbs))
    rw [power]
    push_cast
    rw [mul_assoc, mul_inv_cancel₀ (pow_ne_zero _ (by norm_num)), mul_one]

theorem ofInt_eq {z : ℤ} (small : |z| < 2 ^ 53) : ofInt z = .finite z := by
  have finite : |(z : ℚ)| < 2 ^ 1024 := by
    have below : ((|z| : ℤ) : ℚ) < 2 ^ 53 := by exact_mod_cast small
    rw [← Int.cast_abs]
    exact below.trans (pow_lt_pow_right₀ (by norm_num) (by norm_num))
  rw [ofInt, round, roundRat_intCast small, if_pos finite]

theorem ofInt_add {a b : ℤ} (left : |a| < 2 ^ 53) (right : |b| < 2 ^ 53) :
    ofInt a + ofInt b = ofInt (a + b) := by
  rw [ofInt_eq left, ofInt_eq right]
  have exact_sum : (a : ℚ) + b = ((a + b : ℤ) : ℚ) := (Int.cast_add a b).symm
  change round ((a : ℚ) + b) = ofInt (a + b)
  rw [exact_sum]
  rfl

theorem ofInt_mul {a b : ℤ} (left : |a| < 2 ^ 53) (right : |b| < 2 ^ 53) :
    ofInt a * ofInt b = ofInt (a * b) := by
  rw [ofInt_eq left, ofInt_eq right]
  have exact_product : (a : ℚ) * b = ((a * b : ℤ) : ℚ) := (Int.cast_mul a b).symm
  change round ((a : ℚ) * b) = ofInt (a * b)
  rw [exact_product]
  rfl

theorem ulp_natCast {n : ℕ} (bits : 52 ≤ Nat.log2 n) :
    ulp (n : ℚ) = (2 : ℚ) ^ (Nat.log2 n - 52) := by
  have nonzero : (n : ℤ) ≠ 0 := by
    intro zero
    have empty : n = 0 := by exact_mod_cast zero
    rw [empty] at bits
    exact absurd bits (by decide)
  have exponent_eq := exponent_intCast nonzero
  rw [Int.natAbs_natCast, Int.cast_natCast] at exponent_eq
  rw [ulp, exponent_eq, max_eq_left (by omega), ← zpow_natCast]
  congr 1
  omega

theorem roundRat_shifted {k s : ℕ} (low : 2 ^ 52 ≤ k) (high : k ≤ 2 ^ 53) :
    roundRat ((k * 2 ^ s : ℕ) : ℚ) = (k * 2 ^ s : ℕ) := by
  have positive : 0 < 2 ^ s := Nat.two_pow_pos s
  by_cases top : k = 2 ^ 53
  · have power : k * 2 ^ s = 2 ^ (s + 53) := by rw [top, Nat.pow_add, Nat.mul_comm]
    have bits : Nat.log2 (2 ^ (s + 53)) = s + 53 := Nat.log2_two_pow
    rw [power]
    apply roundRat_of_multiple (n := 2 ^ 52)
    have shift : s + 53 = 52 + (s + 53 - 52) := by omega
    rw [ulp_natCast (by omega), bits, Int.cast_pow, Int.cast_ofNat, ← pow_add, ← shift,
      Nat.cast_pow, Nat.cast_ofNat]
  · have upper : k * 2 ^ s < 2 ^ (52 + s + 1) := by
      have lt : k < 2 ^ 53 := by omega
      calc k * 2 ^ s < 2 ^ 53 * 2 ^ s := Nat.mul_lt_mul_of_pos_right lt positive
        _ = 2 ^ (52 + s + 1) := by rw [← Nat.pow_add]; congr 1; omega
    have lower : 2 ^ (52 + s) ≤ k * 2 ^ s := by
      rw [Nat.pow_add]
      exact Nat.mul_le_mul_right _ low
    have nonzero : k * 2 ^ s ≠ 0 := Nat.mul_ne_zero (by omega) (by omega)
    have bits : Nat.log2 (k * 2 ^ s) = 52 + s := (Nat.log2_eq_iff nonzero).mpr ⟨lower, upper⟩
    apply roundRat_of_multiple (n := k)
    rw [ulp_natCast (by omega), bits, Nat.add_sub_cancel_left]
    push_cast
    rfl

theorem roundRat_natCast {n : ℕ} (bits : 52 ≤ Nat.log2 n) : ∃ k : ℕ,
    2 ^ 52 ≤ k ∧ k ≤ 2 ^ 53 ∧ roundRat n = (k * 2 ^ (Nat.log2 n - 52) : ℕ) := by
  have nonzero : n ≠ 0 := by
    intro zero
    rw [zero] at bits
    exact absurd bits (by decide)
  have split : 2 ^ Nat.log2 n = 2 ^ 52 * 2 ^ (Nat.log2 n - 52) := by
    rw [← Nat.pow_add]
    congr 1
    omega
  have least : 2 ^ 52 * 2 ^ (Nat.log2 n - 52) ≤ n := split ▸ Nat.log2_self_le nonzero
  have most : n < 2 ^ 53 * 2 ^ (Nat.log2 n - 52) := by
    have above : n < 2 ^ (Nat.log2 n + 1) := Nat.lt_log2_self
    rw [Nat.pow_succ, split] at above
    omega
  have positive : (0 : ℚ) < 2 ^ (Nat.log2 n - 52) := pow_pos (by norm_num) _
  have low : ((2 ^ 52 : ℤ) : ℚ) ≤ n / ulp n := by
    rw [ulp_natCast bits, le_div_iff₀ positive]
    exact_mod_cast least
  have high : n / ulp n < ((2 ^ 53 : ℤ) : ℚ) := by
    rw [ulp_natCast bits, div_lt_iff₀ positive]
    exact_mod_cast most
  obtain ⟨atLeast, atMost⟩ := roundEven_bounds low high
  refine ⟨(roundEven (n / ulp n)).toNat, by omega, by omega, ?_⟩
  have whole : (((roundEven (n / ulp n)).toNat : ℤ) : ℚ) = roundEven (n / ulp n) := by
    rw [Int.toNat_of_nonneg (by omega)]
  rw [Int.cast_natCast] at whole
  rw [roundRat, Nat.cast_mul, whole, ulp_natCast bits]
  push_cast
  rfl

theorem ofInt_natCast {n : ℕ} (small : n < 2 ^ 64) :
    ∃ m : ℕ, m ≤ 2 ^ 64 ∧ ofInt n = .finite m ∧ ofInt m = .finite m := by
  by_cases bits : 52 ≤ Nat.log2 n
  · obtain ⟨k, low, high, rounded⟩ := roundRat_natCast bits
    have nonzero : n ≠ 0 := by
      intro zero
      rw [zero] at bits
      exact absurd bits (by decide)
    have few : Nat.log2 n < 64 := (Nat.log2_lt nonzero).mpr small
    have shift : 2 ^ (Nat.log2 n - 52) ≤ 2 ^ 11 := Nat.pow_le_pow_right (by decide) (by omega)
    have most : k * 2 ^ (Nat.log2 n - 52) ≤ 2 ^ 64 :=
      (Nat.mul_le_mul high shift).trans (by decide)
    have finite : |((k * 2 ^ (Nat.log2 n - 52) : ℕ) : ℚ)| < 2 ^ 1024 := by
      have below : ((k * 2 ^ (Nat.log2 n - 52) : ℕ) : ℚ) ≤ 2 ^ 64 := by exact_mod_cast most
      rw [abs_of_nonneg (Nat.cast_nonneg _)]
      exact below.trans_lt (pow_lt_pow_right₀ (by norm_num) (by norm_num))
    refine ⟨_, most, ?_, ?_⟩
    · rw [ofInt, round, Int.cast_natCast, rounded, if_pos finite]
    · rw [ofInt, round, Int.cast_natCast, roundRat_shifted low high, if_pos finite]
  · have below : n < 2 ^ 52 := by
      by_cases zero : n = 0
      · rw [zero]
        decide
      · exact (Nat.log2_lt zero).mp (by omega)
    have stored : ofInt n = .finite n := by
      have size : |(n : ℤ)| < 2 ^ 53 := by
        rw [abs_of_nonneg (Int.natCast_nonneg n)]
        omega
      exact_mod_cast ofInt_eq size
    exact ⟨n, by omega, stored, stored⟩

theorem ofInt_greatest : ofInt (2 ^ 64 - 1) = .finite (2 ^ 64) := by
  decide +kernel

end F64
end Library
