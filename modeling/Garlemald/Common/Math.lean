import Mathlib.Data.Rat.Floor
import Mathlib.Data.Rat.Sqrt

/-!
Numbers and vectors of the world. What is computed with `f32` is kept over a type of
numbers with the operations named.
-/

namespace Garlemald.Common

/-- The operations of `f32` that are used here; no law is assumed of them. -/
class F32 (φ : Type) extends Add φ, Sub φ, Mul φ, Div φ where
  lit : ℚ → φ
  le : φ → φ → Bool
  lt : φ → φ → Bool
  min : φ → φ → φ
  abs : φ → φ
  sqrt : φ → φ
  atan2 : φ → φ → φ
  remEuclid : φ → φ → φ

/-- Exact arithmetic, for runs on fixed inputs. Roots are exact on squares, and angles on
the axes and the diagonals. -/
instance : F32 ℚ where
  lit q := q
  le a b := a ≤ b
  lt a b := a < b
  min a b := if a ≤ b then a else b
  abs a := |a|
  sqrt := Rat.sqrt
  atan2 y x :=
    let slope := y / (|x| + |y|)
    let quarters := if 0 ≤ x then slope else if 0 ≤ y then 2 - slope else -2 - slope
    quarters * (13176795 / 8388608)
  remEuclid a b := a - b * ⌊a / b⌋

structure Vector3 (φ : Type) where
  x : φ
  y : φ
  z : φ
deriving DecidableEq

end Garlemald.Common
