/-
MMOServers.Common.FloatMath — what the game code does with floats.

The game code is modelled over a type `F` in place of `float`. Comparisons and
the four operations are the usual classes; the two classes here are the rest:
`static_cast<int>` and `std::sqrt`. In exact arithmetic the cast cuts the
fraction off, and `sqrt` stays a parameter, since a field need not have roots.
-/
import Mathlib.Algebra.Order.Floor.Ring
import Mathlib.Data.Rat.Floor
import Mathlib.Data.Rat.Sqrt

namespace MMOServers.Common

/-- `static_cast<int>`. -/
class TruncInt (F : Type) where
  trunc : F → Int

/-- `std::sqrt`. -/
class HasSqrt (F : Type) where
  sqrt : F → F

export TruncInt (trunc)
export HasSqrt (sqrt)

instance {K : Type} [Field K] [LinearOrder K] [FloorRing K] : TruncInt K where
  trunc x := if 0 ≤ x then ⌊x⌋ else ⌈x⌉

/-- The square root of the squares. -/
instance : HasSqrt ℚ where
  sqrt := Rat.sqrt

theorem trunc_of_nonneg {K : Type} [Field K] [LinearOrder K] [FloorRing K] {x : K}
    (h : 0 ≤ x) : trunc x = ⌊x⌋ := if_pos h

end MMOServers.Common
