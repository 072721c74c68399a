/-
MMOServers.GameServer.RealDistance — `std::sqrt` in exact real arithmetic.

Over the reals the square root of `FloatMath` is the real one, so the distance
that the game code computes is the distance in the plane. It is the absolute
value of a complex number, and its laws are those of that norm.
-/
import MMOServers.GameServer.Monster
import Mathlib.Analysis.Complex.Norm

namespace MMOServers.GameServer

open MMOServers.Common

noncomputable instance : HasSqrt ℝ where
  sqrt := Real.sqrt

theorem distance_eq_norm (dx dy : ℝ) : distance dx dy = ‖(dx + dy * Complex.I : ℂ)‖ := by
  rw [Complex.norm_add_mul_I]
  show Real.sqrt (dx * dx + dy * dy) = _
  rw [sq, sq]

theorem distance_triangle (dx dy dx' dy' : ℝ) :
    distance (dx + dx') (dy + dy') ≤ distance dx dy + distance dx' dy' := by
  rw [distance_eq_norm, distance_eq_norm, distance_eq_norm]
  refine le_trans (le_of_eq ?_) (norm_add_le _ _)
  congr 1
  push_cast
  ring

/-- Both components scaled. -/
theorem distance_scale (c dx dy : ℝ) : distance (c * dx) (c * dy) = |c| * distance dx dy := by
  have hfactor : c * dx * (c * dx) + c * dy * (c * dy) = c * c * (dx * dx + dy * dy) := by ring
  show Real.sqrt _ = |c| * Real.sqrt _
  rw [hfactor, Real.sqrt_mul (mul_self_nonneg c), Real.sqrt_mul_self_eq_abs]

theorem distance_neg (dx dy : ℝ) : distance (-dx) (-dy) = distance dx dy := by
  have h := distance_scale (-1) dx dy
  rwa [neg_one_mul, neg_one_mul, abs_neg, abs_one, one_mul] at h

/-- The other way round. -/
theorem distance_comm (x y x' y' : ℝ) :
    distance (x - x') (y - y') = distance (x' - x) (y' - y) := by
  rw [← distance_neg, neg_sub, neg_sub]

theorem distance_axis (dx : ℝ) : distance dx 0 = |dx| := by
  show Real.sqrt (dx * dx + 0 * 0) = _
  rw [zero_mul, add_zero, Real.sqrt_mul_self_eq_abs]

theorem distance_zero : distance (0 : ℝ) 0 = 0 := by rw [distance_axis, abs_zero]

end MMOServers.GameServer
