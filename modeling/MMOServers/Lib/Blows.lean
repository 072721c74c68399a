/-
MMOServers.Lib.Blows — hit points under blows of one strength.

Somebody with `life` hit points who is dealt blows of the strength `blow` falls at
the `toFell`th of them. When it then starts anew with all its hit points, what
is left after `k` blows is known from `k` alone (`left`): a blow takes its
strength (`left_succ`) or is the last of a life (`succ_mod_eq_zero`).
-/
import Mathlib.Algebra.Order.Group.Nat

namespace Blows

/-- The number of blows that a life takes. -/
def toFell (life blow : Nat) : Nat := (life + blow - 1) / blow

/-- The hit points after a number of blows. -/
def left (life blow k : Nat) : Int := life - (blow * (k % toFell life blow) : Nat)

section Life

variable {life blow : Nat} (hlife : 0 < life) (hblow : 0 < blow)

include hblow

theorem life_le : life ≤ blow * toFell life blow := by
  have hdiv := Nat.div_add_mod (life + blow - 1) blow
  have hmod := Nat.mod_lt (life + blow - 1) hblow
  rw [toFell]
  omega

include hlife

theorem toFell_pos : 0 < toFell life blow := Nat.div_pos (by omega) hblow

/-- All blows but the last leave something. -/
theorem mul_lt_life {j : Nat} (hj : j < toFell life blow) : blow * j < life := by
  have hle : blow * (j + 1) ≤ life + blow - 1 :=
    (Nat.mul_le_mul_left blow hj).trans (Nat.mul_div_le _ _)
  rw [Nat.mul_succ] at hle
  omega

omit hlife hblow in
/-- At the beginning of a life. -/
theorem left_of_mod_eq_zero {k : Nat} (hk : k % toFell life blow = 0) :
    left life blow k = life := by
  rw [left, hk, Nat.mul_zero]
  exact Int.sub_zero _

theorem left_pos (k : Nat) : 0 < left life blow k := by
  have hlt := mul_lt_life hlife hblow (Nat.mod_lt k (toFell_pos hlife hblow))
  rw [left]
  omega

omit hlife hblow in
theorem left_le (k : Nat) : left life blow k ≤ life := by
  rw [left]
  omega

/-- The blow that takes all is the last of a life. -/
theorem succ_mod_eq_zero {k : Nat} (h : left life blow k - blow ≤ 0) :
    (k + 1) % toFell life blow = 0 := by
  have hpos := toFell_pos hlife hblow
  have hmod := Nat.mod_lt k hpos
  have hlast : k % toFell life blow + 1 = toFell life blow := by
    by_contra hne
    have hlt := mul_lt_life hlife hblow (Nat.lt_of_le_of_ne hmod hne)
    rw [left] at h
    rw [Nat.mul_succ] at hlt
    omega
  have hk := Nat.div_add_mod k (toFell life blow)
  have hsucc : k + 1 = toFell life blow * (k / toFell life blow + 1) := by
    rw [Nat.mul_succ]
    omega
  rw [hsucc, Nat.mul_mod_right]

/-- Any other blow takes its strength. -/
theorem left_succ {k : Nat} (h : 0 < left life blow k - blow) :
    left life blow (k + 1) = left life blow k - blow := by
  have hmod := Nat.mod_lt k (toFell_pos hlife hblow)
  have hmore : k % toFell life blow + 1 < toFell life blow := by
    refine Nat.lt_of_le_of_ne hmod fun hlast => ?_
    have hle : life ≤ blow * toFell life blow := life_le hblow
    rw [← hlast, Nat.mul_succ] at hle
    rw [left] at h
    omega
  have hsucc : (k + 1) % toFell life blow = k % toFell life blow + 1 := by
    rw [← Nat.mod_add_mod, Nat.mod_eq_of_lt hmore]
  rw [left, left, hsucc, Nat.mul_succ]
  omega

end Life

end Blows
