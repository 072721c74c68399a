/-
MMOServers.Lib.Stride — walking with strides of one length.

A walker has a list of points to visit, in a normed space. When the next point
is nearer than a tolerance it is ticked off; otherwise the walker makes a stride
of fixed length towards it, and may pass it. Nothing makes the last stride
shorter, so the distance that is left is no measure: after a stride past the
point the next one leads back to where the walker came from.

What decides is how far away the point is when the walker sets out for it: it is
ticked off exactly when that distance is a whole number of strides, up to the
tolerance (`finishes_iff`). The strides have to be twice as long as the
tolerance at least.
-/
import Mathlib.Analysis.Normed.Module.Basic
import Mathlib.Tactic.Linarith

namespace Stride

/-! ## Distances -/

section Distance

variable {tol len d : ℝ}

theorem near_of_succ (hlen : 2 * tol ≤ len) (n : ℕ) (h : |d - (n + 1 : ℕ) * len| < tol) :
    tol ≤ d := by
  have htol : 0 < tol := (abs_nonneg _).trans_lt h
  have hn : len ≤ (n + 1 : ℕ) * len := by
    have hone : (1 : ℝ) ≤ (n + 1 : ℕ) := by exact_mod_cast Nat.succ_pos n
    nlinarith
  linarith [(abs_lt.mp h).1]

/-- The stride that was made is one of those that were due. -/
theorem left_iff (hd : tol ≤ d) (htol : 0 < tol) (n : ℕ) :
    |(|d - len|) - n * len| < tol ↔ |d - (n + 1 : ℕ) * len| < tol := by
  have hpush : ((n + 1 : ℕ) : ℝ) * len = n * len + len := by
    push_cast
    ring
  rw [hpush]
  rcases le_or_gt len d with hle | hlt
  · rw [abs_of_nonneg (sub_nonneg.mpr hle), sub_sub, add_comm]
  · rw [abs_of_neg (sub_neg.mpr hlt)]
    cases n with
    | zero => rw [Nat.cast_zero, zero_mul, sub_zero, zero_add, ← abs_neg, neg_neg]
    | succ n =>
        -- from beyond the point no further stride ends near it
        have hn : (0 : ℝ) ≤ n * len := mul_nonneg (Nat.cast_nonneg n) (by linarith)
        have hpush : ((n + 1 : ℕ) : ℝ) * len = n * len + len := by
          push_cast
          ring
        rw [hpush, abs_lt, abs_lt]
        constructor
        · rintro ⟨h, -⟩
          linarith
        · rintro ⟨h, -⟩
          linarith

end Distance

/-! ## The walker -/

variable {E : Type*} [NormedAddCommGroup E] [NormedSpace ℝ E]

/-- The point at a distance from another one in the direction of a third. -/
noncomputable def toward (w x : E) (t : ℝ) : E := x + (t / ‖w - x‖) • (w - x)

/-- A tick of a walker, which is where it is and what it has ahead. -/
noncomputable def step (tol len : ℝ) : E × List E → E × List E
  | (x, []) => (x, [])
  | (x, w :: ws) => if ‖w - x‖ < tol then (x, ws) else (toward w x len, w :: ws)

/-- The walker has nothing ahead some day. -/
def Finishes (tol len : ℝ) (s : E × List E) : Prop := ∃ n : ℕ, ((step tol len)^[n] s).2 = []

/-- From every point to the next it is a whole number of strides, up to the
    tolerance. -/
def Hits (tol len : ℝ) : E → List E → Prop
  | _, [] => True
  | x, w :: ws => ∃ n : ℕ, |‖w - x‖ - n * len| < tol ∧ Hits tol len (toward w x (n * len)) ws

theorem toward_zero (w x : E) : toward w x 0 = x := by
  rw [toward, zero_div, zero_smul, add_zero]

theorem sub_toward {w x : E} (h : w ≠ x) (t : ℝ) :
    w - toward w x t = ((‖w - x‖ - t) / ‖w - x‖) • (w - x) := by
  have hpos : ‖w - x‖ ≠ 0 := norm_ne_zero_iff.mpr (sub_ne_zero.mpr h)
  rw [sub_div, div_self hpos, sub_smul, one_smul, toward]
  abel

theorem norm_sub_toward {w x : E} (h : w ≠ x) (t : ℝ) :
    ‖w - toward w x t‖ = |‖w - x‖ - t| := by
  have hpos : 0 < ‖w - x‖ := norm_pos_iff.mpr (sub_ne_zero.mpr h)
  rw [sub_toward h, norm_smul, Real.norm_eq_abs, abs_div, abs_of_pos hpos,
    div_mul_cancel₀ _ hpos.ne']

/-- Before the point is reached, two ways are one. -/
theorem toward_toward {w x : E} {t : ℝ} (h : t < ‖w - x‖) (hx : w ≠ x) (u : ℝ) :
    toward w (toward w x t) u = toward w x (t + u) := by
  have hpos : ‖w - x‖ ≠ 0 := norm_ne_zero_iff.mpr (sub_ne_zero.mpr hx)
  have hleft : ‖w - x‖ - t ≠ 0 := (sub_pos.mpr h).ne'
  rw [toward, norm_sub_toward hx, sub_toward hx, abs_of_pos (sub_pos.mpr h), smul_smul,
    show u / (‖w - x‖ - t) * ((‖w - x‖ - t) / ‖w - x‖) = u / ‖w - x‖ by
      field_simp, toward, toward, add_assoc, ← add_smul, ← add_div]

/-! ## Legs -/

variable {tol len : ℝ}

theorem step_near {w x : E} (h : ‖w - x‖ < tol) (ws : List E) :
    step tol len (x, w :: ws) = (x, ws) := if_pos h

theorem step_far {w x : E} (h : tol ≤ ‖w - x‖) (ws : List E) :
    step tol len (x, w :: ws) = (toward w x len, w :: ws) := if_neg (not_lt.mpr h)

omit [NormedSpace ℝ E] in
theorem ne_of_far (htol : 0 < tol) {w x : E} (h : tol ≤ ‖w - x‖) : w ≠ x := by
  rintro rfl
  rw [sub_self, norm_zero] at h
  exact absurd htol (not_lt.mpr h)

/-- A leg of a whole number of strides is gone in as many ticks, and one more ticks
    its point off. -/
theorem leg (htol : 0 < tol) (hlen : 2 * tol ≤ len) {w x : E} {n : ℕ}
    (h : |‖w - x‖ - n * len| < tol) (ws : List E) :
    (step tol len)^[n + 1] (x, w :: ws) = (toward w x (n * len), ws) := by
  induction n generalizing x with
  | zero =>
      rw [Nat.cast_zero, zero_mul, sub_zero, abs_of_nonneg (norm_nonneg _)] at h
      rw [Nat.cast_zero, zero_mul, toward_zero]
      exact step_near h ws
  | succ n ih =>
      have hfar : tol ≤ ‖w - x‖ := near_of_succ hlen n h
      have hne := ne_of_far htol hfar
      have hleft := (left_iff hfar htol n).mpr h
      rw [← norm_sub_toward hne] at hleft
      rw [Function.iterate_succ_apply, step_far hfar, ih hleft]
      congr 1
      have hpush : ((n + 1 : ℕ) : ℝ) * len = len + n * len := by
        push_cast
        ring
      rw [hpush]
      -- either this was the last stride, or the point is still ahead
      cases n with
      | zero => rw [Nat.cast_zero, zero_mul, toward_zero, add_zero]
      | succ n =>
          refine toward_toward ?_ hne _
          have hn : (0 : ℝ) ≤ n * len := mul_nonneg (Nat.cast_nonneg n) (by linarith)
          have htwo : ((n + 1 + 1 : ℕ) : ℝ) * len = n * len + len + len := by
            push_cast
            ring
          rw [htwo] at h
          linarith [(abs_lt.mp h).1]

/-- On any other leg the point is never ticked off. -/
theorem lost (htol : 0 < tol) {w x : E} (h : ¬ ∃ n : ℕ, |‖w - x‖ - n * len| < tol)
    (ws : List E) (k : ℕ) : ∃ y, (step tol len)^[k] (x, w :: ws) = (y, w :: ws) := by
  induction k generalizing x with
  | zero => exact ⟨x, rfl⟩
  | succ k ih =>
      have hfar : tol ≤ ‖w - x‖ := by
        by_contra hnear
        refine h ⟨0, ?_⟩
        rw [Nat.cast_zero, zero_mul, sub_zero, abs_of_nonneg (norm_nonneg _)]
        exact not_le.mp hnear
      rw [Function.iterate_succ_apply, step_far hfar]
      refine ih ?_
      rintro ⟨n, hn⟩
      rw [norm_sub_toward (ne_of_far htol hfar)] at hn
      exact h ⟨n + 1, (left_iff hfar htol n).mp hn⟩

/-! ## The whole way -/

theorem iterate_done (n : ℕ) (x : E) : (step tol len)^[n] (x, []) = (x, []) := by
  induction n with
  | zero => rfl
  | succ n ih => rw [Function.iterate_succ_apply]; exact ih

theorem finishes_iterate (k : ℕ) (s : E × List E) :
    Finishes tol len ((step tol len)^[k] s) ↔ Finishes tol len s := by
  constructor
  · rintro ⟨n, hn⟩
    exact ⟨n + k, by rwa [Function.iterate_add_apply]⟩
  · rintro ⟨n, hn⟩
    refine ⟨n, ?_⟩
    obtain ⟨x, hx⟩ : ∃ x, (step tol len)^[n] s = (x, []) := ⟨_, Prod.ext rfl hn⟩
    rw [← Function.iterate_add_apply, Nat.add_comm, Function.iterate_add_apply, hx, iterate_done]

/-- The walker finishes exactly when every leg is a whole number of strides, up to
    the tolerance. -/
theorem finishes_iff (htol : 0 < tol) (hlen : 2 * tol ≤ len) (x : E) (ws : List E) :
    Finishes tol len (x, ws) ↔ Hits tol len x ws := by
  induction ws generalizing x with
  | nil => exact iff_of_true ⟨0, rfl⟩ trivial
  | cons w ws ih =>
      constructor
      · intro h
        by_cases hleg : ∃ n : ℕ, |‖w - x‖ - n * len| < tol
        · obtain ⟨n, hn⟩ := hleg
          rw [← finishes_iterate (n + 1), leg htol hlen hn] at h
          exact ⟨n, hn, (ih _).mp h⟩
        · obtain ⟨k, hk⟩ := h
          obtain ⟨y, hy⟩ := lost htol hleg ws k
          rw [hy] at hk
          cases hk
      · rintro ⟨n, hn, hrest⟩
        rw [← finishes_iterate (n + 1), leg htol hlen hn]
        exact (ih _).mpr hrest

end Stride
