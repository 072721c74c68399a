/-
MMOServers.Lib.Potential — what the steps of a run cost altogether.

`total f` adds up what `f` says of the steps that a run takes. A bound on it is
found with a potential: when no step costs more than what it brings in and what
the potential has saved up before, the whole run costs no more than what it
brings in and what was saved up at its start (`total_le_of_potential`).

The potential of a system of parts is the sum of the parts' potentials. A step
of one part changes one summand (`sum_of_eq_off`).
-/
import MMOServers.Lib.Run
import Mathlib.Algebra.BigOperators.Group.Finset.Basic
import Mathlib.Algebra.Order.Group.Defs
import Mathlib.Tactic.Abel

namespace Transition

variable {σ α R : Type*}

section Total

variable [AddCommGroup R] (step : σ → α → Option σ) (f : σ → α → R)

/-- The sum of `f` over the steps the run takes. -/
def total : σ → List α → R
  | _, [] => 0
  | s, a :: as => match step s a with
      | none => 0
      | some s' => f s a + total s' as

variable {step} {f}

theorem total_cons_none {s : σ} {a : α} (as : List α) (h : step s a = none) :
    total step f s (a :: as) = 0 := by
  simp only [total, h]

theorem total_cons_some {s s' : σ} {a : α} (as : List α) (h : step s a = some s') :
    total step f s (a :: as) = f s a + total step f s' as := by
  simp only [total, h]

/-- A total is additive in what is added up. -/
theorem total_hom {S : Type*} [AddCommGroup S] (φ : R →+ S) (s : σ) (as : List α) :
    total step (fun s a => φ (f s a)) s as = φ (total step f s as) := by
  induction as generalizing s with
  | nil => exact (map_zero φ).symm
  | cons a as ih =>
      cases hstep : step s a with
      | none => rw [total_cons_none as hstep, total_cons_none as hstep, map_zero]
      | some s' => rw [total_cons_some as hstep, total_cons_some as hstep, map_add, ih s']

/-- The potential method. -/
theorem total_le_of_potential [PartialOrder R] [IsOrderedAddMonoid R] {Inv : σ → Prop}
    {L : α → Prop} {cost income : σ → α → R} {potential : σ → R}
    (hinv : ∀ {s a s'}, Inv s → L a → step s a = some s' → Inv s')
    (hpay : ∀ {s a s'}, Inv s → L a → step s a = some s' →
      cost s a + potential s' ≤ potential s + income s a)
    (hpos : ∀ {s}, Inv s → 0 ≤ potential s) {s : σ} {as : List α} (hs : Inv s)
    (hL : ∀ a ∈ as, L a) :
    total step cost s as ≤ potential s + total step income s as := by
  induction as generalizing s with
  | nil =>
      have hsaved := hpos hs
      simpa [total] using hsaved
  | cons a as ih =>
      obtain ⟨ha, has⟩ := List.forall_mem_cons.mp hL
      cases hstep : step s a with
      | none =>
          rw [total_cons_none as hstep, total_cons_none as hstep, add_zero]
          exact hpos hs
      | some s' =>
          rw [total_cons_some as hstep, total_cons_some as hstep]
          calc cost s a + total step cost s' as
              ≤ cost s a + (potential s' + total step income s' as) :=
                add_le_add_right (ih (hinv hs ha hstep) has) _
            _ = (cost s a + potential s') + total step income s' as := (add_assoc _ _ _).symm
            _ ≤ (potential s + income s a) + total step income s' as :=
                add_le_add_left (hpay hs ha hstep) _
            _ = potential s + (income s a + total step income s' as) := add_assoc _ _ _

end Total

/-- Two families that differ in one summand. -/
theorem sum_of_eq_off [AddCommGroup R] {n i : Nat} (hi : i < n) {f g : Nat → R}
    (h : ∀ j, j ≠ i → g j = f j) :
    ∑ j ∈ Finset.range n, g j = ∑ j ∈ Finset.range n, f j + (g i - f i) := by
  have hmem := Finset.mem_range.mpr hi
  have hrest : ∑ j ∈ (Finset.range n).erase i, g j = ∑ j ∈ (Finset.range n).erase i, f j :=
    Finset.sum_congr rfl fun j hj => h j (Finset.ne_of_mem_erase hj)
  rw [← Finset.add_sum_erase _ g hmem, ← Finset.add_sum_erase _ f hmem, hrest]
  abel

end Transition
