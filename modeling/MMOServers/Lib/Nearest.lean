/-
MMOServers.Lib.Nearest — a loop that looks for the nearest of many.

The loop runs over a list of names. `lookup` finds what a name stands for, if
anything, and `key` is its distance. The radius of the search shrinks to the
distance of the last find, so the loop ends with one that no other is nearer
than, and with nothing only when nothing is within the radius it began with.
-/
import Mathlib.Order.Lattice

namespace Nearest

variable {α β K : Type*} [LinearOrder K] (lookup : α → Option β) (key : β → K)

def scan : List α → Option β → K → Option β
  | [], best, _ => best
  | a :: as, best, radius =>
      match lookup a with
      | none => scan as best radius
      | some b => if key b ≤ radius then scan as (some b) (key b) else scan as best radius

/-- Something that a name of the list stands for, within the radius. -/
def Within (as : List α) (radius : K) (b : β) : Prop :=
  (∃ a ∈ as, lookup a = some b) ∧ key b ≤ radius

variable {lookup key}

theorem within_cons_iff {a : α} {as : List α} {radius : K} {b : β} :
    Within lookup key (a :: as) radius b
      ↔ (lookup a = some b ∧ key b ≤ radius) ∨ Within lookup key as radius b := by
  simp only [Within, List.mem_cons, or_and_right, exists_or, exists_eq_left]

/-- The loop keeps what it began with when nothing is within the radius, and ends
    with a nearest one otherwise. -/
theorem scan_cases (as : List α) (best : Option β) (radius : K) :
    (scan lookup key as best radius = best ∧ ∀ b, ¬ Within lookup key as radius b) ∨
      ∃ b, scan lookup key as best radius = some b ∧ Within lookup key as radius b ∧
        ∀ b', Within lookup key as radius b' → key b ≤ key b' := by
  induction as generalizing best radius with
  | nil => exact Or.inl ⟨rfl, fun b h => by simp [Within] at h⟩
  | cons a as ih =>
      simp only [within_cons_iff]
      rw [scan]
      cases hlookup : lookup a with
      | none => simpa using ih best radius
      | some found =>
          dsimp only
          by_cases hnear : key found ≤ radius
          · rw [if_pos hnear]
            rcases ih (some found) (key found) with ⟨hscan, hnone⟩ | ⟨b, hscan, hb, hmin⟩
            · -- what is left is farther away than this find
              refine Or.inr ⟨found, hscan, Or.inl ⟨rfl, hnear⟩, fun b' hb' => ?_⟩
              rcases hb' with ⟨heq, -⟩ | hb'
              · rw [Option.some.inj heq]
              · exact le_of_lt (not_le.mp fun hle => hnone b' ⟨hb'.1, hle⟩)
            · refine Or.inr ⟨b, hscan, Or.inr ⟨hb.1, hb.2.trans hnear⟩, fun b' hb' => ?_⟩
              rcases hb' with ⟨heq, -⟩ | hb'
              · exact Option.some.inj heq ▸ hb.2
              · rcases le_total (key b') (key found) with hle | hle
                · exact hmin b' ⟨hb'.1, hle⟩
                · exact hb.2.trans hle
          · rw [if_neg hnear]
            have hskip : ∀ b, (some found = some b ∧ key b ≤ radius) ↔ False := by
              rintro b
              refine iff_false_intro ?_
              rintro ⟨heq, hle⟩
              exact hnear (Option.some.inj heq ▸ hle)
            simp only [hskip, false_or]
            exact ih best radius

end Nearest
