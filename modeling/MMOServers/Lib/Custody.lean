/-
MMOServers.Lib.Custody — things that are in a stock or in the hands of a holder.

A pool hands out the things of its stock, and its customers pass them on and
give them back. `Conserved all stock holds` says that nothing is lost or counted
twice on the way: every thing of `all` is once in the stock, or one holder has
it, and the stock and the holders have no other things (`once`).

There are five ways in which things move. New ones come into the stock
(`supply`), the first of the stock goes to a holder (`withdraw`), a holder gives
his to the stock (`deposit`) or to another (`pass`), or does away with it
(`discard`).
-/
import Mathlib.Data.List.Nodup
import Mathlib.Logic.Function.Basic

namespace Custody

variable {α η : Type*}

structure Conserved (all stock : List α) (holds : η → Option α) : Prop where
  nodup : all.Nodup
  stockNodup : stock.Nodup
  stockAll : ∀ c ∈ stock, c ∈ all
  heldAll : ∀ h c, holds h = some c → c ∈ all
  heldOut : ∀ h c, holds h = some c → c ∉ stock
  sole : ∀ h h' c, holds h = some c → holds h' = some c → h = h'
  somewhere : ∀ c ∈ all, c ∈ stock ∨ ∃ h, holds h = some c

variable {all stock : List α} {holds : η → Option α}

theorem conserved_nil : Conserved ([] : List α) [] fun _ : η => none := by
  constructor <;> simp

/-- In the stock once and with nobody, or with one holder and not in the stock. -/
theorem Conserved.once [DecidableEq α] (h : Conserved all stock holds) {c : α} (hc : c ∈ all) :
    (stock.count c = 1 ∧ ∀ x, holds x ≠ some c) ∨
      (stock.count c = 0 ∧ ∃ x, holds x = some c ∧ ∀ y, holds y = some c → y = x) := by
  rcases h.somewhere c hc with hstock | ⟨x, hx⟩
  · refine Or.inl ⟨List.count_eq_one_of_mem h.stockNodup hstock, ?_⟩
    intro x hx
    exact h.heldOut x c hx hstock
  · refine Or.inr ⟨List.count_eq_zero_of_not_mem (h.heldOut x c hx), x, hx, ?_⟩
    intro y hy
    exact h.sole y x c hy hx

/-- New things come into the stock. -/
theorem Conserved.supply (h : Conserved all stock holds) {new : List α} (hnodup : new.Nodup)
    (hnew : ∀ c ∈ new, c ∉ all) : Conserved (all ++ new) (stock ++ new) holds := by
  have hstock : ∀ c ∈ stock, c ∉ new := fun c hc hn => hnew c hn (h.stockAll c hc)
  constructor
  · exact List.nodup_append'.mpr ⟨h.nodup, hnodup, fun c hc hn => hnew c hn hc⟩
  · exact List.nodup_append'.mpr ⟨h.stockNodup, hnodup, hstock⟩
  · intro c hc
    rcases List.mem_append.mp hc with hc | hc
    · exact List.mem_append_left _ (h.stockAll c hc)
    · exact List.mem_append_right _ hc
  · intro x c hx
    exact List.mem_append_left _ (h.heldAll x c hx)
  · intro x c hx hc
    rcases List.mem_append.mp hc with hc | hc
    · exact h.heldOut x c hx hc
    · exact hnew c hc (h.heldAll x c hx)
  · exact h.sole
  · intro c hc
    rcases List.mem_append.mp hc with hc | hc
    · exact (h.somewhere c hc).imp_left (List.mem_append_left _)
    · exact Or.inl (List.mem_append_right _ hc)

variable [DecidableEq η]

/-- The first of the stock goes to a holder whose hands are empty. -/
theorem Conserved.withdraw {c : α} {x : η} (h : Conserved all (c :: stock) holds)
    (hx : holds x = none) : Conserved all stock (Function.update holds x (some c)) := by
  obtain ⟨hcstock, hstock⟩ := List.nodup_cons.mp h.stockNodup
  have hcases : ∀ {y d}, Function.update holds x (some c) y = some d →
      (y = x ∧ d = c) ∨ (y ≠ x ∧ holds y = some d) := by
    intro y d hy
    by_cases hyx : y = x
    · subst hyx
      exact Or.inl ⟨rfl, by simpa [eq_comm] using hy⟩
    · exact Or.inr ⟨hyx, by rwa [Function.update_of_ne hyx] at hy⟩
  have hheld : ∀ y, holds y ≠ some c := fun y hy => h.heldOut y c hy (List.mem_cons_self ..)
  constructor
  · exact h.nodup
  · exact hstock
  · intro d hd
    exact h.stockAll d (List.mem_cons_of_mem _ hd)
  · intro y d hy
    rcases hcases hy with ⟨-, rfl⟩ | ⟨-, hy⟩
    · exact h.stockAll d (List.mem_cons_self ..)
    · exact h.heldAll y d hy
  · intro y d hy hd
    rcases hcases hy with ⟨-, rfl⟩ | ⟨-, hy⟩
    · exact hcstock hd
    · exact h.heldOut y d hy (List.mem_cons_of_mem _ hd)
  · intro y z d hy hz
    rcases hcases hy with ⟨hyx, hdc⟩ | ⟨-, hyd⟩ <;>
      rcases hcases hz with ⟨hzx, hdc'⟩ | ⟨-, hzd⟩
    · exact hyx.trans hzx.symm
    · exact absurd (hdc ▸ hzd) (hheld z)
    · exact absurd (hdc' ▸ hyd) (hheld y)
    · exact h.sole y z d hyd hzd
  · intro d hd
    rcases h.somewhere d hd with hstock | ⟨y, hy⟩
    · rcases List.mem_cons.mp hstock with rfl | hd
      · exact Or.inr ⟨x, Function.update_self ..⟩
      · exact Or.inl hd
    · have hyx : y ≠ x := by
        rintro rfl
        rw [hx] at hy
        cases hy
      exact Or.inr ⟨y, by rwa [Function.update_of_ne hyx]⟩

/-- Taking out of one's hands leaves a holder of fewer things. -/
theorem update_none {β : Type*} {f : η → Option β} {x y : η} {d : β}
    (h : Function.update f x none y = some d) : y ≠ x ∧ f y = some d := by
  by_cases hyx : y = x
  · subst hyx
    simp at h
  · exact ⟨hyx, by rwa [Function.update_of_ne hyx] at h⟩

/-- Who has something now had it before, or has just got it. -/
theorem update_some {β : Type*} {f : η → Option β} {x y : η} {c d : β}
    (h : Function.update f x (some c) y = some d) : y = x ∧ d = c ∨ y ≠ x ∧ f y = some d := by
  by_cases hyx : y = x
  · subst hyx
    exact Or.inl ⟨rfl, by simpa [eq_comm] using h⟩
  · exact Or.inr ⟨hyx, by rwa [Function.update_of_ne hyx] at h⟩

/-- A holder gives his thing back. -/
theorem Conserved.deposit {c : α} {x : η} (h : Conserved all stock holds) (hx : holds x = some c) :
    Conserved all (stock ++ [c]) (Function.update holds x none) := by
  have hout : c ∉ stock := h.heldOut x c hx
  constructor
  · exact h.nodup
  · exact List.nodup_append'.mpr ⟨h.stockNodup, List.nodup_singleton c, by simpa using hout⟩
  · intro d hd
    rcases List.mem_append.mp hd with hd | hd
    · exact h.stockAll d hd
    · obtain rfl := List.mem_singleton.mp hd
      exact h.heldAll x d hx
  · intro y d hy
    exact h.heldAll y d (update_none hy).2
  · intro y d hy hd
    obtain ⟨hyx, hy⟩ := update_none hy
    rcases List.mem_append.mp hd with hd | hd
    · exact h.heldOut y d hy hd
    · obtain rfl := List.mem_singleton.mp hd
      exact hyx (h.sole y x d hy hx)
  · intro y z d hy hz
    exact h.sole y z d (update_none hy).2 (update_none hz).2
  · intro d hd
    rcases h.somewhere d hd with hstock | ⟨y, hy⟩
    · exact Or.inl (List.mem_append_left _ hstock)
    · by_cases hyx : y = x
      · subst hyx
        obtain rfl : c = d := by simpa [hx] using hy
        exact Or.inl (List.mem_append_right _ (List.mem_singleton_self c))
      · exact Or.inr ⟨y, by rwa [Function.update_of_ne hyx]⟩

/-- A holder does away with his thing. -/
theorem Conserved.discard [DecidableEq α] {c : α} {x : η} (h : Conserved all stock holds)
    (hx : holds x = some c) :
    Conserved (all.erase c) stock (Function.update holds x none) := by
  have hout : c ∉ stock := h.heldOut x c hx
  have hkept : ∀ {d}, d ∈ all → d ≠ c → d ∈ all.erase c :=
    fun hd hne => (List.mem_erase_of_ne hne).mpr hd
  constructor
  · exact h.nodup.erase c
  · exact h.stockNodup
  · intro d hd
    refine hkept (h.stockAll d hd) ?_
    rintro rfl
    exact hout hd
  · intro y d hy
    obtain ⟨hyx, hy⟩ := update_none hy
    refine hkept (h.heldAll y d hy) ?_
    rintro rfl
    exact hyx (h.sole y x d hy hx)
  · intro y d hy
    exact h.heldOut y d (update_none hy).2
  · intro y z d hy hz
    exact h.sole y z d (update_none hy).2 (update_none hz).2
  · intro d hd
    rcases h.somewhere d (List.mem_of_mem_erase hd) with hstock | ⟨y, hy⟩
    · exact Or.inl hstock
    · have hyx : y ≠ x := by
        rintro rfl
        obtain rfl : c = d := by simpa [hx] using hy
        exact (h.nodup.mem_erase_iff.mp hd).1 rfl
      exact Or.inr ⟨y, by rwa [Function.update_of_ne hyx]⟩

/-- A holder hands over whatever he has to one whose hands are empty. -/
theorem Conserved.pass {x y : η} (h : Conserved all stock holds) (hx : holds x = none)
    (hxy : x ≠ y) :
    Conserved all stock (Function.update (Function.update holds x (holds y)) y none) := by
  -- who has a thing now had it before, or it is `x` and `y` had it
  have hcases : ∀ {z d}, Function.update (Function.update holds x (holds y)) y none z = some d →
      (z = x ∧ holds y = some d) ∨ (z ≠ x ∧ z ≠ y ∧ holds z = some d) := by
    intro z d hz
    obtain ⟨hzy, hz⟩ := update_none hz
    by_cases hzx : z = x
    · subst hzx
      exact Or.inl ⟨rfl, by rwa [Function.update_self] at hz⟩
    · exact Or.inr ⟨hzx, hzy, by rwa [Function.update_of_ne hzx] at hz⟩
  constructor
  · exact h.nodup
  · exact h.stockNodup
  · exact h.stockAll
  · intro z d hz
    rcases hcases hz with ⟨-, hd⟩ | ⟨-, -, hd⟩
    · exact h.heldAll y d hd
    · exact h.heldAll z d hd
  · intro z d hz
    rcases hcases hz with ⟨-, hd⟩ | ⟨-, -, hd⟩
    · exact h.heldOut y d hd
    · exact h.heldOut z d hd
  · intro z w d hz hw
    rcases hcases hz with ⟨rfl, hd⟩ | ⟨-, hzy, hd⟩ <;>
      rcases hcases hw with ⟨rfl, he⟩ | ⟨-, hwy, he⟩
    · rfl
    · exact absurd (h.sole w y d he hd) hwy
    · exact absurd (h.sole z y d hd he) hzy
    · exact h.sole z w d hd he
  · intro d hd
    rcases h.somewhere d hd with hstock | ⟨z, hz⟩
    · exact Or.inl hstock
    · right
      by_cases hzy : z = y
      · subst hzy
        exact ⟨x, by rw [Function.update_of_ne hxy, Function.update_self, hz]⟩
      · have hzx : z ≠ x := by
          rintro rfl
          rw [hx] at hz
          cases hz
        exact ⟨z, by rwa [Function.update_of_ne hzy, Function.update_of_ne hzx]⟩

end Custody
