/-
MMOServers.Lib.PrefixCode — words written one after the other.

A code is prefix-free on a set of symbols when a string that starts with the
words of two of them starts with one word, and goes on in one way. A string
that is written symbol by symbol can then be cut in one way only, up to the
place where no word begins (`PrefixFree.cut_flatMap`).
-/
import Mathlib.Data.List.Basic

variable {α β : Type*}

/-- Two words of the code in front of a string are the same. -/
def PrefixFree (word : α → List β) (P : α → Prop) : Prop :=
  ∀ {a b : α} {u v : List β}, P a → P b → word a ++ u = word b ++ v → a = b ∧ u = v

/-- No word of the code begins here. -/
def EndsHere (word : α → List β) (P : α → Prop) (v : List β) : Prop :=
  ∀ a u, P a → v ≠ word a ++ u

theorem endsHere_nil {word : α → List β} {P : α → Prop} (h : ∀ a, P a → word a ≠ []) :
    EndsHere word P [] := by
  intro a u ha heq
  exact h a ha (List.append_eq_nil_iff.mp heq.symm).1

/-- What was cut off are the first symbols that were written, and the others are
    what is left. -/
theorem PrefixFree.cut_flatMap {word : α → List β} {P : α → Prop} (h : PrefixFree word P)
    {as bs : List α} {u v : List β} (has : ∀ a ∈ as, P a) (hbs : ∀ b ∈ bs, P b)
    (hend : EndsHere word P v) (heq : as.flatMap word ++ u = bs.flatMap word ++ v) :
    ∃ rest, bs = as ++ rest ∧ u = rest.flatMap word ++ v := by
  induction as generalizing bs with
  | nil => exact ⟨bs, rfl, heq⟩
  | cons a as ih =>
      obtain ⟨ha, hrestAs⟩ := List.forall_mem_cons.mp has
      rw [List.flatMap_cons, List.append_assoc] at heq
      cases bs with
      | nil => exact absurd heq.symm (hend a _ ha)
      | cons b bs =>
          obtain ⟨hb, hrestBs⟩ := List.forall_mem_cons.mp hbs
          rw [List.flatMap_cons, List.append_assoc] at heq
          obtain ⟨rfl, hrest⟩ := h ha hb heq
          obtain ⟨rest, rfl, hu⟩ := ih hrestAs hrestBs hrest
          exact ⟨rest, rfl, hu⟩
