/-
MMOServers.Lib.Monitor — threads that wait for an item in stock.

Items are put in stock and taken under a lock, and a thread that finds none goes
to sleep. Whoever puts an item there wakes one of the sleeping threads, if there
is one. A woken thread still has to get the lock; until then anybody may take the
item, and the thread sleeps again, or gives up. It may also wake up by itself.

The danger is a wake-up that is lost: an item lies there and everybody sleeps.
`Alert` says that as long as somebody sleeps there are at least as many threads
on their way as there are items, and every step keeps it.
-/
import Mathlib.Data.List.Nodup

namespace Transition

variable {τ : Type*}

structure Monitor (τ : Type*) where
  stock : Nat
  asleep : List τ
  /-- The threads that were woken and do not have the lock yet. -/
  woken : List τ

namespace Monitor

def Alert (m : Monitor τ) : Prop := m.asleep ≠ [] → m.stock ≤ m.woken.length

theorem alert_of_noneAsleep {m : Monitor τ} (h : m.asleep = []) : m.Alert :=
  fun hne => absurd h hne

theorem alert_of_empty {m : Monitor τ} (h : m.stock = 0) : m.Alert :=
  fun _ => h ▸ Nat.zero_le _

variable [DecidableEq τ]

/-- What a thread does that holds the lock. -/
inductive Step (m : Monitor τ) : Monitor τ → Prop where
  | stays : Step m m
  | puts (quiet : m.asleep = []) : Step m { m with stock := m.stock + 1 }
  | wakes (t : τ) (sleeping : t ∈ m.asleep) :
      Step m ⟨m.stock + 1, m.asleep.erase t, t :: m.woken⟩
  /-- The thread takes an item; it may have been asleep before. -/
  | takes (t : τ) {stock : Nat} (stocked : m.stock = stock + 1) :
      Step m ⟨stock, m.asleep.erase t, m.woken.erase t⟩
  | givesUp (t : τ) (empty : m.stock = 0) :
      Step m ⟨0, m.asleep.erase t, m.woken.erase t⟩
  | sleeps (t : τ) (empty : m.stock = 0) :
      Step m ⟨0, t :: m.asleep.erase t, m.woken.erase t⟩

theorem Step.alert {m m' : Monitor τ} (hstep : m.Step m') (h : m.Alert) : m'.Alert := by
  cases hstep with
  | stays => exact h
  | puts quiet => exact alert_of_noneAsleep quiet
  | wakes t sleeping =>
      intro _
      have hle := h (List.ne_nil_of_mem sleeping)
      simpa using hle
  | @takes t stock stocked =>
      intro hne
      have hasleep : m.asleep ≠ [] := by
        intro hnil
        exact hne (by simp [hnil])
      have hle := h hasleep
      have hlength : m.woken.length - 1 ≤ (m.woken.erase t).length := by
        rw [List.length_erase]
        split
        · exact Nat.le_refl _
        · exact Nat.sub_le _ _
      show stock ≤ (m.woken.erase t).length
      omega
  | givesUp t empty => exact alert_of_empty rfl
  | sleeps t empty => exact alert_of_empty rfl

end Monitor

end Transition
