/-
MMOServers.Lib.WriteQueue — one asynchronous writer behind a queue.

The pattern: packets wait in a queue, the front one is being written, and the
next write starts when the completion of the previous one has popped it. The
emptiness of the queue is the only test for a write in progress, so the pattern
works as long as "the queue is empty" and "no write is outstanding" are the
same thing. `clear` is the operation that separates them: it empties the queue
under a running write and leaves that write orphaned.

`Tidy` is the invariant: the writer is idle, or it is writing the front packet,
or its only write is orphaned. Each operation is described on the tidy states,
and the two that go wrong on an orphaned writer (`push` and a successful
`complete`) are described by exactly what goes wrong.

Where nothing clears the queue, the stronger invariant is `Steady`: what is
outstanding is the front of the queue, and nothing else.
-/
import Mathlib.Data.List.Basic

/-- The packets not yet written, the one being written in front, and the writes
    that were started and whose completion has not been handled. -/
structure WriteQueue (π : Type*) where
  queue : List π := []
  outstanding : List π := []

namespace WriteQueue

variable {π : Type*}

/-! ## Operations -/

/-- Start writing the front packet. -/
def startFront (w : WriteQueue π) : WriteQueue π :=
  match w.queue with
  | [] => w
  | p :: _ => { w with outstanding := w.outstanding ++ [p] }

/-- Enqueue a packet, and start writing when the queue was empty. -/
def push (w : WriteQueue π) (p : π) : WriteQueue π :=
  if w.queue = [] then startFront { w with queue := [p] }
  else { w with queue := w.queue ++ [p] }

/-- The completion of the write of `p` pops the front packet and starts the
    next write. -/
def complete [DecidableEq π] (w : WriteQueue π) (p : π) : WriteQueue π :=
  startFront { queue := w.queue.tail, outstanding := w.outstanding.erase p }

/-- The failed write of `p` drops what is queued. -/
def fail [DecidableEq π] (w : WriteQueue π) (p : π) : WriteQueue π :=
  { queue := [], outstanding := w.outstanding.erase p }

def clear (w : WriteQueue π) : WriteQueue π := { w with queue := [] }

/-! ## The queue -/

@[simp] theorem startFront_queue (w : WriteQueue π) : w.startFront.queue = w.queue := by
  unfold startFront
  split <;> rfl

@[simp] theorem push_queue (w : WriteQueue π) (p : π) : (w.push p).queue = w.queue ++ [p] := by
  unfold push
  split
  · rename_i hempty
    rw [startFront_queue, hempty, List.nil_append]
  · rfl

@[simp] theorem complete_queue [DecidableEq π] (w : WriteQueue π) (p : π) :
    (w.complete p).queue = w.queue.tail :=
  startFront_queue _

/-! ## The states of a writer -/

def Idle (w : WriteQueue π) : Prop := w.queue = [] ∧ w.outstanding = []

/-- The one outstanding write is that of the front packet. -/
def Writing (w : WriteQueue π) (p : π) : Prop :=
  w.queue.head? = some p ∧ w.outstanding = [p]

/-- A write is outstanding although the queue is empty. -/
def Orphaned (w : WriteQueue π) : Prop := w.queue = [] ∧ w.outstanding ≠ []

instance [DecidableEq π] (w : WriteQueue π) : Decidable w.Orphaned :=
  inferInstanceAs (Decidable (_ ∧ _))

inductive Tidy (w : WriteQueue π) : Prop where
  | idle (h : w.Idle)
  | writing (p : π) (h : w.Writing p)
  | orphaned (p : π) (hqueue : w.queue = []) (hout : w.outstanding = [p])

theorem empty_tidy : Tidy ({} : WriteQueue π) := .idle ⟨rfl, rfl⟩

theorem Tidy.length_outstanding {w : WriteQueue π} (h : w.Tidy) :
    w.outstanding.length ≤ 1 := by
  cases h with
  | idle h => simp [h.2]
  | writing p h => simp [h.2]
  | orphaned p _ hout => simp [hout]

/-- A write that is outstanding in a tidy state is the only one. -/
theorem Tidy.outstanding_eq {w : WriteQueue π} {p : π} (h : w.Tidy)
    (hp : p ∈ w.outstanding) : w.outstanding = [p] := by
  cases h with
  | idle h => simp [h.2] at hp
  | writing q h =>
      rw [h.2, List.mem_singleton] at hp
      rw [h.2, hp]
  | orphaned q _ hout =>
      rw [hout, List.mem_singleton] at hp
      rw [hout, hp]

theorem startFront_tidy {w : WriteQueue π} (h : w.outstanding = []) :
    w.startFront.Tidy := by
  rcases w with ⟨queue, outstanding⟩
  simp only at h
  subst h
  cases queue with
  | nil => exact .idle ⟨rfl, rfl⟩
  | cons p rest => exact .writing p ⟨rfl, rfl⟩

theorem clear_tidy {w : WriteQueue π} (h : w.Tidy) : w.clear.Tidy := by
  cases h with
  | idle h => exact .idle ⟨rfl, h.2⟩
  | writing p h => exact .orphaned p rfl h.2
  | orphaned p _ hout => exact .orphaned p rfl hout

theorem push_tidy {w : WriteQueue π} (h : w.Tidy) (ho : ¬ w.Orphaned) (p : π) :
    (w.push p).Tidy := by
  cases h with
  | idle h =>
      rw [push, if_pos h.1]
      exact startFront_tidy h.2
  | writing q h =>
      obtain ⟨hhead, hout⟩ := h
      obtain ⟨rest, hqueue⟩ := List.head?_eq_some_iff.mp hhead
      exact .writing q (by simp [push, Writing, hqueue, hout])
  | orphaned q hqueue hout => exact absurd ⟨hqueue, by simp [hout]⟩ ho

/-- Pushing to an orphaned writer starts a second write. -/
theorem push_orphaned {w : WriteQueue π} (ho : w.Orphaned) (p : π) :
    1 < (w.push p).outstanding.length := by
  have hpos : 0 < w.outstanding.length := List.length_pos_of_ne_nil ho.2
  simp only [push, if_pos ho.1, startFront, List.length_append, List.length_singleton]
  omega

theorem mem_outstanding_push {w : WriteQueue π} {q : π} (h : q ∈ w.outstanding) (p : π) :
    q ∈ (w.push p).outstanding := by
  unfold push
  split
  · exact List.mem_append_left _ h
  · exact h

/-- A completion pops its own packet exactly when the writer is not orphaned. -/
theorem head_eq_iff {w : WriteQueue π} {p : π} (h : w.Tidy) (hp : p ∈ w.outstanding) :
    w.queue.head? = some p ↔ ¬ w.Orphaned := by
  have hout := h.outstanding_eq hp
  cases h with
  | idle h => simp [h.2] at hp
  | writing q h =>
      have hq : p = q := by simpa [h.2] using hp
      subst hq
      have hne : w.queue ≠ [] := by
        intro hnil
        simpa [hnil] using h.1
      exact ⟨fun _ ho => hne ho.1, fun _ => h.1⟩
  | orphaned q hqueue _ => simp [Orphaned, hqueue, hout]

/-! ## Writers whose queue is not cleared -/

/-- What is outstanding is the front of the queue. -/
def Steady (w : WriteQueue π) : Prop := w.outstanding = w.queue.head?.toList

theorem startFront_steady {w : WriteQueue π} (h : w.outstanding = []) : w.startFront.Steady := by
  rcases w with ⟨queue, outstanding⟩
  simp only at h
  subst h
  cases queue with
  | nil => rfl
  | cons p rest => rfl

/-- A write is outstanding exactly when the queue is not empty. -/
theorem Steady.outstanding_iff {w : WriteQueue π} (h : w.Steady) :
    w.outstanding ≠ [] ↔ w.queue ≠ [] := by
  rw [h]
  cases w.queue with
  | nil => simp
  | cons p rest => simp

/-- The packet of an outstanding write is in front. -/
theorem Steady.queue_eq {w : WriteQueue π} {p : π} (h : w.Steady) (hp : p ∈ w.outstanding) :
    w.outstanding = [p] ∧ w.queue = p :: w.queue.tail := by
  rw [h] at hp ⊢
  cases hqueue : w.queue with
  | nil =>
      rw [hqueue] at hp
      cases hp
  | cons q rest =>
      rw [hqueue] at hp
      obtain rfl := List.mem_singleton.mp hp
      exact ⟨rfl, rfl⟩

theorem push_steady {w : WriteQueue π} (h : w.Steady) (p : π) : (w.push p).Steady := by
  unfold push
  split
  · rename_i hempty
    refine startFront_steady ?_
    rw [Steady, hempty] at h
    exact h
  · rename_i hbusy
    obtain ⟨q, rest, hqueue⟩ := List.exists_cons_of_ne_nil hbusy
    rw [Steady, hqueue] at h
    simp only [Steady, hqueue]
    exact h

/-! ## Other packets -/

variable {ρ : Type*}

/-- The same writer with each packet seen as another. -/
def map (f : π → ρ) (w : WriteQueue π) : WriteQueue ρ :=
  { queue := w.queue.map f, outstanding := w.outstanding.map f }

theorem startFront_map (f : π → ρ) (w : WriteQueue π) :
    (w.map f).startFront = w.startFront.map f := by
  rcases w with ⟨queue, outstanding⟩
  cases queue with
  | nil => rfl
  | cons p rest => simp [map, startFront]

theorem push_map (f : π → ρ) (w : WriteQueue π) (p : π) :
    (w.map f).push (f p) = (w.push p).map f := by
  have hempty : (w.map f).queue = [] ↔ w.queue = [] := List.map_eq_nil_iff
  unfold push
  by_cases h : w.queue = []
  · rw [if_pos h, if_pos (hempty.mpr h), ← startFront_map]
    rfl
  · rw [if_neg h, if_neg (fun h' => h (hempty.mp h'))]
    simp [map]

/-! ## Completions -/

variable [DecidableEq π]

theorem complete_tidy {w : WriteQueue π} {p : π} (h : w.Tidy) (hp : p ∈ w.outstanding) :
    (w.complete p).Tidy :=
  startFront_tidy (by simp [h.outstanding_eq hp])

theorem fail_tidy {w : WriteQueue π} {p : π} (h : w.Tidy) (hp : p ∈ w.outstanding) :
    (w.fail p).Tidy :=
  .idle ⟨rfl, by simp [fail, h.outstanding_eq hp]⟩

theorem complete_steady {w : WriteQueue π} {p : π} (h : w.Steady) (hp : p ∈ w.outstanding) :
    (w.complete p).Steady :=
  startFront_steady (by simp [(h.queue_eq hp).1])

theorem fail_steady {w : WriteQueue π} {p : π} (h : w.Steady) (hp : p ∈ w.outstanding) :
    (w.fail p).Steady := by
  have hout : (w.fail p).outstanding = [] := by simp [fail, (h.queue_eq hp).1]
  exact hout

variable [DecidableEq ρ]

theorem complete_map {w : WriteQueue π} {p : π} (h : w.Steady) (hp : p ∈ w.outstanding)
    (f : π → ρ) : (w.map f).complete (f p) = (w.complete p).map f := by
  unfold complete
  rw [← startFront_map]
  simp [map, (h.queue_eq hp).1]

theorem fail_map {w : WriteQueue π} {p : π} (h : w.Steady) (hp : p ∈ w.outstanding)
    (f : π → ρ) : (w.map f).fail (f p) = (w.fail p).map f := by
  simp [map, fail, (h.queue_eq hp).1]

end WriteQueue
