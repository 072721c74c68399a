/-
MMOServers.Common.WakeUpTheorems — no thread of the pool oversleeps.

`Acquire` waits on a condition variable, and `ReturnConnection` signals it once
for every connection that comes back. `WaitingPool` is the pool with the threads
that sleep there and those that were signalled and are on their way back to the
lock; which thread a signal wakes is part of the label, and a thread may also
wake up by itself or at its timeout.

In every run there are as many threads on their way as there are connections in
the pool, as long as any thread sleeps (`always_alert`). `Initialize` fills the
pool without a signal, so it must not run a second time; it looks at
`initialized_` before it has the lock, and only the program sees to it that no
two threads are in it at once.
-/
import MMOServers.Common.DBConnectionPoolTheorems
import MMOServers.Lib.Monitor

namespace MMOServers.Common

open Transition

namespace PoolSystem

variable {η τ : Type} [DecidableEq η] [DecidableEq τ]

/-! ## What a step does to the pool and the waiting threads -/

/-- The thread is in the wait of `Acquire`. -/
def Waits (s : PoolSystem η τ) (t : τ) : Prop := ∃ h, s.threads t = .waiting h

/-- The connection that the step hands to `ReturnConnection`. -/
def returnedBy (s : PoolSystem η τ) : PoolLabel η τ → Option Nat
  | .moveAssign _ h other =>
      if h = other then none else (s.handles h).bind ScopedConnection.returned
  | .destroy _ h => (s.handles h).bind ScopedConnection.returned
  | _ => none

omit [DecidableEq η] in
theorem waits_setThread {s : PoolSystem η τ} {t : τ} {a : Activity η} (hidle : ¬ s.Waits t)
    (ha : ∀ h, a ≠ .waiting h) (u : τ) : (s.setThread t a).Waits u ↔ s.Waits u := by
  by_cases hu : u = t
  · subst hu
    refine ⟨fun ⟨h, hw⟩ => ?_, fun hw => absurd hw hidle⟩
    simp only [setThread, Function.update_self] at hw
    exact absurd hw (ha h)
  · simp [Waits, setThread, Function.update_of_ne hu]

omit [DecidableEq η] [DecidableEq τ] in
theorem not_waits_of_idle {s : PoolSystem η τ} {t : τ} (h : s.threads t = .idle) :
    ¬ s.Waits t := by
  rintro ⟨k, hk⟩
  rw [h] at hk
  cases hk

/-- The thread of the label, when it goes through `Acquire` in the step. -/
def acquirer : PoolLabel η τ → Option τ
  | .acquire t _ => some t
  | .wake t _ => some t
  | _ => none

/-- The label is the locked part of `Initialize`. -/
def Initializes : PoolLabel η τ → Prop
  | .initializeLocked _ _ => True
  | _ => False

instance : (label : PoolLabel η τ) → Decidable (Initializes label)
  | .initializeLocked _ _ => isTrue trivial
  | .initializeCall _ _ => isFalse id
  | .acquire _ _ => isFalse id
  | .wake _ _ => isFalse id
  | .construct _ _ => isFalse id
  | .moveConstruct _ _ _ => isFalse id
  | .moveAssign _ _ _ => isFalse id
  | .moveAssignEnds _ => isFalse id
  | .destroy _ _ => isFalse id

/-- A step outside `Acquire` and `Initialize`. -/
theorem step_other {s s' : PoolSystem η τ} {label : PoolLabel η τ}
    (hacquirer : acquirer label = none) (hinit : ¬ Initializes label)
    (hstep : step s label = some s') :
    (∀ u, s'.Waits u ↔ s.Waits u) ∧ s'.pool.initialized = s.pool.initialized ∧
      s'.pool.available = s.pool.available ++ (s.returnedBy label).toList := by
  have hreturned : ∀ conn : Option Nat, (s.pool.returnConnection conn).initialized
      = s.pool.initialized := fun conn => by cases conn <;> rfl
  cases label with
  | initializeCall t poolSize =>
      simp only [step] at hstep
      split at hstep
      · rename_i hidle
        split at hstep
        · cases hstep
          exact ⟨fun _ => Iff.rfl, rfl, by simp [returnedBy]⟩
        · cases hstep
          exact ⟨waits_setThread (not_waits_of_idle hidle) (by simp), rfl,
            by simp [returnedBy, setThread]⟩
      · cases hstep
  | initializeLocked t connects => exact absurd trivial hinit
  | acquire t h => cases hacquirer
  | wake t timedOut => cases hacquirer
  | construct t h =>
      simp only [step] at hstep
      split at hstep
      · cases hstep
        exact ⟨fun _ => Iff.rfl, rfl, by simp [returnedBy, setHandle]⟩
      · cases hstep
  | moveConstruct t h other =>
      simp only [step] at hstep
      split at hstep
      · split at hstep
        · cases hstep
          exact ⟨fun _ => Iff.rfl, rfl, by simp [returnedBy, moveConstruct, setHandle]⟩
        · cases hstep
      · cases hstep
  | moveAssign t h other =>
      simp only [step] at hstep
      split at hstep
      · rename_i x y hh hother
        split at hstep
        · rename_i hfree
          cases hstep
          unfold moveAssign
          by_cases hsame : h = other
          · rw [if_pos hsame]
            exact ⟨fun _ => Iff.rfl, rfl, by simp [returnedBy, hsame]⟩
          · rw [if_neg hsame]
            refine ⟨fun u => ?_, hreturned x.returned, ?_⟩
            · exact waits_setThread (s := s) (not_waits_of_idle hfree.1) (by simp) u
            · rw [returnedBy, if_neg hsame, hh]
              exact DBConnectionPool.returnConnection_available s.pool x.returned
        · cases hstep
      · cases hstep
  | moveAssignEnds t =>
      simp only [step] at hstep
      split at hstep
      · rename_i h other hassigning
        split at hstep
        · cases hstep
          refine ⟨fun u => ?_, rfl, ?_⟩
          rotate_left
          · simp [returnedBy, moveAssignEnds, setHandle, setThread, setUser]
          refine waits_setThread (s := s) ?_ (by simp) u
          rintro ⟨k, hk⟩
          rw [hassigning] at hk
          cases hk
        · cases hstep
      · cases hstep
  | destroy t h =>
      simp only [step] at hstep
      split at hstep
      · rename_i x hh
        split at hstep
        · cases hstep
          refine ⟨fun _ => Iff.rfl, hreturned x.returned, ?_⟩
          rw [returnedBy, hh]
          exact DBConnectionPool.returnConnection_available s.pool x.returned
        · cases hstep
      · cases hstep

/-- The step of a thread that fills the pool. -/
theorem step_initializes {s s' : PoolSystem η τ} {label : PoolLabel η τ}
    (hinit : Initializes label) (hstep : step s label = some s') :
    (∀ u, s'.Waits u ↔ s.Waits u) ∧ s'.pool.initialized = true ∧
      acquirer label = none ∧ s.returnedBy label = none := by
  cases label with
  | initializeLocked t connects =>
      simp only [step] at hstep
      split at hstep
      · rename_i poolSize hinitializing
        split at hstep
        · cases hstep
          refine ⟨fun u => ?_, rfl, rfl, rfl⟩
          refine waits_setThread (s := s.initializeLocked poolSize connects) ?_ (by simp) u
          rintro ⟨k, hk⟩
          rw [show (s.initializeLocked poolSize connects).threads t = _ from hinitializing] at hk
          cases hk
        · cases hstep
      · cases hstep
  | _ => cases hinit

/-- What the locked part of `Acquire` can come to, at the call or after the wait. -/
inductive Acquired (s : PoolSystem η τ) (t : τ) (s' : PoolSystem η τ) : Prop where
  | took (c : Nat) (stocked : s.pool.available = c :: s'.pool.available) (done : ¬ s'.Waits t)
  | gaveUp (empty : s.pool.available = []) (same : s'.pool.available = []) (done : ¬ s'.Waits t)
  | waits (empty : s.pool.available = []) (same : s'.pool.available = [])
      (initialized : s.pool.initialized = true) (waiting : s'.Waits t)
  | refused (same : s'.pool.available = s.pool.available) (done : ¬ s'.Waits t)
      (early : s.pool.initialized = false)

omit [DecidableEq η] [DecidableEq τ] in
/-- Only a pool that is there lets a thread wait. -/
theorem Acquired.initialized {s s' : PoolSystem η τ} {t : τ} (h : Acquired s t s')
    (hwaits : s'.Waits t) : s.pool.initialized = true := by
  cases h with
  | took c stocked done => exact absurd hwaits done
  | gaveUp empty same done => exact absurd hwaits done
  | waits empty same initialized waiting => exact initialized
  | refused same done early => exact absurd hwaits done

/-- A step of a thread that goes through `Acquire`. -/
theorem step_acquired {s s' : PoolSystem η τ} {label : PoolLabel η τ} {t : τ}
    (hacquirer : acquirer label = some t)
    (hready : ∀ u, s.Waits u → s.pool.initialized = true)
    (hstep : step s label = some s') :
    Acquired s t s' ∧ (∀ u, u ≠ t → (s'.Waits u ↔ s.Waits u)) ∧
      s'.pool.initialized = s.pool.initialized := by
  cases label with
  | acquire t' h =>
      obtain rfl := Option.some.inj hacquirer
      simp only [step] at hstep
      split at hstep
      · rename_i hfree
        have hidle := not_waits_of_idle hfree.1
        cases hstep
        unfold acquire
        split
        · rename_i huninitialized
          exact ⟨.refused rfl hidle (by simpa using huninitialized), fun _ _ => Iff.rfl, rfl⟩
        · rename_i hinitialized
          cases havailable : s.pool.available with
          | cons c rest => exact ⟨.took c havailable hidle, fun _ _ => Iff.rfl, rfl⟩
          | nil =>
              refine ⟨.waits havailable havailable (by simpa using hinitialized) ⟨h, ?_⟩,
                fun u hu => ?_, rfl⟩
              · simp [setUser, setThread]
              · simp [Waits, setUser, setThread, Function.update_of_ne hu]
      · cases hstep
  | wake t' timedOut =>
      obtain rfl := Option.some.inj hacquirer
      simp only [step] at hstep
      split at hstep
      · rename_i h hwaiting
        have hwaits : s.Waits t' := ⟨h, hwaiting⟩
        cases hstep
        unfold wake
        cases havailable : s.pool.available with
        | cons c rest =>
            refine ⟨.took c havailable ?_, fun u hu => ?_, rfl⟩
            · exact not_waits_of_idle (by simp [setUser, setThread])
            · simp [Waits, setUser, setThread, takeFront, setHandle, Function.update_of_ne hu]
        | nil =>
            dsimp only
            split
            · refine ⟨.gaveUp havailable havailable ?_, fun u hu => ?_, rfl⟩
              · exact not_waits_of_idle (by simp [setUser, setThread])
              · simp [Waits, setUser, setThread, setHandle, Function.update_of_ne hu]
            · exact ⟨.waits havailable havailable (hready t' hwaits) hwaits,
                fun _ _ => Iff.rfl, rfl⟩
      · cases hstep
  | _ => cases hacquirer

end PoolSystem

/-! ## The pool with its condition variable -/

structure WaitingPool (η τ : Type) where
  system : PoolSystem η τ := {}
  asleep : List τ := []
  woken : List τ := []

/-- A step of the pool, with the thread that its signal wakes. -/
structure WaitLabel (η τ : Type) where
  label : PoolLabel η τ
  wakes : Option τ := none

namespace WaitingPool

open PoolSystem

variable {η τ : Type}

def monitor (s : WaitingPool η τ) : Monitor τ := ⟨s.system.pool.available.length, s.asleep, s.woken⟩

/-- Who waits sleeps or is on its way, once, and nobody waits for a pool that is not
    there yet. -/
structure Coherent (s : WaitingPool η τ) : Prop where
  waits : ∀ t, s.system.Waits t ↔ t ∈ s.asleep ∨ t ∈ s.woken
  once : (s.asleep ++ s.woken).Nodup
  ready : ∀ t, s.system.Waits t → s.system.pool.initialized = true

/-- As long as a thread sleeps there are as many threads on their way as there are
    connections in the pool. -/
def Alert (s : WaitingPool η τ) : Prop :=
  s.asleep ≠ [] → s.system.pool.available.length ≤ s.woken.length

/-- `Initialize` takes the lock before the pool is there. -/
def InitializesOnce (s : WaitingPool η τ) (l : WaitLabel η τ) : Prop :=
  Initializes l.label → s.system.pool.initialized = false

instance (s : WaitingPool η τ) (l : WaitLabel η τ) : Decidable (s.InitializesOnce l) :=
  inferInstanceAs (Decidable (_ → _))

theorem Coherent.empty {s : WaitingPool η τ} (h : s.Coherent)
    (huninitialized : s.system.pool.initialized = false) : s.asleep = [] ∧ s.woken = [] := by
  have hnone : ∀ t, ¬ s.system.Waits t := by
    intro t ht
    rw [h.ready t ht] at huninitialized
    cases huninitialized
  exact ⟨List.eq_nil_iff_forall_not_mem.mpr fun t ht => hnone t ((h.waits t).mpr (Or.inl ht)),
    List.eq_nil_iff_forall_not_mem.mpr fun t ht => hnone t ((h.waits t).mpr (Or.inr ht))⟩

/-- Nothing happens to who waits. -/
theorem Coherent.of_same {s : WaitingPool η τ} (h : s.Coherent) {system : PoolSystem η τ}
    (hwaits : ∀ t, system.Waits t ↔ s.system.Waits t)
    (hready : s.system.pool.initialized = true → system.pool.initialized = true) :
    Coherent { s with system := system } where
  waits t := (hwaits t).trans (h.waits t)
  once := h.once
  ready t ht := hready (h.ready t ((hwaits t).mp ht))

theorem start_coherent : Coherent ({} : WaitingPool η τ) where
  waits t := by simp [Waits]
  once := List.nodup_nil
  ready t ht := by simp [Waits] at ht

/-! ## Steps -/

variable [DecidableEq τ]

/-- A thread that goes on waiting sleeps again. -/
def settle (s : WaitingPool η τ) (system : PoolSystem η τ) (t : τ) : WaitingPool η τ :=
  match system.threads t with
  | .waiting _ => ⟨system, t :: s.asleep.erase t, s.woken.erase t⟩
  | _ => ⟨system, s.asleep.erase t, s.woken.erase t⟩

/-- `cv_.notify_one()`. -/
def notifyOne (s : WaitingPool η τ) : Option τ → Option (WaitingPool η τ)
  | some t =>
      if t ∈ s.asleep then
        some { s with asleep := s.asleep.erase t, woken := t :: s.woken }
      else none
  | none => if s.asleep = [] then some s else none

theorem settle_waits {s : WaitingPool η τ} {system : PoolSystem η τ} {t : τ}
    (h : system.Waits t) :
    s.settle system t = ⟨system, t :: s.asleep.erase t, s.woken.erase t⟩ := by
  obtain ⟨k, hk⟩ := h
  simp only [settle, hk]

theorem settle_done {s : WaitingPool η τ} {system : PoolSystem η τ} {t : τ}
    (h : ¬ system.Waits t) :
    s.settle system t = ⟨system, s.asleep.erase t, s.woken.erase t⟩ := by
  unfold settle
  split
  · rename_i k hk
    exact absurd ⟨k, hk⟩ h
  · rfl

theorem notifyOne_coherent {s s' : WaitingPool η τ} (h : s.Coherent) {wakes : Option τ}
    (hstep : s.notifyOne wakes = some s') : s'.Coherent := by
  cases wakes with
  | none =>
      simp only [notifyOne] at hstep
      split at hstep
      · exact Option.some.inj hstep ▸ h
      · cases hstep
  | some t =>
      simp only [notifyOne] at hstep
      split at hstep
      · rename_i ht
        obtain ⟨hasleep, hwoken, hdisjoint⟩ := List.nodup_append.mp h.once
        obtain rfl := Option.some.inj hstep
        constructor
        · intro u
          rw [h.waits u, hasleep.mem_erase_iff, List.mem_cons]
          by_cases hu : u = t
          · simp [hu, ht]
          · simp [hu]
        · refine List.nodup_append.mpr ⟨hasleep.erase t, List.nodup_cons.mpr ⟨?_, hwoken⟩, ?_⟩
          · exact fun hmem => hdisjoint t ht t hmem rfl
          · intro u hu v hv huv
            subst huv
            obtain ⟨hne, hmem⟩ := hasleep.mem_erase_iff.mp hu
            rcases List.mem_cons.mp hv with heq | hold
            · exact hne heq
            · exact hdisjoint u hmem u hold rfl
        · exact h.ready
      · cases hstep

/-- A connection has come back. -/
theorem notifyOne_monitor {s s' : WaitingPool η τ} {system : PoolSystem η τ} {c : Nat}
    {wakes : Option τ} (havailable : system.pool.available = s.system.pool.available ++ [c])
    (hstep : notifyOne { s with system := system } wakes = some s') :
    s.monitor.Step s'.monitor := by
  have hstock : system.pool.available.length = s.system.pool.available.length + 1 := by
    rw [havailable, List.length_append, List.length_singleton]
  cases wakes with
  | none =>
      simp only [notifyOne] at hstep
      split at hstep
      · rename_i hquiet
        obtain rfl := Option.some.inj hstep
        simp only [monitor, hstock]
        exact .puts hquiet
      · cases hstep
  | some t =>
      simp only [notifyOne] at hstep
      split at hstep
      · rename_i hsleeping
        obtain rfl := Option.some.inj hstep
        simp only [monitor, hstock]
        exact .wakes t hsleeping
      · cases hstep

theorem settle_coherent {s : WaitingPool η τ} (h : s.Coherent) {system : PoolSystem η τ} {t : τ}
    (hothers : ∀ u, u ≠ t → (system.Waits u ↔ s.system.Waits u))
    (hready : ∀ u, system.Waits u → system.pool.initialized = true) :
    (s.settle system t).Coherent := by
  obtain ⟨hasleep, hwoken, hdisjoint⟩ := List.nodup_append.mp h.once
  have hapart : (s.asleep.erase t ++ s.woken.erase t).Nodup :=
    List.nodup_append.mpr ⟨hasleep.erase t, hwoken.erase t, fun u hu v hv =>
      hdisjoint u (List.mem_of_mem_erase hu) v (List.mem_of_mem_erase hv)⟩
  have hkept : ∀ u, u ≠ t → (system.Waits u ↔ u ∈ s.asleep.erase t ∨ u ∈ s.woken.erase t) := by
    intro u hu
    rw [hothers u hu, h.waits u, hasleep.mem_erase_iff, hwoken.mem_erase_iff]
    simp [hu]
  have hgone : t ∉ s.asleep.erase t ∧ t ∉ s.woken.erase t :=
    ⟨hasleep.not_mem_erase, hwoken.not_mem_erase⟩
  by_cases hwaits : system.Waits t
  · rw [settle_waits hwaits]
    refine ⟨fun u => ?_, ?_, hready⟩
    · by_cases hu : u = t
      · simp [hu, hwaits]
      · rw [hkept u hu]
        simp [hu]
    · rw [List.cons_append, List.nodup_cons]
      exact ⟨fun hmem => (List.mem_append.mp hmem).elim hgone.1 hgone.2, hapart⟩
  · rw [settle_done hwaits]
    refine ⟨fun u => ?_, hapart, hready⟩
    by_cases hu : u = t
    · simp [hu, hwaits, hgone.1, hgone.2]
    · exact hkept u hu

/-- The thread has gone through `Acquire`. -/
theorem settle_monitor {s : WaitingPool η τ} (h : s.Coherent) {system : PoolSystem η τ} {t : τ}
    (hacquired : Acquired s.system t system) : s.monitor.Step (s.settle system t).monitor := by
  cases hacquired with
  | took c stocked done =>
      rw [settle_done done]
      exact .takes t (by simp [monitor, stocked])
  | gaveUp empty same done =>
      rw [settle_done done, show WaitingPool.monitor ⟨system, s.asleep.erase t, s.woken.erase t⟩
        = ⟨0, s.asleep.erase t, s.woken.erase t⟩ by simp [monitor, same]]
      exact .givesUp t (by simp [monitor, empty])
  | waits empty same initialized waiting =>
      rw [settle_waits waiting, show WaitingPool.monitor
        ⟨system, t :: s.asleep.erase t, s.woken.erase t⟩
        = ⟨0, t :: s.asleep.erase t, s.woken.erase t⟩ by simp [monitor, same]]
      exact .sleeps t (by simp [monitor, empty])
  | refused same done early =>
      obtain ⟨hasleep, hwoken⟩ := h.empty early
      have heq : (s.settle system t).monitor = s.monitor := by
        rw [settle_done done]
        simp [monitor, same, hasleep, hwoken]
      rw [heq]
      exact .stays

variable [DecidableEq η]

def step (s : WaitingPool η τ) (l : WaitLabel η τ) : Option (WaitingPool η τ) :=
  match PoolSystem.step s.system l.label with
  | none => none
  | some system =>
      match acquirer l.label with
      | some t => some (s.settle system t)
      | none =>
          match s.system.returnedBy l.label with
          | none => some { s with system := system }
          | some _ => { s with system := system }.notifyOne l.wakes

theorem step_alert {s s' : WaitingPool η τ} {l : WaitLabel η τ} (h : s.Coherent)
    (halert : s.Alert) (honce : s.InitializesOnce l) (hstep : step s l = some s') :
    s'.Coherent ∧ s'.Alert := by
  unfold step at hstep
  split at hstep
  · cases hstep
  · rename_i system hsystem
    by_cases hinit : Initializes l.label
    · obtain ⟨hwaits, hready, hacquirer, hreturned⟩ := step_initializes hinit hsystem
      rw [hacquirer, hreturned] at hstep
      obtain rfl := Option.some.inj hstep
      refine ⟨h.of_same hwaits fun _ => hready, fun hne => ?_⟩
      exact absurd (h.empty (honce hinit)).1 hne
    · split at hstep
      · rename_i t hacquirer
        obtain ⟨hacquired, hothers, hkept⟩ := step_acquired hacquirer h.ready hsystem
        obtain rfl := Option.some.inj hstep
        have hready : ∀ u, system.Waits u → system.pool.initialized = true := by
          intro u hu
          rw [hkept]
          by_cases heq : u = t
          · exact hacquired.initialized (heq ▸ hu)
          · exact h.ready u ((hothers u heq).mp hu)
        exact ⟨settle_coherent h hothers hready, (settle_monitor h hacquired).alert halert⟩
      · rename_i hacquirer
        obtain ⟨hwaits, hkept, havailable⟩ := step_other hacquirer hinit hsystem
        have hsame : Coherent { s with system := system } :=
          h.of_same hwaits fun hready => hkept.trans hready
        split at hstep
        · rename_i hreturned
          obtain rfl := Option.some.inj hstep
          rw [hreturned, Option.toList_none, List.append_nil] at havailable
          refine ⟨hsame, fun hne => ?_⟩
          rw [havailable]
          exact halert hne
        · rename_i c hreturned
          rw [hreturned] at havailable
          exact ⟨notifyOne_coherent hsame hstep, (notifyOne_monitor havailable hstep).alert halert⟩

/-- In every run in which the pool is filled once, whatever threads the signals wake
    and whichever wake up by themselves. -/
theorem always_alert (labels : List (WaitLabel η τ))
    (h : Meets step InitializesOnce ({} : WaitingPool η τ) labels) :
    Always step Alert ({} : WaitingPool η τ) labels := by
  have hinv : Always step (fun s => s.Coherent ∧ s.Alert) ({} : WaitingPool η τ) labels := by
    refine always_of_meets ?_ ⟨start_coherent, fun hne => absurd rfl hne⟩ h
    intro s l s' hs honce hstep
    exact step_alert hs.1 hs.2 honce hstep
  exact hinv.imp fun s hs => hs.2

/-- One connection for two threads. The second sleeps, is woken when the first gives the
    connection back, and takes it. -/
def handover : List (WaitLabel Nat Nat) :=
  [⟨.initializeCall 0 1, none⟩, ⟨.initializeLocked 0 [true], none⟩, ⟨.acquire 0 0, none⟩,
    ⟨.acquire 1 1, none⟩, ⟨.destroy 0 0, some 1⟩, ⟨.wake 1 false, none⟩]

theorem always_alert_handover :
    (exec step ({} : WaitingPool Nat Nat) handover).map
        (fun s => (s.system.pool.available, s.asleep, s.woken)) = some ([], [], []) ∧
      Always step Alert ({} : WaitingPool Nat Nat) handover :=
  ⟨by decide, always_alert handover (by decide)⟩

end WaitingPool

end MMOServers.Common
