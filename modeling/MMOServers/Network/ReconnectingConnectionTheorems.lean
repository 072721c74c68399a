/-
MMOServers.Network.ReconnectingConnectionTheorems — the write queue over
reconnects.

The queue of a connection is a `WriteQueue`. Every task of the strand but one
respects it; the exception is the clearing task of `ScheduleRetry`, which can
run while a write is outstanding and leaves that write orphaned. The orphaned
write is harmless as long as nothing is sent and it does not end successfully
(`Undisturbed`): a `Send` task would start a second write, and a successful
completion would pop from an empty queue. `writesSound_iff_undisturbed` says
that these two are all that can go wrong.

The invariant `Wellformed` adds to `WriteQueue.Tidy` that a completion handler
waits on the strand only for an outstanding write, and once.
-/
import MMOServers.Network.ReconnectingConnection
import MMOServers.Lib.Run

namespace MMOServers.Network

open MMOServers.Common Transition

namespace Connection

/-! ## What is to hold, and when it does -/

/-- One write at a time, and every successful completion popped the packet it
    completed. -/
def WritesSound (c : Connection) : Prop :=
  c.writes.outstanding.length ≤ 1 ∧ ∀ e ∈ c.pops, e.2 = some e.1

instance (c : Connection) : Decidable c.WritesSound := inferInstanceAs (Decidable (_ ∧ _))

/-- The strand runs no `Send` task and no successful completion while the queue
    is empty under an outstanding write. -/
def Undisturbed (c : Connection) : Event → Prop
  | .runStrand =>
      match c.strand with
      | .send _ :: _ => ¬ c.writes.Orphaned
      | .written _ true :: _ => ¬ c.writes.Orphaned
      | _ => True
  | _ => True

instance (c : Connection) (e : Event) : Decidable (c.Undisturbed e) := by
  unfold Undisturbed
  repeat' split
  all_goals infer_instance

structure Wellformed (c : Connection) : Prop where
  tidy : c.writes.Tidy
  ended_outstanding : ∀ p ∈ endedWrites c.strand, p ∈ c.writes.outstanding
  ended_nodup : (endedWrites c.strand).Nodup

theorem start_wellformed (resolves : Bool) : (start resolves).Wellformed := by
  cases resolves
  all_goals exact ⟨WriteQueue.empty_tidy, by simp [start, doConnect, scheduleRetry, endedWrites],
    by simp [start, doConnect, scheduleRetry, endedWrites]⟩

theorem start_writesSound (resolves : Bool) : (start resolves).WritesSound := by
  cases resolves <;> decide

/-! ## One task of the strand -/

/-- A handler that runs belongs to the only outstanding write, and no other
    handler waits behind it. -/
theorem written_alone {c : Connection} (h : c.Wellformed) {p : Packet} {ok : Bool}
    {rest : List StrandTask} (hs : c.strand = .written p ok :: rest) :
    c.writes.outstanding = [p] ∧ endedWrites rest = [] := by
  have hended : endedWrites c.strand = p :: endedWrites rest := by
    simp [endedWrites, hs]
  have hmem : p ∈ c.writes.outstanding := h.ended_outstanding p (by simp [hended])
  have hone := h.tidy.outstanding_eq hmem
  refine ⟨hone, List.eq_nil_iff_forall_not_mem.mpr ?_⟩
  intro q hq
  have hq' : q ∈ c.writes.outstanding := h.ended_outstanding q (by simp [hended, hq])
  rw [hone, List.mem_singleton] at hq'
  have hnodup := h.ended_nodup
  rw [hended, List.nodup_cons] at hnodup
  exact hnodup.1 (hq' ▸ hq)

/-- A task that is not a completion leaves the waiting handlers alone. -/
theorem endedWrites_tail {c : Connection} {task : StrandTask} {rest : List StrandTask}
    (hs : c.strand = task :: rest) (htask : ∀ p ok, task ≠ .written p ok) :
    endedWrites c.strand = endedWrites rest := by
  cases task with
  | written p ok => exact absurd rfl (htask p ok)
  | send p => simp [endedWrites, hs]
  | clear => simp [endedWrites, hs]

/-- An undisturbed task keeps the invariant. -/
theorem runTask_wellformed {c : Connection} (h : c.Wellformed) {task : StrandTask}
    {rest : List StrandTask} (hs : c.strand = task :: rest)
    (hu : c.Undisturbed .runStrand) :
    (runTask { c with strand := rest } task).Wellformed := by
  simp only [Undisturbed, hs] at hu
  cases task with
  | send p =>
      have hended := endedWrites_tail hs (by simp)
      refine ⟨WriteQueue.push_tidy h.tidy hu p, ?_, hended ▸ h.ended_nodup⟩
      intro q hq
      exact WriteQueue.mem_outstanding_push (h.ended_outstanding q (hended ▸ hq)) p
  | clear =>
      have hended := endedWrites_tail hs (by simp)
      exact ⟨WriteQueue.clear_tidy h.tidy, fun q hq => h.ended_outstanding q (hended ▸ hq),
        hended ▸ h.ended_nodup⟩
  | written p ok =>
      obtain ⟨hone, hnone⟩ := written_alone h hs
      have hmem : p ∈ c.writes.outstanding := by simp [hone]
      cases ok with
      | true =>
          exact ⟨WriteQueue.complete_tidy h.tidy hmem,
            fun q hq => absurd (hnone ▸ hq) List.not_mem_nil, hnone ▸ List.nodup_nil⟩
      | false =>
          have hended : endedWrites (rest ++ [.clear]) = [] := by
            simpa [endedWrites] using hnone
          exact ⟨WriteQueue.fail_tidy h.tidy hmem,
            fun q hq => absurd (hended ▸ hq) List.not_mem_nil, hended ▸ List.nodup_nil⟩

/-- A task of the strand keeps the writes sound exactly when it is
    undisturbed. -/
theorem runTask_writesSound_iff {c : Connection} (h : c.Wellformed) (hsound : c.WritesSound)
    {task : StrandTask} {rest : List StrandTask} (hs : c.strand = task :: rest) :
    (runTask { c with strand := rest } task).WritesSound ↔ c.Undisturbed .runStrand := by
  constructor
  · rintro ⟨hlen, hpops⟩
    simp only [Undisturbed, hs]
    cases task with
    | send p =>
        intro ho
        exact absurd hlen (Nat.not_le.mpr (WriteQueue.push_orphaned ho p))
    | clear => trivial
    | written p ok =>
        cases ok with
        | false => trivial
        | true =>
            have hmem : p ∈ c.writes.outstanding := by simp [(written_alone h hs).1]
            exact (WriteQueue.head_eq_iff h.tidy hmem).mp
              (hpops (p, c.writes.queue.head?) (by simp [runTask]))
  · intro hu
    refine ⟨(runTask_wellformed h hs hu).tidy.length_outstanding, ?_⟩
    simp only [Undisturbed, hs] at hu
    cases task with
    | send p => exact hsound.2
    | clear => exact hsound.2
    | written p ok =>
        cases ok with
        | false => exact hsound.2
        | true =>
            have hmem : p ∈ c.writes.outstanding := by simp [(written_alone h hs).1]
            have hhead := (WriteQueue.head_eq_iff h.tidy hmem).mpr hu
            intro e he
            rcases List.mem_append.mp he with he | he
            · exact hsound.2 e he
            · rw [List.mem_singleton] at he
              subst he
              exact hhead

/-! ## One step -/

/-- What a step other than running the strand may post: no completion, or the
    completion of a write that is outstanding and has none yet. -/
def Postable (c : Connection) (tasks : List StrandTask) : Prop :=
  endedWrites tasks = [] ∨
    ∃ p ok, tasks = [.written p ok] ∧ p ∈ c.writes.outstanding ∧ p ∉ endedWrites c.strand

/-- Off the strand, a step posts tasks and leaves the writes alone. -/
theorem step_posts {profile : Profile} {c c' : Connection} {e : Event}
    (hstep : step profile c e = some c') (he : e ≠ .runStrand) :
    c'.writes = c.writes ∧ c'.pops = c.pops ∧
      ∃ tasks, c'.strand = c.strand ++ tasks ∧ c.Postable tasks := by
  have none_posted : ∃ tasks, c.strand = c.strand ++ tasks ∧ c.Postable tasks :=
    ⟨[], by simp, Or.inl rfl⟩
  have clear_posted : ∃ tasks, c.strand ++ [.clear] = c.strand ++ tasks ∧ c.Postable tasks :=
    ⟨[.clear], rfl, Or.inl rfl⟩
  cases step_inv hstep with
  | runStrand strand => exact absurd rfl he
  | send pktId payload =>
      unfold send
      repeat' split
      all_goals exact ⟨rfl, rfl, none_posted⟩
  | @post p sending => exact ⟨rfl, rfl, [.send p], rfl, Or.inl rfl⟩
  | @writeEnds p ok outstanding running =>
      exact ⟨rfl, rfl, [.written p ok], rfl, Or.inr ⟨p, ok, rfl, outstanding, running⟩⟩
  | retry resolves fired =>
      unfold doConnect
      split
      · exact ⟨rfl, rfl, none_posted⟩
      · exact ⟨rfl, rfl, clear_posted⟩
  | connectFails connecting => exact ⟨rfl, rfl, clear_posted⟩
  | headerFails reading => exact ⟨rfl, rfl, clear_posted⟩
  | payloadFails reading => exact ⟨rfl, rfl, clear_posted⟩
  | _ => exact ⟨rfl, rfl, none_posted⟩

theorem wellformed_of_posts {c c' : Connection} (h : c.Wellformed)
    (hwrites : c'.writes = c.writes) {tasks : List StrandTask}
    (hstrand : c'.strand = c.strand ++ tasks) (hposts : c.Postable tasks) :
    c'.Wellformed := by
  have happend : endedWrites c'.strand = endedWrites c.strand ++ endedWrites tasks := by
    rw [hstrand]
    exact List.filterMap_append
  rcases hposts with hnone | ⟨p, ok, rfl, hout, hfresh⟩
  · rw [hnone, List.append_nil] at happend
    exact ⟨hwrites ▸ h.tidy, by rw [happend, hwrites]; exact h.ended_outstanding,
      happend ▸ h.ended_nodup⟩
  · have hp : endedWrites c'.strand = endedWrites c.strand ++ [p] := happend
    refine ⟨hwrites ▸ h.tidy, ?_, ?_⟩
    · intro q hq
      rw [hp, List.mem_append, List.mem_singleton] at hq
      rw [hwrites]
      rcases hq with hq | rfl
      · exact h.ended_outstanding q hq
      · exact hout
    · rw [hp, List.nodup_append]
      refine ⟨h.ended_nodup, by simp, ?_⟩
      rintro q hq r hr rfl
      rw [List.mem_singleton] at hr
      exact hfresh (hr ▸ hq)

theorem step_wellformed {profile : Profile} {c c' : Connection} {e : Event}
    (h : c.Wellformed) (hu : c.Undisturbed e) (hstep : step profile c e = some c') :
    c'.Wellformed := by
  by_cases he : e = .runStrand
  · subst he
    cases step_inv hstep with
    | runStrand strand => exact runTask_wellformed h strand hu
  · obtain ⟨hwrites, -, tasks, hstrand, hposts⟩ := step_posts hstep he
    exact wellformed_of_posts h hwrites hstrand hposts

theorem step_writesSound_iff {profile : Profile} {c c' : Connection} {e : Event}
    (h : c.Wellformed) (hsound : c.WritesSound) (hstep : step profile c e = some c') :
    c'.WritesSound ↔ c.Undisturbed e := by
  by_cases he : e = .runStrand
  · subst he
    cases step_inv hstep with
    | runStrand strand => exact runTask_writesSound_iff h hsound strand
  · obtain ⟨hwrites, hpops, -⟩ := step_posts hstep he
    have hu : c.Undisturbed e := by
      cases e
      case runStrand => exact absurd rfl he
      all_goals trivial
    refine ⟨fun _ => hu, fun _ => ?_⟩
    unfold WritesSound
    rw [hwrites, hpops]
    exact hsound

/-! ## Runs -/

/-- The writes of a run stay sound exactly as long as the strand finds no
    orphaned write to disturb. -/
theorem writesSound_iff_undisturbed (profile : Profile) (resolves : Bool)
    (events : List Event) :
    Always (step profile) WritesSound (start resolves) events
      ↔ Meets (step profile) Undisturbed (start resolves) events :=
  always_iff_meets _ (fun h _ hu hstep => step_wellformed h hu hstep)
    (fun h hsound hstep => step_writesSound_iff h hsound hstep)
    (start_wellformed resolves) (start_writesSound resolves)

/-- The packet `[1]` under id 9, as both classes lay it out. -/
def onePacket (buffer : Nat) : Packet := ⟨buffer, [5, 0, 9, 0, 1]⟩

/-- The clearing task overtakes a write: the read loop sees the connection
    break while a packet is being written. When the write still ends well its
    completion pops from the empty queue, and a packet posted before the socket
    is closed is written beside the first one. -/
theorem clear_during_write :
    ¬ Always (step gameConnection) WritesSound (start true)
      [.connectDone true, .send 9 [1], .post (onePacket 0), .runStrand, .headerFails,
        .writeEnds (onePacket 0) true, .runStrand, .runStrand] ∧
    ¬ Always (step worldConnection) WritesSound (start true)
      [.connectDone true, .send 9 [1], .send 9 [1], .post (onePacket 0), .runStrand,
        .headerFails, .post (onePacket 1), .runStrand, .runStrand] := by
  decide

end Connection

end MMOServers.Network
