/-
MMOServers.Common.SendStrandTheorems — what a session writes, and in which order.

Four sessions send in the way of `SendStrand`. Three of them drop a packet when
too many wait, and `ServerSession` takes every packet (`queueLimit`). `Sender` is
the part of a session that its send tasks and completion handlers see, with the
packets that were accepted and those whose write has completed as history
variables. Tasks and handlers run one at a time on the strand, in any order.

None of the four clears its queue but after a failed write. Until then the writer
is steady, and that is all that is needed: a completion pops the packet it has
written, and what is accepted is what is completed with what still waits behind
it (`sends_inOrder`).
-/
import MMOServers.Common.SendStrand
import MMOServers.Lib.Run

namespace MMOServers.Common

open Transition

/-! ## The sessions -/

/-- The sessions of the four servers. -/
inductive SendingSession where
  | clientSession
  | gatewaySession
  | loginSession
  | serverSession
  deriving DecidableEq

/-- The length of `send_queue_` from which on the task drops packets. -/
def SendingSession.queueLimit : SendingSession → Option Nat
  | .clientSession => some sendQueueMaxSize
  | .gatewaySession => some sendQueueMaxSize
  | .loginSession => some sendQueueMaxSize
  | .serverSession => none

structure Sender where
  writes : WriteQueue Packet := {}
  /-- What the tasks of `Send` have put into the queue. -/
  accepted : List Packet := []
  /-- What was written, by the order of the completions. -/
  completed : List Packet := []
  /-- How often `pop_front` was called on an empty queue. -/
  emptyPops : Nat := 0
  failed : Bool := false

namespace Sender

/-- The test of the task, where there is one. -/
def takes (session : SendingSession) (s : Sender) : Bool :=
  match session.queueLimit with
  | none => true
  | some limit => !(s.writes.queue.length > limit)

/-- The task `Send` posts. -/
def sendTask (session : SendingSession) (s : Sender) (p : Packet) : Sender :=
  if s.takes session then
    { s with writes := s.writes.push p, accepted := s.accepted ++ [p] }
  else s

/-- The completion handler of `DoWrite`. -/
def written (s : Sender) (p : Packet) (ec : ErrorCode) : Sender :=
  if ec = .success then
    { s with
        writes := s.writes.complete p
        completed := s.completed ++ [p]
        emptyPops := s.emptyPops + if s.writes.queue = [] then 1 else 0 }
  else { s with writes := s.writes.fail p, failed := true }

/-- A handler runs for a write that was started. -/
def step (session : SendingSession) (s : Sender) : SessionTask → Option Sender
  | .send p => some (s.sendTask session p)
  | .written p ec => if p ∈ s.writes.outstanding then some (s.written p ec) else none

/-- What a task makes of a queue with a limit. -/
def afterTask (writes : WriteQueue Packet) : SessionTask → WriteQueue Packet
  | .send p => enqueue writes p
  | .written p ec => if ec = .success then writes.complete p else writes.fail p

theorem step_writes {session : SendingSession} (hlimit : session.queueLimit = some sendQueueMaxSize)
    {s s' : Sender} {task : SessionTask} (hstep : step session s task = some s') :
    s'.writes = afterTask s.writes task := by
  cases task with
  | send p =>
      obtain rfl := Option.some.inj hstep
      unfold sendTask takes afterTask enqueue
      rw [hlimit]
      by_cases hfull : s.writes.queue.length > sendQueueMaxSize
      · simp [hfull]
      · simp [hfull]
  | written p ec =>
      simp only [step] at hstep
      split at hstep
      · obtain rfl := Option.some.inj hstep
        by_cases hec : ec = .success
        · rw [written, if_pos hec, afterTask, if_pos hec]
        · rw [written, if_neg hec, afterTask, if_neg hec]
      · cases hstep

/-! ## Order -/

/-- What holds as long as no write has failed. -/
structure InOrder (s : Sender) : Prop where
  inFlight : s.writes.outstanding ≠ [] ↔ s.writes.queue ≠ []
  front : s.writes.outstanding = s.writes.queue.head?.toList
  inOrder : s.accepted = s.completed ++ s.writes.queue
  pops : s.emptyPops = 0

theorem InOrder.of_steady {s : Sender} (h : s.writes.Steady)
    (horder : s.accepted = s.completed ++ s.writes.queue) (hpops : s.emptyPops = 0) :
    s.InOrder := ⟨h.outstanding_iff, h, horder, hpops⟩

theorem sendTask_inOrder {s : Sender} (h : s.InOrder) (session : SendingSession) (p : Packet) :
    (s.sendTask session p).InOrder := by
  unfold sendTask
  split
  · refine .of_steady (WriteQueue.push_steady h.front p) ?_ h.pops
    rw [h.inOrder, List.append_assoc, WriteQueue.push_queue]
  · exact h

/-- A completion pops the packet that was written. -/
theorem completed_inOrder {s : Sender} (h : s.InOrder) {p : Packet}
    (hp : p ∈ s.writes.outstanding) : (s.written p .success).InOrder := by
  obtain ⟨-, hqueue⟩ := WriteQueue.Steady.queue_eq h.front hp
  refine .of_steady (WriteQueue.complete_steady h.front hp) ?_ ?_
  · show s.accepted = s.completed ++ [p] ++ (s.writes.complete p).queue
    rw [h.inOrder, WriteQueue.complete_queue, List.append_assoc, List.singleton_append, ← hqueue]
  · show s.emptyPops + (if s.writes.queue = [] then 1 else 0) = 0
    rw [if_neg (by rw [hqueue]; exact List.cons_ne_nil _ _), h.pops]

theorem step_inOrder {session : SendingSession} {s s' : Sender} {task : SessionTask}
    (h : s.failed = false → s.InOrder) (hstep : step session s task = some s') :
    s'.failed = false → s'.InOrder := by
  cases task with
  | send p =>
      obtain rfl := Option.some.inj hstep
      intro hfailed
      have hbefore : s.failed = false := by
        unfold sendTask at hfailed
        split at hfailed
        · exact hfailed
        · exact hfailed
      exact sendTask_inOrder (h hbefore) session p
  | written p ec =>
      simp only [step] at hstep
      split at hstep
      · rename_i hp
        obtain rfl := Option.some.inj hstep
        intro hfailed
        by_cases hec : ec = .success
        · subst hec
          exact completed_inOrder (h hfailed) hp
        · rw [written, if_neg hec] at hfailed
          cases hfailed
      · cases hstep

/-- For each of the sessions and every order of its tasks and handlers, until a
    write fails: a write is in flight exactly when the queue is not empty, and it is
    the one of the front packet; what was accepted is what was written, in this
    order, followed by what waits; and the queue is not empty when it is popped. -/
theorem sends_inOrder (session : SendingSession) (tasks : List SessionTask) :
    Always (step session) (fun s => s.failed = false → s.InOrder) {} tasks := by
  refine always_of_meets (C := fun _ _ => True) (fun h _ => step_inOrder h) ?_ meets_true
  exact fun _ => .of_steady rfl rfl rfl

end Sender

end MMOServers.Common
