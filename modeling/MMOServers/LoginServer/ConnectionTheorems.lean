/-
MMOServers.LoginServer.ConnectionTheorems — the number of connected clients.

`connected_clients` goes up in `do_accept` and down in `OnDisconnected`. The
latter cancels the heartbeat timer so that it is not called several times, but
the socket stays open: after a timeout the pending read is still there, and a
timer that has expired when the read fails runs its handler all the same. So a
session can be counted down twice.

* `disconnectOf` reads off a state and a label which session the step disconnects.
* `count_effect` is what a step does to the counter and to the sessions counted.
* `counted_iff_disconnectsOnce`: the counter is right throughout a run exactly
  when no step of the run disconnects a session a second time.
-/
import MMOServers.LoginServer.LoginSteps
import Mathlib.Data.Finset.Card

namespace MMOServers.LoginServer

open MMOServers.Common Transition

namespace LoginContext

variable {ι : Type} {env : ServerEnv}

/-! ## What is counted -/

/-- The session was accepted, and `OnDisconnected` has not run on it. -/
def Live (s : LoginContext ι) (i : ι) : Prop :=
  (s.sessions i).accepted = true ∧ .disconnected i ∉ s.trace

/-- The counter is the number of sessions that are live. -/
def Counted (s : LoginContext ι) : Prop :=
  0 ≤ s.connectedClients ∧
    ∃ live : Finset ι, (∀ i, i ∈ live ↔ s.Live i) ∧ s.connectedClients = live.card

/-- The session whose `OnDisconnected` the step runs. -/
def disconnectOf (s : LoginContext ι) : Label ι → Option ι
  | .headerRead i h _ =>
      let size := PacketHeader.payloadSize h.size
      if h.size.toNat < PacketHeader.byteSize || maxPacketSize < h.size.toNat then none
      else if size = 0 then none
      else if !validatePayloadSize size then some i
      else none
  | .readFails i => some i
  | .timerRuns i now => if (s.sessions i).timedOut now then some i else none
  | _ => none

/-- A session the step disconnects has not been disconnected before. -/
def DisconnectsOnce (s : LoginContext ι) (label : Label ι) : Prop :=
  ∀ i ∈ s.disconnectOf label, .disconnected i ∉ s.trace

/-- A session has nothing going on before it is accepted. -/
def Dormant (s : LoginContext ι) : Prop :=
  ∀ i, (s.sessions i).accepted = false →
    (s.sessions i).reading = none ∧ (s.sessions i).heartbeatTimer = .idle

theorem start_dormant : (start : LoginContext ι).Dormant := fun _ _ => ⟨rfl, rfl⟩

theorem start_counted : (start : LoginContext ι).Counted :=
  ⟨Int.le_refl 0, ∅, fun i => by simp [Live, start], rfl⟩

theorem Dormant.accepted_of_reading {s : LoginContext ι} (hs : s.Dormant) {i : ι}
    (h : (s.sessions i).reading ≠ none) : (s.sessions i).accepted = true := by
  by_contra hnew
  exact h (hs i (Bool.eq_false_iff.mpr hnew)).1

theorem Dormant.accepted_of_timer {s : LoginContext ι} (hs : s.Dormant) {i : ι}
    (h : (s.sessions i).heartbeatTimer ≠ .idle) : (s.sessions i).accepted = true := by
  by_contra hnew
  exact h (hs i (Bool.eq_false_iff.mpr hnew)).2

/-! ## Frames -/

/-- The two states count the same, and the sessions not accepted yet are as
    they were. -/
structure SameCount (s s' : LoginContext ι) : Prop where
  connectedClients : s'.connectedClients = s.connectedClients
  accepted : ∀ j, (s'.sessions j).accepted = (s.sessions j).accepted
  disconnected : ∀ j, .disconnected j ∈ s'.trace ↔ .disconnected j ∈ s.trace
  dormant : ∀ j, (s.sessions j).accepted = false →
    (s'.sessions j).reading = (s.sessions j).reading ∧
      (s'.sessions j).heartbeatTimer = (s.sessions j).heartbeatTimer

theorem SameCount.refl (s : LoginContext ι) : SameCount s s :=
  ⟨rfl, fun _ => rfl, fun _ => Iff.rfl, fun _ _ => ⟨rfl, rfl⟩⟩

theorem SameCount.trans {s₁ s₂ s₃ : LoginContext ι} (h : SameCount s₁ s₂)
    (h' : SameCount s₂ s₃) : SameCount s₁ s₃ := by
  refine ⟨h'.connectedClients.trans h.connectedClients,
    fun j => (h'.accepted j).trans (h.accepted j),
    fun j => (h'.disconnected j).trans (h.disconnected j), fun j hj => ?_⟩
  obtain ⟨hread, htimer⟩ := h.dormant j hj
  obtain ⟨hread', htimer'⟩ := h'.dormant j ((h.accepted j).trans hj)
  exact ⟨hread'.trans hread, htimer'.trans htimer⟩

theorem SameCount.live_iff {s s' : LoginContext ι} (h : SameCount s s') (i : ι) :
    s'.Live i ↔ s.Live i := by
  rw [Live, Live, h.accepted, h.disconnected]

theorem SameCount.keeps_dormant {s s' : LoginContext ι} (h : SameCount s s') (hs : s.Dormant) :
    s'.Dormant := by
  intro i hi
  rw [h.accepted] at hi
  rw [(h.dormant i hi).1, (h.dormant i hi).2]
  exact hs i hi

theorem SameCount.counted_iff {s s' : LoginContext ι} (h : SameCount s s') :
    s'.Counted ↔ s.Counted := by
  simp only [Counted, h.connectedClients, h.live_iff]

section Steps

variable [DecidableEq ι]

/-- An update of one session that was accepted, or that starts nothing in it. -/
theorem modify_sameCount (s : LoginContext ι) (i : ι) {f : Session → Session}
    (haccepted : (f (s.sessions i)).accepted = (s.sessions i).accepted)
    (hdormant : (s.sessions i).accepted = false →
      (f (s.sessions i)).reading = (s.sessions i).reading ∧
        (f (s.sessions i)).heartbeatTimer = (s.sessions i).heartbeatTimer) :
    SameCount s (s.modify i f) := by
  refine ⟨rfl, fun j => ?_, fun _ => Iff.rfl, fun j hj => ?_⟩
  · by_cases hji : j = i
    · subst hji
      rw [modify_self, haccepted]
    · rw [modify_other s f hji]
  · by_cases hji : j = i
    · subst hji
      rw [modify_self]
      exact hdormant hj
    · rw [modify_other s f hji]
      exact ⟨rfl, rfl⟩

/-- An update of an accepted session. -/
theorem modify_sameCount_of_accepted (s : LoginContext ι) {i : ι} {f : Session → Session}
    (hi : (s.sessions i).accepted = true)
    (haccepted : (f (s.sessions i)).accepted = (s.sessions i).accepted) :
    SameCount s (s.modify i f) :=
  modify_sameCount s i haccepted fun hnew => absurd hi (Bool.eq_false_iff.mp hnew)

theorem setReading_sameCount (s : LoginContext ι) {i : ι} (op : Option ReadOp)
    (hi : (s.sessions i).accepted = true) : SameCount s (s.setReading i op) :=
  modify_sameCount_of_accepted s hi rfl

theorem send_sameCount (s : LoginContext ι) (i : ι) (pktId : UInt16)
    (serialized : List UInt8) : SameCount s (s.send i pktId serialized) := by
  unfold send
  split
  · exact SameCount.refl s
  · rename_i data _
    have h : SameCount s (s.modify i fun c =>
        { c with strand := c.strand ++ [.send ⟨s.nextBuffer, data⟩] }) :=
      modify_sameCount s i rfl fun _ => ⟨rfl, rfl⟩
    exact ⟨rfl, h.accepted, h.disconnected, h.dormant⟩

theorem worldDispatch_sameCount (s : LoginContext ι) (id : UInt16) (payload : List UInt8) :
    SameCount s (s.worldDispatch env id payload) := by
  unfold worldDispatch handleS2SWorldSelectRes
  repeat' split
  all_goals first
    | exact SameCount.refl s
    | exact send_sameCount s _ _ _

theorem runTask_sameCount (s : LoginContext ι) (i : ι) (task : SessionTask) :
    SameCount s (s.runTask i task) := by
  unfold runTask
  split <;> exact modify_sameCount s i rfl fun _ => ⟨rfl, rfl⟩

theorem grant_sameCount (s : LoginContext ι) (i : ι) (id : String) :
    SameCount s (s.grant i id) := by
  have h : SameCount s (s.modify i fun c => { c with loggedInId := id }) :=
    modify_sameCount s i rfl fun _ => ⟨rfl, rfl⟩
  refine ⟨rfl, h.accepted, fun j => ?_, h.dormant⟩
  show .disconnected j ∈ Event.granted i id :: s.trace ↔ _
  simp

theorem runDbTask_sameCount (s : LoginContext ι) (task : DbTask ι) (answer : DbAnswer) :
    SameCount s (s.runDbTask env task answer) := by
  unfold runDbTask
  dsimp only
  split
  · exact (grant_sameCount s _ _).trans (send_sameCount _ _ _ _)
  · exact send_sameCount s _ _ _

theorem dispatch_sameCount (s : LoginContext ι) (i : ι) (id : UInt16) (payload : List UInt8)
    (now : Nat) : SameCount s (s.dispatch env i id payload now) := by
  unfold dispatch handleLoginReq handleHeartbeat handleWorldSelectReq
  dsimp only
  repeat' split
  all_goals first
    | exact SameCount.refl s
    | exact ⟨rfl, fun _ => rfl, fun _ => Iff.rfl, fun _ _ => ⟨rfl, rfl⟩⟩
    | exact modify_sameCount s i rfl fun _ => ⟨rfl, rfl⟩
    | exact ⟨rfl, fun _ => rfl, fun j => by simp [record], fun _ _ => ⟨rfl, rfl⟩⟩

/-! ## Disconnecting -/

@[simp] theorem onDisconnected_connectedClients (s : LoginContext ι) (i : ι) :
    (s.onDisconnected i).connectedClients = s.connectedClients - 1 := by
  unfold onDisconnected
  dsimp only
  split <;> rfl

theorem onDisconnected_sessions (s : LoginContext ι) (i : ι) :
    (s.onDisconnected i).sessions = (s.modify i Session.cancelTimer).sessions := by
  unfold onDisconnected
  dsimp only
  split <;> rfl

theorem onDisconnected_accepted (s : LoginContext ι) (i j : ι) :
    ((s.onDisconnected i).sessions j).accepted = (s.sessions j).accepted := by
  rw [onDisconnected_sessions]
  by_cases hji : j = i
  · subst hji
    rw [modify_self]
    rfl
  · rw [modify_other _ _ hji]

/-- A step either leaves the count alone, or counts a session up that was not
    accepted before, or counts an accepted one down. -/
inductive CountEffect (s : LoginContext ι) (label : Label ι) : LoginContext ι → Prop where
  | keeps {s' : LoginContext ι} (none : s.disconnectOf label = none) (h : SameCount s s') :
      CountEffect s label s'
  | accepts (i : ι) (now : Nat) (none : s.disconnectOf label = none)
      (new : (s.sessions i).accepted = false) :
      CountEffect s label
        { s.modify i fun c => c.start now with connectedClients := s.connectedClients + 1 }
  | disconnects (i : ι) (s₁ : LoginContext ι) (some : s.disconnectOf label = some i)
      (accepted : (s.sessions i).accepted = true) (h : SameCount s s₁) :
      CountEffect s label (s₁.onDisconnected i)

theorem headerRead_count {s : LoginContext ι} {i : ι} (h : PacketHeader) (now : Nat)
    (hi : (s.sessions i).accepted = true) :
    CountEffect s (.headerRead i h now) (s.headerRead env i h now) := by
  have hread : SameCount s (s.modify i fun c => { c with header := h, reading := none }) :=
    modify_sameCount_of_accepted s hi rfl
  have hset : ∀ s₁ op, SameCount s s₁ → SameCount s (s₁.setReading i op) :=
    fun s₁ op h₁ => h₁.trans (setReading_sameCount s₁ op ((h₁.accepted i).trans hi))
  unfold headerRead
  dsimp only
  by_cases hsize : (decide (h.size.toNat < PacketHeader.byteSize) ||
      decide (maxPacketSize < h.size.toNat)) = true
  · rw [if_pos hsize]
    exact .keeps (by simp only [disconnectOf]; rw [if_pos hsize]) hread
  rw [if_neg hsize]
  by_cases hempty : PacketHeader.payloadSize h.size = 0
  · rw [if_pos hempty]
    exact .keeps (by simp only [disconnectOf]; rw [if_neg hsize, if_pos hempty])
      (hset _ _ (hread.trans (dispatch_sameCount _ i _ _ _)))
  rw [if_neg hempty]
  by_cases hvalid : (!validatePayloadSize (PacketHeader.payloadSize h.size)) = true
  · rw [if_pos hvalid]
    exact .disconnects i _
      (by simp only [disconnectOf]; rw [if_neg hsize, if_neg hempty, if_pos hvalid]) hi hread
  · rw [if_neg hvalid]
    exact .keeps (by simp only [disconnectOf]; rw [if_neg hsize, if_neg hempty, if_neg hvalid])
      (hset _ _ hread)

theorem timerRuns_count {s : LoginContext ι} {i : ι} (now : Nat)
    (hi : (s.sessions i).accepted = true) :
    CountEffect s (.timerRuns i now) (s.timerRuns i now) := by
  have hidle : SameCount s (s.modify i fun c => { c with heartbeatTimer := .idle }) :=
    modify_sameCount_of_accepted s hi rfl
  have hsame : ((s.modify i fun c => { c with heartbeatTimer := .idle }).sessions i).timedOut now
      = (s.sessions i).timedOut now := by
    rw [modify_self]
    rfl
  unfold timerRuns
  dsimp only
  rw [hsame]
  by_cases hlate : (s.sessions i).timedOut now = true
  · rw [if_pos hlate]
    exact .disconnects i _ (by simp only [disconnectOf]; rw [if_pos hlate]) hi hidle
  · rw [if_neg hlate]
    refine .keeps (by simp only [disconnectOf]; rw [if_neg hlate]) (hidle.trans ?_)
    exact modify_sameCount_of_accepted _ ((hidle.accepted i).trans hi) rfl

theorem count_effect {s s' : LoginContext ι} {label : Label ι} (hs : s.Dormant)
    (hstep : step env s label = some s') : CountEffect s label s' := by
  cases step_inv hstep with
  | accept i now new => exact .accepts i now rfl new
  | headerRead h now reading =>
      exact headerRead_count h now
        (hs.accepted_of_reading (by rw [reading]; exact Option.some_ne_none _))
  | @payloadRead i size bytes now reading length =>
      have hi : (s.sessions i).accepted = true :=
        hs.accepted_of_reading (by rw [reading]; exact Option.some_ne_none _)
      have hdispatch : SameCount s
          ((s.setReading i none).dispatch env i (s.sessions i).header.id bytes now) :=
        (setReading_sameCount s none hi).trans (dispatch_sameCount _ i _ bytes now)
      exact .keeps rfl (hdispatch.trans
        (setReading_sameCount _ _ ((hdispatch.accepted i).trans hi)))
  | @readFails i reading =>
      have hi := hs.accepted_of_reading reading
      exact .disconnects i _ rfl hi (setReading_sameCount s none hi)
  | @timerExpires i waiting =>
      have hi : (s.sessions i).accepted = true :=
        hs.accepted_of_timer (by rw [waiting]; decide)
      exact .keeps rfl (modify_sameCount_of_accepted s hi rfl)
  | timerRuns now expired =>
      exact timerRuns_count now (hs.accepted_of_timer (by rw [expired]; decide))
  | dbTask answer queued =>
      have herase : ∀ n, SameCount s { s with dbTasks := s.dbTasks.eraseIdx n } :=
        fun n => ⟨rfl, fun _ => rfl, fun _ => Iff.rfl, fun _ _ => ⟨rfl, rfl⟩⟩
      exact .keeps rfl ((herase _).trans (runDbTask_sameCount _ _ _))
  | writeEnds ec outstanding running =>
      exact .keeps rfl (modify_sameCount s _ rfl fun _ => ⟨rfl, rfl⟩)
  | @runStrand i task rest strand =>
      have htail : SameCount s (s.modify i fun c => { c with strand := rest }) :=
        modify_sameCount s i rfl fun _ => ⟨rfl, rfl⟩
      exact .keeps rfl (htail.trans (runTask_sameCount _ i task))
  | worldPacket id payload => exact .keeps rfl (worldDispatch_sameCount s id payload)
  | worldLink isOpen =>
      exact .keeps rfl ⟨rfl, fun _ => rfl, fun _ => Iff.rfl, fun _ _ => ⟨rfl, rfl⟩⟩

theorem accept_dormant {s : LoginContext ι} (hs : s.Dormant) (i : ι) (now : Nat) :
    Dormant { s.modify i fun c => c.start now with
      connectedClients := s.connectedClients + 1 } := by
  intro j hj
  by_cases hji : j = i
  · subst hji
    simp [modify, Session.start] at hj
  · simp only [modify, Function.update_of_ne hji] at hj ⊢
    exact hs j hj

theorem onDisconnected_dormant {s : LoginContext ι} (hs : s.Dormant) (i : ι) :
    (s.onDisconnected i).Dormant := by
  intro j hj
  rw [onDisconnected_sessions] at hj ⊢
  by_cases hji : j = i
  · subst hji
    rw [modify_self] at hj ⊢
    obtain ⟨hread, htimer⟩ := hs j hj
    exact ⟨hread, by simp [Session.cancelTimer, htimer]⟩
  · rw [modify_other _ _ hji] at hj ⊢
    exact hs j hj

theorem step_dormant {s s' : LoginContext ι} {label : Label ι} (hs : s.Dormant)
    (hstep : step env s label = some s') : s'.Dormant := by
  cases count_effect hs hstep with
  | keeps none h => exact h.keeps_dormant hs
  | accepts i now none new => exact accept_dormant hs i now
  | disconnects i s₁ some accepted h => exact onDisconnected_dormant (h.keeps_dormant hs) i

/-! ## The counter -/

/-- Sessions disconnect after they were accepted. -/
def DisconnectsAccepted (s : LoginContext ι) : Prop :=
  ∀ i, .disconnected i ∈ s.trace → (s.sessions i).accepted = true

omit [DecidableEq ι] in
theorem start_disconnectsAccepted : (start : LoginContext ι).DisconnectsAccepted :=
  fun _ h => absurd h List.not_mem_nil

theorem onDisconnected_live_iff (s : LoginContext ι) (i j : ι) :
    (s.onDisconnected i).Live j ↔ j ≠ i ∧ s.Live j := by
  simp only [Live, onDisconnected_accepted, onDisconnected_trace, List.mem_cons,
    Event.disconnected.injEq, not_or]
  tauto

theorem accept_live_iff (s : LoginContext ι) {i : ι} (now : Nat)
    (hi : .disconnected i ∉ s.trace) (j : ι) :
    Live { s.modify i fun c => c.start now with connectedClients := s.connectedClients + 1 } j
      ↔ j = i ∨ s.Live j := by
  by_cases hji : j = i
  · subst hji
    simp [Live, modify, Session.start, hi]
  · simp [Live, modify, hji]

theorem accept_counted {s : LoginContext ι} (hs : s.Counted) {i : ι} (now : Nat)
    (new : (s.sessions i).accepted = false) (hi : .disconnected i ∉ s.trace) :
    Counted { s.modify i fun c => c.start now with
      connectedClients := s.connectedClients + 1 } := by
  obtain ⟨hpos, live, hlive, hcard⟩ := hs
  have hnot : i ∉ live := by
    rw [hlive, Live, new]
    simp
  refine ⟨Int.add_nonneg hpos (by decide), insert i live, fun j => ?_, ?_⟩
  · rw [Finset.mem_insert, hlive, accept_live_iff s now hi]
  · have hcard' : (insert i live).card = live.card + 1 := Finset.card_insert_of_notMem hnot
    show s.connectedClients + 1 = _
    omega

/-- The counter stays right when a session is disconnected that is live, and
    only then. -/
theorem onDisconnected_counted_iff {s : LoginContext ι} (hs : s.Counted) (i : ι) :
    (s.onDisconnected i).Counted ↔ s.Live i := by
  obtain ⟨hpos, live, hlive, hcard⟩ := hs
  constructor
  · rintro ⟨-, live', hlive', hcard'⟩
    by_contra hdead
    have hsame : live' = live := by
      ext j
      rw [hlive', hlive, onDisconnected_live_iff]
      exact ⟨fun h => h.2, fun h => ⟨fun hji => hdead (hji ▸ h), h⟩⟩
    rw [onDisconnected_connectedClients, hsame, ← hcard] at hcard'
    omega
  · intro h
    have hmem : i ∈ live := (hlive i).mpr h
    have hcard' : live.card = (live.erase i).card + 1 := (Finset.card_erase_add_one hmem).symm
    refine ⟨?_, live.erase i, fun j => ?_, ?_⟩
    · rw [onDisconnected_connectedClients]
      omega
    · rw [Finset.mem_erase, hlive, onDisconnected_live_iff]
    · rw [onDisconnected_connectedClients]
      omega

theorem step_disconnectsAccepted {s s' : LoginContext ι} {label : Label ι} (hd : s.Dormant)
    (hs : s.DisconnectsAccepted) (hstep : step env s label = some s') :
    s'.DisconnectsAccepted := by
  intro j hj
  cases count_effect hd hstep with
  | keeps none h =>
      rw [h.accepted]
      exact hs j ((h.disconnected j).mp hj)
  | accepts i now none new =>
      by_cases hji : j = i
      · subst hji
        simp [modify, Session.start]
      · simp only [modify, Function.update_of_ne hji]
        exact hs j hj
  | disconnects i s₁ some accepted h =>
      rw [onDisconnected_accepted, h.accepted]
      rw [onDisconnected_trace, List.mem_cons, Event.disconnected.injEq] at hj
      rcases hj with rfl | hj
      · exact accepted
      · exact hs j ((h.disconnected j).mp hj)

theorem step_counted_iff {s s' : LoginContext ι} {label : Label ι} (hd : s.Dormant)
    (ha : s.DisconnectsAccepted) (hs : s.Counted) (hstep : step env s label = some s') :
    s'.Counted ↔ s.DisconnectsOnce label := by
  cases count_effect hd hstep with
  | keeps none h =>
      simp only [DisconnectsOnce, none, h.counted_iff, hs]
      simp
  | accepts i now none new =>
      have hi : .disconnected i ∉ s.trace := fun h => by
        rw [ha i h] at new
        cases new
      simp only [DisconnectsOnce, none, accept_counted hs now new hi]
      simp
  | disconnects i s₁ some accepted h =>
      rw [onDisconnected_counted_iff (h.counted_iff.mpr hs), h.live_iff, Live]
      simp [DisconnectsOnce, some, accepted]

/-- The counter is the number of live sessions, and so never negative, in every
    state of a run exactly when no step disconnects a session a second time. -/
theorem counted_iff_disconnectsOnce (env : ServerEnv) (labels : List (Label ι)) :
    Always (step env) Counted start labels ↔ Meets (step env) DisconnectsOnce start labels := by
  refine always_iff_meets (fun s => s.Dormant ∧ s.DisconnectsAccepted) ?_ ?_
    ⟨start_dormant, start_disconnectsAccepted⟩ start_counted
  · rintro s label s' ⟨hd, ha⟩ - - hstep
    exact ⟨step_dormant hd hstep, step_disconnectsAccepted hd ha hstep⟩
  · rintro s label s' ⟨hd, ha⟩ hs hstep
    exact step_counted_iff hd ha hs hstep

/-- A client is silent for 31 s, and the read fails when it goes away. -/
theorem miscounted_timeoutThenReadFails :
    ¬ Always (step .sample) Counted (start : LoginContext Nat)
      [.accept 0 0, .timerExpires 0, .timerRuns 0 31000000000, .readFails 0] := by
  intro h
  obtain ⟨hpos, -⟩ := always_iff_exec.mp h _ (List.prefix_refl _) _ rfl
  exact absurd hpos (by decide)

end Steps

end LoginContext

end MMOServers.LoginServer
