/-
MMOServers.LoginServer.LoginSteps — what the steps of a login server can do.

`Stepped` lists what a step can do, with what it needs. `StepEffect` says it in
terms of the history, the ids of the sessions and the two tables of logins: a
step leaves them alone, forwards a world selection, disconnects a session or
grants a login. `grantOf` reads the granted login off the state and the label.

`Consistent` is what holds of the tables on every run: they have the same
accounts, and an entry belongs to the session of the account's latest grant.
-/
import MMOServers.LoginServer.LoginContext
import MMOServers.Common.SendStrandTheorems
import MMOServers.Lib.Run

namespace MMOServers.LoginServer

open MMOServers.Common Transition

namespace LoginContext

variable {ι : Type} {env : ServerEnv}

section Inversion

variable [DecidableEq ι]

/-! ## Inversion -/

/-- What a step can do, with what it needs. -/
inductive Stepped (env : ServerEnv) (s : LoginContext ι) : Label ι → LoginContext ι → Prop where
  | accept (i : ι) (now : Nat) (new : (s.sessions i).accepted = false) :
      Stepped env s (.accept i now)
        { s.modify i fun c => c.start now with connectedClients := s.connectedClients + 1 }
  | headerRead {i : ι} (h : PacketHeader) (now : Nat)
      (reading : (s.sessions i).reading = some .header) :
      Stepped env s (.headerRead i h now) (s.headerRead env i h now)
  | payloadRead {i : ι} {size : UInt16} {bytes : List UInt8} (now : Nat)
      (reading : (s.sessions i).reading = some (.payload size))
      (length : bytes.length = size.toNat) :
      Stepped env s (.payloadRead i bytes now) (s.payloadRead env i bytes now)
  | readFails {i : ι} (reading : (s.sessions i).reading ≠ none) :
      Stepped env s (.readFails i) ((s.setReading i none).onDisconnected i)
  | timerExpires {i : ι} (waiting : (s.sessions i).heartbeatTimer = .waiting) :
      Stepped env s (.timerExpires i) (s.modify i fun c => { c with heartbeatTimer := .expired })
  | timerRuns {i : ι} (now : Nat) (expired : (s.sessions i).heartbeatTimer = .expired) :
      Stepped env s (.timerRuns i now) (s.timerRuns i now)
  | dbTask {n : Nat} {task : DbTask ι} (answer : DbAnswer) (queued : s.dbTasks[n]? = some task) :
      Stepped env s (.dbTask n answer)
        ({ s with dbTasks := s.dbTasks.eraseIdx n }.runDbTask env task answer)
  | writeEnds {i : ι} {p : Packet} (ec : ErrorCode)
      (outstanding : p ∈ (s.sessions i).writes.outstanding)
      (running : p ∉ endedWrites (s.sessions i).strand) :
      Stepped env s (.writeEnds i p ec)
        (s.modify i fun c => { c with strand := c.strand ++ [.written p ec] })
  | runStrand {i : ι} {task : SessionTask} {rest : List SessionTask}
      (strand : (s.sessions i).strand = task :: rest) :
      Stepped env s (.runStrand i) ((s.modify i fun c => { c with strand := rest }).runTask i task)
  | worldPacket (id : UInt16) (payload : List UInt8) :
      Stepped env s (.worldPacket id payload) (s.worldDispatch env id payload)
  | worldLink (isOpen : Bool) : Stepped env s (.worldLink isOpen) { s with worldOpen := isOpen }

theorem step_inv {s s' : LoginContext ι} {label : Label ι}
    (h : step env s label = some s') : Stepped env s label s' := by
  cases label with
  | accept i now =>
      simp only [step] at h
      split at h
      · cases h
      · rename_i hnew
        exact Option.some.inj h ▸ .accept i now (Bool.eq_false_iff.mpr hnew)
  | headerRead i hdr now =>
      simp only [step] at h
      split at h
      · rename_i hread
        exact Option.some.inj h ▸ .headerRead hdr now hread
      · cases h
  | payloadRead i bytes now =>
      simp only [step] at h
      split at h
      · rename_i size hread
        split at h
        · rename_i hlength
          exact Option.some.inj h ▸ .payloadRead now hread hlength
        · cases h
      · cases h
  | readFails i =>
      simp only [step] at h
      split at h
      · cases h
      · rename_i hread
        exact Option.some.inj h ▸ .readFails hread
  | timerExpires i =>
      simp only [step] at h
      split at h
      · rename_i hwaiting
        exact Option.some.inj h ▸ .timerExpires hwaiting
      · cases h
  | timerRuns i now =>
      simp only [step] at h
      split at h
      · rename_i hexpired
        exact Option.some.inj h ▸ .timerRuns now hexpired
      · cases h
  | dbTask n answer =>
      simp only [step] at h
      split at h
      · cases h
      · rename_i task hqueued
        exact Option.some.inj h ▸ .dbTask answer hqueued
  | writeEnds i p ec =>
      simp only [step] at h
      split at h
      · rename_i hp
        exact Option.some.inj h ▸ .writeEnds ec hp.1 hp.2
      · cases h
  | runStrand i =>
      simp only [step] at h
      split at h
      · cases h
      · rename_i task rest hstrand
        exact Option.some.inj h ▸ .runStrand hstrand
  | worldPacket id payload => exact Option.some.inj h ▸ .worldPacket id payload
  | worldLink isOpen => exact Option.some.inj h ▸ .worldLink isOpen

end Inversion

/-! ## Frames -/

/-- The two states have the same history, ids of sessions and tables. -/
structure Silent (s s' : LoginContext ι) : Prop where
  loggedInId : ∀ j, (s'.sessions j).loggedInId = (s.sessions j).loggedInId
  loggedInUsers : s'.loggedInUsers = s.loggedInUsers
  sessionMap : s'.sessionMap = s.sessionMap
  trace : s'.trace = s.trace

theorem Silent.refl (s : LoginContext ι) : Silent s s := ⟨fun _ => rfl, rfl, rfl, rfl⟩

theorem Silent.trans {s₁ s₂ s₃ : LoginContext ι} (h : Silent s₁ s₂) (h' : Silent s₂ s₃) :
    Silent s₁ s₃ :=
  ⟨fun j => (h'.loggedInId j).trans (h.loggedInId j), h'.loggedInUsers.trans h.loggedInUsers,
    h'.sessionMap.trans h.sessionMap, h'.trace.trans h.trace⟩

variable [DecidableEq ι]

@[simp] theorem modify_self (s : LoginContext ι) (i : ι) (f : Session → Session) :
    (s.modify i f).sessions i = f (s.sessions i) := by
  simp [modify]

theorem modify_other (s : LoginContext ι) {i j : ι} (f : Session → Session) (h : j ≠ i) :
    (s.modify i f).sessions j = s.sessions j := by
  simp [modify, h]

theorem modify_silent (s : LoginContext ι) (i : ι) {f : Session → Session}
    (h : (f (s.sessions i)).loggedInId = (s.sessions i).loggedInId) :
    Silent s (s.modify i f) := by
  refine ⟨fun j => ?_, rfl, rfl, rfl⟩
  by_cases hj : j = i
  · subst hj
    rw [modify_self, h]
  · rw [modify_other s f hj]

theorem setReading_silent (s : LoginContext ι) (i : ι) (op : Option ReadOp) :
    Silent s (s.setReading i op) := modify_silent s i rfl

theorem send_silent (s : LoginContext ι) (i : ι) (pktId : UInt16) (serialized : List UInt8) :
    Silent s (s.send i pktId serialized) := by
  unfold send
  split
  · exact Silent.refl s
  · rename_i data _
    have h : Silent s (s.modify i fun c =>
        { c with strand := c.strand ++ [.send ⟨s.nextBuffer, data⟩] }) :=
      modify_silent s i rfl
    exact ⟨h.loggedInId, rfl, rfl, rfl⟩

theorem worldDispatch_silent (s : LoginContext ι) (id : UInt16) (payload : List UInt8) :
    Silent s (s.worldDispatch env id payload) := by
  unfold worldDispatch handleS2SWorldSelectRes
  repeat' split
  all_goals first
    | exact Silent.refl s
    | exact send_silent s _ _ _

theorem runTask_silent (s : LoginContext ι) (i : ι) (task : SessionTask) :
    Silent s (s.runTask i task) := by
  unfold runTask
  split <;> exact modify_silent s i rfl

/-- The tasks of a login session are those of a sender. -/
theorem runTask_writes (s : LoginContext ι) (i : ι) (task : SessionTask) :
    ((s.runTask i task).sessions i).writes = Sender.afterTask (s.sessions i).writes task := by
  cases task with
  | send p => simp [runTask, modify, Sender.afterTask]
  | written p ec => simp [runTask, modify, Sender.afterTask]

/-! ## Disconnecting -/

@[simp] theorem onDisconnected_trace (s : LoginContext ι) (i : ι) :
    (s.onDisconnected i).trace = .disconnected i :: s.trace := by
  unfold onDisconnected
  dsimp only
  split <;> rfl

@[simp] theorem onDisconnected_loggedInId (s : LoginContext ι) (i j : ι) :
    ((s.onDisconnected i).sessions j).loggedInId = (s.sessions j).loggedInId := by
  have h : ((s.modify i Session.cancelTimer).sessions j).loggedInId
      = (s.sessions j).loggedInId := (modify_silent s i rfl).loggedInId j
  unfold onDisconnected
  dsimp only
  split <;> exact h

theorem onDisconnected_sessionMap (s : LoginContext ι) (i : ι) :
    (s.onDisconnected i).sessionMap =
      if (s.sessions i).loggedInId = "" then s.sessionMap
      else Function.update s.sessionMap (s.sessions i).loggedInId none := by
  unfold onDisconnected
  dsimp only
  split <;> rfl

theorem onDisconnected_loggedInUsers (s : LoginContext ι) (i : ι) :
    (s.onDisconnected i).loggedInUsers =
      if (s.sessions i).loggedInId = "" then s.loggedInUsers
      else s.loggedInUsers.erase (s.sessions i).loggedInId := by
  unfold onDisconnected
  dsimp only
  split <;> rfl

/-! ## What a step can do -/

/-- The login that the step grants. -/
def grantOf (env : ServerEnv) (s : LoginContext ι) : Label ι → Option (ι × String)
  | .dbTask n answer =>
      match s.dbTasks[n]? with
      | none => none
      | some task =>
          if s.grants env task answer then some (task.session, task.req.id) else none
  | _ => none

inductive StepEffect (env : ServerEnv) (s : LoginContext ι) :
    Label ι → LoginContext ι → Prop where
  | quiet {label : Label ι} {s' : LoginContext ι} (ungranted : grantOf env s label = none)
      (h : Silent s s') : StepEffect env s label s'
  | forwards {label : Label ι} {s' : LoginContext ι} (i : ι) (req : LoginWorldSelectReq)
      (ungranted : grantOf env s label = none)
      (account : req.accountId = (s.sessions i).loggedInId)
      (h : Silent (s.record (.forwarded i req)) s') : StepEffect env s label s'
  | disconnects {label : Label ι} (i : ι) (s₁ : LoginContext ι)
      (ungranted : grantOf env s label = none) (h : Silent s s₁) :
      StepEffect env s label (s₁.onDisconnected i)
  | grants {label : Label ι} {s' : LoginContext ι} (i : ι) (id : String)
      (granted : grantOf env s label = some (i, id)) (unused : id ∉ s.loggedInUsers)
      (h : Silent (s.grant i id) s') : StepEffect env s label s'

theorem dispatch_effect {s s₀ : LoginContext ι} {label : Label ι} {i : ι} {id : UInt16}
    {payload : List UInt8} {now : Nat} {op : Option ReadOp}
    (ungranted : grantOf env s label = none) (h : Silent s s₀) :
    StepEffect env s label ((s₀.dispatch env i id payload now).setReading i op) := by
  have quiet : ∀ s₁, Silent s₀ s₁ → StepEffect env s label (s₁.setReading i op) :=
    fun s₁ h₁ => .quiet ungranted ((h.trans h₁).trans (setReading_silent s₁ i op))
  unfold dispatch
  split
  · -- the task is posted, and nothing else happens
    unfold handleLoginReq
    split
    · exact quiet s₀ (Silent.refl s₀)
    · exact quiet _ ⟨fun _ => rfl, rfl, rfl, rfl⟩
  split
  · unfold handleHeartbeat
    split
    · exact quiet _ (modify_silent s₀ i rfl)
    · exact quiet s₀ (Silent.refl s₀)
  split
  · unfold handleWorldSelectReq
    split
    · exact quiet s₀ (Silent.refl s₀)
    · rename_i req _
      dsimp only
      split
      · refine .forwards i ⟨(s₀.sessions i).loggedInId, req.worldId⟩ ungranted
          (h.loggedInId i) ?_
        have hrecord : Silent (s.record (.forwarded i ⟨(s₀.sessions i).loggedInId, req.worldId⟩))
            (s₀.record (.forwarded i ⟨(s₀.sessions i).loggedInId, req.worldId⟩)) :=
          ⟨h.loggedInId, h.loggedInUsers, h.sessionMap, congrArg (_ :: ·) h.trace⟩
        exact hrecord.trans (setReading_silent _ i op)
      · exact quiet s₀ (Silent.refl s₀)
  · exact quiet s₀ (Silent.refl s₀)

theorem headerRead_effect (s : LoginContext ι) (i : ι) (h : PacketHeader) (now : Nat) :
    StepEffect env s (.headerRead i h now) (s.headerRead env i h now) := by
  have hread : Silent s (s.modify i fun c => { c with header := h, reading := none }) :=
    modify_silent s i rfl
  unfold headerRead
  dsimp only
  repeat' split
  · exact .quiet rfl hread
  · exact dispatch_effect rfl hread
  · exact .disconnects i _ rfl hread
  · exact .quiet rfl (hread.trans (setReading_silent _ i _))

theorem timerRuns_effect (s : LoginContext ι) (i : ι) (now : Nat) :
    StepEffect env s (.timerRuns i now) (s.timerRuns i now) := by
  have hidle : Silent s (s.modify i fun c => { c with heartbeatTimer := .idle }) :=
    modify_silent s i rfl
  unfold timerRuns
  dsimp only
  split
  · exact .disconnects i _ rfl hidle
  · refine .quiet rfl (hidle.trans ?_)
    exact modify_silent _ i rfl

theorem dbTask_effect {s : LoginContext ι} {n : Nat} {answer : DbAnswer} {task : DbTask ι}
    (htask : s.dbTasks[n]? = some task) :
    StepEffect env s (.dbTask n answer)
      ({ s with dbTasks := s.dbTasks.eraseIdx n }.runDbTask env task answer) := by
  have hgrants : ({ s with dbTasks := s.dbTasks.eraseIdx n } : LoginContext ι).grants env task
      answer = s.grants env task answer := rfl
  unfold runDbTask
  rw [hgrants]
  dsimp only
  by_cases h : s.grants env task answer = true
  · rw [if_pos h]
    refine .grants task.session task.req.id (by simp [grantOf, htask, h]) ?_ ?_
    · unfold grants at h
      simp only [Bool.and_eq_true, decide_eq_true_eq] at h
      exact h.2
    · refine Silent.trans ?_ (send_silent _ task.session _ _)
      exact ⟨fun _ => rfl, rfl, rfl, rfl⟩
  · rw [if_neg h]
    refine .quiet (by simp [grantOf, htask, h]) ?_
    refine Silent.trans ?_ (send_silent _ task.session _ _)
    exact ⟨fun _ => rfl, rfl, rfl, rfl⟩

theorem step_effect {s s' : LoginContext ι} {label : Label ι}
    (hstep : step env s label = some s') : StepEffect env s label s' := by
  cases step_inv hstep with
  | accept i now new =>
      have h : Silent s (s.modify i fun c => c.start now) := modify_silent s i rfl
      exact .quiet rfl ⟨h.loggedInId, rfl, rfl, rfl⟩
  | headerRead h now reading => exact headerRead_effect s _ h now
  | payloadRead now reading length => exact dispatch_effect rfl (setReading_silent s _ none)
  | readFails reading => exact .disconnects _ _ rfl (setReading_silent s _ none)
  | timerExpires waiting => exact .quiet rfl (modify_silent s _ rfl)
  | timerRuns now expired => exact timerRuns_effect s _ now
  | dbTask answer queued => exact dbTask_effect queued
  | writeEnds ec outstanding running => exact .quiet rfl (modify_silent s _ rfl)
  | @runStrand i task rest strand =>
      have htail : Silent s (s.modify i fun c => { c with strand := rest }) :=
        modify_silent s i rfl
      exact .quiet rfl (htail.trans (runTask_silent _ i task))
  | worldPacket id payload => exact .quiet rfl (worldDispatch_silent s id payload)
  | worldLink isOpen => exact .quiet rfl ⟨fun _ => rfl, rfl, rfl, rfl⟩

theorem step_history {s s' : LoginContext ι} {label : Label ι}
    (hstep : step env s label = some s') : s.trace <:+ s'.trace := by
  cases step_effect hstep with
  | quiet ungranted h => exact h.trace ▸ List.suffix_refl _
  | forwards i req ungranted account h => exact h.trace ▸ List.suffix_cons _ _
  | disconnects i s₁ ungranted h =>
      rw [onDisconnected_trace, h.trace]
      exact List.suffix_cons _ _
  | grants i id granted unused h => exact h.trace ▸ List.suffix_cons _ _

/-! ## Answers of the world server -/

/-- The answer in a packet of the world server. -/
def answerOf (env : ServerEnv) (id : UInt16) (payload : List UInt8) :
    Option WorldLoginSelectRes :=
  if id = PacketId.worldLoginSelectRes then env.parseWorldLoginSelectRes payload else none

/-- The session an answer is passed on to, and what it gets. -/
def relayOf (env : ServerEnv) (s : LoginContext ι) (id : UInt16) (payload : List UInt8) :
    Option (ι × WorldSelectRes) :=
  (answerOf env id payload).bind fun res =>
    (s.sessionMap res.accountId).map fun i =>
      (i, ⟨res.success, res.gatewayIp, res.gatewayPort, res.sessionToken⟩)

theorem worldDispatch_relays (s : LoginContext ι) (id : UInt16) (payload : List UInt8) :
    s.worldDispatch env id payload =
      match relayOf env s id payload with
      | none => s
      | some (i, res) =>
          s.send i PacketId.loginClientWorldSelectRes (env.serializeWorldSelectRes res) := by
  unfold worldDispatch handleS2SWorldSelectRes relayOf answerOf
  by_cases hid : id = PacketId.worldLoginSelectRes
  · rw [if_pos hid, if_pos hid]
    cases env.parseWorldLoginSelectRes payload with
    | none => rfl
    | some res =>
        simp only [Option.bind_some]
        cases s.sessionMap res.accountId <;> rfl
  · rw [if_neg hid, if_neg hid]
    rfl

end LoginContext

end MMOServers.LoginServer
