/-
MMOServers.GatewayServer.GatewaySteps — what the steps of a gateway can do.

One inversion of the step function (`step_inv`), on which every result about the
runs of a gateway is built. `Silent` is the relation of a state to one that differs only
in what these results do not mention: buffers, ciphers, strands, counters,
tokens. `DispatchEffect` lists what a dispatched packet can do and `StepEffect`
what a step can do, in terms of the history, the accounts, the map and the
pending reads.
-/
import MMOServers.GatewayServer.Gateway

namespace MMOServers.GatewayServer

open MMOServers.Common

namespace Gateway

variable {ι F Key : Type} {env : GatewayEnv F Key}

/-! ## Inversion -/

section Inversion

variable [DecidableEq ι]

/-- What a step can be. -/
inductive Stepped (env : GatewayEnv F Key) (s : Gateway ι F Key) :
    Label ι → Gateway ι F Key → Prop where
  | accept (i : ι) (now : Nat) (new : (s.sessions i).accepted = false) :
      Stepped env s (.accept i now) (s.modify i fun c =>
        { c with accepted := true, reading := some .header, rateLimiter := ⟨now, 0⟩ })
  | headerRead {i : ι} (h : PacketHeader) (now : Nat) (nowMs : Int)
      (reading : (s.sessions i).reading = some .header) :
      Stepped env s (.headerRead i h now nowMs) (s.headerRead env i h now nowMs)
  | payloadRead {i : ι} {size : UInt16} {bytes : List UInt8} (nowMs : Int)
      (reading : (s.sessions i).reading = some (.payload size))
      (length : bytes.length = size.toNat) :
      Stepped env s (.payloadRead i bytes nowMs) (s.payloadRead env i bytes nowMs)
  | payloadDropped {i : ι} {size : UInt16} {bytes : List UInt8} (nowMs : Int)
      (reading : (s.sessions i).reading = some (.dropPayload size))
      (length : bytes.length = size.toNat) :
      Stepped env s (.payloadRead i bytes nowMs) (s.setReading i (some .header))
  | readFails {i : ι} {op : ReadOp} {ec : ErrorCode} (reading : (s.sessions i).reading = some op)
      (failed : ec ≠ .success) : Stepped env s (.readFails i ec) (s.readFails env i op ec)
  | writeEnds {i : ι} {p : Packet} (ec : ErrorCode)
      (outstanding : p ∈ (s.sessions i).writes.outstanding)
      (running : p ∉ endedWrites (s.sessions i).strand) :
      Stepped env s (.writeEnds i p ec)
        (s.modify i fun c => { c with strand := c.strand ++ [.written p ec] })
  | runStrand {i : ι} {task : SessionTask} {rest : List SessionTask}
      (accepted : (s.sessions i).accepted = true) (strand : (s.sessions i).strand = task :: rest) :
      Stepped env s (.runStrand i)
        ((s.modify i fun c => { c with strand := rest }).runTask env i task)
  | gamePacket (id : UInt16) (payload : List UInt8) :
      Stepped env s (.gamePacket id payload) (s.gameDispatch env id payload)
  | gameLink (isOpen : Bool) : Stepped env s (.gameLink isOpen) { s with gameOpen := isOpen }

theorem step_inv {s s' : Gateway ι F Key} {label : Label ι} (h : step env s label = some s') :
    Stepped env s label s' := by
  cases label with
  | accept i now =>
      simp only [step] at h
      split at h
      · cases h
      · rename_i hnew
        exact Option.some.inj h ▸ .accept i now (Bool.eq_false_iff.mpr hnew)
  | headerRead i hdr now nowMs =>
      simp only [step] at h
      split at h
      · rename_i hread
        exact Option.some.inj h ▸ .headerRead hdr now nowMs hread
      · cases h
  | payloadRead i bytes nowMs =>
      simp only [step] at h
      split at h
      · rename_i size hread
        split at h
        · rename_i hlength
          exact Option.some.inj h ▸ .payloadRead nowMs hread hlength
        · cases h
      · rename_i size hread
        split at h
        · rename_i hlength
          exact Option.some.inj h ▸ .payloadDropped nowMs hread hlength
        · cases h
      · cases h
  | readFails i ec =>
      simp only [step] at h
      split at h
      · cases h
      · rename_i op hread
        split at h
        · cases h
        · rename_i hec
          exact Option.some.inj h ▸ .readFails hread hec
  | writeEnds i p ec =>
      simp only [step] at h
      split at h
      · rename_i hp
        exact Option.some.inj h ▸ .writeEnds ec hp.1 hp.2
      · cases h
  | runStrand i =>
      simp only [step] at h
      split at h
      · cases h
      · rename_i haccepted
        split at h
        · cases h
        · rename_i task rest hstrand
          rw [Bool.not_eq_true', Bool.not_eq_false] at haccepted
          exact Option.some.inj h ▸ .runStrand haccepted hstrand
  | gamePacket id payload => exact Option.some.inj h ▸ .gamePacket id payload
  | gameLink isOpen => exact Option.some.inj h ▸ .gameLink isOpen

end Inversion

/-! ## Frames -/

/-- The two states have the same history, accounts, map and pending reads. -/
structure Silent (s s' : Gateway ι F Key) : Prop where
  account : ∀ j, (s'.sessions j).accountId = (s.sessions j).accountId
  accepted : ∀ j, (s'.sessions j).accepted = (s.sessions j).accepted
  reading : ∀ j, (s'.sessions j).reading = (s.sessions j).reading
  clientMap : s'.clientMap = s.clientMap
  trace : s'.trace = s.trace

theorem Silent.refl (s : Gateway ι F Key) : Silent s s :=
  ⟨fun _ => rfl, fun _ => rfl, fun _ => rfl, rfl, rfl⟩

theorem Silent.trans {s₁ s₂ s₃ : Gateway ι F Key} (h : Silent s₁ s₂) (h' : Silent s₂ s₃) :
    Silent s₁ s₃ :=
  ⟨fun j => (h'.account j).trans (h.account j), fun j => (h'.accepted j).trans (h.accepted j),
    fun j => (h'.reading j).trans (h.reading j), h'.clientMap.trans h.clientMap,
    h'.trace.trans h.trace⟩

variable [DecidableEq ι]

@[simp] theorem modify_self (s : Gateway ι F Key) (i : ι)
    (f : ClientSession Key → ClientSession Key) :
    (s.modify i f).sessions i = f (s.sessions i) := by
  simp [modify]

theorem modify_other (s : Gateway ι F Key) {i j : ι}
    (f : ClientSession Key → ClientSession Key) (h : j ≠ i) :
    (s.modify i f).sessions j = s.sessions j := by
  simp [modify, h]

@[simp] theorem modify_trace (s : Gateway ι F Key) (i : ι)
    (f : ClientSession Key → ClientSession Key) : (s.modify i f).trace = s.trace := rfl

/-- A field that an update of one session keeps is kept everywhere. -/
theorem modify_field {β : Type} (get : ClientSession Key → β) (s : Gateway ι F Key) (i : ι)
    {f : ClientSession Key → ClientSession Key}
    (h : get (f (s.sessions i)) = get (s.sessions i)) (j : ι) :
    get ((s.modify i f).sessions j) = get (s.sessions j) := by
  by_cases hj : j = i
  · subst hj
    rw [modify_self, h]
  · rw [modify_other s f hj]

theorem modify_silent (s : Gateway ι F Key) (i : ι)
    {f : ClientSession Key → ClientSession Key}
    (haccount : (f (s.sessions i)).accountId = (s.sessions i).accountId)
    (haccepted : (f (s.sessions i)).accepted = (s.sessions i).accepted)
    (hreading : (f (s.sessions i)).reading = (s.sessions i).reading) :
    Silent s (s.modify i f) :=
  ⟨modify_field (·.accountId) s i haccount, modify_field (·.accepted) s i haccepted,
    modify_field (·.reading) s i hreading, rfl, rfl⟩

theorem setReading_self (s : Gateway ι F Key) (i : ι) (op : Option ReadOp) :
    ((s.setReading i op).sessions i).reading = op := by
  simp [setReading]

theorem setReading_other (s : Gateway ι F Key) {i j : ι} (op : Option ReadOp) (h : j ≠ i) :
    ((s.setReading i op).sessions j).reading = (s.sessions j).reading := by
  rw [setReading, modify_other s _ h]

@[simp] theorem setReading_account (s : Gateway ι F Key) (i : ι) (op : Option ReadOp) (j : ι) :
    ((s.setReading i op).sessions j).accountId = (s.sessions j).accountId :=
  modify_field (·.accountId) s i rfl j

@[simp] theorem setReading_accepted (s : Gateway ι F Key) (i : ι) (op : Option ReadOp) (j : ι) :
    ((s.setReading i op).sessions j).accepted = (s.sessions j).accepted :=
  modify_field (·.accepted) s i rfl j

@[simp] theorem setReading_clientMap (s : Gateway ι F Key) (i : ι) (op : Option ReadOp) :
    (s.setReading i op).clientMap = s.clientMap := rfl

@[simp] theorem setReading_trace (s : Gateway ι F Key) (i : ι) (op : Option ReadOp) :
    (s.setReading i op).trace = s.trace := rfl

/-! ## Sending is silent -/

theorem encode_strand (env : GatewayEnv F Key) (c : ClientSession Key)
    (iv : Option (List UInt8)) (serialized : List UInt8) :
    (c.encode env iv serialized).2.writes = c.writes ∧
      (c.encode env iv serialized).2.strand = c.strand := by
  unfold ClientSession.encode
  repeat' split
  all_goals exact ⟨rfl, rfl⟩

theorem encode_fields (env : GatewayEnv F Key) (c : ClientSession Key) (iv : Option (List UInt8))
    (serialized : List UInt8) :
    (c.encode env iv serialized).2.accountId = c.accountId ∧
      (c.encode env iv serialized).2.accepted = c.accepted ∧
      (c.encode env iv serialized).2.reading = c.reading := by
  unfold ClientSession.encode
  repeat' split
  all_goals exact ⟨rfl, rfl, rfl⟩

theorem post_silent (s : Gateway ι F Key) (i : ι) (data : List UInt8) :
    Silent s (s.post i data) := by
  have h : Silent s (s.modify i fun c =>
      { c with strand := c.strand ++ [.send ⟨s.nextBuffer, data⟩] }) :=
    modify_silent s i rfl rfl rfl
  exact ⟨h.account, h.accepted, h.reading, rfl, rfl⟩

theorem send_silent (s : Gateway ι F Key) (i : ι) (pktId : UInt16) (serialized : List UInt8) :
    Silent s (s.send env i pktId serialized) := by
  obtain ⟨haccount, haccepted, hreading⟩ :=
    encode_fields env (s.sessions i) (env.randomIv s.ivDraws) serialized
  unfold send
  generalize (s.sessions i).encode env (env.randomIv s.ivDraws) serialized = r at *
  obtain ⟨payload, c⟩ := r
  have hencoded : Silent s { s.modify i fun _ => c with ivDraws := s.ivDraws + 1 } := by
    have h := modify_silent s i (f := fun _ => c) haccount haccepted hreading
    exact ⟨h.account, h.accepted, h.reading, rfl, rfl⟩
  dsimp only
  split
  · exact hencoded
  · exact hencoded.trans (post_silent _ i _)

theorem broadcast_silent (s : Gateway ι F Key) (pktId : UInt16) (serialized : List UInt8)
    (targets : List String) : Silent s (s.broadcast env pktId serialized targets) := by
  induction targets generalizing s with
  | nil => exact Silent.refl s
  | cons target targets ih =>
      unfold broadcast
      split
      · exact ih s
      · exact (send_silent s _ pktId serialized).trans (ih _)

theorem gameDispatch_silent (s : Gateway ι F Key) (id : UInt16) (payload : List UInt8) :
    Silent s (s.gameDispatch env id payload) := by
  unfold gameDispatch handleMoveResFromGame handleGameGatewayAttackRes
    handleTokenNotifyFromGame handleChatResFromGame storePendingToken
  repeat' split
  all_goals first
    | exact Silent.refl s
    | exact broadcast_silent s _ _ _
    | exact ⟨fun _ => rfl, fun _ => rfl, fun _ => rfl, rfl, rfl⟩

omit [DecidableEq ι] in
theorem verifyAndConsumeToken_silent (s : Gateway ι F Key) (accountId token : String)
    (nowMs : Int) : Silent s (s.verifyAndConsumeToken accountId token nowMs).2 := by
  unfold verifyAndConsumeToken
  dsimp only
  repeat' split
  all_goals exact ⟨fun _ => rfl, fun _ => rfl, fun _ => rfl, rfl, rfl⟩

theorem enableEncryption_silent (s : Gateway ι F Key) (i : ι) :
    Silent s (s.modify i fun c => c.enableEncryption env) := by
  apply modify_silent
  all_goals
    unfold ClientSession.enableEncryption
    split <;> rfl

/-! ## Disconnecting -/

section Record
omit [DecidableEq ι]

@[simp] theorem record_sessions (s : Gateway ι F Key) (e : Event ι F) :
    (s.record e).sessions = s.sessions := rfl

@[simp] theorem record_clientMap (s : Gateway ι F Key) (e : Event ι F) :
    (s.record e).clientMap = s.clientMap := rfl

@[simp] theorem record_trace (s : Gateway ι F Key) (e : Event ι F) :
    (s.record e).trace = e :: s.trace := rfl

@[simp] theorem gameSend_sessions (env : GatewayEnv F Key) (s : Gateway ι F Key) (i : ι)
    (m : ToGame F) : (s.gameSend env i m).sessions = s.sessions := by
  unfold gameSend
  split <;> rfl

@[simp] theorem gameSend_clientMap (env : GatewayEnv F Key) (s : Gateway ι F Key) (i : ι)
    (m : ToGame F) : (s.gameSend env i m).clientMap = s.clientMap := by
  unfold gameSend
  split <;> rfl

theorem gameSend_trace (env : GatewayEnv F Key) (s : Gateway ι F Key) (i : ι) (m : ToGame F) :
    (s.gameSend env i m).trace =
      if s.gameAccepts env m = true then .forwarded i m :: s.trace else s.trace := by
  unfold gameSend
  split <;> rfl

end Record

/-- `OnDisconnected` adds its call to the history and, for a session with an
    account, the leave request that the game connection takes. -/
theorem onDisconnected_trace (env : GatewayEnv F Key) (s : Gateway ι F Key) (i : ι) :
    (s.onDisconnected env i).trace =
      if (s.sessions i).accountId ≠ "" ∧
          s.gameAccepts env (.leaveReq (s.sessions i).accountId) = true then
        .forwarded i (.leaveReq (s.sessions i).accountId) :: .disconnected i :: s.trace
      else .disconnected i :: s.trace := by
  unfold onDisconnected
  dsimp only
  split
  · rename_i hempty
    simp [hempty]
  · rename_i hne
    rw [if_congr (and_iff_right hne) rfl rfl]
    exact gameSend_trace env (s.record (.disconnected i)) i _

/-- The session that disconnects has no account left; nothing else of any
    session that matters here changes. -/
theorem onDisconnected_sessions (env : GatewayEnv F Key) (s : Gateway ι F Key) (i j : ι) :
    ((s.onDisconnected env i).sessions j).accountId =
        (if j = i then "" else (s.sessions j).accountId) ∧
      ((s.onDisconnected env i).sessions j).accepted = (s.sessions j).accepted ∧
      ((s.onDisconnected env i).sessions j).reading = (s.sessions j).reading := by
  unfold onDisconnected
  dsimp only
  by_cases hj : j = i
  · subst hj
    by_cases hempty : (s.sessions j).accountId = ""
    · simp [hempty]
    · simp [hempty, eraseAccount, modify]
  · by_cases hempty : (s.sessions i).accountId = ""
    · simp [hempty, hj]
    · simp [hempty, hj, eraseAccount, modify]

theorem onDisconnected_clientMap (env : GatewayEnv F Key) (s : Gateway ι F Key) (i : ι) :
    (s.onDisconnected env i).clientMap =
      if (s.sessions i).accountId = "" then s.clientMap
      else Function.update s.clientMap (s.sessions i).accountId none := by
  unfold onDisconnected
  dsimp only
  split
  · rfl
  · simp [eraseAccount]

/-! ## What a dispatched packet can do -/

/-- The handler of the packet cannot parse its payload. -/
def unparsable (env : GatewayEnv F Key) (id : UInt16) (data : List UInt8) : Bool :=
  if id = PacketId.clientGatewayConnectReq then (env.parseConnectReq data).isNone
  else if id = PacketId.clientGatewayChatReq then (env.parseChatReq data).isNone
  else if id = PacketId.clientGatewayMoveReq then (env.parseMoveReq data).isNone
  else if id = PacketId.clientGatewayAttackReq then (env.parseAttackReq data).isNone
  else false

/-- The request the packet asks the gateway to pass on for an account. -/
def requestOf (env : GatewayEnv F Key) (accountId : String) (id : UInt16)
    (data : List UInt8) : Option (ToGame F) :=
  if id = PacketId.clientGatewayChatReq then
    (env.parseChatReq data).map fun req => .chatReq accountId req.msg
  else if id = PacketId.clientGatewayMoveReq then
    (env.parseMoveReq data).map fun req => .moveReq accountId req.x req.y req.z req.yaw
  else if id = PacketId.clientGatewayAttackReq then
    (env.parseAttackReq data).map fun _ => .attackReq accountId
  else none

omit [DecidableEq ι] in
theorem requestOf_account {accountId : String} {id : UInt16} {data : List UInt8} {m : ToGame F}
    (h : requestOf env accountId id data = some m) :
    m.accountId = accountId ∧ m.isRequest = true := by
  unfold requestOf at h
  repeat' split at h
  all_goals simp only [Option.map_eq_some_iff, reduceCtorEq] at h
  all_goals
    obtain ⟨req, -, rfl⟩ := h
    exact ⟨rfl, rfl⟩

/-- One more payload that does not parse closes the session. -/
def LastViolation (s : Gateway ι F Key) (i : ι) : Prop :=
  SecurityConstants.maxParseViolations ≤ (s.sessions i).parseTracker.violationCount + 1

omit [DecidableEq ι] in
instance (s : Gateway ι F Key) (i : ι) : Decidable (s.LastViolation i) :=
  inferInstanceAs (Decidable (_ ≤ _))

/-- The outcomes of a dispatch: nothing is passed on, a request is passed on,
    the session is verified for an account, or it is closed. -/
inductive DispatchEffect (env : GatewayEnv F Key) (s : Gateway ι F Key) (i : ι) (id : UInt16)
    (data : List UInt8) : Gateway ι F Key → Prop where
  | quiet {s' : Gateway ι F Key} (h : Silent (s.record (.dispatched i id)) s')
      (unrequested : ∀ m, requestOf env (s.sessions i).accountId id data = some m →
        s.gameAccepts env m = false) : DispatchEffect env s i id data s'
  | relayed {s' : Gateway ι F Key} (m : ToGame F)
      (request : requestOf env (s.sessions i).accountId id data = some m)
      (accepted : s.gameAccepts env m = true)
      (h : Silent ((s.record (.dispatched i id)).record (.forwarded i m)) s') :
      DispatchEffect env s i id data s'
  | verified {s' : Gateway ι F Key} (a : String)
      (unrequested : requestOf env (s.sessions i).accountId id data = none)
      (h : Silent (((s.record (.dispatched i id)).record (.verified i a)).authenticate i a) s') :
      DispatchEffect env s i id data s'
  | closed (s₁ : Gateway ι F Key) (h : Silent (s.record (.dispatched i id)) s₁)
      (unrequested : requestOf env (s.sessions i).accountId id data = none)
      (violation : unparsable env id data = true ∧ s.LastViolation i) :
      DispatchEffect env s i id data (s₁.onDisconnected env i)

theorem parseFailed_effect {s : Gateway ι F Key} {i : ι} {id : UInt16} {data : List UInt8}
    (hnone : requestOf env (s.sessions i).accountId id data = none)
    (hun : unparsable env id data = true) :
    DispatchEffect env s i id data ((s.record (.dispatched i id)).parseFailed env i) := by
  have hsilent : Silent (s.record (.dispatched i id)) ((s.record (.dispatched i id)).modify i
      fun c => { c with parseTracker := ⟨(s.sessions i).parseTracker.violationCount + 1⟩ }) :=
    modify_silent _ i rfl rfl rfl
  unfold parseFailed ParseViolationTracker.onParseFailure
  dsimp only
  split
  · rename_i hviolated
    exact .closed _ hsilent hnone ⟨hun, of_decide_eq_true hviolated⟩
  · exact .quiet hsilent (by simp [hnone])

/-- The three relaying handlers, from what they parse and request. -/
theorem relay_effect {R : Type} {parse : List UInt8 → Option R} {make : String → R → ToGame F}
    {s : Gateway ι F Key} {i : ι} {id : UInt16} {data : List UInt8}
    (hrequest : requestOf env (s.sessions i).accountId id data
      = (parse data).map (make (s.sessions i).accountId))
    (hun : unparsable env id data = (parse data).isNone) :
    DispatchEffect env s i id data (relay env parse make (s.record (.dispatched i id)) i data) := by
  unfold relay
  cases hparse : parse data with
  | none => exact parseFailed_effect (by simp [hrequest, hparse]) (by simp [hun, hparse])
  | some req =>
      have hparsed : Silent (s.record (.dispatched i id))
          ((s.record (.dispatched i id)).parseSucceeded i) := modify_silent _ i rfl rfl rfl
      have haccount : (((s.record (.dispatched i id)).parseSucceeded i).sessions i).accountId
          = (s.sessions i).accountId := hparsed.account i
      have hm : requestOf env (s.sessions i).accountId id data
          = some (make (s.sessions i).accountId req) := by simp [hrequest, hparse]
      dsimp only
      rw [haccount]
      unfold gameSend
      split
      · rename_i haccepted
        exact .relayed _ hm haccepted
          ⟨hparsed.account, hparsed.accepted, hparsed.reading, rfl, rfl⟩
      · rename_i hrefused
        refine .quiet hparsed ?_
        intro m hm'
        rw [hm, Option.some.injEq] at hm'
        subst hm'
        exact Bool.eq_false_iff.mpr hrefused

omit [DecidableEq ι] in
theorem record_silent {s s' : Gateway ι F Key} (h : Silent s s') (e : Event ι F) :
    Silent (s.record e) (s'.record e) :=
  ⟨h.account, h.accepted, h.reading, h.clientMap, congrArg (e :: ·) h.trace⟩

theorem authenticate_silent {s s' : Gateway ι F Key} (h : Silent s s') (i : ι) (a : String) :
    Silent (s.authenticate i a) (s'.authenticate i a) := by
  refine ⟨?_, ?_, ?_, ?_, h.trace⟩
  · intro j
    by_cases hj : j = i
    · simp [authenticate, modify, hj]
    · simpa [authenticate, modify, hj] using h.account j
  · intro j
    by_cases hj : j = i
    · simpa [authenticate, modify, hj] using h.accepted i
    · simpa [authenticate, modify, hj] using h.accepted j
  · intro j
    by_cases hj : j = i
    · simpa [authenticate, modify, hj] using h.reading i
    · simpa [authenticate, modify, hj] using h.reading j
  · simp [authenticate, h.clientMap]

theorem connect_effect {s : Gateway ι F Key} {i : ι} {data : List UInt8} {nowMs : Int} :
    DispatchEffect env s i PacketId.clientGatewayConnectReq data
      ((s.record (.dispatched i PacketId.clientGatewayConnectReq)).handleGatewayConnectReq
        env i data nowMs) := by
  have hnone : requestOf env (s.sessions i).accountId PacketId.clientGatewayConnectReq data
      = none := by
    simp [requestOf, PacketId.clientGatewayConnectReq, PacketId.clientGatewayChatReq,
      PacketId.clientGatewayMoveReq, PacketId.clientGatewayAttackReq]
  unfold handleGatewayConnectReq
  split
  · rename_i hparse
    exact parseFailed_effect hnone (by simp [unparsable, hparse])
  · rename_i req hparse
    generalize hs₀ : s.record (.dispatched i PacketId.clientGatewayConnectReq) = s₀
    have hparsed : Silent s₀ (s₀.parseSucceeded i) := modify_silent _ i rfl rfl rfl
    have htoken := verifyAndConsumeToken_silent (s₀.parseSucceeded i) req.accountId
      req.sessionToken nowMs
    dsimp only
    split
    · rename_i s₁ hverify
      rw [hverify] at htoken
      refine .quiet ?_ (by simp [hnone])
      rw [hs₀]
      exact (hparsed.trans htoken).trans (send_silent s₁ i _ _)
    · rename_i s₁ hverify
      rw [hverify] at htoken
      have h₁ : Silent s₀ s₁ := hparsed.trans htoken
      refine .verified req.accountId hnone ?_
      rw [hs₀]
      have hauth : Silent ((s₀.record (.verified i req.accountId)).authenticate i req.accountId)
          ((s₁.record (.verified i req.accountId)).authenticate i req.accountId) :=
        authenticate_silent (record_silent h₁ _) i req.accountId
      exact (hauth.trans (send_silent _ i _ _)).trans (enableEncryption_silent _ i)

theorem dispatch_effect (env : GatewayEnv F Key) (s : Gateway ι F Key) (i : ι) (id : UInt16)
    (data : List UInt8) (nowMs : Int) :
    DispatchEffect env s i id data (s.dispatch env i id data nowMs) := by
  unfold dispatch
  dsimp only
  by_cases hconnect : id = PacketId.clientGatewayConnectReq
  · rw [if_pos hconnect, hconnect]
    exact connect_effect
  rw [if_neg hconnect]
  by_cases hchat : id = PacketId.clientGatewayChatReq
  · rw [if_pos hchat]
    exact relay_effect (by rw [requestOf, if_pos hchat])
      (by rw [unparsable, if_neg hconnect, if_pos hchat])
  rw [if_neg hchat]
  by_cases hmove : id = PacketId.clientGatewayMoveReq
  · rw [if_pos hmove]
    exact relay_effect (by rw [requestOf, if_neg hchat, if_pos hmove])
      (by rw [unparsable, if_neg hconnect, if_neg hchat, if_pos hmove])
  rw [if_neg hmove]
  by_cases hattack : id = PacketId.clientGatewayAttackReq
  · rw [if_pos hattack]
    exact relay_effect (by rw [requestOf, if_neg hchat, if_neg hmove, if_pos hattack])
      (by rw [unparsable, if_neg hconnect, if_neg hchat, if_neg hmove, if_pos hattack])
  · rw [if_neg hattack]
    exact .quiet (Silent.refl _) (by simp [requestOf, hchat, hmove, hattack])

/-! ## What a step can do -/

/-- The packet that the step hands to the dispatcher, with its session. -/
def dispatchOf (env : GatewayEnv F Key) (s : Gateway ι F Key) :
    Label ι → Option (ι × UInt16 × List UInt8)
  | .headerRead i h now _ =>
      match ((s.sessions i).inspectHeader h now).1 with
      | .dispatch => some (i, h.id, [])
      | _ => none
  | .payloadRead i bytes _ =>
      match (s.sessions i).reading with
      | some (.payload _) =>
          ((s.sessions i).openPayload env bytes).1.map fun data =>
            (i, (s.sessions i).header.id, data)
      | _ => none
  | _ => none

/-- No account, map entry or history changes, and no read is started. -/
structure Passive (s s' : Gateway ι F Key) : Prop where
  account : ∀ j, (s'.sessions j).accountId = (s.sessions j).accountId
  accepted : ∀ j, (s'.sessions j).accepted = (s.sessions j).accepted
  reading : ∀ j, (s'.sessions j).reading ≠ none → (s.sessions j).reading ≠ none
  clientMap : s'.clientMap = s.clientMap
  trace : s'.trace = s.trace

omit [DecidableEq ι] in
theorem Silent.passive {s s' : Gateway ι F Key} (h : Silent s s') : Passive s s' :=
  ⟨h.account, h.accepted, fun j hj => h.reading j ▸ hj, h.clientMap, h.trace⟩

/-- The update of one session at the beginning of a callback. -/
theorem modify_passive (s : Gateway ι F Key) (i : ι) {c : ClientSession Key}
    (haccount : c.accountId = (s.sessions i).accountId)
    (haccepted : c.accepted = (s.sessions i).accepted)
    (hreading : c.reading ≠ none → (s.sessions i).reading ≠ none) :
    Passive s (s.modify i fun _ => c) := by
  refine ⟨modify_field (·.accountId) s i haccount, modify_field (·.accepted) s i haccepted,
    ?_, rfl, rfl⟩
  intro j hj
  by_cases hji : j = i
  · subst hji
    rw [modify_self] at hj
    exact hreading hj
  · rwa [modify_other s _ hji] at hj

/-- A callback that had a read to complete may start the next one. -/
theorem Passive.setReading {s s' : Gateway ι F Key} (h : Passive s s') {i : ι}
    (hi : (s.sessions i).reading ≠ none) (op : Option ReadOp) :
    Passive s (s'.setReading i op) := by
  refine ⟨fun j => ?_, fun j => ?_, ?_, h.clientMap, h.trace⟩
  · rw [setReading_account, h.account]
  · rw [setReading_accepted, h.accepted]
  · intro j hj
    by_cases hji : j = i
    · rwa [hji]
    · rw [setReading_other s' op hji] at hj
      exact h.reading j hj

/-- The completion of a write that failed fatally runs next on the strand. -/
def FatalWrite (s : Gateway ι F Key) (i : ι) : Prop :=
  ∃ p ec rest, (s.sessions i).strand = .written p ec :: rest ∧ shouldDisconnect ec = true

/-- A step accepts a session, does nothing that matters here, closes a session
    whose read it has completed or whose write failed, or dispatches a packet
    and reads on. -/
inductive StepEffect (env : GatewayEnv F Key) (s : Gateway ι F Key) :
    Label ι → Gateway ι F Key → Prop where
  | accepts (i : ι) (now : Nat) (new : (s.sessions i).accepted = false) :
      StepEffect env s (.accept i now) (s.modify i fun c =>
        { c with accepted := true, reading := some .header, rateLimiter := ⟨now, 0⟩ })
  | passive {label : Label ι} {s' : Gateway ι F Key} (undispatched : dispatchOf env s label = none)
      (h : Passive s s') : StepEffect env s label s'
  | disconnects {label : Label ι} (i : ι) (s₁ : Gateway ι F Key)
      (undispatched : dispatchOf env s label = none) (h : Passive s s₁)
      (cause : ((s.sessions i).reading ≠ none ∧ (s₁.sessions i).reading = none) ∨
        (label = .runStrand i ∧ (s.sessions i).accepted = true ∧ s.FatalWrite i)) :
      StepEffect env s label (s₁.onDisconnected env i)
  | dispatches {label : Label ι} (i : ι) (id : UInt16) (data : List UInt8) (nowMs : Int)
      (s₁ : Gateway ι F Key) (dispatched : dispatchOf env s label = some (i, id, data))
      (h : Passive s s₁) (reading : (s.sessions i).reading ≠ none)
      (gameOpen : s₁.gameOpen = s.gameOpen)
      (tracker : (s₁.sessions i).parseTracker = (s.sessions i).parseTracker) :
      StepEffect env s label ((s₁.dispatch env i id data nowMs).setReading i (some .header))

omit [DecidableEq ι] in
theorem inspectHeader_fields (c : ClientSession Key) (h : PacketHeader) (now : Nat) :
    (c.inspectHeader h now).2.accountId = c.accountId ∧
      (c.inspectHeader h now).2.accepted = c.accepted ∧
      (c.inspectHeader h now).2.parseTracker = c.parseTracker := by
  unfold ClientSession.inspectHeader
  dsimp only
  repeat' split
  all_goals exact ⟨rfl, rfl, rfl⟩

omit [DecidableEq ι] in
theorem openPayload_fields (env : GatewayEnv F Key) (c : ClientSession Key)
    (bytes : List UInt8) :
    (c.openPayload env bytes).2.accountId = c.accountId ∧
      (c.openPayload env bytes).2.accepted = c.accepted ∧
      (c.openPayload env bytes).2.parseTracker = c.parseTracker ∧
      (c.openPayload env bytes).2.header = c.header := by
  unfold ClientSession.openPayload
  repeat' split
  all_goals exact ⟨rfl, rfl, rfl, rfl⟩

theorem headerRead_effect {s : Gateway ι F Key} {i : ι} {h : PacketHeader} {now : Nat}
    {nowMs : Int} (hread : (s.sessions i).reading ≠ none) :
    StepEffect env s (.headerRead i h now nowMs) (s.headerRead env i h now nowMs) := by
  obtain ⟨haccount, haccepted, htracker⟩ := inspectHeader_fields (s.sessions i) h now
  have hdispatch : ∀ action, ((s.sessions i).inspectHeader h now).1 = action →
      action ≠ .dispatch → dispatchOf env s (.headerRead i h now nowMs) = none := by
    intro action haction hne
    simp only [dispatchOf, haction]
  unfold headerRead
  generalize hr : (s.sessions i).inspectHeader h now = r at *
  obtain ⟨action, c⟩ := r
  have hpassive : Passive s (s.modify i fun _ => { c with header := h, reading := none }) :=
    modify_passive s i haccount haccepted (by simp)
  cases action with
  | disconnect =>
      exact .disconnects i _ (hdispatch _ rfl (by simp)) hpassive (Or.inl ⟨hread, by simp⟩)
  | skip => exact .passive (hdispatch _ rfl (by simp)) (hpassive.setReading hread _)
  | drop size => exact .passive (hdispatch _ rfl (by simp)) (hpassive.setReading hread _)
  | dispatch =>
      refine .dispatches i h.id [] nowMs _ ?_ hpassive hread rfl ?_
      · simp only [dispatchOf, hr]
      · rw [modify_self]
        exact htracker
  | read size => exact .passive (hdispatch _ rfl (by simp)) (hpassive.setReading hread _)

theorem payloadRead_effect {s : Gateway ι F Key} {i : ι} {bytes : List UInt8} {nowMs : Int}
    {size : UInt16} (hread : (s.sessions i).reading = some (.payload size)) :
    StepEffect env s (.payloadRead i bytes nowMs) (s.payloadRead env i bytes nowMs) := by
  obtain ⟨haccount, haccepted, htracker, hheader⟩ :=
    openPayload_fields env (s.sessions i) bytes
  have hne : (s.sessions i).reading ≠ none := by simp [hread]
  unfold payloadRead
  generalize hr : (s.sessions i).openPayload env bytes = r at *
  obtain ⟨data, c⟩ := r
  have hpassive : Passive s (s.modify i fun _ => { c with reading := none }) :=
    modify_passive s i haccount haccepted (by simp)
  cases data with
  | none =>
      exact .disconnects i _ (by simp [dispatchOf, hread, hr]) hpassive
        (Or.inl ⟨hne, by simp⟩)
  | some data =>
      refine .dispatches i c.header.id data nowMs _ ?_ hpassive hne rfl ?_
      · simp only [dispatchOf, hread, hr, Option.map_some, ← hheader]
      · rw [modify_self]
        exact htracker

theorem readFails_effect {s : Gateway ι F Key} {i : ι} {op : ReadOp} {ec : ErrorCode}
    (hread : (s.sessions i).reading = some op) :
    StepEffect env s (.readFails i ec) (s.readFails env i op ec) := by
  have hne : (s.sessions i).reading ≠ none := by simp [hread]
  have hpassive : Passive s (s.setReading i none) := (Silent.refl s).passive.setReading hne none
  have hdisconnects : StepEffect env s (.readFails i ec)
      ((s.setReading i none).onDisconnected env i) :=
    .disconnects i _ rfl hpassive (Or.inl ⟨hne, setReading_self s i none⟩)
  unfold readFails
  dsimp only
  repeat' split
  · exact hdisconnects
  · exact hdisconnects
  · exact .passive rfl hpassive

theorem runTask_effect {s : Gateway ι F Key} {i : ι} {task : SessionTask}
    {rest : List SessionTask} (hstrand : (s.sessions i).strand = task :: rest)
    (haccepted : (s.sessions i).accepted = true) :
    StepEffect env s (.runStrand i)
      ((s.modify i fun c => { c with strand := rest }).runTask env i task) := by
  have htail : Silent s (s.modify i fun c => { c with strand := rest }) :=
    modify_silent s i rfl rfl rfl
  cases task with
  | send p =>
      have hsend := htail.trans (modify_silent (s.modify i fun c => { c with strand := rest }) i
        (f := fun c => { c with writes := enqueue c.writes p }) rfl rfl rfl)
      exact .passive rfl hsend.passive
  | written p ec =>
      show StepEffect env s (.runStrand i)
        ((s.modify i fun c => { c with strand := rest }).writeCompleted env i p ec)
      unfold writeCompleted
      split
      · exact .passive rfl (htail.trans (modify_silent _ i rfl rfl rfl)).passive
      · have hfail := htail.trans (modify_silent (s.modify i fun c => { c with strand := rest }) i
          (f := fun c => { c with writes := c.writes.fail p }) rfl rfl rfl)
        dsimp only
        split
        · rename_i hfatal
          exact .disconnects i _ rfl hfail.passive
            (Or.inr ⟨rfl, haccepted, p, ec, rest, hstrand, hfatal⟩)
        · exact .passive rfl hfail.passive

theorem step_effect {s s' : Gateway ι F Key} {label : Label ι}
    (hstep : step env s label = some s') : StepEffect env s label s' := by
  cases step_inv hstep with
  | accept i now new => exact .accepts i now new
  | headerRead h now nowMs reading => exact headerRead_effect (by simp [reading])
  | payloadRead nowMs reading length => exact payloadRead_effect reading
  | payloadDropped nowMs reading length =>
      exact .passive (by simp [dispatchOf, reading])
        ((Silent.refl s).passive.setReading (by simp [reading]) _)
  | readFails reading failed => exact readFails_effect reading
  | @writeEnds i p ec outstanding running =>
      exact .passive rfl (modify_silent s i rfl rfl rfl).passive
  | runStrand accepted strand => exact runTask_effect strand accepted
  | gamePacket id payload => exact .passive rfl (gameDispatch_silent s id payload).passive
  | gameLink isOpen =>
      exact .passive rfl ⟨fun _ => rfl, fun _ => rfl, fun _ hj => hj, rfl, rfl⟩

/-- What is dispatched is what a session has read. -/
theorem dispatched_reading {s s' : Gateway ι F Key} {label : Label ι} {i : ι} {id : UInt16}
    {data : List UInt8} (hdispatch : dispatchOf env s label = some (i, id, data))
    (hstep : step env s label = some s') : (s.sessions i).reading ≠ none := by
  cases step_effect hstep with
  | accepts => cases hdispatch
  | passive undispatched =>
      rw [undispatched] at hdispatch
      cases hdispatch
  | disconnects _ _ undispatched =>
      rw [undispatched] at hdispatch
      cases hdispatch
  | dispatches i id data nowMs s₁ dispatched h reading =>
      rw [dispatched] at hdispatch
      cases hdispatch
      exact reading

/-! ## Pending reads -/

theorem authenticate_fields (s : Gateway ι F Key) (i : ι) (a : String) (j : ι) :
    ((s.authenticate i a).sessions j).accepted = (s.sessions j).accepted ∧
      ((s.authenticate i a).sessions j).reading = (s.sessions j).reading := by
  let f : ClientSession Key → ClientSession Key := fun c => { c with accountId := a }
  have haccepted := modify_field (·.accepted) s i (f := f) rfl j
  have hreading := modify_field (·.reading) s i (f := f) rfl j
  exact ⟨haccepted, hreading⟩

/-- The two states have the same sessions accepted and the same reads pending. -/
def SameReads (s s' : Gateway ι F Key) : Prop :=
  ∀ j, (s'.sessions j).accepted = (s.sessions j).accepted ∧
    (s'.sessions j).reading = (s.sessions j).reading

theorem DispatchEffect.reads {s s' : Gateway ι F Key} {i : ι} {id : UInt16} {data : List UInt8}
    (h : DispatchEffect env s i id data s') : SameReads s s' := by
  intro j
  cases h with
  | quiet h => exact ⟨h.accepted j, h.reading j⟩
  | relayed m request accepted h => exact ⟨h.accepted j, h.reading j⟩
  | verified a unrequested h =>
      obtain ⟨haccepted, hreading⟩ := authenticate_fields
        ((s.record (.dispatched i id)).record (.verified i a)) i a j
      exact ⟨(h.accepted j).trans haccepted, (h.reading j).trans hreading⟩
  | closed s₁ h =>
      obtain ⟨-, haccepted, hreading⟩ := onDisconnected_sessions env s₁ i j
      exact ⟨haccepted.trans (h.accepted j), hreading.trans (h.reading j)⟩

/-- Reads are pending on accepted sessions only. -/
def ReadsAccepted (s : Gateway ι F Key) : Prop :=
  ∀ j, (s.sessions j).reading ≠ none → (s.sessions j).accepted = true

/-- The session has been accepted and has no read pending. -/
def Waits (s : Gateway ι F Key) (j : ι) : Prop :=
  (s.sessions j).accepted = true ∧ (s.sessions j).reading = none

section SameReads
omit [DecidableEq ι]

theorem Silent.sameReads {s s' : Gateway ι F Key} (h : Silent s s') : SameReads s s' :=
  fun j => ⟨h.accepted j, h.reading j⟩

theorem SameReads.trans {s₁ s₂ s₃ : Gateway ι F Key} (h : SameReads s₁ s₂)
    (h' : SameReads s₂ s₃) : SameReads s₁ s₃ :=
  fun j => ⟨(h' j).1.trans (h j).1, (h' j).2.trans (h j).2⟩

theorem SameReads.readsAccepted {s s' : Gateway ι F Key} (h : SameReads s s')
    (hs : s.ReadsAccepted) : s'.ReadsAccepted := by
  intro j hj
  rw [(h j).1]
  exact hs j ((h j).2 ▸ hj)

theorem SameReads.waits {s s' : Gateway ι F Key} (h : SameReads s s') {j : ι}
    (hs : s.Waits j) : s'.Waits j :=
  ⟨(h j).1.trans hs.1, (h j).2.trans hs.2⟩

end SameReads

/-- A session that waits is left alone by every step of the gateway. -/
theorem step_reads {s s' : Gateway ι F Key} {label : Label ι} (hs : s.ReadsAccepted)
    (hstep : step env s label = some s') :
    s'.ReadsAccepted ∧ ∀ j, s.Waits j → s'.Waits j := by
  have hmono : ∀ {t : Gateway ι F Key},
      (∀ j, (t.sessions j).accepted = (s.sessions j).accepted) →
      (∀ j, (t.sessions j).reading ≠ none → (s.sessions j).reading ≠ none) →
        t.ReadsAccepted ∧ ∀ j, s.Waits j → t.Waits j := by
    intro t haccepted hreading
    refine ⟨fun j hj => ?_, fun j hj => ⟨?_, ?_⟩⟩
    · rw [haccepted]
      exact hs j (hreading j hj)
    · rw [haccepted, hj.1]
    · by_contra hsome
      exact hreading j hsome hj.2
  cases step_effect hstep with
  | accepts i now new =>
      refine ⟨fun j hj => ?_, fun j hj => ?_⟩
      · by_cases hji : j = i
        · simp [hji]
        · rw [modify_other _ _ hji] at hj ⊢
          exact hs j hj
      · have hji : j ≠ i := by
          rintro rfl
          rw [hj.1] at new
          cases new
        unfold Waits
        rwa [modify_other _ _ hji]
  | passive undispatched h => exact hmono h.accepted h.reading
  | disconnects i s₁ undispatched h cause =>
      refine hmono (fun j => ?_) (fun j hj => ?_)
      · rw [(onDisconnected_sessions env s₁ i j).2.1, h.accepted]
      · rw [(onDisconnected_sessions env s₁ i j).2.2] at hj
        exact h.reading j hj
  | dispatches i id data nowMs s₁ dispatched h reading gameOpen tracker =>
      have heffect := (dispatch_effect env s₁ i id data nowMs).reads
      refine hmono (fun j => ?_) (fun j hj => ?_)
      · rw [setReading_accepted, (heffect j).1, h.accepted]
      · by_cases hji : j = i
        · exact hji ▸ reading
        · rw [setReading_other _ _ hji, (heffect j).2] at hj
          exact h.reading j hj

end Gateway

end MMOServers.GatewayServer
