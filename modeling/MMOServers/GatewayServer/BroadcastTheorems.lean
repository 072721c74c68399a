/-
MMOServers.GatewayServer.BroadcastTheorems — who gets what the game server sends.

The game server lists the accounts that a move, an attack or a chat line is for;
the gateway looks every one up in `clientMap`. `response` is what the three
handlers make of a packet, before anybody is looked up. Two questions are
answered here for every run. Whom does a listed account lead to: the session
that the history says holds it (`Faithful`), which is the session last verified
for it. And who else notices: nobody, since every other step of a gateway
touches the session it is a step of (`step_touches`).
-/
import MMOServers.GatewayServer.ClientMapTheorems
import MMOServers.GatewayServer.SessionInvariants

namespace MMOServers.GatewayServer

open MMOServers.Common Transition

namespace Gateway

variable {ι F Key : Type} {env : GatewayEnv F Key}

/-! ## Responses -/

/-- What a packet of the game server is passed on as: the id and the message for
    the clients, and the accounts they are for. -/
def response (env : GatewayEnv F Key) (id : UInt16) (payload : List UInt8) :
    Option (UInt16 × List UInt8 × List String) :=
  if id = PacketId.gameGatewayMoveRes then
    (env.parseMoveRes payload).map fun res =>
      (PacketId.gatewayClientMoveRes,
        env.serializeMoveRes ⟨res.accountId, res.x, res.y, res.z, res.yaw⟩, res.targetAccountIds)
  else if id = PacketId.gameGatewayAttackRes then
    (env.parseAttackRes payload).map fun res =>
      (PacketId.gatewayClientAttackRes,
        env.serializeAttackRes
          ⟨res.attackerUid, res.targetAccountId, res.damage, res.targetRemainHp⟩,
        res.targetAccountIds)
  else if id = PacketId.gameGatewayChatRes then
    (env.parseChatRes payload).map fun res =>
      (PacketId.gatewayClientChatRes, env.serializeChatRes ⟨res.accountId, res.msg⟩,
        res.targetAccountIds)
  else none

/-- `j` was verified for the account, and nobody else since. -/
def LastVerified (trace : List (Event ι F)) (a : String) (j : ι) : Prop :=
  ∃ newer older, trace = newer ++ .verified j a :: older ∧ ∀ k, .verified k a ∉ newer

theorem LastVerified.cons {trace : List (Event ι F)} {a : String} {j : ι}
    (h : LastVerified trace a j) {e : Event ι F} (he : ∀ k, e ≠ .verified k a) :
    LastVerified (e :: trace) a j := by
  obtain ⟨newer, older, rfl, hnewer⟩ := h
  refine ⟨e :: newer, older, rfl, fun k hk => ?_⟩
  cases List.mem_cons.mp hk with
  | inl heq => exact he k heq.symm
  | inr hmem => exact hnewer k hmem

variable [DecidableEq ι]

/-- The holder of an account is who was last verified for it. -/
theorem holder_lastVerified {trace : List (Event ι F)} {a : String} {j : ι}
    (h : holder trace a = some j) : LastVerified trace a j := by
  induction trace with
  | nil => cases h
  | cons e older ih =>
      cases e with
      | verified i b =>
          simp only [holder] at h
          split at h
          · rename_i hab
            obtain rfl : i = j := Option.some.inj h
            exact ⟨[], older, by rw [hab]; rfl, fun k hk => by cases hk⟩
          · rename_i hab
            refine (ih h).cons fun k hk => ?_
            cases hk
            exact hab rfl
      | dispatched i id => exact (ih h).cons fun k hk => by cases hk
      | forwarded i m => exact (ih h).cons fun k hk => by cases hk
      | disconnected i =>
          simp only [holder] at h
          split at h
          · cases h
          · exact (ih h).cons fun k hk => by cases hk

/-! ## Broadcasts -/

/-- The same message to one session after the other. -/
def sendAll (env : GatewayEnv F Key) (pktId : UInt16) (serialized : List UInt8)
    (recipients : List ι) (s : Gateway ι F Key) : Gateway ι F Key :=
  recipients.foldl (fun s i => s.send env i pktId serialized) s

/-- Sending does not change where the accounts lead, so a broadcast may look all
    of them up first. -/
theorem broadcast_eq (s : Gateway ι F Key) (pktId : UInt16) (serialized : List UInt8)
    (targets : List String) :
    s.broadcast env pktId serialized targets
      = sendAll env pktId serialized (targets.filterMap s.clientMap) s := by
  induction targets generalizing s with
  | nil => rfl
  | cons target targets ih =>
      unfold broadcast
      cases hmap : s.clientMap target with
      | none =>
          rw [List.filterMap_cons_none hmap]
          exact ih s
      | some i =>
          have hkept : (s.send env i pktId serialized).clientMap = s.clientMap :=
            (send_silent s i pktId serialized).clientMap
          rw [List.filterMap_cons_some hmap]
          show (s.send env i pktId serialized).broadcast env pktId serialized targets = _
          rw [ih, hkept]
          rfl

theorem sendAll_other (s : Gateway ι F Key) (pktId : UInt16) (serialized : List UInt8)
    {recipients : List ι} {j : ι} (h : j ∉ recipients) :
    (sendAll env pktId serialized recipients s).sessions j = s.sessions j := by
  induction recipients generalizing s with
  | nil => rfl
  | cons i recipients ih =>
      rw [List.mem_cons, not_or] at h
      obtain ⟨hi, hrest⟩ := h
      exact (ih (s.send env i pktId serialized) hrest).trans (send_other s pktId serialized hi)

theorem gameDispatch_response {s : Gateway ι F Key} {id pktId : UInt16}
    {payload serialized : List UInt8} {targets : List String}
    (h : response env id payload = some (pktId, serialized, targets)) :
    s.gameDispatch env id payload = s.broadcast env pktId serialized targets := by
  unfold response at h
  unfold gameDispatch
  by_cases hmove : id = PacketId.gameGatewayMoveRes
  · rw [if_pos hmove] at h ⊢
    obtain ⟨res, hres, heq⟩ := Option.map_eq_some_iff.mp h
    cases heq
    simp only [handleMoveResFromGame, hres]
  rw [if_neg hmove] at h ⊢
  by_cases hattack : id = PacketId.gameGatewayAttackRes
  · rw [if_pos hattack] at h ⊢
    obtain ⟨res, hres, heq⟩ := Option.map_eq_some_iff.mp h
    cases heq
    simp only [handleGameGatewayAttackRes, hres]
  rw [if_neg hattack] at h ⊢
  by_cases hchat : id = PacketId.gameGatewayChatRes
  · rw [if_pos hchat] at h
    have hnotify : id ≠ PacketId.gameGatewayTokenNotify := by
      rw [hchat]
      decide
    obtain ⟨res, hres, heq⟩ := Option.map_eq_some_iff.mp h
    cases heq
    rw [if_neg hnotify, if_pos hchat]
    simp only [handleChatResFromGame, hres]
  · rw [if_neg hchat] at h
    cases h

/-- A packet that is no response changes no session. -/
theorem gameDispatch_sessions {s : Gateway ι F Key} {id : UInt16} {payload : List UInt8}
    (h : response env id payload = none) :
    (s.gameDispatch env id payload).sessions = s.sessions := by
  unfold response at h
  unfold gameDispatch
  by_cases hmove : id = PacketId.gameGatewayMoveRes
  · rw [if_pos hmove] at h ⊢
    simp only [handleMoveResFromGame, Option.map_eq_none_iff.mp h]
  rw [if_neg hmove] at h ⊢
  by_cases hattack : id = PacketId.gameGatewayAttackRes
  · rw [if_pos hattack] at h ⊢
    simp only [handleGameGatewayAttackRes, Option.map_eq_none_iff.mp h]
  rw [if_neg hattack] at h ⊢
  by_cases hnotify : id = PacketId.gameGatewayTokenNotify
  · rw [if_pos hnotify]
    unfold handleTokenNotifyFromGame storePendingToken
    split <;> rfl
  rw [if_neg hnotify]
  by_cases hchat : id = PacketId.gameGatewayChatRes
  · rw [if_pos hchat] at h ⊢
    simp only [handleChatResFromGame, Option.map_eq_none_iff.mp h]
  · rw [if_neg hchat]

/-! ## Steps of one session -/

/-- Only the session `i` is different. -/
def Touches (i : ι) (s s' : Gateway ι F Key) : Prop :=
  ∀ j, j ≠ i → s'.sessions j = s.sessions j

section Touches
omit [DecidableEq ι]

theorem Touches.of_eq (i : ι) {s s' : Gateway ι F Key} (h : s'.sessions = s.sessions) :
    Touches i s s' := fun j _ => congrFun h j

theorem Touches.trans {i : ι} {s₁ s₂ s₃ : Gateway ι F Key} (h : Touches i s₁ s₂)
    (h' : Touches i s₂ s₃) : Touches i s₁ s₃ :=
  fun j hj => (h' j hj).trans (h j hj)

end Touches

theorem modify_touches (s : Gateway ι F Key) (i : ι)
    (f : ClientSession Key → ClientSession Key) : Touches i s (s.modify i f) :=
  fun _ hj => modify_other s f hj

theorem eraseAccount_touches (s : Gateway ι F Key) (i : ι) (a : String) :
    Touches i s (s.eraseAccount i a) :=
  modify_touches s i fun c => { c with accountId := "" }

theorem authenticate_touches (s : Gateway ι F Key) (i : ι) (a : String) :
    Touches i s (s.authenticate i a) :=
  modify_touches s i fun c => { c with accountId := a }

theorem send_touches (s : Gateway ι F Key) (i : ι) (pktId : UInt16) (serialized : List UInt8) :
    Touches i s (s.send env i pktId serialized) :=
  fun _ hj => send_other s pktId serialized hj

theorem onDisconnected_touches (s : Gateway ι F Key) (i : ι) :
    Touches i s (s.onDisconnected env i) := by
  unfold onDisconnected
  dsimp only
  split
  · exact .of_eq i rfl
  · have hsent : Touches i s ((s.record (.disconnected i)).gameSend env i
        (.leaveReq (s.sessions i).accountId)) := .of_eq i (by simp)
    exact hsent.trans (eraseAccount_touches _ i _)

theorem parseFailed_touches (s : Gateway ι F Key) (i : ι) :
    Touches i s (s.parseFailed env i) := by
  unfold parseFailed
  dsimp only
  split
  · exact (modify_touches s i _).trans (onDisconnected_touches _ i)
  · exact modify_touches s i _

theorem relay_touches {R : Type} (parse : List UInt8 → Option R)
    (request : String → R → ToGame F) (s : Gateway ι F Key) (i : ι) (payload : List UInt8) :
    Touches i s (relay env parse request s i payload) := by
  unfold relay
  split
  · exact parseFailed_touches s i
  · have hparsed : Touches i s (s.parseSucceeded i) := modify_touches s i _
    exact hparsed.trans (.of_eq i (gameSend_sessions env _ i _))

theorem handleGatewayConnectReq_touches (s : Gateway ι F Key) (i : ι) (payload : List UInt8)
    (nowMs : Int) : Touches i s (s.handleGatewayConnectReq env i payload nowMs) := by
  unfold handleGatewayConnectReq
  cases env.parseConnectReq payload with
  | none => exact parseFailed_touches s i
  | some req =>
      have hparsed : Touches i s (s.parseSucceeded i) := modify_touches s i _
      have hverified := Touches.of_eq i (verifyAndConsumeToken_sessions (s.parseSucceeded i)
        req.accountId req.sessionToken nowMs)
      dsimp only
      generalize (s.parseSucceeded i).verifyAndConsumeToken req.accountId req.sessionToken nowMs
        = r at *
      obtain ⟨ok, s₁⟩ := r
      have hbefore : Touches i s s₁ := hparsed.trans hverified
      cases ok with
      | false => exact hbefore.trans (send_touches s₁ i _ _)
      | true =>
          have hauthentic : Touches i s₁
              ((s₁.record (.verified i req.accountId)).authenticate i req.accountId) :=
            authenticate_touches (s₁.record (.verified i req.accountId)) i req.accountId
          exact ((hbefore.trans hauthentic).trans (send_touches _ i _ _)).trans
            (modify_touches _ i _)

theorem dispatch_touches (s : Gateway ι F Key) (i : ι) (id : UInt16) (payload : List UInt8)
    (nowMs : Int) : Touches i s (s.dispatch env i id payload nowMs) := by
  have hrecord : Touches i s (s.record (.dispatched i id)) := .of_eq i rfl
  refine hrecord.trans ?_
  unfold dispatch
  dsimp only
  split
  · exact handleGatewayConnectReq_touches _ i payload nowMs
  split
  · exact relay_touches _ _ _ i payload
  split
  · exact relay_touches _ _ _ i payload
  split
  · exact relay_touches _ _ _ i payload
  · exact .of_eq i rfl

/-- The session whose callback the step runs. -/
def Label.session : Label ι → Option ι
  | .accept i _ => some i
  | .headerRead i _ _ _ => some i
  | .payloadRead i _ _ => some i
  | .readFails i _ => some i
  | .writeEnds i _ _ => some i
  | .runStrand i => some i
  | .gamePacket _ _ => none
  | .gameLink _ => none

theorem headerRead_touches (s : Gateway ι F Key) (i : ι) (h : PacketHeader) (now : Nat)
    (nowMs : Int) : Touches i s (s.headerRead env i h now nowMs) := by
  unfold headerRead
  generalize (s.sessions i).inspectHeader h now = r
  obtain ⟨action, c⟩ := r
  have hread : Touches i s (s.modify i fun _ => { c with header := h, reading := none }) :=
    modify_touches s i _
  refine hread.trans ?_
  cases action with
  | disconnect => exact onDisconnected_touches _ i
  | skip => exact modify_touches _ i _
  | drop size => exact modify_touches _ i _
  | dispatch => exact (dispatch_touches _ i h.id [] nowMs).trans (modify_touches _ i _)
  | read size => exact modify_touches _ i _

theorem payloadRead_touches (s : Gateway ι F Key) (i : ι) (bytes : List UInt8) (nowMs : Int) :
    Touches i s (s.payloadRead env i bytes nowMs) := by
  unfold payloadRead
  generalize (s.sessions i).openPayload env bytes = r
  obtain ⟨data, c⟩ := r
  have hread : Touches i s (s.modify i fun _ => { c with reading := none }) :=
    modify_touches s i _
  refine hread.trans ?_
  cases data with
  | none => exact onDisconnected_touches _ i
  | some data => exact (dispatch_touches _ i c.header.id data nowMs).trans (modify_touches _ i _)

theorem readFails_touches (s : Gateway ι F Key) (i : ι) (op : ReadOp) (ec : ErrorCode) :
    Touches i s (s.readFails env i op ec) := by
  have hread : Touches i s (s.setReading i none) := modify_touches s i _
  have hclosed : Touches i s ((s.setReading i none).onDisconnected env i) :=
    hread.trans (onDisconnected_touches (s.setReading i none) i)
  unfold readFails
  dsimp only
  split
  · exact hclosed
  · split
    · exact hclosed
    · exact hread

theorem runTask_touches (s : Gateway ι F Key) (i : ι) (task : SessionTask) :
    Touches i s (s.runTask env i task) := by
  cases task with
  | send p => exact modify_touches s i fun c => { c with writes := enqueue c.writes p }
  | written p ec =>
      show Touches i s (s.writeCompleted env i p ec)
      unfold writeCompleted
      split
      · exact modify_touches s i _
      · dsimp only
        split
        · exact (modify_touches s i _).trans (onDisconnected_touches _ i)
        · exact modify_touches s i _

/-- A step of a session touches that session only. -/
theorem step_touches {s s' : Gateway ι F Key} {label : Label ι} {i : ι}
    (hstep : step env s label = some s') (hi : label.session = some i) : Touches i s s' := by
  cases step_inv hstep with
  | accept j now new =>
      obtain rfl : j = i := Option.some.inj hi
      exact modify_touches s j _
  | headerRead h now nowMs reading =>
      obtain rfl := Option.some.inj hi
      exact headerRead_touches s _ h now nowMs
  | payloadRead nowMs reading length =>
      obtain rfl := Option.some.inj hi
      exact payloadRead_touches s _ _ nowMs
  | payloadDropped nowMs reading length =>
      obtain rfl := Option.some.inj hi
      exact modify_touches s _ _
  | readFails reading failed =>
      obtain rfl := Option.some.inj hi
      exact readFails_touches s _ _ _
  | writeEnds ec outstanding running =>
      obtain rfl := Option.some.inj hi
      exact modify_touches s _ _
  | runStrand accepted strand =>
      obtain rfl := Option.some.inj hi
      exact (modify_touches s _ _).trans (runTask_touches _ _ _)
  | gamePacket id payload => cases hi
  | gameLink isOpen => cases hi

/-! ## Deliveries -/

/-- A response goes once to the holder of each account it lists, in the order of
    the list; and a session is touched by its own steps and by the responses to
    accounts that it was the last to be verified for, and by nothing else. -/
structure Delivers (env : GatewayEnv F Key) (s : Gateway ι F Key) (label : Label ι) : Prop where
  delivered : ∀ id payload pktId serialized targets, label = .gamePacket id payload →
    response env id payload = some (pktId, serialized, targets) →
      step env s label
        = some (sendAll env pktId serialized (targets.filterMap (holder s.trace)) s)
  addressed : ∀ s' j, step env s label = some s' → s'.sessions j ≠ s.sessions j →
    label.session = some j ∨
      ∃ id payload pktId serialized targets, label = .gamePacket id payload ∧
        response env id payload = some (pktId, serialized, targets) ∧
        ∃ a ∈ targets, LastVerified s.trace a j

theorem Faithful.gameDispatch {s : Gateway ι F Key} (h : s.Faithful) {id pktId : UInt16}
    {payload serialized : List UInt8} {targets : List String}
    (hresponse : response env id payload = some (pktId, serialized, targets)) :
    s.gameDispatch env id payload
      = sendAll env pktId serialized (targets.filterMap (Gateway.holder s.trace)) s := by
  have hmap : s.clientMap = Gateway.holder s.trace := funext h.holder
  rw [gameDispatch_response hresponse, broadcast_eq, hmap]

theorem Faithful.delivers {s : Gateway ι F Key} (h : s.Faithful) (label : Label ι) :
    Delivers env s label where
  delivered := by
    rintro id payload pktId serialized targets rfl hresponse
    exact congrArg some (h.gameDispatch hresponse)
  addressed := by
    intro s' j hstep hchanged
    cases hsession : label.session with
    | some i =>
        by_cases hji : j = i
        · exact Or.inl (by rw [hji])
        · exact absurd (step_touches hstep hsession j hji) hchanged
    | none =>
        right
        cases step_inv hstep with
        | gamePacket id payload =>
            cases hresponse : response env id payload with
            | none => exact absurd (by rw [gameDispatch_sessions hresponse]) hchanged
            | some r =>
                obtain ⟨pktId, serialized, targets⟩ := r
                refine ⟨id, payload, pktId, serialized, targets, rfl, hresponse, ?_⟩
                rw [h.gameDispatch hresponse] at hchanged
                by_contra hnone
                refine hchanged (sendAll_other s pktId serialized fun hmem => hnone ?_)
                obtain ⟨a, ha, hheld⟩ := List.mem_filterMap.mp hmem
                exact ⟨a, ha, holder_lastVerified hheld⟩
        | gameLink isOpen => exact absurd rfl hchanged
        | _ => cases hsession

/-- On every run. -/
theorem always_delivers (env : GatewayEnv F Key) (labels : List (Label ι)) :
    Meets (step env) (Delivers env) start labels := by
  refine (meets_congr Faithful (fun hs _ hstep => step_faithful hs hstep) ?_
    ⟨fun _ => rfl, fun _ => rfl⟩).mpr meets_true
  intro s label s' hs hstep
  exact ⟨fun _ => trivial, fun _ => hs.delivers label⟩

end Gateway

end MMOServers.GatewayServer
