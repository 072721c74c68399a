/-
MMOServers.GatewayServer.Handshake — handlers that run on several threads.

In `Gateway` a callback runs to its end before the next one starts. The worker
threads of the gateway interleave, and here two kinds of handlers do. Once
`Handle_GatewayConnectReq` has verified its token, or refused it, each of its
remaining statements is a step of its own: the entry in `clientMap`, the
response, `EnableEncryption`. A game handler that broadcasts takes one step for
each `Send`; it holds `clientMutex` from its first to its last one, so until
then `clientMap` cannot change. Everything else is a callback of `Gateway`.

`connect_sequential` and `broadcast_sequential` say that handlers which are not
interleaved do what the callbacks of `Gateway` do.

`admissions` and `sent` are history variables: how often a session was entered
in `clientMap`, and the frames `Send` posted to it since the first time, the
oldest first. A frame keeps the bytes that go out: they are the ones on the strand
of the session (`send_strand`), and `encrypted` says that they are what `Encrypt`
made of the message (`frameOf_sealed`).
-/
import MMOServers.GatewayServer.GatewaySteps
import MMOServers.Lib.Run

namespace MMOServers.GatewayServer

open MMOServers.Common Transition

/-- The statement of `Handle_GatewayConnectReq` that runs next. -/
inductive ConnectStage where
  | refuse
  | insert (accountId : String)
  | respond
  | enable
  deriving DecidableEq

/-- What a game handler sends, and the accounts still to be served. -/
structure Broadcast where
  pktId : UInt16
  serialized : List UInt8
  targets : List String

/-- A frame posted by `Send`: the message, and the bytes that go out for it. -/
structure ClientFrame where
  pktId : UInt16
  serialized : List UInt8
  encrypted : Bool
  data : List UInt8
  deriving DecidableEq

structure Handshake (ι F Key : Type) where
  gateway : Gateway ι F Key := {}
  connecting : ι → Option ConnectStage := fun _ => none
  /-- The broadcast that holds `clientMutex`. -/
  broadcasting : Option Broadcast := none
  admissions : ι → Nat := fun _ => 0
  sent : ι → List ClientFrame := fun _ => []

variable {ι F Key : Type} (env : GatewayEnv F Key)

/-! ## The callbacks, taken apart -/

namespace Gateway

/-- What the game handlers broadcast for a packet. -/
def broadcastOf (id : UInt16) (payload : List UInt8) : Option Broadcast :=
  if id = PacketId.gameGatewayMoveRes then
    (env.parseMoveRes payload).map fun res =>
      ⟨PacketId.gatewayClientMoveRes,
        env.serializeMoveRes ⟨res.accountId, res.x, res.y, res.z, res.yaw⟩, res.targetAccountIds⟩
  else if id = PacketId.gameGatewayAttackRes then
    (env.parseAttackRes payload).map fun res =>
      ⟨PacketId.gatewayClientAttackRes,
        env.serializeAttackRes
          ⟨res.attackerUid, res.targetAccountId, res.damage, res.targetRemainHp⟩,
        res.targetAccountIds⟩
  else if id = PacketId.gameGatewayTokenNotify then none
  else if id = PacketId.gameGatewayChatRes then
    (env.parseChatRes payload).map fun res =>
      ⟨PacketId.gatewayClientChatRes, env.serializeChatRes ⟨res.accountId, res.msg⟩,
        res.targetAccountIds⟩
  else none

/-- `SetAccountId`. -/
def setAccountId [DecidableEq ι] (g : Gateway ι F Key) (i : ι) (accountId : String) :
    Gateway ι F Key :=
  g.modify i fun c => { c with accountId := accountId }

/-- The entry in `clientMap`. -/
def insertClient (g : Gateway ι F Key) (i : ι) (accountId : String) : Gateway ι F Key :=
  { g with clientMap := Function.update g.clientMap accountId (some i) }

/-- A read callback up to its dispatch, and the clock its handler reads. -/
def beforeDispatch [DecidableEq ι] (g : Gateway ι F Key) : Label ι → Gateway ι F Key × Int
  | .headerRead i h now nowMs =>
      (g.modify i fun c => { (c.inspectHeader h now).2 with header := h, reading := none }, nowMs)
  | .payloadRead i bytes nowMs =>
      (g.modify i fun c => { (c.openPayload env bytes).2 with reading := none }, nowMs)
  | _ => (g, 0)

/-- The callback that led from `g` to `g'` ran an `OnDisconnected` that takes
    `clientMutex`. -/
def takesClientMutex (g g' : Gateway ι F Key) : Bool :=
  (g'.trace.take (g'.trace.length - g.trace.length)).any fun
    | .disconnected i => (g.sessions i).accountId ≠ ""
    | _ => false

end Gateway

namespace Handshake

variable [DecidableEq ι]

/-! ## Steps -/

inductive Label (ι : Type) where
  /-- A callback that is no packet of the game server, a `GatewayConnectReq` up
      to the verification of its token. -/
  | callback (label : Gateway.Label ι)
  /-- The next statement of the `GatewayConnectReq` handler of a session. -/
  | resume (i : ι)
  | gamePacket (id : UInt16) (payload : List UInt8)
  /-- The next account of the broadcast. -/
  | sendNext

/-- The frame `Send` posts, none when it gives up. -/
def frameOf (g : Gateway ι F Key) (i : ι) (pktId : UInt16) (serialized : List UInt8) :
    Option ClientFrame :=
  let c := g.sessions i
  ((c.encode env (env.randomIv g.ivDraws) serialized).1.bind (ClientSession.frame pktId)).map
    fun data => ⟨pktId, serialized, c.cryptoEnabled && c.crypto.initialized, data⟩

def send (s : Handshake ι F Key) (i : ι) (pktId : UInt16) (serialized : List UInt8) :
    Handshake ι F Key :=
  { s with
      gateway := s.gateway.send env i pktId serialized
      sent := if s.admissions i = 0 then s.sent else
        Function.update s.sent i (s.sent i ++ (frameOf env s.gateway i pktId serialized).toList) }

/-- The handler returns, and the session reads its next header. -/
def finish (s : Handshake ι F Key) (i : ι) : Handshake ι F Key :=
  { s with
      gateway := s.gateway.setReading i (some .header)
      connecting := Function.update s.connecting i none }

/-- `Handle_GatewayConnectReq` up to the verification of the token. -/
def connectReq (s : Handshake ι F Key) (g : Gateway ι F Key) (i : ι) (payload : List UInt8)
    (nowMs : Int) : Handshake ι F Key :=
  match env.parseConnectReq payload with
  | none => { s with gateway := g.parseFailed env i }.finish i
  | some req =>
      match (g.parseSucceeded i).verifyAndConsumeToken req.accountId req.sessionToken nowMs with
      | (false, g) =>
          { s with gateway := g, connecting := Function.update s.connecting i (some .refuse) }
      | (true, g) =>
          { s with
              gateway := (g.record (.verified i req.accountId)).setAccountId i req.accountId
              connecting := Function.update s.connecting i (some (.insert req.accountId)) }

def callback (s : Handshake ι F Key) (label : Gateway.Label ι) : Option (Handshake ι F Key) :=
  match Gateway.step env s.gateway label with
  | none => none
  | some g =>
      if s.broadcasting.isSome && s.gateway.takesClientMutex g then none
      else
        match Gateway.dispatchOf env s.gateway label with
        | none => some { s with gateway := g }
        | some (i, id, data) =>
            if id = PacketId.clientGatewayConnectReq then
              let (g, nowMs) := s.gateway.beforeDispatch env label
              some (s.connectReq env (g.record (.dispatched i id)) i data nowMs)
            else some { s with gateway := g }

def resume (s : Handshake ι F Key) (i : ι) : ConnectStage → Option (Handshake ι F Key)
  | .refuse =>
      some ((s.send env i PacketId.gatewayClientConnectRes
        (env.serializeConnectRes ⟨false, "Invalid or expired session token"⟩)).finish i)
  | .insert accountId =>
      if s.broadcasting.isSome then none
      else
        some { s with
          gateway := s.gateway.insertClient i accountId
          connecting := Function.update s.connecting i (some .respond)
          admissions := Function.update s.admissions i (s.admissions i + 1) }
  | .respond =>
      some { s.send env i PacketId.gatewayClientConnectRes
          (env.serializeConnectRes ⟨true, ""⟩) with
        connecting := Function.update s.connecting i (some .enable) }
  | .enable =>
      some ({ s with gateway := s.gateway.modify i fun c => c.enableEncryption env }.finish i)

def sendNext (s : Handshake ι F Key) (b : Broadcast) : Handshake ι F Key :=
  match b.targets with
  | [] => { s with broadcasting := none }
  | target :: targets =>
      let s := { s with broadcasting := some { b with targets := targets } }
      match s.gateway.clientMap target with
      | none => s
      | some i => s.send env i b.pktId b.serialized

def step (s : Handshake ι F Key) : Label ι → Option (Handshake ι F Key)
  | .callback (.gamePacket _ _) => none
  | .callback label => s.callback env label
  | .resume i => (s.connecting i).bind (s.resume env i)
  | .gamePacket id payload =>
      match Gateway.broadcastOf env id payload with
      | none => some { s with gateway := s.gateway.gameDispatch env id payload }
      | some b => if s.broadcasting.isSome then none else some { s with broadcasting := some b }
  | .sendNext => s.broadcasting.map (s.sendNext env)

def start : Handshake ι F Key := {}

/-! ## The frames and the strand -/

variable {env}

/-- What `Send` posts to the strand is the frame that is recorded. -/
theorem send_strand (s : Handshake ι F Key) (i : ι) (pktId : UInt16) (serialized : List UInt8) :
    ((s.send env i pktId serialized).gateway.sessions i).strand
      = (s.gateway.sessions i).strand ++ (frameOf env s.gateway i pktId serialized).toList.map
          fun f => .send ⟨s.gateway.nextBuffer, f.data⟩ := by
  have hstrand := (Gateway.encode_strand env (s.gateway.sessions i)
    (env.randomIv s.gateway.ivDraws) serialized).2
  simp only [send, Gateway.send, frameOf]
  generalize (s.gateway.sessions i).encode env (env.randomIv s.gateway.ivDraws) serialized = r
    at hstrand ⊢
  cases r.1.bind (ClientSession.frame pktId) with
  | none => simp [Gateway.modify, hstrand]
  | some data => simp [Gateway.post, Gateway.modify, hstrand]

omit [DecidableEq ι] in
/-- The bytes of a frame are what `Encrypt` made of the message when the frame is
    encrypted, and else the message. -/
theorem frameOf_sealed {g : Gateway ι F Key} {i : ι} {pktId : UInt16} {serialized : List UInt8}
    {f : ClientFrame} (h : frameOf env g i pktId serialized = some f) :
    f.pktId = pktId ∧ f.serialized = serialized ∧
      f.encrypted = ((g.sessions i).cryptoEnabled && (g.sessions i).crypto.initialized) ∧
      ∃ payload, ClientSession.frame pktId payload = some f.data ∧
        if f.encrypted then
          ((g.sessions i).crypto.encrypt env.bcrypt (env.randomIv g.ivDraws)
            (serialized.take (serialized.length % 65536))).1 = .ok payload
        else payload = serialized := by
  obtain ⟨data, hdata, rfl⟩ := Option.map_eq_some_iff.mp h
  obtain ⟨payload, hpayload, hframe⟩ := Option.bind_eq_some_iff.mp hdata
  refine ⟨rfl, rfl, rfl, payload, hframe, ?_⟩
  unfold ClientSession.encode at hpayload
  split at hpayload
  · rename_i hon
    rw [if_pos hon]
    split at hpayload
    · rename_i hencrypt
      rw [hencrypt, Option.some.inj hpayload]
    · cases hpayload
  · rename_i hoff
    rw [if_neg hoff, Option.some.inj hpayload]

/-! ## Handlers that are not interleaved -/

theorem gameDispatch_broadcast {g : Gateway ι F Key} {id : UInt16} {payload : List UInt8}
    {b : Broadcast} (h : Gateway.broadcastOf env id payload = some b) :
    g.gameDispatch env id payload = g.broadcast env b.pktId b.serialized b.targets := by
  unfold Gateway.broadcastOf at h
  unfold Gateway.gameDispatch Gateway.handleMoveResFromGame Gateway.handleGameGatewayAttackRes
    Gateway.handleChatResFromGame
  repeat' split at h
  all_goals try cases h
  all_goals
    obtain ⟨res, hparse, rfl⟩ := Option.map_eq_some_iff.mp h
    simp_all

theorem sendNext_sequential {s : Handshake ι F Key} {b : Broadcast}
    (hs : s.broadcasting = some b) :
    ∃ t, exec (step env) s (List.replicate (b.targets.length + 1) .sendNext) = some t ∧
      t.gateway = s.gateway.broadcast env b.pktId b.serialized b.targets ∧
      t.broadcasting = none := by
  obtain ⟨pktId, serialized, targets⟩ := b
  induction targets generalizing s with
  | nil => exact ⟨s.sendNext env ⟨pktId, serialized, []⟩, by simp [exec_cons, step, hs], rfl, rfl⟩
  | cons target targets ih =>
      have hnext : step env s .sendNext = some (s.sendNext env ⟨pktId, serialized,
          target :: targets⟩) := by simp [step, hs]
      have hrest : (s.sendNext env ⟨pktId, serialized, target :: targets⟩).broadcasting
          = some ⟨pktId, serialized, targets⟩ := by
        unfold sendNext
        dsimp only
        split <;> rfl
      obtain ⟨t, hexec, hgateway, hbroadcasting⟩ := ih hrest
      refine ⟨t, exec_cons_some.mpr ⟨_, hnext, hexec⟩, ?_, hbroadcasting⟩
      rw [hgateway, Gateway.broadcast]
      cases htarget : s.gateway.clientMap target with
      | none => simp only [sendNext, htarget]
      | some i => simp only [sendNext, htarget, send]

/-- A broadcast whose `Send`s follow one another. -/
theorem broadcast_sequential {s : Handshake ι F Key} {id : UInt16} {payload : List UInt8}
    {b : Broadcast} (hfree : s.broadcasting = none)
    (hb : Gateway.broadcastOf env id payload = some b) :
    ∃ t, exec (step env) s
        (.gamePacket id payload :: List.replicate (b.targets.length + 1) .sendNext) = some t ∧
      t.gateway = s.gateway.gameDispatch env id payload ∧ t.broadcasting = none := by
  have hbegin : step env s (.gamePacket id payload) = some { s with broadcasting := some b } := by
    simp [step, hb, hfree]
  obtain ⟨t, hexec, hgateway, hbroadcasting⟩ : ∃ t, exec (step env) _ _ = some t ∧ _ :=
    sendNext_sequential (s := { s with broadcasting := some b }) rfl
  refine ⟨t, exec_cons_some.mpr ⟨_, hbegin, hexec⟩, ?_, hbroadcasting⟩
  rw [hgateway, gameDispatch_broadcast hb]

/-- A read callback that dispatches a packet, in its parts. -/
theorem step_dispatch {g g' : Gateway ι F Key} {label : Gateway.Label ι} {i : ι} {id : UInt16}
    {data : List UInt8} (hdispatch : Gateway.dispatchOf env g label = some (i, id, data))
    (hstep : Gateway.step env g label = some g') :
    g' = ((g.beforeDispatch env label).1.dispatch env i id data
      (g.beforeDispatch env label).2).setReading i (some .header) := by
  cases label with
  | headerRead j h now nowMs =>
      simp only [Gateway.dispatchOf] at hdispatch
      simp only [Gateway.step] at hstep
      split at hdispatch
      · rename_i haction
        rw [Option.some.injEq, Prod.mk.injEq, Prod.mk.injEq] at hdispatch
        obtain ⟨rfl, rfl, rfl⟩ := hdispatch
        split at hstep
        · obtain rfl := Option.some.inj hstep
          simp only [Gateway.headerRead, haction, Gateway.beforeDispatch]
          rfl
        · cases hstep
      · cases hdispatch
  | payloadRead j bytes nowMs =>
      simp only [Gateway.dispatchOf] at hdispatch
      simp only [Gateway.step] at hstep
      split at hdispatch
      · rename_i size hreading
        obtain ⟨plain, hplain, heq⟩ := Option.map_eq_some_iff.mp hdispatch
        rw [Prod.mk.injEq, Prod.mk.injEq] at heq
        obtain ⟨rfl, rfl, rfl⟩ := heq
        simp only [hreading] at hstep
        split at hstep
        · obtain rfl := Option.some.inj hstep
          have hheader := (Gateway.openPayload_fields env (g.sessions j) bytes).2.2.2
          simp only [Gateway.payloadRead, hplain, Gateway.beforeDispatch]
          exact congrArg (fun id => Gateway.setReading (Gateway.dispatch env _ j id plain nowMs) j
            (some .header)) (congrArg PacketHeader.id hheader)
        · cases hstep
      · cases hdispatch
  | _ => cases hdispatch

theorem step_resume {s : Handshake ι F Key} {i : ι} {stage : ConnectStage}
    (h : s.connecting i = some stage) : step env s (.resume i) = s.resume env i stage := by
  rw [step, h, Option.bind_some]

/-- The handler of a `GatewayConnectReq` whose statements follow one another. -/
theorem connect_sequential {s : Handshake ι F Key} {g : Gateway ι F Key}
    {label : Gateway.Label ι} {i : ι} {data : List UInt8} (hfree : s.broadcasting = none)
    (hdispatch : Gateway.dispatchOf env s.gateway label
      = some (i, PacketId.clientGatewayConnectReq, data))
    (hstep : Gateway.step env s.gateway label = some g) :
    ∃ n t, exec (step env) s (.callback label :: List.replicate n (.resume i)) = some t ∧
      t.gateway = g ∧ t.connecting i = none := by
  have hcallback : step env s (.callback label) = some (s.connectReq env
      ((s.gateway.beforeDispatch env label).1.record
        (.dispatched i PacketId.clientGatewayConnectReq)) i data
      (s.gateway.beforeDispatch env label).2) := by
    have hlabel : step env s (.callback label) = s.callback env label := by
      cases label <;> first | rfl | cases hdispatch
    rw [hlabel, callback, hstep, hdispatch]
    simp [hfree]
  rw [step_dispatch hdispatch hstep]
  generalize s.gateway.beforeDispatch env label = r at hcallback ⊢
  obtain ⟨g₀, nowMs⟩ := r
  simp only [Gateway.dispatch, if_true, Gateway.handleGatewayConnectReq]
  unfold connectReq at hcallback
  cases hparse : env.parseConnectReq data with
  | none =>
      rw [hparse] at hcallback
      exact ⟨0, _, exec_cons_some.mpr ⟨_, hcallback, rfl⟩, rfl, by simp [finish]⟩
  | some req =>
      rw [hparse] at hcallback
      dsimp only at hcallback ⊢
      generalize Gateway.verifyAndConsumeToken _ req.accountId req.sessionToken nowMs = v
        at hcallback ⊢
      obtain ⟨valid, g₁⟩ := v
      cases valid with
      | false =>
          let s₁ : Handshake ι F Key :=
            { s with gateway := g₁, connecting := Function.update s.connecting i (some .refuse) }
          have hrefuse : step env s₁ (.resume i) = s₁.resume env i .refuse :=
            step_resume (s := s₁) (Function.update_self ..)
          exact ⟨1, _, exec_cons_some.mpr ⟨_, hcallback, exec_cons_some.mpr ⟨_, hrefuse, rfl⟩⟩,
            rfl, Function.update_self ..⟩
      | true =>
          let s₁ : Handshake ι F Key :=
            { s with
              gateway := (g₁.record (.verified i req.accountId)).setAccountId i req.accountId
              connecting := Function.update s.connecting i (some (.insert req.accountId)) }
          let s₂ : Handshake ι F Key :=
            { s₁ with
              gateway := s₁.gateway.insertClient i req.accountId
              connecting := Function.update s₁.connecting i (some .respond)
              admissions := Function.update s₁.admissions i (s₁.admissions i + 1) }
          let s₃ : Handshake ι F Key :=
            { s₂.send env i PacketId.gatewayClientConnectRes
                (env.serializeConnectRes ⟨true, ""⟩) with
              connecting := Function.update s₂.connecting i (some .enable) }
          have hinsert : step env s₁ (.resume i) = some s₂ := by
            rw [step_resume (s := s₁) (Function.update_self ..)]
            exact if_neg (by simp [s₁, hfree])
          have hrespond : step env s₂ (.resume i) = some s₃ := by
            rw [step_resume (s := s₂) (Function.update_self ..)]
            rfl
          have henable : step env s₃ (.resume i) = s₃.resume env i .enable :=
            step_resume (s := s₃) (Function.update_self ..)
          exact ⟨3, _, exec_cons_some.mpr ⟨s₁, hcallback, exec_cons_some.mpr ⟨s₂, hinsert,
            exec_cons_some.mpr ⟨s₃, hrespond, exec_cons_some.mpr ⟨_, henable, rfl⟩⟩⟩⟩,
              rfl, Function.update_self ..⟩

end Handshake

end MMOServers.GatewayServer
