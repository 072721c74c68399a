/-
MMOServers.GatewayServer.SessionInvariants — what holds of every session.

`SessionInv` is the rule for properties of the single sessions: what the updates
of a session keep, every step of the gateway keeps. Only a step that dispatches a
`GatewayConnectReq` enables the encryption of a session, so a property that
`EnableEncryption` does not keep is kept by the other steps. `Armed` is the one
that every step keeps: an enabled cipher is initialized.
-/
import MMOServers.GatewayServer.GatewaySteps
import MMOServers.Common.PacketCryptoTheorems

namespace MMOServers.GatewayServer

open MMOServers.Common

variable {ι F Key : Type} {env : GatewayEnv F Key}

/-! ## Properties of the single sessions -/

/-- `Q j` survives what a step can do to the session `j`: everything apart from
    its cipher, and the use of the cipher. -/
structure SessionInv (env : GatewayEnv F Key) (Q : ι → ClientSession Key → Prop) : Prop where
  frame : ∀ {j c c'}, c'.crypto = c.crypto → c'.cryptoEnabled = c.cryptoEnabled → Q j c → Q j c'
  encode : ∀ {j c} iv serialized, Q j c → Q j (c.encode env iv serialized).2
  openPayload : ∀ {j c} bytes, Q j c → Q j (c.openPayload env bytes).2

/-- `Q` also survives `EnableEncryption`. -/
def KeptByEnable (env : GatewayEnv F Key) (Q : ι → ClientSession Key → Prop) : Prop :=
  ∀ j c, Q j c → Q j (c.enableEncryption env)

namespace Gateway

variable [DecidableEq ι]

theorem modify_all {Q : ι → ClientSession Key → Prop} {s : Gateway ι F Key} {i : ι}
    {f : ClientSession Key → ClientSession Key} (h : ∀ j, Q j (s.sessions j))
    (hf : Q i (f (s.sessions i))) : ∀ j, Q j ((s.modify i f).sessions j) := by
  intro j
  by_cases hj : j = i
  · subst hj
    rwa [modify_self]
  · rw [modify_other s f hj]
    exact h j

omit [DecidableEq ι] in
theorem verifyAndConsumeToken_sessions (s : Gateway ι F Key) (accountId token : String)
    (nowMs : Int) : (s.verifyAndConsumeToken accountId token nowMs).2.sessions = s.sessions := by
  unfold verifyAndConsumeToken
  dsimp only
  repeat' split
  all_goals rfl

theorem inspectHeader_crypto (c : ClientSession Key) (hdr : PacketHeader) (now : Nat) :
    (c.inspectHeader hdr now).2.crypto = c.crypto ∧
      (c.inspectHeader hdr now).2.cryptoEnabled = c.cryptoEnabled := by
  unfold ClientSession.inspectHeader
  dsimp only
  repeat' split
  all_goals exact ⟨rfl, rfl⟩

/-- The step dispatches a `GatewayConnectReq`. -/
def Connects (env : GatewayEnv F Key) (s : Gateway ι F Key) (label : Label ι) : Prop :=
  ∃ i data, dispatchOf env s label = some (i, PacketId.clientGatewayConnectReq, data)

section Steps

variable {Q : ι → ClientSession Key → Prop} (hQ : SessionInv env Q)

include hQ

theorem modify_frame {s : Gateway ι F Key} {i : ι} {f : ClientSession Key → ClientSession Key}
    (hcrypto : (f (s.sessions i)).crypto = (s.sessions i).crypto)
    (henabled : (f (s.sessions i)).cryptoEnabled = (s.sessions i).cryptoEnabled)
    (h : ∀ j, Q j (s.sessions j)) : ∀ j, Q j ((s.modify i f).sessions j) :=
  modify_all h (hQ.frame hcrypto henabled (h i))

theorem post_all {s : Gateway ι F Key} (i : ι) (data : List UInt8)
    (h : ∀ j, Q j (s.sessions j)) : ∀ j, Q j ((s.post i data).sessions j) :=
  modify_frame hQ (s := s) (f := fun c =>
    { c with strand := c.strand ++ [.send ⟨s.nextBuffer, data⟩] }) rfl rfl h

theorem eraseAccount_all {s : Gateway ι F Key} (i : ι) (a : String)
    (h : ∀ j, Q j (s.sessions j)) : ∀ j, Q j ((s.eraseAccount i a).sessions j) :=
  modify_frame hQ (s := s) (f := fun c => { c with accountId := "" }) rfl rfl h

theorem authenticate_all {s : Gateway ι F Key} (i : ι) (a : String)
    (h : ∀ j, Q j (s.sessions j)) : ∀ j, Q j ((s.authenticate i a).sessions j) :=
  modify_frame hQ (s := s) (f := fun c => { c with accountId := a }) rfl rfl h

theorem send_all {s : Gateway ι F Key} (i : ι) (pktId : UInt16) (serialized : List UInt8)
    (h : ∀ j, Q j (s.sessions j)) : ∀ j, Q j ((s.send env i pktId serialized).sessions j) := by
  have hencode := hQ.encode (env.randomIv s.ivDraws) serialized (h i)
  unfold send
  generalize (s.sessions i).encode env (env.randomIv s.ivDraws) serialized = r at hencode ⊢
  obtain ⟨payload, c⟩ := r
  have hencoded : ∀ j, Q j ((s.modify i fun _ => c).sessions j) := modify_all h hencode
  dsimp only
  split
  · exact hencoded
  · exact post_all hQ i _ hencoded

theorem broadcast_all {s : Gateway ι F Key} (pktId : UInt16) (serialized : List UInt8)
    (targets : List String) (h : ∀ j, Q j (s.sessions j)) :
    ∀ j, Q j ((s.broadcast env pktId serialized targets).sessions j) := by
  induction targets generalizing s with
  | nil => exact h
  | cons target targets ih =>
      unfold broadcast
      split
      · exact ih h
      · exact ih (send_all hQ _ pktId serialized h)

theorem gameDispatch_all {s : Gateway ι F Key} (id : UInt16) (payload : List UInt8)
    (h : ∀ j, Q j (s.sessions j)) : ∀ j, Q j ((s.gameDispatch env id payload).sessions j) := by
  unfold gameDispatch handleMoveResFromGame handleGameGatewayAttackRes
    handleTokenNotifyFromGame handleChatResFromGame storePendingToken
  repeat' split
  all_goals first
    | exact h
    | exact broadcast_all hQ _ _ _ h

theorem onDisconnected_all {s : Gateway ι F Key} (i : ι) (h : ∀ j, Q j (s.sessions j)) :
    ∀ j, Q j ((s.onDisconnected env i).sessions j) := by
  have hsent : ∀ j, Q j (((s.record (.disconnected i)).gameSend env i
      (.leaveReq (s.sessions i).accountId)).sessions j) := by
    rw [gameSend_sessions]
    exact h
  unfold onDisconnected
  dsimp only
  split
  · exact h
  · exact eraseAccount_all hQ i _ hsent

theorem parseFailed_all {s : Gateway ι F Key} (i : ι) (h : ∀ j, Q j (s.sessions j)) :
    ∀ j, Q j ((s.parseFailed env i).sessions j) := by
  unfold parseFailed ParseViolationTracker.onParseFailure
  dsimp only
  split
  · exact onDisconnected_all hQ i (modify_frame hQ rfl rfl h)
  · exact modify_frame hQ rfl rfl h

theorem relay_all {R : Type} (parse : List UInt8 → Option R) (request : String → R → ToGame F)
    {s : Gateway ι F Key} (i : ι) (payload : List UInt8) (h : ∀ j, Q j (s.sessions j)) :
    ∀ j, Q j ((relay env parse request s i payload).sessions j) := by
  unfold relay
  split
  · exact parseFailed_all hQ i h
  · rw [gameSend_sessions]
    exact modify_frame hQ rfl rfl h

theorem handleGatewayConnectReq_all {s : Gateway ι F Key} (i : ι) (payload : List UInt8)
    (nowMs : Int) (henable : KeptByEnable env Q) (h : ∀ j, Q j (s.sessions j)) :
    ∀ j, Q j ((s.handleGatewayConnectReq env i payload nowMs).sessions j) := by
  unfold handleGatewayConnectReq
  split
  · exact parseFailed_all hQ i h
  · rename_i req _
    have hparsed : ∀ j, Q j ((s.parseSucceeded i).sessions j) := modify_frame hQ rfl rfl h
    have hverify := verifyAndConsumeToken_sessions (s.parseSucceeded i) req.accountId
      req.sessionToken nowMs
    dsimp only
    split
    · rename_i g hg
      rw [hg] at hverify
      exact send_all hQ i _ _ (hverify ▸ hparsed)
    · rename_i g hg
      rw [hg] at hverify
      have hverified : ∀ j, Q j ((g.record (.verified i req.accountId)).sessions j) :=
        hverify ▸ hparsed
      have hsent := send_all hQ i PacketId.gatewayClientConnectRes
        (env.serializeConnectRes ⟨true, ""⟩) (authenticate_all hQ i req.accountId hverified)
      exact modify_all hsent (henable i _ (hsent i))

theorem dispatch_all {s : Gateway ι F Key} (i : ι) (id : UInt16) (payload : List UInt8)
    (nowMs : Int) (henable : id = PacketId.clientGatewayConnectReq → KeptByEnable env Q)
    (h : ∀ j, Q j (s.sessions j)) :
    ∀ j, Q j ((s.dispatch env i id payload nowMs).sessions j) := by
  have hrecord : ∀ j, Q j ((s.record (.dispatched i id)).sessions j) := h
  unfold dispatch
  dsimp only
  split
  · rename_i hconnect
    exact handleGatewayConnectReq_all hQ i payload nowMs (henable hconnect) hrecord
  split
  · exact relay_all hQ _ _ i payload hrecord
  split
  · exact relay_all hQ _ _ i payload hrecord
  split
  · exact relay_all hQ _ _ i payload hrecord
  · exact hrecord

theorem headerRead_all {s : Gateway ι F Key} (i : ι) (hdr : PacketHeader) (now : Nat)
    (nowMs : Int) (henable : Connects env s (.headerRead i hdr now nowMs) → KeptByEnable env Q)
    (h : ∀ j, Q j (s.sessions j)) :
    ∀ j, Q j ((s.headerRead env i hdr now nowMs).sessions j) := by
  have hinspect := inspectHeader_crypto (s.sessions i) hdr now
  have hconnects : ((s.sessions i).inspectHeader hdr now).1 = .dispatch →
      hdr.id = PacketId.clientGatewayConnectReq → KeptByEnable env Q := by
    intro haction hid
    exact henable ⟨i, [], by simp only [dispatchOf, haction, hid]⟩
  unfold headerRead
  generalize (s.sessions i).inspectHeader hdr now = r at hinspect hconnects ⊢
  obtain ⟨action, c⟩ := r
  have hread : ∀ j, Q j ((s.modify i fun _ =>
      { c with header := hdr, reading := none }).sessions j) :=
    modify_frame hQ hinspect.1 hinspect.2 h
  cases action with
  | disconnect => exact onDisconnected_all hQ i hread
  | skip => exact modify_frame hQ rfl rfl hread
  | drop size => exact modify_frame hQ rfl rfl hread
  | dispatch =>
      exact modify_frame hQ rfl rfl (dispatch_all hQ i hdr.id [] nowMs (hconnects rfl) hread)
  | read size => exact modify_frame hQ rfl rfl hread

theorem payloadRead_all {s : Gateway ι F Key} (i : ι) (bytes : List UInt8) (nowMs : Int)
    {size : UInt16} (hreading : (s.sessions i).reading = some (.payload size))
    (henable : Connects env s (.payloadRead i bytes nowMs) → KeptByEnable env Q)
    (h : ∀ j, Q j (s.sessions j)) :
    ∀ j, Q j ((s.payloadRead env i bytes nowMs).sessions j) := by
  have hopen := hQ.openPayload bytes (h i)
  have hheader := (openPayload_fields env (s.sessions i) bytes).2.2.2
  have hconnects : ∀ data, ((s.sessions i).openPayload env bytes).1 = some data →
      (s.sessions i).header.id = PacketId.clientGatewayConnectReq → KeptByEnable env Q := by
    intro data hdata hid
    exact henable ⟨i, data, by simp only [dispatchOf, hreading, hdata, Option.map_some, hid]⟩
  unfold payloadRead
  generalize (s.sessions i).openPayload env bytes = r at hopen hheader hconnects ⊢
  obtain ⟨data, c⟩ := r
  have hread : ∀ j, Q j ((s.modify i fun _ => { c with reading := none }).sessions j) :=
    modify_all h (hQ.frame (c := c) rfl rfl hopen)
  cases data with
  | none => exact onDisconnected_all hQ i hread
  | some data =>
      refine modify_frame hQ rfl rfl (dispatch_all hQ i c.header.id data nowMs ?_ hread)
      intro hid
      exact hconnects data rfl (hheader ▸ hid)

theorem readFails_all {s : Gateway ι F Key} (i : ι) (op : ReadOp) (ec : ErrorCode)
    (h : ∀ j, Q j (s.sessions j)) : ∀ j, Q j ((s.readFails env i op ec).sessions j) := by
  have hread : ∀ j, Q j ((s.setReading i none).sessions j) := modify_frame hQ rfl rfl h
  unfold readFails
  dsimp only
  repeat' split
  · exact onDisconnected_all hQ i hread
  · exact onDisconnected_all hQ i hread
  · exact hread

theorem runTask_all {s : Gateway ι F Key} (i : ι) (task : SessionTask)
    (h : ∀ j, Q j (s.sessions j)) : ∀ j, Q j ((s.runTask env i task).sessions j) := by
  unfold runTask
  split
  · exact modify_frame hQ rfl rfl h
  · unfold writeCompleted
    dsimp only
    repeat' split
    · exact modify_frame hQ rfl rfl h
    · exact onDisconnected_all hQ i (modify_frame hQ rfl rfl h)
    · exact modify_frame hQ rfl rfl h

theorem step_all {s s' : Gateway ι F Key} {label : Label ι}
    (henable : Connects env s label → KeptByEnable env Q) (h : ∀ j, Q j (s.sessions j))
    (hstep : step env s label = some s') : ∀ j, Q j (s'.sessions j) := by
  cases step_inv hstep with
  | accept i now new => exact modify_frame hQ rfl rfl h
  | headerRead hdr now nowMs reading => exact headerRead_all hQ _ hdr now nowMs henable h
  | payloadRead nowMs reading length => exact payloadRead_all hQ _ _ nowMs reading henable h
  | payloadDropped nowMs reading length => exact modify_frame hQ rfl rfl h
  | readFails reading failed => exact readFails_all hQ _ _ _ h
  | writeEnds ec outstanding running => exact modify_frame hQ rfl rfl h
  | runStrand accepted strand => exact runTask_all hQ _ _ (modify_frame hQ rfl rfl h)
  | gamePacket id payload => exact gameDispatch_all hQ id payload h
  | gameLink isOpen => exact h

end Steps

/-! ## Enabled ciphers are initialized -/

/-- `EnableEncryption` sets the flag only after the cipher was initialized. -/
def Armed (c : ClientSession Key) : Prop :=
  c.cryptoEnabled = true → c.crypto.initialized = true

theorem encrypt_initialized (B : BCrypt Key) (c : PacketCrypto Key) (iv : Option (List UInt8))
    (plaintext : List UInt8) : (c.encrypt B iv plaintext).2.initialized = c.initialized := by
  unfold PacketCrypto.encrypt
  repeat' split
  all_goals rfl

theorem decrypt_initialized (B : BCrypt Key) (c : PacketCrypto Key) (bytes : List UInt8) :
    (c.decrypt B bytes).2.initialized = c.initialized := by
  rcases PacketCrypto.decrypt_cases B c bytes with ⟨msg, hdec⟩ | ⟨plain, hdec, -, -⟩ <;>
    rw [hdec]

theorem initializeWithPassphrase_initialized (B : BCrypt Key) (c : PacketCrypto Key)
    (passphrase : List UInt8)
    (h : (c.initializeWithPassphrase B passphrase).1 = true ∨ c.initialized = true) :
    (c.initializeWithPassphrase B passphrase).2.initialized = true := by
  unfold PacketCrypto.initializeWithPassphrase PacketCrypto.initializeKey at h ⊢
  dsimp only at h ⊢
  repeat' split at h
  all_goals simp_all

omit [DecidableEq ι] in
theorem armed_inv : SessionInv env (fun _ : ι => @Armed Key) where
  frame hcrypto henabled h hon := by
    rw [henabled] at hon
    rw [hcrypto]
    exact h hon
  encode {_ c} iv serialized h := by
    have hinit := encrypt_initialized env.bcrypt c.crypto iv
      (serialized.take (serialized.length % 65536))
    unfold ClientSession.encode
    repeat' split
    all_goals simp_all [Armed]
  openPayload {_ c} bytes h := by
    have hinit := decrypt_initialized env.bcrypt c.crypto bytes
    unfold ClientSession.openPayload
    repeat' split
    all_goals simp_all [Armed]

omit [DecidableEq ι] in
theorem armed_keptByEnable : KeptByEnable env fun _ : ι => @Armed Key := by
  intro _ c h
  have hinit := initializeWithPassphrase_initialized env.bcrypt c.crypto
    SecurityConstants.sharedPassphrase.toUTF8.toList
  unfold ClientSession.enableEncryption
  split
  all_goals simp_all [Armed]

theorem step_armed {s s' : Gateway ι F Key} {label : Label ι} (h : ∀ j, Armed (s.sessions j))
    (hstep : step env s label = some s') : ∀ j, Armed (s'.sessions j) :=
  step_all (Q := fun _ => Armed) armed_inv (fun _ => armed_keptByEnable) h hstep

omit [DecidableEq ι] in
/-- Nothing but `EnableEncryption` enables the encryption of a session. -/
theorem unenabled_inv (B : ι → Prop) :
    SessionInv env fun j (c : ClientSession Key) => Armed c ∧ (c.cryptoEnabled = true → B j) where
  frame {j _ _} hcrypto henabled h :=
    ⟨(@armed_inv ι F Key env).frame (j := j) hcrypto henabled h.1, henabled ▸ h.2⟩
  encode {j c} iv serialized h := by
    refine ⟨(@armed_inv ι F Key env).encode (j := j) iv serialized h.1, fun hon => h.2 ?_⟩
    unfold ClientSession.encode at hon
    repeat' split at hon
    all_goals exact hon
  openPayload {j c} bytes h := by
    refine ⟨(@armed_inv ι F Key env).openPayload (j := j) bytes h.1, fun hon => h.2 ?_⟩
    unfold ClientSession.openPayload at hon
    repeat' split at hon
    all_goals exact hon

end Gateway

end MMOServers.GatewayServer
