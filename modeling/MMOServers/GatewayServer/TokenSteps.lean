/-
MMOServers.GatewayServer.TokenSteps — what the steps of a gateway do to tokens.

`pendingTokens` is written in three places: a token notice of the game server
stores a token, a connect request consumes the one it presents, and one that
comes too late erases it. `admissionOf` reads the admitted request off the state
and the label. Everything else keeps the tokens and verifies nobody
(`TokensKept`).
-/
import MMOServers.GatewayServer.GatewaySteps

namespace MMOServers.GatewayServer

open MMOServers.Common

namespace Gateway

variable {ι F Key : Type} {env : GatewayEnv F Key}

/-! ## Frames -/

/-- The tokens are the same, and no session was verified. -/
structure TokensKept (s s' : Gateway ι F Key) : Prop where
  pendingTokens : s'.pendingTokens = s.pendingTokens
  verified : ∀ i a, .verified i a ∈ s'.trace → .verified i a ∈ s.trace

theorem TokensKept.refl (s : Gateway ι F Key) : TokensKept s s := ⟨rfl, fun _ _ h => h⟩

theorem TokensKept.trans {s₁ s₂ s₃ : Gateway ι F Key} (h : TokensKept s₁ s₂)
    (h' : TokensKept s₂ s₃) : TokensKept s₁ s₃ :=
  ⟨h'.pendingTokens.trans h.pendingTokens, fun i a hi => h.verified i a (h'.verified i a hi)⟩

/-- An event that is no verification. -/
theorem record_tokens (s : Gateway ι F Key) {e : Event ι F} (he : ∀ i a, e ≠ .verified i a) :
    TokensKept s (s.record e) := by
  refine ⟨rfl, fun i a hi => ?_⟩
  rcases List.mem_cons.mp hi with heq | hmem
  · exact absurd heq.symm (he i a)
  · exact hmem

theorem gameSend_tokens (s : Gateway ι F Key) (i : ι) (m : ToGame F) :
    TokensKept s (s.gameSend env i m) := by
  unfold gameSend
  split
  · exact record_tokens s (by simp)
  · exact TokensKept.refl s

variable [DecidableEq ι]

theorem modify_tokens (s : Gateway ι F Key) (i : ι) (f : ClientSession Key → ClientSession Key) :
    TokensKept s (s.modify i f) := ⟨rfl, fun _ _ h => h⟩

theorem send_tokens (s : Gateway ι F Key) (i : ι) (pktId : UInt16) (serialized : List UInt8) :
    TokensKept s (s.send env i pktId serialized) := by
  unfold send
  dsimp only
  split
  · exact ⟨rfl, fun _ _ h => h⟩
  · exact ⟨rfl, fun _ _ h => h⟩

theorem broadcast_tokens (s : Gateway ι F Key) (pktId : UInt16) (serialized : List UInt8)
    (targets : List String) : TokensKept s (s.broadcast env pktId serialized targets) := by
  induction targets generalizing s with
  | nil => exact TokensKept.refl s
  | cons target targets ih =>
      unfold broadcast
      split
      · exact ih s
      · exact (send_tokens s _ pktId serialized).trans (ih _)

theorem onDisconnected_tokens (s : Gateway ι F Key) (i : ι) :
    TokensKept s (s.onDisconnected env i) := by
  have hrecord : TokensKept s (s.record (.disconnected i)) := record_tokens s (by simp)
  unfold onDisconnected
  dsimp only
  split
  · exact hrecord
  · exact (hrecord.trans (gameSend_tokens _ i _)).trans ⟨rfl, fun _ _ h => h⟩

theorem parseFailed_tokens (s : Gateway ι F Key) (i : ι) :
    TokensKept s (s.parseFailed env i) := by
  unfold parseFailed
  dsimp only
  split
  · exact (modify_tokens s i _).trans (onDisconnected_tokens _ i)
  · exact modify_tokens s i _

theorem relay_tokens {R : Type} (parse : List UInt8 → Option R) (request : String → R → ToGame F)
    (s : Gateway ι F Key) (i : ι) (payload : List UInt8) :
    TokensKept s (relay env parse request s i payload) := by
  unfold relay
  split
  · exact parseFailed_tokens s i
  · exact (modify_tokens s i _).trans (gameSend_tokens _ i _)

/-! ## Connect requests -/

/-- The connect request that the handler admits. -/
def admits (env : GatewayEnv F Key) (s : Gateway ι F Key) (id : UInt16) (data : List UInt8)
    (nowMs : Int) : Option GatewayConnectReq :=
  if id = PacketId.clientGatewayConnectReq then
    (env.parseConnectReq data).filter fun req =>
      (s.verifyAndConsumeToken req.accountId req.sessionToken nowMs).1
  else none

/-- What a callback does to the tokens, with the session and the request it
    admits. -/
inductive TokenEffect (s s' : Gateway ι F Key) : Option (ι × GatewayConnectReq) → Prop where
  | keeps (tokens : ∀ a p, s'.pendingTokens a = some p → s.pendingTokens a = some p)
      (verified : ∀ i a, .verified i a ∈ s'.trace → .verified i a ∈ s.trace) :
      TokenEffect s s' none
  | admits (i : ι) (req : GatewayConnectReq) (expireMs : Int)
      (has : s.pendingTokens req.accountId = some ⟨req.sessionToken, expireMs⟩)
      (consumes : s'.pendingTokens = Function.update s.pendingTokens req.accountId none)
      (verified : ∀ j a, .verified j a ∈ s'.trace →
        (j = i ∧ a = req.accountId) ∨ .verified j a ∈ s.trace) :
      TokenEffect s s' (some (i, req))

omit [DecidableEq ι] in
theorem TokensKept.effect {s s' : Gateway ι F Key} (h : TokensKept s s') :
    TokenEffect s s' none :=
  .keeps (fun _ _ hp => h.pendingTokens ▸ hp) h.verified

omit [DecidableEq ι] in
theorem TokenEffect.of_kept {s s₁ s₂ s' : Gateway ι F Key} {e : Option (ι × GatewayConnectReq)}
    (h : TokenEffect s₁ s₂ e) (hbefore : TokensKept s s₁) (hafter : TokensKept s₂ s') :
    TokenEffect s s' e := by
  cases h with
  | keeps tokens verified =>
      refine .keeps (fun a p hp => ?_) fun i a hi => ?_
      · rw [hafter.pendingTokens] at hp
        exact hbefore.pendingTokens ▸ tokens a p hp
      · exact hbefore.verified i a (verified i a (hafter.verified i a hi))
  | admits i req expireMs has consumes verified =>
      refine .admits i req expireMs (hbefore.pendingTokens ▸ has) ?_ fun j a hj => ?_
      · rw [hafter.pendingTokens, consumes, hbefore.pendingTokens]
      · exact (verified j a (hafter.verified j a hj)).imp id (hbefore.verified j a)

omit [DecidableEq ι] in
/-- `VerifyAndConsumeToken` accepts the pending token of the account and erases
    it, or it erases at most. -/
theorem verifyAndConsumeToken_tokens (s : Gateway ι F Key) (accountId token : String)
    (nowMs : Int) :
    ((s.verifyAndConsumeToken accountId token nowMs).1 = true ∧
      (∃ expireMs, s.pendingTokens accountId = some ⟨token, expireMs⟩) ∧
      (s.verifyAndConsumeToken accountId token nowMs).2.pendingTokens
        = Function.update s.pendingTokens accountId none) ∨
    ((s.verifyAndConsumeToken accountId token nowMs).1 = false ∧
      ∀ a p, (s.verifyAndConsumeToken accountId token nowMs).2.pendingTokens a = some p →
        s.pendingTokens a = some p) := by
  unfold verifyAndConsumeToken
  cases hpending : s.pendingTokens accountId with
  | none => exact Or.inr ⟨rfl, fun _ _ hp => hp⟩
  | some pending =>
      dsimp only
      split
      · refine Or.inr ⟨rfl, fun a p hp => ?_⟩
        dsimp only at hp
        rw [Function.update_apply] at hp
        split at hp
        · cases hp
        · exact hp
      · split
        · exact Or.inr ⟨rfl, fun _ _ hp => hp⟩
        · rename_i htoken
          exact Or.inl ⟨rfl, ⟨pending.expireTimeMs, by rw [← not_not.mp htoken]⟩, rfl⟩

omit [DecidableEq ι] in
/-- The verification depends on the pending tokens only. -/
theorem TokensKept.admits_eq {s s₁ : Gateway ι F Key} (h : TokensKept s s₁) (id : UInt16)
    (data : List UInt8) (nowMs : Int) :
    admits env s₁ id data nowMs = admits env s id data nowMs := by
  have hverify : ∀ accountId token, (s₁.verifyAndConsumeToken accountId token nowMs).1
      = (s.verifyAndConsumeToken accountId token nowMs).1 := by
    intro accountId token
    simp only [verifyAndConsumeToken, h.pendingTokens]
    repeat' split
    all_goals rfl
  simp only [admits, hverify]

theorem handleGatewayConnectReq_tokens (s : Gateway ι F Key) (i : ι) (payload : List UInt8)
    (nowMs : Int) :
    TokenEffect s (s.handleGatewayConnectReq env i payload nowMs)
      ((admits env s PacketId.clientGatewayConnectReq payload nowMs).map fun req => (i, req)) := by
  unfold handleGatewayConnectReq
  cases hparse : env.parseConnectReq payload with
  | none =>
      simp only [admits, hparse, if_true]
      exact (parseFailed_tokens s i).effect
  | some req =>
      have hparsed : TokensKept s (s.parseSucceeded i) := modify_tokens s i _
      rw [← hparsed.admits_eq]
      simp only [admits, hparse, if_true, Option.filter_some]
      rcases verifyAndConsumeToken_tokens (s.parseSucceeded i) req.accountId req.sessionToken
        nowMs with ⟨haccepted, ⟨expireMs, hhas⟩, hconsumes⟩ | ⟨hrefused, htokens⟩
      · have hsilent := verifyAndConsumeToken_silent (s.parseSucceeded i) req.accountId
          req.sessionToken nowMs
        generalize (s.parseSucceeded i).verifyAndConsumeToken req.accountId req.sessionToken
          nowMs = r at *
        obtain ⟨ok, s₁⟩ := r
        obtain rfl : ok = true := haccepted
        let s₂ := (s₁.record (.verified i req.accountId)).authenticate i req.accountId
        have hadmits : TokenEffect (s.parseSucceeded i) s₂ (some (i, req)) := by
          refine .admits i req expireMs hhas hconsumes fun j a hj => ?_
          rcases List.mem_cons.mp hj with heq | hmem
          · cases heq
            exact Or.inl ⟨rfl, rfl⟩
          · exact Or.inr (hsilent.trace ▸ hmem)
        refine hadmits.of_kept hparsed ?_
        exact (send_tokens s₂ i _ _).trans (modify_tokens _ i _)
      · have hsilent := verifyAndConsumeToken_silent (s.parseSucceeded i) req.accountId
          req.sessionToken nowMs
        generalize (s.parseSucceeded i).verifyAndConsumeToken req.accountId req.sessionToken
          nowMs = r at *
        obtain ⟨ok, s₁⟩ := r
        obtain rfl : ok = false := hrefused
        have hkeeps : TokenEffect (s.parseSucceeded i) s₁ none :=
          .keeps htokens fun j a hj => hsilent.trace ▸ hj
        exact hkeeps.of_kept hparsed (send_tokens s₁ i _ _)

theorem dispatch_tokens (s : Gateway ι F Key) (i : ι) (id : UInt16) (data : List UInt8)
    (nowMs : Int) :
    TokenEffect s (s.dispatch env i id data nowMs)
      ((admits env s id data nowMs).map fun req => (i, req)) := by
  have hrecord : TokensKept s (s.record (.dispatched i id)) := record_tokens s (by simp)
  rw [← hrecord.admits_eq]
  unfold dispatch
  dsimp only
  split
  · rename_i hid
    subst hid
    exact (handleGatewayConnectReq_tokens _ i data nowMs).of_kept hrecord (TokensKept.refl _)
  · rename_i hid
    rw [admits, if_neg hid]
    repeat' split
    · exact (hrecord.trans (relay_tokens _ _ _ i data)).effect
    · exact (hrecord.trans (relay_tokens _ _ _ i data)).effect
    · exact (hrecord.trans (relay_tokens _ _ _ i data)).effect
    · exact hrecord.effect

/-! ## Steps -/

/-- The clock reading of a callback. -/
def clockOf : Label ι → Int
  | .headerRead _ _ _ nowMs => nowMs
  | .payloadRead _ _ nowMs => nowMs
  | _ => 0

/-- The clock reading of a callback, if it takes one. -/
def readingOf : Label ι → Option Int
  | .headerRead _ _ _ nowMs => some nowMs
  | .payloadRead _ _ nowMs => some nowMs
  | _ => none

omit [DecidableEq ι] in
theorem readingOf_dispatched {s : Gateway ι F Key} {label : Label ι} {d : ι × UInt16 × List UInt8}
    (h : dispatchOf env s label = some d) : readingOf label = some (clockOf label) := by
  cases label with
  | headerRead i header now nowMs => rfl
  | payloadRead i bytes nowMs => rfl
  | _ => cases h

/-- The session and the connect request that the step hands to its handler. -/
def presentedOf (env : GatewayEnv F Key) (s : Gateway ι F Key) (label : Label ι) :
    Option (ι × GatewayConnectReq) :=
  (dispatchOf env s label).bind fun (i, id, data) =>
    if id = PacketId.clientGatewayConnectReq then
      (env.parseConnectReq data).map fun req => (i, req)
    else none

/-- The session and the connect request that the step admits. -/
def admissionOf (env : GatewayEnv F Key) (s : Gateway ι F Key) (label : Label ι) :
    Option (ι × GatewayConnectReq) :=
  (dispatchOf env s label).bind fun (i, id, data) =>
    (admits env s id data (clockOf label)).map fun req => (i, req)

omit [DecidableEq ι] in
theorem admissionOf_dispatched {s : Gateway ι F Key} {label : Label ι} {i : ι} {id : UInt16}
    {data : List UInt8} (h : dispatchOf env s label = some (i, id, data)) :
    admissionOf env s label
      = (admits env s id data (clockOf label)).map fun req => (i, req) := by
  simp only [admissionOf, h, Option.bind_some]

omit [DecidableEq ι] in
theorem admissionOf_undispatched {s : Gateway ι F Key} {label : Label ι}
    (h : dispatchOf env s label = none) : admissionOf env s label = none := by
  simp only [admissionOf, h, Option.bind_none]

omit [DecidableEq ι] in
/-- What a step admits is what it was presented with and could verify. -/
theorem admissionOf_presented {s : Gateway ι F Key} {label : Label ι} {i : ι}
    {req : GatewayConnectReq} (h : presentedOf env s label = some (i, req)) :
    readingOf label = some (clockOf label) ∧ admissionOf env s label =
      if (s.verifyAndConsumeToken req.accountId req.sessionToken (clockOf label)).1 then
        some (i, req)
      else none := by
  obtain ⟨⟨j, id, data⟩, hdispatched, hreq⟩ := Option.bind_eq_some_iff.mp h
  refine ⟨readingOf_dispatched hdispatched, ?_⟩
  rw [admissionOf_dispatched hdispatched]
  dsimp only at hreq
  split at hreq
  · rename_i hid
    obtain ⟨req', hparse, heq⟩ := Option.map_eq_some_iff.mp hreq
    obtain ⟨rfl, rfl⟩ := Prod.mk.inj heq
    simp only [admits, if_pos hid, hparse, Option.filter_some]
    split <;> rfl
  · cases hreq

/-- A callback leaves the tokens alone, apart from what the packet does that it
    dispatches. -/
inductive Through (env : GatewayEnv F Key) (s : Gateway ι F Key) (label : Label ι)
    (s' : Gateway ι F Key) : Prop where
  | aside (undispatched : dispatchOf env s label = none) (kept : TokensKept s s')
  | dispatches (i : ι) (id : UInt16) (data : List UInt8) (s₁ : Gateway ι F Key)
      (dispatched : dispatchOf env s label = some (i, id, data)) (before : TokensKept s s₁)
      (after : TokensKept (s₁.dispatch env i id data (clockOf label)) s')

theorem headerRead_through (s : Gateway ι F Key) (i : ι) (h : PacketHeader) (now : Nat)
    (nowMs : Int) :
    Through env s (.headerRead i h now nowMs) (s.headerRead env i h now nowMs) := by
  have hnone : ∀ action, ((s.sessions i).inspectHeader h now).1 = action → action ≠ .dispatch →
      dispatchOf env s (.headerRead i h now nowMs) = none := by
    intro action haction hne
    simp only [dispatchOf, haction]
  unfold headerRead
  generalize hr : (s.sessions i).inspectHeader h now = r at *
  obtain ⟨action, c⟩ := r
  have hkept : TokensKept s (s.modify i fun _ => { c with header := h, reading := none }) :=
    modify_tokens s i _
  cases action with
  | disconnect =>
      exact .aside (hnone _ rfl (by simp)) (hkept.trans (onDisconnected_tokens _ i))
  | skip => exact .aside (hnone _ rfl (by simp)) (hkept.trans (modify_tokens _ i _))
  | drop size => exact .aside (hnone _ rfl (by simp)) (hkept.trans (modify_tokens _ i _))
  | dispatch =>
      have hdispatch : dispatchOf env s (.headerRead i h now nowMs) = some (i, h.id, []) := by
        simp only [dispatchOf, hr]
      exact .dispatches i h.id [] _ hdispatch hkept (modify_tokens _ i _)
  | read size => exact .aside (hnone _ rfl (by simp)) (hkept.trans (modify_tokens _ i _))

theorem payloadRead_through {s : Gateway ι F Key} {i : ι} {bytes : List UInt8} {nowMs : Int}
    {size : UInt16} (hread : (s.sessions i).reading = some (.payload size)) :
    Through env s (.payloadRead i bytes nowMs) (s.payloadRead env i bytes nowMs) := by
  obtain ⟨-, -, -, hheader⟩ := openPayload_fields env (s.sessions i) bytes
  unfold payloadRead
  generalize hr : (s.sessions i).openPayload env bytes = r at *
  obtain ⟨data, c⟩ := r
  have hkept : TokensKept s (s.modify i fun _ => { c with reading := none }) :=
    modify_tokens s i _
  cases data with
  | none =>
      exact .aside (by simp [dispatchOf, hread, hr]) (hkept.trans (onDisconnected_tokens _ i))
  | some data =>
      have hdispatch : dispatchOf env s (.payloadRead i bytes nowMs)
          = some (i, c.header.id, data) := by
        simp only [dispatchOf, hread, hr, Option.map_some, ← hheader]
      exact .dispatches i c.header.id data _ hdispatch hkept (modify_tokens _ i _)

theorem runTask_tokens (s : Gateway ι F Key) (i : ι) (task : SessionTask) :
    TokensKept s (s.runTask env i task) := by
  cases task with
  | send p =>
      exact modify_tokens s i fun c => { c with writes := enqueue c.writes p }
  | written p ec =>
      show TokensKept s (s.writeCompleted env i p ec)
      unfold writeCompleted
      dsimp only
      repeat' split
      · exact modify_tokens s i _
      · exact (modify_tokens s i _).trans (onDisconnected_tokens _ i)
      · exact modify_tokens s i _

theorem readFails_tokens (s : Gateway ι F Key) (i : ι) (op : ReadOp) (ec : ErrorCode) :
    TokensKept s (s.readFails env i op ec) := by
  have hkept : TokensKept s (s.setReading i none) := modify_tokens s i _
  unfold readFails
  dsimp only
  repeat' split
  · exact hkept.trans (onDisconnected_tokens _ i)
  · exact hkept.trans (onDisconnected_tokens _ i)
  · exact hkept

/-- A step that is not the arrival of a packet of the game server. -/
theorem step_through {s s' : Gateway ι F Key} {label : Label ι}
    (hlabel : ∀ id payload, label ≠ .gamePacket id payload)
    (hstep : step env s label = some s') : Through env s label s' := by
  cases step_inv hstep with
  | gamePacket id payload => exact absurd rfl (hlabel id payload)
  | headerRead h now nowMs reading => exact headerRead_through s _ h now nowMs
  | payloadRead nowMs reading length => exact payloadRead_through reading
  | @payloadDropped i size bytes nowMs reading length =>
      exact .aside (by simp only [dispatchOf, reading]) (modify_tokens s i _)
  | accept i now new => exact .aside rfl (modify_tokens s i _)
  | readFails reading failed => exact .aside rfl (readFails_tokens s _ _ _)
  | @writeEnds i p ec outstanding running => exact .aside rfl (modify_tokens s i _)
  | @runStrand i task rest accepted strand =>
      exact .aside rfl ((modify_tokens s i _).trans (runTask_tokens _ i task))
  | gameLink isOpen => exact .aside rfl ⟨rfl, fun _ _ h => h⟩

theorem step_tokens {s s' : Gateway ι F Key} {label : Label ι}
    (hlabel : ∀ id payload, label ≠ .gamePacket id payload)
    (hstep : step env s label = some s') : TokenEffect s s' (admissionOf env s label) := by
  cases step_through hlabel hstep with
  | aside undispatched kept =>
      rw [admissionOf_undispatched undispatched]
      exact kept.effect
  | dispatches i id data s₁ dispatched before after =>
      rw [admissionOf_dispatched dispatched, ← before.admits_eq]
      exact (dispatch_tokens s₁ i id data _).of_kept before after

/-! ## Tokens that are not admitted -/

/-- Of the pending tokens only expired ones are gone. -/
def KeepsUnexpired (nowMs : Int) (s s' : Gateway ι F Key) : Prop :=
  ∀ a p, s.pendingTokens a = some p →
    s'.pendingTokens a = some p ∨ p.expireTimeMs < nowMs

omit [DecidableEq ι] in
theorem KeepsUnexpired.of_kept {nowMs : Int} {s s₁ s₂ s' : Gateway ι F Key}
    (h : KeepsUnexpired nowMs s₁ s₂) (before : TokensKept s s₁) (after : TokensKept s₂ s') :
    KeepsUnexpired nowMs s s' := by
  intro a p hp
  rw [after.pendingTokens]
  exact h a p (before.pendingTokens.symm ▸ hp)

omit [DecidableEq ι] in
theorem TokensKept.keepsUnexpired {s s' : Gateway ι F Key} (h : TokensKept s s') (nowMs : Int) :
    KeepsUnexpired nowMs s s' :=
  fun _ _ hp => Or.inl (h.pendingTokens.symm ▸ hp)

omit [DecidableEq ι] in
/-- A refused token is kept, unless that of the account has expired. -/
theorem verifyAndConsumeToken_unexpired {s : Gateway ι F Key} {accountId token : String}
    {nowMs : Int} (hrefused : (s.verifyAndConsumeToken accountId token nowMs).1 = false) :
    KeepsUnexpired nowMs s (s.verifyAndConsumeToken accountId token nowMs).2 := by
  intro a p hp
  unfold verifyAndConsumeToken at hrefused ⊢
  cases hpending : s.pendingTokens accountId with
  | none => exact Or.inl hp
  | some pending =>
      simp only [hpending] at hrefused ⊢
      by_cases hexpired : pending.expireTimeMs < nowMs
      · rw [if_pos hexpired]
        by_cases ha : a = accountId
        · subst ha
          rw [hpending, Option.some.injEq] at hp
          exact Or.inr (hp ▸ hexpired)
        · exact Or.inl ((Function.update_of_ne ha _ _).trans hp)
      · rw [if_neg hexpired] at hrefused ⊢
        split at hrefused
        · rename_i hother
          rw [if_pos hother]
          exact Or.inl hp
        · cases hrefused

theorem handleGatewayConnectReq_unexpired {s : Gateway ι F Key} {i : ι} {payload : List UInt8}
    {nowMs : Int} (hnone : admits env s PacketId.clientGatewayConnectReq payload nowMs = none) :
    KeepsUnexpired nowMs s (s.handleGatewayConnectReq env i payload nowMs) := by
  unfold handleGatewayConnectReq
  cases hparse : env.parseConnectReq payload with
  | none => exact (parseFailed_tokens s i).keepsUnexpired nowMs
  | some req =>
      have hparsed : TokensKept s (s.parseSucceeded i) := modify_tokens s i _
      rw [← hparsed.admits_eq] at hnone
      have hrefused : ((s.parseSucceeded i).verifyAndConsumeToken req.accountId req.sessionToken
          nowMs).1 = false := by
        simpa [admits, hparse] using hnone
      have hkeeps := verifyAndConsumeToken_unexpired hrefused
      dsimp only
      generalize (s.parseSucceeded i).verifyAndConsumeToken req.accountId req.sessionToken
        nowMs = r at *
      obtain ⟨ok, s₁⟩ := r
      obtain rfl : ok = false := hrefused
      exact hkeeps.of_kept hparsed (send_tokens s₁ i _ _)

theorem dispatch_unexpired {s : Gateway ι F Key} {i : ι} {id : UInt16} {data : List UInt8}
    {nowMs : Int} (hnone : admits env s id data nowMs = none) :
    KeepsUnexpired nowMs s (s.dispatch env i id data nowMs) := by
  have hrecord : TokensKept s (s.record (.dispatched i id)) := record_tokens s (by simp)
  rw [← hrecord.admits_eq] at hnone
  unfold dispatch
  dsimp only
  split
  · rename_i hid
    subst hid
    exact (handleGatewayConnectReq_unexpired hnone).of_kept hrecord (TokensKept.refl _)
  · repeat' split
    · exact (hrecord.trans (relay_tokens _ _ _ i data)).keepsUnexpired nowMs
    · exact (hrecord.trans (relay_tokens _ _ _ i data)).keepsUnexpired nowMs
    · exact (hrecord.trans (relay_tokens _ _ _ i data)).keepsUnexpired nowMs
    · exact hrecord.keepsUnexpired nowMs

/-- A step that admits nobody erases only tokens that have expired; `t` is an
    earlier reading of the clock. -/
theorem step_unexpired {s s' : Gateway ι F Key} {label : Label ι}
    (hlabel : ∀ id payload, label ≠ .gamePacket id payload)
    (hstep : step env s label = some s') (hnone : admissionOf env s label = none) (t : Int) :
    KeepsUnexpired ((readingOf label).getD t) s s' := by
  cases step_through hlabel hstep with
  | aside undispatched kept => exact kept.keepsUnexpired _
  | dispatches i id data s₁ dispatched before after =>
      rw [admissionOf_dispatched dispatched, ← before.admits_eq, Option.map_eq_none_iff] at hnone
      rw [readingOf_dispatched dispatched]
      exact (dispatch_unexpired hnone).of_kept before after

/-! ## Packets of the game server -/

/-- The token notice that a packet of the game server is. -/
def noticeOf (env : GatewayEnv F Key) (id : UInt16) (payload : List UInt8) :
    Option TokenNotify :=
  if id = PacketId.gameGatewayTokenNotify then env.parseTokenNotify payload else none

theorem gameDispatch_kept {id : UInt16} {payload : List UInt8}
    (hnone : noticeOf env id payload = none) (s : Gateway ι F Key) :
    TokensKept s (s.gameDispatch env id payload) := by
  unfold noticeOf at hnone
  unfold gameDispatch handleMoveResFromGame handleGameGatewayAttackRes handleTokenNotifyFromGame
    handleChatResFromGame
  repeat' split
  · exact TokensKept.refl s
  · exact broadcast_tokens s _ _ _
  · exact TokensKept.refl s
  · exact broadcast_tokens s _ _ _
  · exact TokensKept.refl s
  · rename_i hid _ notify hparse
    rw [if_pos hid, hparse] at hnone
    cases hnone
  · exact TokensKept.refl s
  · exact broadcast_tokens s _ _ _
  · exact TokensKept.refl s

theorem gameDispatch_notice {id : UInt16} {payload : List UInt8} {notify : TokenNotify}
    (hnotice : noticeOf env id payload = some notify) (s : Gateway ι F Key) :
    s.gameDispatch env id payload
      = s.storePendingToken notify.accountId notify.sessionToken notify.expireTimeMs := by
  unfold noticeOf at hnotice
  split at hnotice
  · rename_i hid
    subst hid
    simp [gameDispatch, handleTokenNotifyFromGame, hnotice, PacketId.gameGatewayTokenNotify,
      PacketId.gameGatewayMoveRes, PacketId.gameGatewayAttackRes]
  · cases hnotice

end Gateway

end MMOServers.GatewayServer
