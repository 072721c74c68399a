/-
MMOServers.GatewayServer.ClientMapTheorems — whose the entries of `clientMap` are.

`Handle_GatewayConnectReq` writes the entry of an account and the account of the
session together, and `OnDisconnected` erases the entry of the account that the
session has by then. Two things escape it. A session that authenticates a second
time, as somebody else, leaves the entry of its first account behind; and for a
session without an account `OnDisconnected` erases nothing, also when the
session has authenticated under the empty name and is in the map.

The step of a gateway is read here as one of three operations on accounts
(`AccountEffect`): nothing happens, a session is verified, or a session is
closed. The entries are sound on exactly the runs on which neither of the two
things happens (`mapSound_iff_letsGo`).
-/
import MMOServers.GatewayServer.TokenSteps
import MMOServers.GatewayServer.DisconnectTheorems

namespace MMOServers.GatewayServer

open MMOServers.Common Transition

namespace Gateway

variable {ι F Key : Type} [DecidableEq ι] {env : GatewayEnv F Key}

/-! ## Sound entries -/

/-- The session has run `OnDisconnected` and was not verified since. -/
def departed : List (Event ι F) → ι → Bool
  | [], _ => false
  | .verified i _ :: older, j => if j = i then false else departed older j
  | .disconnected i :: older, j => if j = i then true else departed older j
  | .dispatched _ _ :: older, j => departed older j
  | .forwarded _ _ :: older, j => departed older j

/-- An entry leads to a session that has its account and has not departed, and so
    does a packet for the account. -/
structure MapSound (env : GatewayEnv F Key) (s : Gateway ι F Key) : Prop where
  entry : ∀ a i, s.clientMap a = some i →
    departed s.trace i = false ∧ (s.sessions i).accountId = a
  delivers : ∀ pktId serialized a j,
    (s.broadcast env pktId serialized [a]).sessions j ≠ s.sessions j →
      departed s.trace j = false ∧ (s.sessions j).accountId = a

theorem send_other (s : Gateway ι F Key) {i j : ι} (pktId : UInt16) (serialized : List UInt8)
    (h : j ≠ i) : (s.send env i pktId serialized).sessions j = s.sessions j := by
  unfold send
  dsimp only
  split
  · exact Function.update_of_ne h _ _
  · unfold post
    dsimp only
    rw [modify_other _ _ h]
    exact Function.update_of_ne h _ _

/-- A packet goes where the entry leads. -/
theorem mapSound_iff (s : Gateway ι F Key) :
    s.MapSound env ↔ ∀ a i, s.clientMap a = some i →
      departed s.trace i = false ∧ (s.sessions i).accountId = a := by
  refine ⟨MapSound.entry, fun hentry => ⟨hentry, ?_⟩⟩
  intro pktId serialized a j hchanged
  cases hmap : s.clientMap a with
  | none =>
      have hkept : s.broadcast env pktId serialized [a] = s := by
        simp only [broadcast, hmap]
      exact absurd (by rw [hkept]) hchanged
  | some i =>
      have hsent : s.broadcast env pktId serialized [a] = s.send env i pktId serialized := by
        simp only [broadcast, hmap]
      by_cases hj : j = i
      · exact hj ▸ hentry a i hmap
      · rw [hsent, send_other s pktId serialized hj] at hchanged
        exact absurd rfl hchanged

/-! ## What a step does to the accounts -/

/-- The accounts, the map and who has departed are the same. -/
structure SameAccounts (s s' : Gateway ι F Key) : Prop where
  account : ∀ j, (s'.sessions j).accountId = (s.sessions j).accountId
  clientMap : s'.clientMap = s.clientMap
  departed : ∀ j, departed s'.trace j = departed s.trace j

theorem SameAccounts.refl (s : Gateway ι F Key) : SameAccounts s s :=
  ⟨fun _ => rfl, rfl, fun _ => rfl⟩

theorem SameAccounts.trans {s₁ s₂ s₃ : Gateway ι F Key} (h : SameAccounts s₁ s₂)
    (h' : SameAccounts s₂ s₃) : SameAccounts s₁ s₃ :=
  ⟨fun j => (h'.account j).trans (h.account j), h'.clientMap.trans h.clientMap,
    fun j => (h'.departed j).trans (h.departed j)⟩

theorem Silent.sameAccounts {s s' : Gateway ι F Key} (h : Silent s s') : SameAccounts s s' :=
  ⟨h.account, h.clientMap, fun _ => by rw [h.trace]⟩

theorem modify_sameAccounts (s : Gateway ι F Key) (i : ι)
    {f : ClientSession Key → ClientSession Key}
    (h : (f (s.sessions i)).accountId = (s.sessions i).accountId) :
    SameAccounts s (s.modify i f) :=
  ⟨modify_field (·.accountId) s i h, rfl, fun _ => rfl⟩

theorem setReading_sameAccounts (s : Gateway ι F Key) (i : ι) (op : Option ReadOp) :
    SameAccounts s (s.setReading i op) := modify_sameAccounts s i rfl

theorem gameSend_sameAccounts (s : Gateway ι F Key) (i : ι) (m : ToGame F) :
    SameAccounts s (s.gameSend env i m) := by
  unfold gameSend
  split
  · exact ⟨fun _ => rfl, rfl, fun _ => rfl⟩
  · exact SameAccounts.refl s

/-- What happens to the accounts, with the session that is verified, and for which
    account, and the session that is closed. -/
inductive AccountEffect (env : GatewayEnv F Key) (s s' : Gateway ι F Key) :
    Option (ι × String) → Option ι → Prop where
  | keeps (h : SameAccounts s s') : AccountEffect env s s' none none
  | verifies (i : ι) (a : String) (s₁ : Gateway ι F Key) (h : SameAccounts s s₁)
      (h' : SameAccounts ((s₁.record (.verified i a)).authenticate i a) s') :
      AccountEffect env s s' (some (i, a)) none
  | closes (i : ι) (s₁ : Gateway ι F Key) (h : SameAccounts s s₁)
      (h' : SameAccounts (s₁.onDisconnected env i) s') : AccountEffect env s s' none (some i)

theorem AccountEffect.of_same {s s₁ s₂ s' : Gateway ι F Key} {v : Option (ι × String)}
    {c : Option ι} (h : AccountEffect env s₁ s₂ v c) (hbefore : SameAccounts s s₁)
    (hafter : SameAccounts s₂ s') : AccountEffect env s s' v c := by
  cases h with
  | keeps h => exact .keeps ((hbefore.trans h).trans hafter)
  | verifies i a s₀ h h' => exact .verifies i a s₀ (hbefore.trans h) (h'.trans hafter)
  | closes i s₀ h h' => exact .closes i s₀ (hbefore.trans h) (h'.trans hafter)

/-- The session that a dispatched packet closes. -/
def closesOn (env : GatewayEnv F Key) (s : Gateway ι F Key) (i : ι) (id : UInt16)
    (data : List UInt8) : Option ι :=
  if unparsable env id data = true ∧ s.LastViolation i then some i else none

theorem parseFailed_account (s : Gateway ι F Key) (i : ι) :
    AccountEffect env s (s.parseFailed env i) none
      (if s.LastViolation i then some i else none) := by
  have htracked := modify_sameAccounts s i
    (f := fun c => { c with parseTracker := ⟨(s.sessions i).parseTracker.violationCount + 1⟩ }) rfl
  unfold parseFailed ParseViolationTracker.onParseFailure
  dsimp only
  split
  · rename_i hviolated
    have hlast : s.LastViolation i := of_decide_eq_true hviolated
    rw [if_pos hlast]
    exact .closes i _ htracked (SameAccounts.refl _)
  · rename_i hfew
    have hlast : ¬ s.LastViolation i := fun hlast => hfew (decide_eq_true hlast)
    rw [if_neg hlast]
    exact .keeps htracked

theorem relay_account {R : Type} (parse : List UInt8 → Option R) (request : String → R → ToGame F)
    (s : Gateway ι F Key) (i : ι) (payload : List UInt8) :
    AccountEffect env s (relay env parse request s i payload) none
      (if (parse payload).isNone = true ∧ s.LastViolation i then some i else none) := by
  unfold relay
  cases parse payload with
  | none =>
      simp only [Option.isNone_none, true_and]
      exact parseFailed_account s i
  | some req =>
      simp only [Option.isNone_some, Bool.false_eq_true, false_and, if_false]
      have hparsed : SameAccounts s (s.parseSucceeded i) := modify_sameAccounts s i rfl
      exact .keeps (hparsed.trans (gameSend_sameAccounts _ i _))

theorem handleGatewayConnectReq_account (s : Gateway ι F Key) (i : ι) (payload : List UInt8)
    (nowMs : Int) :
    AccountEffect env s (s.handleGatewayConnectReq env i payload nowMs)
      ((admits env s PacketId.clientGatewayConnectReq payload nowMs).map fun req =>
        (i, req.accountId))
      (if (env.parseConnectReq payload).isNone = true ∧ s.LastViolation i then some i
        else none) := by
  unfold handleGatewayConnectReq
  cases hparse : env.parseConnectReq payload with
  | none =>
      simp only [admits, hparse, if_true, Option.isNone_none, true_and]
      exact parseFailed_account s i
  | some req =>
      have hparsed : SameAccounts s (s.parseSucceeded i) := modify_sameAccounts s i rfl
      have hkept : TokensKept s (s.parseSucceeded i) := modify_tokens s i _
      rw [← hkept.admits_eq]
      simp only [admits, hparse, if_true, Option.filter_some, Option.isNone_some,
        Bool.false_eq_true, false_and, if_false]
      have hsilent := (verifyAndConsumeToken_silent (s.parseSucceeded i) req.accountId
        req.sessionToken nowMs).sameAccounts
      generalize (s.parseSucceeded i).verifyAndConsumeToken req.accountId req.sessionToken nowMs
        = r at *
      obtain ⟨ok, s₁⟩ := r
      cases ok with
      | false =>
          exact .keeps ((hparsed.trans hsilent).trans (send_silent s₁ i _ _).sameAccounts)
      | true =>
          refine .verifies i req.accountId s₁ (hparsed.trans hsilent) ?_
          exact ((send_silent _ i _ _).trans (enableEncryption_silent _ i)).sameAccounts

theorem dispatch_account (env : GatewayEnv F Key) (s : Gateway ι F Key) (i : ι) (id : UInt16)
    (data : List UInt8) (nowMs : Int) :
    AccountEffect env s (s.dispatch env i id data nowMs)
      ((admits env s id data nowMs).map fun req => (i, req.accountId))
      (closesOn env s i id data) := by
  have hrecord : SameAccounts s (s.record (.dispatched i id)) := ⟨fun _ => rfl, rfl, fun _ => rfl⟩
  have hkept : TokensKept s (s.record (.dispatched i id)) := record_tokens s (by simp)
  rw [← hkept.admits_eq]
  unfold dispatch closesOn unparsable
  dsimp only
  by_cases hconnect : id = PacketId.clientGatewayConnectReq
  · subst hconnect
    rw [if_pos rfl, if_pos rfl]
    exact (handleGatewayConnectReq_account (s.record _) i data nowMs).of_same hrecord
      (SameAccounts.refl _)
  rw [if_neg hconnect, if_neg hconnect, admits, if_neg hconnect]
  by_cases hchat : id = PacketId.clientGatewayChatReq
  · rw [if_pos hchat, if_pos hchat]
    exact (relay_account _ _ (s.record _) i data).of_same hrecord (SameAccounts.refl _)
  rw [if_neg hchat, if_neg hchat]
  by_cases hmove : id = PacketId.clientGatewayMoveReq
  · rw [if_pos hmove, if_pos hmove]
    exact (relay_account _ _ (s.record _) i data).of_same hrecord (SameAccounts.refl _)
  rw [if_neg hmove, if_neg hmove]
  by_cases hattack : id = PacketId.clientGatewayAttackReq
  · rw [if_pos hattack, if_pos hattack]
    exact (relay_account _ _ (s.record _) i data).of_same hrecord (SameAccounts.refl _)
  · rw [if_neg hattack, if_neg hattack]
    simp only [Bool.false_eq_true, false_and, if_false]
    exact .keeps hrecord

/-- The session that the step verifies, and for which account. -/
def verifiedOf (env : GatewayEnv F Key) (s : Gateway ι F Key) (label : Label ι) :
    Option (ι × String) :=
  (admissionOf env s label).map fun admitted => (admitted.1, admitted.2.accountId)

/-- The session whose `OnDisconnected` the step runs. -/
def closedOf (env : GatewayEnv F Key) (s : Gateway ι F Key) : Label ι → Option ι
  | .headerRead i h now _ =>
      match ((s.sessions i).inspectHeader h now).1 with
      | .disconnect => some i
      | .dispatch => closesOn env s i h.id []
      | _ => none
  | .payloadRead i bytes _ =>
      match (s.sessions i).reading with
      | some (.payload _) =>
          match ((s.sessions i).openPayload env bytes).1 with
          | none => some i
          | some data => closesOn env s i (s.sessions i).header.id data
      | _ => none
  | .readFails i ec =>
      match (s.sessions i).reading with
      | some (.dropPayload _) => some i
      | _ => if shouldDisconnect ec || classifyError ec ≠ .ignoredError then some i else none
  | .runStrand i =>
      match (s.sessions i).strand with
      | .written _ ec :: _ => if ec ≠ .success ∧ shouldDisconnect ec = true then some i else none
      | _ => none
  | _ => none

omit [DecidableEq ι] in
theorem verifiedOf_none {s : Gateway ι F Key} {label : Label ι}
    (h : dispatchOf env s label = none) : verifiedOf env s label = none := by
  rw [verifiedOf, admissionOf_undispatched h]
  rfl

/-- A callback that dispatches a packet, and before and after it leaves the accounts
    alone. -/
theorem dispatched_account {s s₁ s' : Gateway ι F Key} {label : Label ι} {i : ι} {id : UInt16}
    {data : List UInt8} (hdispatched : dispatchOf env s label = some (i, id, data))
    (htokens : TokensKept s s₁)
    (htracker : (s₁.sessions i).parseTracker = (s.sessions i).parseTracker)
    (hbefore : SameAccounts s s₁)
    (hafter : SameAccounts (s₁.dispatch env i id data (clockOf label)) s') :
    AccountEffect env s s' (verifiedOf env s label) (closesOn env s i id data) := by
  have heffect := dispatch_account env s₁ i id data (clockOf label)
  have hlast : s₁.LastViolation i ↔ s.LastViolation i := by
    rw [LastViolation, LastViolation, htracker]
  have hcloses : closesOn env s₁ i id data = closesOn env s i id data :=
    if_congr (and_congr_right fun _ => hlast) rfl rfl
  rw [htokens.admits_eq, hcloses] at heffect
  have hverified : verifiedOf env s label
      = (admits env s id data (clockOf label)).map fun req => (i, req.accountId) := by
    rw [verifiedOf, admissionOf_dispatched hdispatched, Option.map_map]
    rfl
  rw [hverified]
  exact heffect.of_same hbefore hafter

theorem headerRead_account (s : Gateway ι F Key) (i : ι) (h : PacketHeader) (now : Nat)
    (nowMs : Int) :
    AccountEffect env s (s.headerRead env i h now nowMs)
      (verifiedOf env s (.headerRead i h now nowMs))
      (closedOf env s (.headerRead i h now nowMs)) := by
  obtain ⟨haccount, -, htracker⟩ := inspectHeader_fields (s.sessions i) h now
  have hnone : ∀ action, ((s.sessions i).inspectHeader h now).1 = action → action ≠ .dispatch →
      verifiedOf env s (.headerRead i h now nowMs) = none := by
    intro action haction hne
    exact verifiedOf_none (by simp only [dispatchOf, haction])
  unfold headerRead
  simp only [closedOf]
  generalize hr : (s.sessions i).inspectHeader h now = r at *
  obtain ⟨action, c⟩ := r
  have hread : SameAccounts s (s.modify i fun _ => { c with header := h, reading := none }) :=
    modify_sameAccounts s i haccount
  cases action with
  | disconnect =>
      rw [hnone _ rfl (by simp)]
      exact .closes i _ hread (SameAccounts.refl _)
  | skip | drop size | read size =>
      rw [hnone _ rfl (by simp)]
      exact .keeps (hread.trans (setReading_sameAccounts _ i _))
  | dispatch =>
      refine dispatched_account ?_ (modify_tokens s i _) ?_ hread (setReading_sameAccounts _ i _)
      · simp only [dispatchOf, hr]
      · rw [modify_self]
        exact htracker

theorem payloadRead_account {s : Gateway ι F Key} {i : ι} {bytes : List UInt8} {nowMs : Int}
    {size : UInt16} (hreading : (s.sessions i).reading = some (.payload size)) :
    AccountEffect env s (s.payloadRead env i bytes nowMs)
      (verifiedOf env s (.payloadRead i bytes nowMs))
      (closedOf env s (.payloadRead i bytes nowMs)) := by
  obtain ⟨haccount, -, htracker, hheader⟩ := openPayload_fields env (s.sessions i) bytes
  unfold payloadRead
  simp only [closedOf, hreading]
  generalize hr : (s.sessions i).openPayload env bytes = r at *
  obtain ⟨data, c⟩ := r
  have hread : SameAccounts s (s.modify i fun _ => { c with reading := none }) :=
    modify_sameAccounts s i haccount
  cases data with
  | none =>
      rw [verifiedOf_none (by simp [dispatchOf, hreading, hr])]
      exact .closes i _ hread (SameAccounts.refl _)
  | some data =>
      dsimp only at hheader
      rw [← hheader]
      refine dispatched_account ?_ (modify_tokens s i _) ?_ hread (setReading_sameAccounts _ i _)
      · simp only [dispatchOf, hreading, hr, Option.map_some, hheader]
      · rw [modify_self]
        exact htracker

theorem readFails_account {s : Gateway ι F Key} {i : ι} {op : ReadOp} {ec : ErrorCode}
    (hreading : (s.sessions i).reading = some op) :
    AccountEffect env s (s.readFails env i op ec) none (closedOf env s (.readFails i ec)) := by
  have hread : SameAccounts s (s.setReading i none) := modify_sameAccounts s i rfl
  unfold readFails
  simp only [closedOf, hreading]
  cases op with
  | dropPayload size => exact .closes i _ hread (SameAccounts.refl _)
  | header | payload size =>
      dsimp only
      split
      · exact .closes i _ hread (SameAccounts.refl _)
      · exact .keeps hread

theorem runTask_account {s : Gateway ι F Key} {i : ι} {task : SessionTask}
    {rest : List SessionTask} (hstrand : (s.sessions i).strand = task :: rest) :
    AccountEffect env s ((s.modify i fun c => { c with strand := rest }).runTask env i task) none
      (closedOf env s (.runStrand i)) := by
  have htail : SameAccounts s (s.modify i fun c => { c with strand := rest }) :=
    modify_sameAccounts s i rfl
  simp only [closedOf, hstrand]
  cases task with
  | send p =>
      have hsent := htail.trans (modify_sameAccounts (s.modify i fun c =>
        { c with strand := rest }) i (f := fun c => { c with writes := enqueue c.writes p }) rfl)
      exact .keeps hsent
  | written p ec =>
      simp only [runTask, writeCompleted]
      by_cases hec : ec = .success
      · rw [if_pos hec, if_neg fun h => h.1 hec]
        have hdone := htail.trans (modify_sameAccounts (s.modify i fun c =>
          { c with strand := rest }) i (f := fun c => { c with writes := c.writes.complete p }) rfl)
        exact .keeps hdone
      · rw [if_neg hec]
        have hfailed := htail.trans (modify_sameAccounts (s.modify i fun c =>
          { c with strand := rest }) i (f := fun c => { c with writes := c.writes.fail p }) rfl)
        by_cases hfatal : shouldDisconnect ec = true
        · rw [if_pos hfatal, if_pos ⟨hec, hfatal⟩]
          exact .closes i _ hfailed (SameAccounts.refl _)
        · rw [if_neg hfatal, if_neg fun h => hfatal h.2]
          exact .keeps hfailed

theorem step_account {s s' : Gateway ι F Key} {label : Label ι}
    (hstep : step env s label = some s') :
    AccountEffect env s s' (verifiedOf env s label) (closedOf env s label) := by
  cases step_inv hstep with
  | accept i now new => exact .keeps (modify_sameAccounts s i rfl)
  | headerRead h now nowMs reading => exact headerRead_account s _ h now nowMs
  | payloadRead nowMs reading length => exact payloadRead_account reading
  | payloadDropped nowMs reading length =>
      rw [verifiedOf_none (by simp only [dispatchOf, reading])]
      simp only [closedOf, reading]
      exact .keeps (setReading_sameAccounts s _ _)
  | readFails reading failed => exact readFails_account reading
  | writeEnds ec outstanding running => exact .keeps (modify_sameAccounts s _ rfl)
  | runStrand accepted strand => exact runTask_account strand
  | gamePacket id payload => exact .keeps (gameDispatch_silent s id payload).sameAccounts
  | gameLink isOpen => exact .keeps ⟨fun _ => rfl, rfl, fun _ => rfl⟩

/-! ## When the entries stay sound -/

/-- A session that is verified for another account than its own, or closed without an
    account, has lost the entry it had by then. -/
def LetsGo (env : GatewayEnv F Key) (s : Gateway ι F Key) (label : Label ι) : Prop :=
  (∀ i a, verifiedOf env s label = some (i, a) →
    (s.sessions i).accountId = a ∨ s.clientMap (s.sessions i).accountId ≠ some i) ∧
  ∀ i, closedOf env s label = some i → (s.sessions i).accountId = "" → s.clientMap "" ≠ some i

theorem SameAccounts.mapSound_iff {s s' : Gateway ι F Key} (h : SameAccounts s s') :
    s'.MapSound env ↔ s.MapSound env := by
  rw [Gateway.mapSound_iff, Gateway.mapSound_iff, h.clientMap]
  refine forall_congr' fun a => forall_congr' fun i => forall_congr' fun _ => ?_
  rw [h.departed, h.account]

/-- A session that is verified has the new entry, and an older one only if it is the
    entry of its last account. -/
theorem authenticate_mapSound_iff {s : Gateway ι F Key} (hs : s.MapSound env) (i : ι)
    (a : String) :
    ((s.record (.verified i a)).authenticate i a).MapSound env ↔
      (s.sessions i).accountId = a ∨ s.clientMap (s.sessions i).accountId ≠ some i := by
  have hmap : ((s.record (.verified i a)).authenticate i a).clientMap
      = Function.update s.clientMap a (some i) := rfl
  have haccount : ∀ j, (((s.record (.verified i a)).authenticate i a).sessions j).accountId
      = if j = i then a else (s.sessions j).accountId := by
    intro j
    by_cases hj : j = i
    · simp [authenticate, modify, hj]
    · simp [authenticate, modify, hj]
  have hdeparted : ∀ j, departed ((s.record (.verified i a)).authenticate i a).trace j
      = if j = i then false else departed s.trace j := fun _ => rfl
  rw [mapSound_iff]
  constructor
  · intro hentry
    by_contra hleft
    obtain ⟨hother, hheld⟩ := not_or.mp hleft
    rw [not_not] at hheld
    have hstays := (hentry (s.sessions i).accountId i (by
      rw [hmap, Function.update_of_ne hother, hheld])).2
    rw [haccount, if_pos rfl] at hstays
    exact hother hstays.symm
  · intro hlost b j hj
    rw [hmap] at hj
    rw [hdeparted, haccount]
    by_cases hb : b = a
    · rw [hb, Function.update_self] at hj
      obtain rfl := Option.some.inj hj
      rw [if_pos rfl, if_pos rfl]
      exact ⟨rfl, hb.symm⟩
    · rw [Function.update_of_ne hb] at hj
      obtain ⟨hstays, hown⟩ := hs.entry b j hj
      have hne : j ≠ i := by
        rintro rfl
        rw [hown] at hlost
        exact hlost.elim hb fun hno => hno hj
      rw [if_neg hne, if_neg hne]
      exact ⟨hstays, hown⟩

theorem departed_onDisconnected (env : GatewayEnv F Key) (s : Gateway ι F Key) (i j : ι) :
    departed (s.onDisconnected env i).trace j = if j = i then true else departed s.trace j := by
  rw [onDisconnected_trace, apply_ite (departed · j)]
  exact ite_self _

/-- A session that disconnects loses the entry of its account. -/
theorem onDisconnected_mapSound_iff {s : Gateway ι F Key} (hs : s.MapSound env) (i : ι) :
    (s.onDisconnected env i).MapSound env ↔
      ((s.sessions i).accountId = "" → s.clientMap "" ≠ some i) := by
  rw [mapSound_iff]
  constructor
  · intro hentry hempty hheld
    have hmap : (s.onDisconnected env i).clientMap "" = some i := by
      rw [onDisconnected_clientMap, if_pos hempty, hheld]
    have hstays := (hentry "" i hmap).1
    rw [departed_onDisconnected, if_pos rfl] at hstays
    cases hstays
  · intro hlost a j hj
    have hold : s.clientMap a = some j ∧ j ≠ i := by
      rw [onDisconnected_clientMap] at hj
      split at hj
      · rename_i hempty
        refine ⟨hj, ?_⟩
        rintro rfl
        have hown := (hs.entry a j hj).2
        rw [hempty] at hown
        exact hlost hempty (hown ▸ hj)
      · by_cases ha : a = (s.sessions i).accountId
        · rw [ha, Function.update_self] at hj
          cases hj
        · rw [Function.update_of_ne ha] at hj
          refine ⟨hj, ?_⟩
          rintro rfl
          exact ha (hs.entry a j hj).2.symm
    obtain ⟨hmap, hne⟩ := hold
    rw [departed_onDisconnected, (onDisconnected_sessions env s i j).1, if_neg hne, if_neg hne]
    exact hs.entry a j hmap

theorem step_mapSound_iff {s s' : Gateway ι F Key} {label : Label ι} (hs : s.MapSound env)
    (hstep : step env s label = some s') : s'.MapSound env ↔ LetsGo env s label := by
  have heffect := step_account hstep
  unfold LetsGo
  generalize verifiedOf env s label = v at *
  generalize closedOf env s label = c at *
  cases heffect with
  | keeps h =>
      refine iff_of_true (h.mapSound_iff.mpr hs) ⟨?_, ?_⟩
      · intro i a hv
        cases hv
      · intro i hc
        cases hc
  | verifies i a s₁ h h' =>
      rw [h'.mapSound_iff, authenticate_mapSound_iff (h.mapSound_iff.mpr hs), h.account,
        h.clientMap]
      constructor
      · intro hlost
        refine ⟨?_, nofun⟩
        intro j b hv
        obtain ⟨rfl, rfl⟩ := Prod.mk.inj (Option.some.inj hv)
        exact hlost
      · intro hlost
        exact hlost.1 i a rfl
  | closes i s₁ h h' =>
      rw [h'.mapSound_iff, onDisconnected_mapSound_iff (h.mapSound_iff.mpr hs), h.account,
        h.clientMap]
      constructor
      · intro hlost
        refine ⟨nofun, ?_⟩
        intro j hc
        obtain rfl := Option.some.inj hc
        exact hlost
      · intro hlost
        exact hlost.2 i rfl

/-- The runs on which every entry of `clientMap` leads to a session of its account that
    has not departed are those on which no session leaves an entry behind. -/
theorem mapSound_iff_letsGo (env : GatewayEnv F Key) (labels : List (Label ι)) :
    Always (step env) (MapSound env) start labels ↔ Meets (step env) (LetsGo env) start labels := by
  have hstart : (start : Gateway ι F Key).MapSound env := (mapSound_iff _).mpr nofun
  exact always_iff_meets (fun _ => True) (fun _ _ _ _ => trivial)
    (fun _ hs hstep => step_mapSound_iff hs hstep) trivial hstart

/-- A gateway that is sent more connect requests: one of "b", which is long enough to be
    encrypted, and one of a client without an id. -/
def reconnectEnv : GatewayEnv Unit Unit :=
  { GatewayEnv.sample with
    parseConnectReq := fun payload =>
      if payload = [10, 1, 98, 18, 11] ++ List.replicate 11 116 then some ⟨"b", "ttttttttttt"⟩
      else if payload = [18, 1, 116] then some ⟨"", "t"⟩
      else GatewayEnv.sample.parseConnectReq payload
    parseTokenNotify := fun payload =>
      if payload = [10, 1, 98, 18, 11] ++ List.replicate 11 116 ++ [24, 100] then
        some ⟨"b", "ttttttttttt", 100⟩
      else if payload = [18, 1, 116, 24, 100] then some ⟨"", "t", 100⟩
      else GatewayEnv.sample.parseTokenNotify payload }

/-- The token of "b" arrives, and the session connects once more with it. -/
def connectAgain (i : Nat) : List (Label Nat) :=
  [.gamePacket PacketId.gameGatewayTokenNotify
      ([10, 1, 98, 18, 11] ++ List.replicate 11 116 ++ [24, 100]),
    .headerRead i ⟨40, PacketId.clientGatewayConnectReq⟩ 0 0,
    .payloadRead i (List.replicate 20 0 ++ ([10, 1, 98, 18, 11] ++ List.replicate 11 116)) 0]

/-- The token of the empty id arrives, and the session connects with it. -/
def connectUnnamed (i : Nat) : List (Label Nat) :=
  [.gamePacket PacketId.gameGatewayTokenNotify [18, 1, 116, 24, 100], .accept i 0,
    .headerRead i ⟨7, PacketId.clientGatewayConnectReq⟩ 0 0, .payloadRead i [18, 1, 116] 0]

/-- A session of "a" becomes one of "b" and keeps the entry of "a"; and a session
    without an id disconnects and stays in the map. -/
theorem entry_leftBehind :
    ¬ Always (step reconnectEnv) (MapSound reconnectEnv) (start : Gateway Nat Unit Unit)
      (connect 0 ++ connectAgain 0) ∧
    ¬ Always (step reconnectEnv) (MapSound reconnectEnv) (start : Gateway Nat Unit Unit)
      (connectUnnamed 0 ++ [.readFails 0 .eof]) := by
  constructor
  · intro h
    have hrun : ((exec (step reconnectEnv) (start : Gateway Nat Unit Unit)
        (connect 0 ++ connectAgain 0)).any fun s =>
          decide (s.clientMap "a" = some 0 ∧ (s.sessions 0).accountId = "b")) = true := by
      decide +kernel
    obtain ⟨t, hexec, hfacts⟩ := (Option.any_eq_true _ _).mp hrun
    obtain ⟨hmap, haccount⟩ := of_decide_eq_true hfacts
    have hown := ((always_iff_exec.mp h _ (List.prefix_refl _) t hexec).entry "a" 0 hmap).2
    rw [haccount] at hown
    exact absurd hown (by decide)
  · intro h
    have hrun : ((exec (step reconnectEnv) (start : Gateway Nat Unit Unit)
        (connectUnnamed 0 ++ [.readFails 0 .eof])).any fun s =>
          decide (s.clientMap "" = some 0 ∧ departed s.trace 0 = true)) = true := by
      decide +kernel
    obtain ⟨t, hexec, hfacts⟩ := (Option.any_eq_true _ _).mp hrun
    obtain ⟨hmap, hleft⟩ := of_decide_eq_true hfacts
    have hstays := ((always_iff_exec.mp h _ (List.prefix_refl _) t hexec).entry "" 0 hmap).1
    rw [hleft] at hstays
    cases hstays

end Gateway

end MMOServers.GatewayServer
